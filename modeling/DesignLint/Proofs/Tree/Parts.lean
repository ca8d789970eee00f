import Mathlib.Data.List.ReduceOption
import DesignLint.Proofs.Tree.Depth

/-! Parts. A node is a part of its parent, in the role that its construct plays there, and a construct lists
its parts in its fields. A construct is drawn up when the two agree: each of its fields holds the children
that play the role of that field, in the order in which they were built. -/
namespace DesignLint

/-- What a construct is for the one around it. The four kinds of sequential statements play one role. -/
inductive Role where
  | file
  | use
  | entity
  | architecture
  | package
  | generic
  | port
  | signal
  | localVariable
  | constant
  | typeDecl
  | state
  | field
  | function
  | component
  | process
  | instantiation
  | generate
  | statement
  | clause
  | arm
  | map
  | mapping
  | read
  | write
deriving DecidableEq

/-- Whether a construct of this role never has parts. -/
def Role.isLeaf : Role → Bool
  | read | write | state | field | function | use => true
  | _ => false

/-- Whether use clauses may stand in a construct of this role. -/
def Role.isRegion : Role → Bool
  | file | architecture | package | generate | process => true
  | _ => false

/-- Whether a construct of this role is a declared object. -/
def Role.isObject : Role → Bool
  | signal | port | localVariable | constant | generic => true
  | _ => false

/-- A node and its role. -/
abbrev Part := Role × NodeId

namespace Part

/-- The nodes of a role, in order. -/
def pick (role : Role) (parts : List Part) : List NodeId :=
  parts.filterMap fun part => if part.1 = role then some part.2 else none

/-- Nodes that play the same role. -/
def all (role : Role) (ids : List NodeId) : List Part := ids.map (role, ·)

variable {role other : Role} {a b : List Part} {ids more : List NodeId}

@[simp] theorem pick_nil : pick role [] = [] := rfl

@[simp] theorem pick_append : pick role (a ++ b) = pick role a ++ pick role b := List.filterMap_append

@[simp] theorem pick_cons {part : Part} :
    pick role (part :: a) = (if part.1 = role then [part.2] else []) ++ pick role a := by
  by_cases same : part.1 = role <;> simp [pick, same]

@[simp] theorem pick_all : pick role (all other ids) = if other = role then ids else [] := by
  induction ids with
  | nil => simp [all]
  | cons id ids ih =>
    simp only [all, List.map_cons] at ih ⊢
    rw [pick_cons, ih]
    by_cases same : other = role <;> simp [same]

@[simp] theorem all_nil : all role [] = [] := rfl

@[simp] theorem all_append : all role (ids ++ more) = all role ids ++ all role more := List.map_append

theorem pick_sublist (role : Role) (parts : List Part) : (pick role parts).Sublist (parts.map Prod.snd) := by
  induction parts with
  | nil => exact .slnil
  | cons part parts ih =>
    rw [pick_cons, List.map_cons]
    split
    · exact ih.cons_cons part.2
    · exact ih.cons part.2

@[simp] theorem map_snd_all : (all role ids).map Prod.snd = ids := by simp [all, Function.comp_def]

theorem mem_pick {id : NodeId} : id ∈ pick role a ↔ (role, id) ∈ a := by
  simp only [pick, List.mem_filterMap, Option.ite_none_right_eq_some, Option.some.injEq]
  constructor
  · rintro ⟨⟨r, i⟩, member, rfl, rfl⟩
    exact member
  · intro member
    exact ⟨(role, id), member, rfl, rfl⟩

end Part

/-- The role that a construct plays. -/
def Construct.role : Construct → Role
  | file => .file
  | useClause _ => .use
  | entity _ => .entity
  | component _ => .component
  | architecture _ => .architecture
  | generate _ => .generate
  | package _ => .package
  | signal _ => .signal
  | port _ _ => .port
  | localVariable _ => .localVariable
  | constant _ => .constant
  | generic _ => .generic
  | typeDecl _ => .typeDecl
  | state _ => .state
  | recordField _ _ => .field
  | function _ => .function
  | instantiation _ => .instantiation
  | map _ => .map
  | mapping _ => .mapping
  | read _ _ => .read
  | write _ => .write
  | assignment _ | ifStatement _ | caseStatement _ | loop _ => .statement
  | ifClause _ => .clause
  | caseArm _ => .arm
  | process _ => .process

/-- Whether a construct is an assignment or another simple statement. -/
def Construct.isAssignment : Construct → Bool
  | assignment _ => true
  | _ => false

/-- What stays the same about a construct while it is read. -/
def Construct.kind (c : Construct) : Role × Bool := (c.role, c.isAssignment)

/-- What a body lists for a role. -/
def Body.members (b : Body) : Role → List NodeId
  | .signal => b.signals
  | .constant => b.constants
  | .typeDecl => b.types
  | .function => b.functions
  | .component => b.components
  | .process => b.processes
  | .instantiation => b.instantiations
  | .generate => b.generates
  | .statement => b.assignments
  | _ => []

namespace Construct

/-- The sequential statements directly inside a construct. -/
def statements : Construct → List (Option NodeId)
  | ifStatement s => s.otherwise
  | ifClause c => c.body
  | caseArm a => a.body
  | loop l => l.body
  | process p => p.statements
  | _ => []

/-- The concurrent statements that a construct lists as assignments. -/
def concurrent : Construct → List NodeId
  | architecture a => a.body.assignments
  | generate g => g.body.assignments
  | _ => []

/-- The parts of a construct inside a process, first to last: what it reads or branches on stands before the statements
that hang on it. -/
def sequence? : Construct → Option (List Part)
  | ifStatement s => some (Part.all .clause s.clauses ++ Part.all .statement s.otherwise.reduceOption)
  | ifClause c => some (Part.all .read c.condition ++ Part.all .statement c.body.reduceOption)
  | caseStatement s => some (Part.all .read s.selector ++ Part.all .arm s.arms)
  | caseArm a => some (Part.all .read a.choices ++ Part.all .statement a.body.reduceOption)
  | loop l => some (Part.all .read l.bounds ++ Part.all .statement l.body.reduceOption)
  | _ => none

/-- What a construct lists for a role. -/
def members (c : Construct) (role : Role) : List NodeId :=
  match c, role with
  | entity u, .generic | component u, .generic => u.generics
  | entity u, .port | component u, .port => u.ports
  | architecture a, role => a.body.members role
  | generate g, .read => g.bounds ++ g.condition
  | generate g, role => g.body.members role
  | package p, .constant => p.constants
  | package p, .signal => p.signals
  | package p, .typeDecl => p.types
  | package p, .function => p.functions
  | package p, .component => p.components
  | typeDecl d, .state => d.states
  | typeDecl d, .field => d.fields
  | instantiation i, .map => i.genericMap.toList ++ i.portMap.toList
  | map ids, .mapping => ids
  | mapping m, .read => m.formal ++ m.ifInput ++ m.ifOutputReads
  | mapping m, .write => m.ifOutputWrites
  | assignment a, .read => a.reads
  | assignment a, .write => a.writes
  | ifStatement s, .clause => s.clauses
  | ifClause c, .read => c.condition
  | caseStatement s, .read => s.selector
  | caseStatement s, .arm => s.arms
  | caseArm a, .read => a.choices
  | loop l, .read => l.bounds
  | process p, .read => p.sensitivity
  | process p, .localVariable => p.locals
  | process p, .constant => p.constants
  | process p, .typeDecl => p.types
  | process p, .function => p.functions
  | c, .statement => c.statements.reduceOption
  | _, _ => []

/-- Whether a construct lists the parts that play a role. Use clauses are listed by the file alone, and a
process leaves its signals and components out. -/
def lists (c : Construct) (role : Role) : Bool :=
  match c, role with
  | _, .use | process _, .signal | process _, .component => false
  | _, _ => true

/-- The parts that a construct has no field for: use clauses, and the signals and components of a process. -/
theorem of_not_lists {c : Construct} {role : Role} (unlisted : ¬c.lists role = true) :
    role = .use ∨ c.role = .process ∧ (role = .signal ∨ role = .component) := by
  unfold lists at unlisted
  split at unlisted
  · exact .inl rfl
  · exact .inr ⟨rfl, .inl rfl⟩
  · exact .inr ⟨rfl, .inr rfl⟩
  · contradiction

/-- The initial value of a declared object. -/
def initial? : Construct → Option (List NodeId)
  | signal o | port o _ | localVariable o | constant o | generic o => some o.initial
  | _ => none

/-- A declared object under another name. -/
def rename (name : Bytes) : Construct → Construct
  | signal o => signal { o with name }
  | port o direction => port { o with name } direction
  | localVariable o => localVariable { o with name }
  | constant o => constant { o with name }
  | generic o => generic { o with name }
  | c => c

@[simp] theorem role_rename (c : Construct) (name : Bytes) : (c.rename name).role = c.role := by
  cases c <;> rfl

theorem isSome_initial? (c : Construct) : c.initial?.isSome = c.role.isObject := by cases c <;> rfl

@[simp] theorem initial?_rename (c : Construct) (name : Bytes) : (c.rename name).initial? = c.initial? := by
  cases c <;> rfl

/-- The fields of a construct hold exactly the given parts, and no statement is absent. -/
structure Holds (c : Construct) (parts : List Part) : Prop where
  present : none ∉ c.statements
  lists : ∀ role, c.lists role = true → Part.pick role parts = c.members role
  sequence : ∀ first, c.sequence? = some first → parts = first

/-- A leaf holds no parts. -/
theorem holds_nil_of_isLeaf {c : Construct} (leaf : c.role.isLeaf = true) : c.Holds [] := by
  cases c <;> cases leaf <;> exact ⟨List.not_mem_nil, fun role _ => by cases role <;> rfl, fun _ => nofun⟩

/-- A construct that is complete without parts. -/
def Bare (c : Construct) : Prop := c.initial? = some [] ∨ c.initial? = none ∧ c.Holds [] ∧ c.concurrent = []

theorem bare_of_isLeaf {c : Construct} (leaf : c.role.isLeaf = true) : c.Bare := by
  have holds := holds_nil_of_isLeaf leaf
  refine .inr ⟨?_, holds, ?_⟩
  · cases c <;> cases leaf <;> rfl
  · cases c <;> cases leaf <;> rfl

theorem kind_eq {c c' : Construct} (same : c'.role = c.role) (other : c.role ≠ .statement) : c'.kind = c.kind := by
  have plain (d : Construct) (other : d.role ≠ .statement) : d.isAssignment = false := by
    cases d <;> simp [Construct.role, isAssignment] at other ⊢
  rw [kind, kind, same, plain c other, plain c' (same ▸ other)]

theorem role_ne_statement {c : Construct} {initial : List NodeId} (declared : c.initial? = some initial) :
    c.role ≠ .statement := by
  cases c <;> simp [initial?, Construct.role] at declared ⊢

theorem lists_iff_of_isLeaf {c : Construct} (leaf : c.role.isLeaf = true) (role : Role) :
    c.lists role = true ↔ role ≠ .use := by
  constructor
  · rintro listed rfl
    cases c <;> contradiction
  · intro other
    by_contra unlisted
    obtain isUse | ⟨process, _⟩ := of_not_lists unlisted
    · exact other isUse
    · rw [process] at leaf
      contradiction

theorem sequence?_eq_none_of_isLeaf {c : Construct} (leaf : c.role.isLeaf = true) : c.sequence? = none := by
  cases c <;> cases leaf <;> rfl

/-- What a leaf holds depends on its role only. -/
theorem Holds.of_isLeaf {c c' : Construct} {parts : List Part} (holds : c.Holds parts)
    (leaf : c.role.isLeaf = true) (same : c'.role = c.role) : c'.Holds parts := by
  have leaf' : c'.role.isLeaf = true := same ▸ leaf
  refine ⟨(holds_nil_of_isLeaf leaf').present, fun role listed => ?_, fun first found => ?_⟩
  · have listed' : c.lists role = true :=
      (lists_iff_of_isLeaf leaf role).mpr ((lists_iff_of_isLeaf leaf' role).mp listed)
    rw [holds.lists role listed', ← (holds_nil_of_isLeaf leaf').lists role listed,
      (holds_nil_of_isLeaf leaf).lists role listed']
  · rw [sequence?_eq_none_of_isLeaf leaf'] at found
    contradiction

end Construct

namespace Tree

/-- The part that a node is of `owner`, if it is one. -/
def part? (t : Tree) (owner id : Nat) : Option Part :=
  (t.node? id).bind fun node =>
    if node.parent = some owner then some (node.construct.role, id) else none

/-- The parts of `owner` among the nodes from number `first` on. -/
def partsFrom (t : Tree) (first : Nat) (owner : Nat) : List Part :=
  (List.range' first (t.nodes.size - first)).filterMap (t.part? owner)

/-- The parts of `owner`, in the order in which they were built. -/
def partsOf (t : Tree) (owner : Nat) : List Part := t.partsFrom 0 owner

/-- The units in the fields of the file, with their roles. -/
def unitParts (t : Tree) : List Part :=
  Part.all .entity t.entity.toList ++ Part.all .architecture t.architecture.toList ++
    Part.all .package (t.package.toList ++ t.packageBody.toList)

/-- Nodes that are assignments. -/
def Assigns (t : Tree) (ids : List Nat) : Prop :=
  ∀ id ∈ ids, (t.construct? id).map Construct.isAssignment = some true

/-- A node whose construct is drawn up. The objects of one declaration share their initial value, whose reads
are parts of the first of them. -/
def Drawn (t : Tree) (id : Nat) : Prop :=
  ∃ c, t.construct? id = some c ∧
    match c.initial? with
    | some initial => ∃ first : Nat, first ≤ id ∧ t.parent? first = t.parent? id ∧
        t.partsOf first = Part.all .read initial ∧ (first = id ∨ t.partsOf id = [])
    | none => c.Holds (t.partsOf id) ∧ t.Assigns c.concurrent

variable {t t' : Tree} {id owner first : Nat}

theorem Assigns.nil : t.Assigns [] := fun _ member => absurd member List.not_mem_nil

theorem Assigns.append {ids more : List Nat} (first : t.Assigns ids) (next : t.Assigns more) :
    t.Assigns (ids ++ more) := fun id member => (List.mem_append.mp member).elim (first id) (next id)

theorem node?_eq_none (outside : t.nodes.size ≤ id) : t.node? id = none :=
  Array.getElem?_eq_none outside

theorem part?_congr (same : t'.node? id = t.node? id) : t'.part? owner id = t.part? owner id := by
  rw [part?, part?, same]

theorem part?_eq_some_iff {role : Role} {other : Nat} :
    t.part? owner id = some (role, other) ↔
      other = id ∧ t.parent? id = some owner ∧ (t.construct? id).map Construct.role = some role := by
  simp only [part?, parent?, construct?]
  cases t.node? id with
  | none => simp
  | some node =>
    simp only [Option.bind_some, Option.map_some, Option.ite_none_right_eq_some, Option.some.injEq,
      Prod.mk.injEq]
    constructor
    · rintro ⟨parent, role, same⟩
      exact ⟨same.symm, parent, role⟩
    · rintro ⟨same, parent, role⟩
      exact ⟨parent, role, same.symm⟩

theorem part?_eq_none (other : t.parent? id ≠ some owner) : t.part? owner id = none := by
  cases found : t.part? owner id with
  | none => rfl
  | some part => exact absurd (part?_eq_some_iff.1 found).2.1 other

theorem mem_partsFrom {role : Role} :
    (role, id) ∈ t.partsFrom first owner ↔
      first ≤ id ∧ t.parent? id = some owner ∧ (t.construct? id).map Construct.role = some role := by
  simp only [partsFrom, List.mem_filterMap, List.mem_range'_1, part?_eq_some_iff]
  constructor
  · rintro ⟨_, ⟨le, _⟩, rfl, parent, plays⟩
    exact ⟨le, parent, plays⟩
  · rintro ⟨le, parent, plays⟩
    have := lt_size_of_parent? parent
    exact ⟨id, ⟨le, by omega⟩, rfl, parent, plays⟩

theorem mem_partsOf {role : Role} :
    (role, id) ∈ t.partsOf owner ↔
      t.parent? id = some owner ∧ (t.construct? id).map Construct.role = some role := by
  rw [partsOf, mem_partsFrom]
  simp

theorem partsFrom_eq_nil (none_ : ∀ id : Nat, first ≤ id → t.parent? id ≠ some owner) :
    t.partsFrom first owner = [] := by
  rw [partsFrom, List.filterMap_eq_nil_iff]
  intro id member
  exact part?_eq_none (none_ id (List.mem_range'_1.mp member).1)

/-- The parts in a larger tree are those of the smaller one and those that were added. -/
theorem partsFrom_append (size_le : t.nodes.size ≤ t'.nodes.size)
    (old : ∀ i : Nat, i < t.nodes.size → t'.node? i = t.node? i) (from_ : first ≤ t.nodes.size) :
    t'.partsFrom first owner = t.partsFrom first owner ++ t'.partsFrom t.nodes.size owner := by
  have split : List.range' first (t'.nodes.size - first) =
      List.range' first (t.nodes.size - first) ++
        List.range' t.nodes.size (t'.nodes.size - t.nodes.size) := by
    have joined := @List.range'_append first (t.nodes.size - first) (t'.nodes.size - t.nodes.size) 1
    rw [Nat.one_mul, show first + (t.nodes.size - first) = t.nodes.size by omega,
      show t.nodes.size - first + (t'.nodes.size - t.nodes.size) = t'.nodes.size - first by omega] at joined
    exact joined.symm
  rw [partsFrom, split, List.filterMap_append, partsFrom, partsFrom]
  congr 1
  refine List.filterMap_congr fun id member => part?_congr (old id ?_)
  have := List.mem_range'_1.mp member
  omega

theorem partsFrom_congr (size_eq : t'.nodes.size = t.nodes.size)
    (same : ∀ i : Nat, first ≤ i → t'.part? owner i = t.part? owner i) :
    t'.partsFrom first owner = t.partsFrom first owner := by
  rw [partsFrom, partsFrom, size_eq]
  exact List.filterMap_congr fun id member => same id (List.mem_range'_1.mp member).1

end Tree
end DesignLint
