import DesignLint.Proofs.Scope.Declarations
import DesignLint.Proofs.Tree.Containment
import DesignLint.Proofs.Tree.Fields

/-! Declarations moved inwards. Constants, subprograms and types can be declared in a body or in a process inside it,
and a process looks for them in another way than a body does. What the process sees of its own declarations is what it
would see of them in the body, but for the fields of record types. -/
namespace DesignLint

/-- A list with more elements behind its first `k`. -/
def spliced (k : Nat) (more ids : List NodeId) : List NodeId := ids.take k ++ more ++ ids.drop k

theorem mem_spliced {k id : Nat} {more ids : List NodeId} : id ∈ spliced k more ids ↔ id ∈ more ∨ id ∈ ids := by
  conv_rhs => rw [← List.take_append_drop k ids]
  simp only [spliced, List.mem_append]
  tauto

/-- A body without some of its declarations. -/
def Body.without (b : Body) (moved : List NodeId) : Body :=
  { b with
    constants := b.constants.filter (· ∉ moved)
    types := b.types.filter (· ∉ moved)
    functions := b.functions.filter (· ∉ moved) }

/-- A process that takes over some declarations of a body, behind the first `k` of its own. -/
def Process.taking (p : Process) (k : Nat) (b : Body) (moved : List NodeId) : Process :=
  { p with
    constants := spliced k (b.constants.filter (· ∈ moved)) p.constants
    types := spliced k (b.types.filter (· ∈ moved)) p.types
    functions := spliced k (b.functions.filter (· ∈ moved)) p.functions }

namespace Construct

/-- An architecture or a generate statement with its body changed. -/
def mapBody (change : Body → Body) : Construct → Construct
  | architecture a => architecture { a with body := change a.body }
  | generate g => generate { g with body := change g.body }
  | c => c

/-- A process with its content changed. -/
def mapProcess (change : Process → Process) : Construct → Construct
  | process p => process (change p)
  | c => c

variable (c : Construct) (change : Body → Body) (revise : Process → Process)

theorem body?_mapBody : (c.mapBody change).body? = c.body?.map change := by cases c <;> rfl
theorem process?_mapProcess : (c.mapProcess revise).process? = c.process?.map revise := by cases c <;> rfl

/-- A view that tells nothing of what a body or a process declares. -/
def Blind {α : Type} (choose : Construct → Option α) : Prop :=
  ∀ c change revise, choose (mapBody change c) = choose c ∧ choose (mapProcess revise c) = choose c

theorem blind_name? : Blind name? := fun c _ _ => by cases c <;> exact ⟨rfl, rfl⟩
theorem blind_read? : Blind read? := fun c _ _ => by cases c <;> exact ⟨rfl, rfl⟩
theorem blind_interface? : Blind interface? := fun c _ _ => by cases c <;> exact ⟨rfl, rfl⟩
theorem blind_package? : Blind package? := fun c _ _ => by cases c <;> exact ⟨rfl, rfl⟩
theorem blind_typeDecl? : Blind typeDecl? := fun c _ _ => by cases c <;> exact ⟨rfl, rfl⟩
theorem blind_iterator? : Blind iterator? := fun c _ _ => by cases c <;> exact ⟨rfl, rfl⟩

end Construct

namespace Tree

/-- Declarations of a body, to be moved into a process inside it. -/
structure Relocation (t : Tree) where
  body : NodeId
  process : NodeId
  moved : List NodeId
  /-- How many of the process's own declarations stay ahead of them. -/
  place : Nat
  declared : Body
  isBody : t.get? Construct.body? body = some declared
  isProcess : t.role? process = some .process
  inside : t.Below body process
  listed : ∀ id ∈ moved, id ∈ declared.constants ∨ id ∈ declared.functions ∨ id ∈ declared.types

namespace Relocation

variable {t : Tree}

/-- What becomes of a node. -/
def node (r : t.Relocation) (id : NodeId) (node : Node) : Node :=
  if id = r.body then { node with construct := node.construct.mapBody (·.without r.moved) }
  else if id = r.process then
    { node with construct := node.construct.mapProcess (·.taking r.place r.declared r.moved) }
  else if id ∈ r.moved then { node with parent := some r.process }
  else node

/-- The tree in which the process declares what was moved. All else stays. -/
def tree (r : t.Relocation) : Tree := { t with nodes := t.nodes.mapIdx r.node }

/-- A field of a type that was moved. -/
def Field (r : t.Relocation) (id : NodeId) : Prop :=
  ∃ type ∈ r.moved, ∃ d, t.get? Construct.typeDecl? type = some d ∧ id ∈ d.fields

end Relocation

variable {t : Tree} {id scope : NodeId} {n : Bytes} {isElement : Bool} {types more : List NodeId}

theorem ofTypes_spliced {k : Nat} : t.OfTypes (spliced k more types) isElement id ↔
    t.OfTypes more isElement id ∨ t.OfTypes types isElement id := by
  constructor
  · intro held
    cases held with
    | type listed => exact (mem_spliced.mp listed).imp .type .type
    | state listed known held =>
      exact (mem_spliced.mp listed).imp (fun listed => .state listed known held) fun listed => .state listed known held
    | field listed known element held =>
      exact (mem_spliced.mp listed).imp (fun listed => .field listed known element held)
        fun listed => .field listed known element held
  · rintro (held | held)
    · exact held.mono fun type listed => mem_spliced.mpr (.inl listed)
    · exact held.mono fun type listed => mem_spliced.mpr (.inr listed)

namespace Relocation

variable (r : t.Relocation)

theorem node?_tree (id : Nat) : r.tree.node? id = (t.node? id).map (r.node id) := Array.getElem?_mapIdx

theorem construct?_tree (id : Nat) : r.tree.construct? id = (t.construct? id).map fun c =>
    if id = r.body then c.mapBody (·.without r.moved)
    else if id = r.process then c.mapProcess (·.taking r.place r.declared r.moved) else c := by
  rw [construct?, node?_tree, construct?, Option.map_map, Option.map_map]
  refine congrFun (congrArg _ (funext fun node => ?_)) _
  simp only [Function.comp_apply, Relocation.node]
  split_ifs <;> rfl

theorem get?_tree {α : Type} {choose : Construct → Option α} (blind : Construct.Blind choose) (id : Nat) :
    r.tree.get? choose id = t.get? choose id := by
  rw [get?, construct?_tree, get?, Option.bind_map]
  refine congrArg _ (funext fun c => ?_)
  simp only [Function.comp_apply]
  split_ifs
  · exact (blind c _ fun p => p).1
  · exact (blind c (fun b => b) _).2
  · rfl

theorem nameOf?_tree (id : Nat) : r.tree.nameOf? id = t.nameOf? id := r.get?_tree Construct.blind_name? id

theorem parent?_tree (stays : id ∉ r.moved) : r.tree.parent? id = t.parent? id := by
  rw [parent?, node?_tree, parent?, Option.bind_map]
  refine congrArg _ (funext fun node => ?_)
  simp only [Function.comp_apply, Relocation.node, if_neg stays]
  split_ifs <;> rfl

theorem ofTypes_tree : r.tree.OfTypes types isElement id ↔ t.OfTypes types isElement id :=
  have same (type : Nat) := r.get?_tree Construct.blind_typeDecl? type
  ⟨fun held => held.congr fun type => (same type).symm, fun held => held.congr same⟩

theorem body?_tree (scope : Nat) : r.tree.get? Construct.body? scope =
    (t.get? Construct.body? scope).map fun b => if scope = r.body then b.without r.moved else b := by
  rw [get?, construct?_tree, get?, Option.bind_map, Option.map_bind]
  refine congrArg _ (funext fun c => ?_)
  simp only [Function.comp_apply]
  split_ifs
  · exact c.body?_mapBody _
  · cases c <;> rfl
  · exact Option.map_id'.symm

theorem process?_tree (scope : Nat) (other : scope ≠ r.body) : r.tree.get? Construct.process? scope =
    (t.get? Construct.process? scope).map fun p =>
      if scope = r.process then p.taking r.place r.declared r.moved else p := by
  rw [get?, construct?_tree, get?, Option.bind_map, Option.map_bind]
  refine congrArg _ (funext fun c => ?_)
  simp only [Function.comp_apply, if_neg other]
  split_ifs
  · exact c.process?_mapProcess _
  · exact Option.map_id'.symm

theorem role?_body (r : t.Relocation) : t.role? r.body ≠ some .process := by
  obtain ⟨c, known, isBody⟩ := Option.bind_eq_some_iff.mp r.isBody
  rw [role?_of_construct? known]
  cases c <;> simp [Construct.body?] at isBody <;> simp [Construct.role]

theorem body_ne (r : t.Relocation) : r.process ≠ r.body := fun same => r.role?_body (same ▸ r.isProcess)

theorem exists_process (r : t.Relocation) : ∃ p, t.construct? r.process = some (.process p) := by
  obtain ⟨c, known, isProcess⟩ := Option.map_eq_some_iff.mp r.isProcess
  cases c <;> simp [Construct.role] at isProcess
  exact ⟨_, known⟩

theorem process_pos (arranged : t.Arranged) : 0 < r.process := by
  obtain ⟨p, known⟩ := r.exists_process
  exact arranged.pos_of_ne_file known Construct.noConfusion

theorem body_pos (arranged : t.Arranged) : 0 < r.body := by
  obtain ⟨c, known, isBody⟩ := Option.bind_eq_some_iff.mp r.isBody
  refine arranged.pos_of_ne_file known ?_
  rintro rfl
  contradiction

/-- What is moved is a constant, a subprogram or a type of the body. -/
theorem role?_of_moved (arranged : t.Arranged) {id : Nat} (moved : id ∈ r.moved) :
    t.parent? id = some r.body ∧ (id ∈ r.declared.constants ∧ t.role? id = some .constant ∨
      id ∈ r.declared.functions ∧ t.role? id = some .function ∨ id ∈ r.declared.types ∧ t.role? id = some .typeDecl) := by
  have child {role : Role} (own : role ∈ Role.declared) (among : id ∈ r.declared.members role) :=
    arranged.child_of_body r.isBody own among
  rcases r.listed id moved with among | among | among
  · have is_child : t.Child .constant r.body id := child (by decide) among
    exact ⟨is_child.1, .inl ⟨among, is_child.2⟩⟩
  · have is_child : t.Child .function r.body id := child (by decide) among
    exact ⟨is_child.1, .inr (.inl ⟨among, is_child.2⟩)⟩
  · have is_child : t.Child .typeDecl r.body id := child (by decide) among
    exact ⟨is_child.1, .inr (.inr ⟨among, is_child.2⟩)⟩

theorem mem_types (arranged : t.Arranged) {type : Nat} (moved : type ∈ r.moved) {d : TypeDecl}
    (known : t.get? Construct.typeDecl? type = some d) : type ∈ r.declared.types := by
  have plays := role?_of_construct? ((get?_eq_some_iff Construct.typeDecl?_eq_some_iff).mp known)
  rcases (r.role?_of_moved arranged moved).2 with ⟨_, other⟩ | ⟨_, other⟩ | ⟨listed, _⟩
  · cases plays.symm.trans other
  · cases plays.symm.trans other
  · exact listed

/-- What the body makes visible, it still does or was moved. -/
theorem ofBody_iff (arranged : t.Arranged) : t.OfBody r.declared isElement id ↔
    t.OfBody (r.declared.without r.moved) isElement id ∨ t.OfTypes r.moved isElement id := by
  have stays {ids : List NodeId} {x : NodeId} (listed : x ∈ ids) (kept : x ∉ r.moved) :
      x ∈ ids.filter (· ∉ r.moved) := List.mem_filter.mpr ⟨listed, by simpa using kept⟩
  have sub {ids : List NodeId} : ∀ x ∈ ids.filter (· ∉ r.moved), x ∈ ids := fun x listed => (List.mem_filter.mp listed).1
  constructor
  · intro held
    by_cases moved : id ∈ r.moved
    · exact .inr (.type moved)
    rcases held with listed | listed | listed | held
    · exact .inl (.inl listed)
    · exact .inl (.inr (.inl (stays listed moved)))
    · exact .inl (.inr (.inr (.inl (stays listed moved))))
    cases held with
    | type listed => exact .inl (.inr (.inr (.inr (.type (stays listed moved)))))
    | @state type d _ listed known held =>
      by_cases gone : type ∈ r.moved
      · exact .inr (.state gone known held)
      · exact .inl (.inr (.inr (.inr (.state (stays listed gone) known held))))
    | @field type d _ listed known element held =>
      by_cases gone : type ∈ r.moved
      · exact .inr (.field gone known element held)
      · exact .inl (.inr (.inr (.inr (.field (stays listed gone) known element held))))
  · rintro ((listed | listed | listed | held) | held)
    · exact .inl listed
    · exact .inr (.inl (sub _ listed))
    · exact .inr (.inr (.inl (sub _ listed)))
    · exact .inr (.inr (.inr (held.mono sub)))
    cases held with
    | type moved =>
      rcases r.listed id moved with listed | listed | listed
      · exact .inr (.inl listed)
      · exact .inr (.inr (.inl listed))
      · exact .inr (.inr (.inr (.type listed)))
    | state moved known held => exact .inr (.inr (.inr (.state (r.mem_types arranged moved known) known held)))
    | field moved known element held =>
      exact .inr (.inr (.inr (.field (r.mem_types arranged moved known) known element held)))

/-- What the process makes visible, it did before or was moved. The fields of what was moved are not among it. -/
theorem ofProcess_iff (arranged : t.Arranged) (p : Process) :
    t.OfProcess (p.taking r.place r.declared r.moved) id ↔ t.OfProcess p id ∨ t.OfTypes r.moved false id := by
  simp only [OfProcess, Process.taking, mem_spliced, ofTypes_spliced, List.mem_filter, decide_eq_true_eq]
  constructor
  · rintro (listed | (⟨_, moved⟩ | listed) | (⟨_, moved⟩ | listed) | held | held)
    · exact .inl (.inl listed)
    · exact .inr (.type moved)
    · exact .inl (.inr (.inl listed))
    · exact .inr (.type moved)
    · exact .inl (.inr (.inr (.inl listed)))
    · exact .inr (held.mono fun type among => of_decide_eq_true (List.mem_filter.mp among).2)
    · exact .inl (.inr (.inr (.inr held)))
  · rintro ((listed | listed | listed | held) | held)
    · exact .inl listed
    · exact .inr (.inl (.inr listed))
    · exact .inr (.inr (.inl (.inr listed)))
    · exact .inr (.inr (.inr (.inr held)))
    cases held with
    | type moved =>
      rcases r.listed id moved with listed | listed | listed
      · exact .inr (.inl (.inl ⟨listed, moved⟩))
      · exact .inr (.inr (.inl (.inl ⟨listed, moved⟩)))
      · exact .inr (.inr (.inr (.inl (.type (List.mem_filter.mpr ⟨listed, decide_eq_true moved⟩)))))
    | state moved known held =>
      have listed := r.mem_types arranged moved known
      exact .inr (.inr (.inr (.inl (.state (List.mem_filter.mpr ⟨listed, decide_eq_true moved⟩) known held))))
    | field _ _ element _ => contradiction

/-- Scopes that neither lose nor gain anything. -/
theorem ofScope_other (notBody : scope ≠ r.body) (notProcess : scope ≠ r.process) :
    r.tree.OfScope scope isElement id n ↔ t.OfScope scope isElement id n := by
  simp only [ofScope_iff, body?_tree, process?_tree r scope notBody, if_neg notBody, if_neg notProcess, Option.map_id',
    r.get?_tree Construct.blind_iterator?, nameOf?_tree, OfBody, OfProcess, ofTypes_tree]

/-- The body loses what is moved. -/
theorem ofScope_body (arranged : t.Arranged) : t.OfScope r.body isElement id n ↔
    r.tree.OfScope r.body isElement id n ∨ t.OfTypes r.moved isElement id ∧ t.nameOf? id = some n := by
  have after : r.tree.get? Construct.body? r.body = some (r.declared.without r.moved) := by
    rw [body?_tree, r.isBody, Option.map_some, if_pos rfl]
  rw [ofScope_of_body r.isBody, ofScope_of_body after, r.ofBody_iff arranged, nameOf?_tree,
    r.get?_tree Construct.blind_iterator?]
  simp only [OfBody, ofTypes_tree]
  tauto

/-- The process gains what is moved, but for the fields. -/
theorem ofScope_process (arranged : t.Arranged) : r.tree.OfScope r.process isElement id n ↔
    t.OfScope r.process isElement id n ∨ t.OfTypes r.moved false id ∧ t.nameOf? id = some n := by
  obtain ⟨p, known⟩ := r.exists_process
  have before : t.get? Construct.process? r.process = some p := by rw [get?, known]; rfl
  have after : r.tree.get? Construct.process? r.process = some (p.taking r.place r.declared r.moved) := by
    rw [process?_tree r r.process r.body_ne, before, Option.map_some, if_pos rfl]
  have taken : t.OfProcess _ id ↔ _ := r.ofProcess_iff arranged p
  rw [ofScope_of_process before, ofScope_of_process after, nameOf?_tree, ← or_and_right, ← taken]
  simp only [OfProcess, ofTypes_tree]

/-- Nothing that a node in the process stands in is moved. -/
theorem not_moved (arranged : t.Arranged) {x y : Nat} (below : t.Below r.process x) (above : t.AtOrBelow y x) :
    y ∉ r.moved := by
  intro moved
  obtain ⟨parent, declared⟩ := r.role?_of_moved arranged moved
  -- What is moved stands beside the part of the body that has the process in it.
  obtain ⟨child, beside, reached⟩ := r.inside.exists_child
  have under : t.AtOrBelow child x := by
    rcases reached with rfl | reached
    · exact .inr below
    · exact .inr (reached.trans below)
  obtain rfl := arranged.rooted.eq_of_siblings parent beside above under
  rcases reached with rfl | reached
  · rcases declared with ⟨_, plays⟩ | ⟨_, plays⟩ | ⟨_, plays⟩ <;> cases plays.symm.trans r.isProcess
  · have family : Role.Closed [.read, .state, .field] := by decide
    obtain ⟨role, among, plays⟩ : ∃ role ∈ [Role.read, .state, .field], t.role? r.process = some role := by
      rcases declared with ⟨_, plays⟩ | ⟨_, plays⟩ | ⟨_, plays⟩ <;>
        exact arranged.role?_of_below family plays (by decide) reached
    obtain rfl := Option.some.inj (plays.symm.trans r.isProcess)
    simp at among

/-- The walk from a node in the process passes what it passed before. -/
theorem ancestors_tree {x : Nat} (free : ∀ y, t.AtOrBelow y x → y ∉ r.moved) (steps : Nat) :
    r.tree.ancestors steps x = t.ancestors steps x := by
  have same := r.parent?_tree (free x (.inl rfl))
  induction steps generalizing x with
  | zero => rw [ancestors, ancestors, same]
  | succ steps ih =>
    rw [ancestors, ancestors, same]
    cases above : t.parent? x with
    | none => rfl
    | some parent =>
      have free' : ∀ y, t.AtOrBelow y parent → y ∉ r.moved := fun y inside => free y (.inr (inside.below_child above))
      simp only [ih free' (r.parent?_tree (free' parent (.inl rfl)))]

theorem entity_tree : r.tree.entity = t.entity := rfl

theorem architectureUnit?_tree : r.tree.architectureUnit? = t.architectureUnit?.map fun a =>
    if t.architecture = some r.body then { a with body := a.body.without r.moved } else a := by
  have same : r.tree.architecture = t.architecture := rfl
  rw [architectureUnit?, architectureUnit?, same]
  cases t.architecture with
  | none => rfl
  | some unit =>
    rw [Option.bind_some, Option.bind_some, get?, construct?_tree, get?, Option.bind_map, Option.map_bind]
    refine congrArg _ (funext fun c => ?_)
    simp only [Function.comp_apply, Option.some.injEq]
    split_ifs <;> cases c <;> rfl

/-- The architecture keeps its types but those that are moved. -/
theorem exists_architectureUnit? {a : Architecture} (body : t.architectureUnit? = some a) :
    ∃ a', r.tree.architectureUnit? = some a' ∧ ∀ type ∈ a.body.types, type ∉ r.moved → type ∈ a'.body.types := by
  rw [architectureUnit?_tree, body, Option.map_some]
  refine ⟨_, rfl, fun type listed stays => ?_⟩
  split
  · exact List.mem_filter.mpr ⟨listed, decide_eq_true stays⟩
  · exact listed

theorem exists_original {a : Architecture} (body : r.tree.architectureUnit? = some a) :
    ∃ a', t.architectureUnit? = some a' ∧ ∀ type ∈ a.body.types, type ∈ a'.body.types := by
  rw [architectureUnit?_tree] at body
  obtain ⟨a', body', rfl⟩ := Option.map_eq_some_iff.mp body
  refine ⟨a', body', fun type listed => ?_⟩
  split at listed
  · exact (List.mem_filter.mp listed).1
  · exact listed

variable {r}

theorem Field.child (field : r.Field id) (arranged : t.Arranged) : ∃ type ∈ r.moved, t.Child .field type id := by
  obtain ⟨type, moved, d, known, held⟩ := field
  have isType := (get?_eq_some_iff Construct.typeDecl?_eq_some_iff).mp known
  exact ⟨type, moved, arranged.child_of_members isType held⟩

theorem not_field_of_role (arranged : t.Arranged) (other : t.role? id ≠ some .field) : ¬r.Field id := by
  intro field
  obtain ⟨type, -, child⟩ := field.child arranged
  exact other child.2

/-- The fields of the moved types are visible only where these are listed, and only as elements. -/
theorem not_field_of_ofTypes (arranged : t.Arranged) (held : t.OfTypes types isElement id)
    (plain : ∀ x ∈ types, t.role? x ≠ some .field) (stay : isElement = true → ∀ type ∈ types, type ∉ r.moved) :
    ¬r.Field id := by
  cases held with
  | type listed => exact not_field_of_role arranged (plain id listed)
  | @state type d _ listed known held =>
    have isType := (get?_eq_some_iff Construct.typeDecl?_eq_some_iff).mp known
    have child : t.Child .state type id := arranged.child_of_members isType held
    exact not_field_of_role arranged (by simp [child.2])
  | @field type d _ listed known element held =>
    intro field
    have isType := (get?_eq_some_iff Construct.typeDecl?_eq_some_iff).mp known
    have child : t.Child .field type id := arranged.child_of_members isType held
    obtain ⟨other, moved, child'⟩ := field.child arranged
    obtain rfl := Option.some.inj (child.1.symm.trans child'.1)
    exact stay element type listed moved

theorem not_field_of_lists (arranged : t.Arranged) {first second third : List NodeId}
    (held : id ∈ first ∨ id ∈ second ∨ id ∈ third ∨ t.OfTypes types isElement id)
    (plain : ∀ x, x ∈ first ∨ x ∈ second ∨ x ∈ third ∨ x ∈ types → t.role? x ≠ some .field)
    (stay : isElement = true → ∀ type ∈ types, type ∉ r.moved) : ¬r.Field id := by
  rcases held with listed | listed | listed | held
  · exact not_field_of_role arranged (plain id (.inl listed))
  · exact not_field_of_role arranged (plain id (.inr (.inl listed)))
  · exact not_field_of_role arranged (plain id (.inr (.inr (.inl listed))))
  · exact not_field_of_ofTypes arranged held (fun x listed => plain x (.inr (.inr (.inr listed)))) stay

/-- No scope but the body makes a field visible that is moved. -/
theorem not_field_of_ofScope (arranged : t.Arranged) (other : scope ≠ r.body) (held : t.OfScope scope isElement id n) :
    ¬r.Field id := by
  have stay {b : Body} (known : t.get? Construct.body? scope = some b) : ∀ type ∈ b.types, type ∉ r.moved := by
    intro type listed moved
    have parent := (arranged.parent?_of_body known (.inr (.inr (.inr listed)))).1
    exact other (Option.some.inj (parent.symm.trans (r.role?_of_moved arranged moved).1))
  rcases ofScope_iff.mp held with ⟨b, known, held, -⟩ | ⟨p, known, held, -⟩ | ⟨rfl, known⟩
  · exact not_field_of_lists arranged held (fun x listed => (arranged.parent?_of_body known listed).2) fun _ => stay known
  · have isProcess := (get?_eq_some_iff Construct.process?_eq_some_iff).mp known
    refine not_field_of_lists arranged held (fun x listed => ?_) Bool.noConfusion
    rcases listed with listed | listed | listed | listed
    · exact arranged.role?_ne_of_members isProcess .localVariable (by decide) listed
    · exact arranged.role?_ne_of_members isProcess .constant (by decide) listed
    · exact arranged.role?_ne_of_members isProcess .function (by decide) listed
    · exact arranged.role?_ne_of_members isProcess .typeDecl (by decide) listed
  · obtain ⟨c, kind, chosen⟩ := Option.bind_eq_some_iff.mp known
    refine not_field_of_role arranged ?_
    rw [role?_of_construct? kind]
    cases c <;> simp [Construct.iterator?] at chosen <;> simp [Construct.role]

/-- No scope makes a field visible once it is moved. -/
theorem not_field_of_tree (arranged : t.Arranged) (held : r.tree.OfScope scope isElement id n) : ¬r.Field id := by
  by_cases isBody : scope = r.body
  · subst isBody
    have after : r.tree.get? Construct.body? r.body = some (r.declared.without r.moved) := by
      rw [body?_tree, r.isBody, Option.map_some, if_pos rfl]
    have whole {ids : List NodeId} {x : NodeId} (listed : x ∈ ids.filter (· ∉ r.moved)) : x ∈ ids :=
      (List.mem_filter.mp listed).1
    rcases (ofScope_of_body after).mp held with ⟨held, -⟩ | ⟨rfl, -⟩
    · simp only [OfBody, ofTypes_tree] at held
      refine not_field_of_lists arranged held (fun x listed => (arranged.parent?_of_body r.isBody ?_).2) fun _ type listed => ?_
      · exact listed.imp_right (.imp whole (.imp whole whole))
      · exact of_decide_eq_true (List.mem_filter.mp listed).2
    · obtain ⟨c, kind, chosen⟩ := Option.bind_eq_some_iff.mp r.isBody
      refine not_field_of_role arranged ?_
      rw [role?_of_construct? kind]
      cases c <;> simp [Construct.body?] at chosen <;> simp [Construct.role]
  by_cases isProcess : scope = r.process
  · subst isProcess
    rcases (r.ofScope_process arranged).mp held with held | ⟨held, -⟩
    · exact not_field_of_ofScope arranged isBody held
    · refine not_field_of_ofTypes arranged held (fun x moved => ?_) Bool.noConfusion
      rcases (r.role?_of_moved arranged moved).2 with ⟨_, plays⟩ | ⟨_, plays⟩ | ⟨_, plays⟩ <;> simp [plays]
  · exact not_field_of_ofScope arranged isBody ((r.ofScope_other isBody isProcess).mp held)

end Relocation

end Tree

end DesignLint
