import DesignLint.Proofs.Parse.Structure
import DesignLint.Proofs.Scope.Walk
import DesignLint.Proofs.Tree.Containment
import DesignLint.Proofs.Tree.Fields

/-! What can be assigned, and that it can be read. A write is looked up apart from reads: it passes over constants,
subprograms, generics, loop variables and inputs, and it asks the architecture of the file a second time. Whatever it
accepts is visible to a read that stands beside it. -/
namespace DesignLint

theorem Direction.writable_iff {direction : Direction} :
    direction.writable = true ↔ direction = .output ∨ direction = .both := by
  cases direction <;> simp [writable]

namespace Tree

/-- What a scope offers for assignment, and under which name: the signals of a body, the variables of a process. -/
inductive AssignableIn (t : Tree) (scope : NodeId) : NodeId → Bytes → Prop where
  | architecture {a id name} (kind : t.construct? scope = some (.architecture a)) (listed : id ∈ a.body.signals)
      (plays : t.role? id = some .signal) (named : t.nameOf? id = some name) : AssignableIn t scope id name
  | generate {g id name} (kind : t.construct? scope = some (.generate g)) (listed : id ∈ g.body.signals)
      (plays : t.role? id = some .signal) (named : t.nameOf? id = some name) : AssignableIn t scope id name
  | process {p id name} (kind : t.construct? scope = some (.process p)) (listed : id ∈ p.locals)
      (plays : t.role? id = some .localVariable) (named : t.nameOf? id = some name) : AssignableIn t scope id name

/-- A tree whose nodes all stand in another one, at the same numbers, with the same units. -/
structure KeptIn (t t' : Tree) : Prop where
  old : ∀ id : Nat, id < t.nodes.size → t'.node? id = t.node? id
  entity_eq : t'.entity = t.entity
  architecture_eq : t'.architecture = t.architecture

end Tree

namespace Design

/-- What a write of a file can assign wherever it stands, and under which name: the signals of the file's architecture,
the outputs of the bound entity and the states of the architecture's types. -/
inductive AssignableOutside (d : Design) (file : Nat) : Ref → Bytes → Prop where
  | signal {t a id name} (placed : d.tree? file = some t) (body : t.architectureUnit? = some a)
      (listed : id ∈ a.body.signals) (plays : t.role? id = some .signal) (named : t.nameOf? id = some name) :
      AssignableOutside d file ⟨file, id⟩ name
  | port {entity owner unit id name direction} (bound : d.boundEntity? file = some entity)
      (kind : d.interface? entity = some (owner, unit)) (listed : id ∈ unit.ports)
      (known : owner.get? Construct.port? id = some (name, direction))
      (driven : direction = .output ∨ direction = .both) : AssignableOutside d file ⟨entity.file, id⟩ name
  | state {t a type decl id name} (placed : d.tree? file = some t) (body : t.architectureUnit? = some a)
      (listed : type ∈ a.body.types) (known : t.get? Construct.typeDecl? type = some decl) (held : id ∈ decl.states)
      (plays : t.role? id = some .state) (named : t.nameOf? id = some name) : AssignableOutside d file ⟨file, id⟩ name

/-- What a write can assign: what the scopes around it offer and what the file offers to every write. -/
inductive Assignable (d : Design) (file : Nat) (write : NodeId) : Ref → Bytes → Prop where
  | scope {t scope id name} (placed : d.tree? file = some t) (around : t.Below scope write)
      (held : t.AssignableIn scope id name) : Assignable d file write ⟨file, id⟩ name
  | outside {r name} (held : d.AssignableOutside file r name) : Assignable d file write r name

/-- Whether the file offers something of the name to every write. -/
def assignableOutside (d : Design) (file : Nat) (t : Tree) (name : Bytes) : Bool :=
  let body := t.architectureUnit?.map Architecture.body
  (body.any fun b => (t.findNamed b.signals name).isSome) ||
    (((d.ports? (d.boundEntity? file)).getD []).any fun (portName, direction) =>
      direction.writable && sameName portName name) ||
    body.any fun b => (t.lookupStates b.types name).isSome

/-- A design whose files all stand in another one, with more nodes in their trees. -/
structure KeptIn (d d' : Design) : Prop where
  trees : ∀ file t, d.tree? file = some t → ∃ t', d'.tree? file = some t' ∧ t.KeptIn t'
  bound : ∀ file, d'.boundEntity? file = d.boundEntity? file

end Design

namespace Tree

variable {t t' : Tree} {id scope write read : NodeId} {name n : Bytes} {c : Construct}

theorem nameOf?_of_port? {direction : Direction} (known : t.get? Construct.port? id = some (name, direction)) :
    t.nameOf? id = some name := by
  obtain ⟨c, found, isPort⟩ := Option.bind_eq_some_iff.mp known
  rw [nameOf?, get?, found]
  cases c <;> simp [Construct.port?] at isPort
  exact congrArg some isPort.1

theorem exists_of_role?_architecture (plays : t.role? id = some .architecture) :
    ∃ a, t.construct? id = some (.architecture a) := by
  obtain ⟨c, known, same⟩ := Option.map_eq_some_iff.mp plays
  cases c <;> simp [Construct.role] at same
  exact ⟨_, known⟩

theorem AssignableIn.isScope (held : t.AssignableIn scope id n) : (t.construct? scope).any isScope = true := by
  cases held <;> rename_i kind _ _ _ <;> rw [kind] <;> rfl

/-- What can be assigned in a scope can be read in it. -/
theorem AssignableIn.visible (held : t.AssignableIn scope id n) (isElement : Bool) :
    t.OfScope scope isElement id n := by
  cases held with
  | architecture kind listed _ named => exact .architecture kind (.inl listed) named
  | generate kind listed _ named => exact .generate kind (.inl listed) named
  | process kind listed _ named => exact .process kind (.inl listed) named

/-- What a construct lists under a role is found by its name, and plays the role. -/
theorem Arranged.isSome_findNamed (arranged : t.Arranged) (known : t.construct? scope = some c) (role : Role)
    (name : Bytes) : (t.findNamed (c.members role) name).isSome ↔
      ∃ id n, (id ∈ c.members role ∧ t.role? id = some role ∧ t.nameOf? id = some n) ∧ sameName n name := by
  rw [(t.finds_findNamed _ name).isSome_iff]
  refine exists_congr fun id => ?_
  rw [declares_iff]
  constructor
  · rintro ⟨listed, n, named, same⟩
    exact ⟨n, ⟨listed, (arranged.child_of_members known listed).2, named⟩, same⟩
  · rintro ⟨n, ⟨listed, -, named⟩, same⟩
    exact ⟨listed, n, named, same⟩

theorem Arranged.assignableInScope_iff (arranged : t.Arranged) (scope : NodeId) (name : Bytes) :
    t.assignableInScope scope name = true ↔ ∃ id n, t.AssignableIn scope id n ∧ sameName n name := by
  rw [assignableInScope]
  split
  case h_1 a kind =>
    refine (arranged.isSome_findNamed kind .signal name).trans (exists₂_congr fun id n => and_congr_left' ?_)
    refine ⟨fun ⟨listed, plays, named⟩ => .architecture kind listed plays named, ?_⟩
    rintro (⟨kind', listed, plays, named⟩ | ⟨kind', _⟩ | ⟨kind', _⟩) <;> cases kind.symm.trans kind'
    exact ⟨listed, plays, named⟩
  case h_2 g kind =>
    refine (arranged.isSome_findNamed kind .signal name).trans (exists₂_congr fun id n => and_congr_left' ?_)
    refine ⟨fun ⟨listed, plays, named⟩ => .generate kind listed plays named, ?_⟩
    rintro (⟨kind', _⟩ | ⟨kind', listed, plays, named⟩ | ⟨kind', _⟩) <;> cases kind.symm.trans kind'
    exact ⟨listed, plays, named⟩
  case h_3 p kind =>
    refine (arranged.isSome_findNamed kind .localVariable name).trans (exists₂_congr fun id n => and_congr_left' ?_)
    refine ⟨fun ⟨listed, plays, named⟩ => .process kind listed plays named, ?_⟩
    rintro (⟨kind', _⟩ | ⟨kind', _⟩ | ⟨kind', listed, plays, named⟩) <;> cases kind.symm.trans kind'
    exact ⟨listed, plays, named⟩
  case h_4 noArchitecture noGenerate noProcess =>
    refine iff_of_false Bool.false_ne_true ?_
    rintro ⟨id, n, ⟨kind, _⟩ | ⟨kind, _⟩ | ⟨kind, _⟩, _⟩
    · exact noArchitecture _ kind
    · exact noGenerate _ kind
    · exact noProcess _ kind

theorem isScope_of_assignableInScope (assignable : t.assignableInScope scope name = true) :
    (t.construct? scope).any isScope = true := by
  rw [assignableInScope] at assignable
  split at assignable <;> simp_all [Tree.isScope]

/-- A search for anything that passes a test. A chain of parents that is too long is a fault only if nothing on the way
passes. -/
theorem searchScopes_test (t : Tree) (test : NodeId → Bool) (scopesOnly : ∀ a, test a = true → (t.construct? a).any isScope = true) :
    t.searchScopes id (fun s => if test s then some () else none) =
      if (t.ancestors maxDepth id).1.any test then .ok (some ())
      else if t.reachesFile (maxDepth + 1) id then .ok none else .error (.longChain id) := by
  have first (ids : List NodeId) : (ids.filter fun a => (t.construct? a).any isScope).findSome?
      (fun s => if test s then some () else none) = if ids.any test then some () else none := by
    induction ids with
    | nil => rfl
    | cons a ids ih =>
      by_cases passes : test a = true
      · simp [passes, scopesOnly a passes]
      · rw [List.filter_cons, List.any_cons, Bool.eq_false_iff.mpr passes, Bool.false_or, ← ih]
        split
        · simp [passes]
        · rfl
  rw [searchScopes, scopes, ← ancestors_complete]
  simp only [first]
  split <;> simp_all

/-- No node has a parent that is too deep for more. -/
theorem WellFormed.checkRoot_parent (formed : t.WellFormed) {parent : NodeId} (above : t.parent? id = some parent) :
    t.checkRoot parent = .ok () := by
  have deeper := depth_of_parent? above (formed.rooted.lt_of_parent? above)
  have shallow := formed.shallow id (lt_size_of_parent? above)
  exact formed.rooted.checkRoot_iff.mpr (by omega)

namespace KeptIn

theorem refl (t : Tree) : t.KeptIn t := ⟨fun _ _ => rfl, rfl, rfl⟩

theorem parent?_eq (kept : t.KeptIn t') {parent : NodeId} (above : t.parent? id = some parent) :
    t'.parent? id = some parent := by
  rw [parent?, kept.old id (lt_size_of_parent? above)]
  exact above

theorem construct?_eq (kept : t.KeptIn t') (known : t.construct? id = some c) : t'.construct? id = some c := by
  rw [construct?, kept.old id (lt_size_of_construct? known)]
  exact known

theorem get?_eq (kept : t.KeptIn t') {α : Type} {choose : Construct → Option α} {a : α}
    (known : t.get? choose id = some a) : t'.get? choose id = some a := by
  obtain ⟨c, found, chosen⟩ := Option.bind_eq_some_iff.mp known
  rw [get?, kept.construct?_eq found]
  exact chosen

theorem role?_eq (kept : t.KeptIn t') {role : Role} (plays : t.role? id = some role) : t'.role? id = some role := by
  obtain ⟨c, found, same⟩ := Option.map_eq_some_iff.mp plays
  rw [role?, kept.construct?_eq found, Option.map_some, same]

theorem architectureUnit?_eq (kept : t.KeptIn t') {a : Architecture} (body : t.architectureUnit? = some a) :
    t'.architectureUnit? = some a := by
  obtain ⟨id, unit, known⟩ := architectureUnit?_eq_some_iff.mp body
  exact architectureUnit?_eq_some_iff.mpr ⟨id, kept.architecture_eq.trans unit, kept.construct?_eq known⟩

theorem assignableIn (kept : t.KeptIn t') (held : t.AssignableIn scope id n) : t'.AssignableIn scope id n := by
  cases held with
  | architecture kind listed plays named =>
    exact .architecture (kept.construct?_eq kind) listed (kept.role?_eq plays) (kept.get?_eq named)
  | generate kind listed plays named =>
    exact .generate (kept.construct?_eq kind) listed (kept.role?_eq plays) (kept.get?_eq named)
  | process kind listed plays named =>
    exact .process (kept.construct?_eq kind) listed (kept.role?_eq plays) (kept.get?_eq named)

theorem below (kept : t.KeptIn t') (below : t.Below scope id) : t'.Below scope id := by
  induction below with
  | child above => exact .child (kept.parent?_eq above)
  | step above _ ih => exact .step (kept.parent?_eq above) ih

theorem ancestors_eq (kept : t.KeptIn t') (rooted : t.Rooted) (steps : Nat) (lt : id < t.nodes.size) :
    t'.ancestors steps id = t.ancestors steps id := by
  have same : t'.parent? id = t.parent? id := by rw [parent?, kept.old id lt, parent?]
  induction steps generalizing id with
  | zero => rw [ancestors, ancestors, same]
  | succ steps ih =>
    rw [ancestors, ancestors, same]
    cases above : t.parent? id with
    | none => rfl
    | some parent =>
      have less := Nat.lt_trans (rooted.lt_of_parent? above) lt
      have same : t'.parent? parent = t.parent? parent := by rw [parent?, kept.old parent less, parent?]
      simp only [ih less same]

/-- A node can be added below every parent that is not too deep. All that stood in the tree stays. -/
theorem exists_attach (parent : NodeId) (root : t.checkRoot parent = .ok ()) {start stop : Int}
    (inText : checkRange t.text.length start stop = .ok ()) (c : Construct) :
    ∃ t', t.attach parent start stop c = .ok (t', t.nodes.size) ∧ t.KeptIn t' ∧
      t'.construct? t.nodes.size = some c ∧ t'.parent? t.nodes.size = some parent := by
  let node : Node := ⟨some parent, start.toNat, stop.toNat, c⟩
  have newest : ({ t with nodes := t.nodes.push node } : Tree).node? t.nodes.size = some node :=
    (node?_push _).trans (if_pos rfl)
  refine ⟨{ t with nodes := t.nodes.push node }, ?_, ⟨?_, rfl, rfl⟩, ?_, ?_⟩
  · rw [attach, root, place, inText]
  · exact fun id lt => (node?_push id).trans (if_neg (Nat.ne_of_lt lt))
  · rw [construct?, newest, Option.map_some]
  · rw [parent?, newest, Option.bind_some]

/-- What stands around a node stands around one beside it. -/
theorem below_beside (kept : t.KeptIn t') (beside : t'.parent? read = t.parent? write) (below : t.Below scope write) :
    t'.Below scope read := by
  cases below with
  | child above => exact .child (beside.trans above)
  | step above below => exact .step (beside.trans above) (kept.below below)

/-- The walks from two nodes that stand beside each other differ in their starts only. -/
theorem ancestors_beside (kept : t.KeptIn t') (rooted : t.Rooted) (beside : t'.parent? read = t.parent? write)
    (steps : Nat) : t'.ancestors steps read = t.ancestors steps write := by
  cases steps with
  | zero => rw [ancestors, ancestors, beside]
  | succ steps =>
    rw [ancestors, ancestors, beside]
    cases above : t.parent? write with
    | none => rfl
    | some parent =>
      have less := Nat.lt_trans (rooted.lt_of_parent? above) (lt_size_of_parent? above)
      simp only [kept.ancestors_eq rooted steps less]

end KeptIn
end Tree

namespace Design

variable {d d' : Design} {file id write read : Nat} {t t' : Tree} {name n : Bytes} {r : Ref} {path : String} {text : Bytes}

/-- A write looks at the scopes around it and then outside of them. -/
theorem resolveWrite_eq (placed : d.tree? file = some t) (isWrite : t.get? Construct.write? id = some name) :
    d.resolveWrite file id =
      if (t.ancestors maxDepth id).1.any (t.assignableInScope · name) then .ok true
      else if t.reachesFile (maxDepth + 1) id then .ok (d.assignableOutside file t name) else .error (.longChain id) := by
  rw [resolveWrite, placed]
  simp only [isWrite, Option.getD_some,
    t.searchScopes_test (t.assignableInScope · name) fun _ => Tree.isScope_of_assignableInScope]
  split
  · rfl
  · rw [Tree.checkRoot]
    split <;> rfl

/-- The ports of a unit, by name and direction. -/
theorem mem_ports?_iff {unit : Option Ref} {direction : Direction} : (n, direction) ∈ (d.ports? unit).getD [] ↔
    ∃ entity owner u, unit = some entity ∧ d.interface? entity = some (owner, u) ∧
      ∃ id ∈ u.ports, owner.get? Construct.port? id = some (n, direction) := by
  cases unit with
  | none => simp [ports?]
  | some entity =>
    cases kind : d.interface? entity with
    | none => simp [ports?, kind]
    | some found =>
      obtain ⟨owner, u⟩ := found
      simp [ports?, kind, Tree.portsOf]

/-- What a file offers to every write is found by its name. -/
theorem assignableOutside_iff (arranged : t.Arranged) (placed : d.tree? file = some t) (name : Bytes) :
    d.assignableOutside file t name = true ↔ ∃ r n, d.AssignableOutside file r n ∧ sameName n name := by
  simp only [assignableOutside, Bool.or_eq_true, Option.any_map, Option.any_eq_true, List.any_eq_true, Bool.and_eq_true,
    Direction.writable_iff]
  constructor
  · rintro ((⟨a, body, found⟩ | ⟨⟨n, direction⟩, member, driven, same⟩) | ⟨a, body, found⟩)
    · obtain ⟨unit, -, known⟩ := Tree.architectureUnit?_eq_some_iff.mp body
      obtain ⟨id, n, ⟨listed, plays, named⟩, same⟩ := (arranged.isSome_findNamed known .signal name).mp found
      exact ⟨_, n, .signal placed body listed plays named, same⟩
    · obtain ⟨entity, owner, u, bound, kind, id, listed, known⟩ := mem_ports?_iff.1 member
      exact ⟨_, n, .port bound kind listed known driven, same⟩
    · obtain ⟨id, type, listed, decl, known, held, named⟩ := (t.finds_lookupStates _ name).isSome_iff.mp found
      obtain ⟨n, called, same⟩ := Tree.declares_iff.mp named
      have isType := (Tree.get?_eq_some_iff Construct.typeDecl?_eq_some_iff).mp known
      have child : t.Child .state type id := arranged.child_of_members isType held
      exact ⟨_, n, .state placed body listed known held child.2 called, same⟩
  · rintro ⟨r, n, ⟨placed', body, listed, plays, named⟩ | ⟨bound, kind, listed, known, driven⟩ |
      ⟨placed', body, listed, known, held, plays, named⟩, same⟩
    · cases placed.symm.trans placed'
      refine .inl (.inl ⟨_, body, ?_⟩)
      exact (t.finds_findNamed _ name).complete ⟨_, listed, Tree.declares_iff.mpr ⟨n, named, same⟩⟩
    · exact .inl (.inr ⟨_, mem_ports?_iff.2 ⟨_, _, _, bound, kind, _, listed, known⟩, driven, same⟩)
    · cases placed.symm.trans placed'
      refine .inr ⟨_, body, ?_⟩
      exact (t.finds_lookupStates _ name).complete
        ⟨_, _, listed, _, known, held, Tree.declares_iff.mpr ⟨n, named, same⟩⟩

/-- A write that is accepted assigns something of its name. -/
theorem exists_assignable (arranged : t.Arranged) (placed : d.tree? file = some t)
    (isWrite : t.get? Construct.write? write = some name) (held : d.resolveWrite file write = .ok true) :
    (∃ scope ∈ (t.ancestors maxDepth write).1, ∃ id n, t.AssignableIn scope id n ∧ sameName n name) ∨
      t.reachesFile (maxDepth + 1) write = true ∧ ∃ r n, d.AssignableOutside file r n ∧ sameName n name := by
  rw [resolveWrite_eq placed isWrite] at held
  split at held
  case isTrue found =>
    obtain ⟨scope, passed, assignable⟩ := List.any_eq_true.mp found
    exact .inl ⟨scope, passed, (arranged.assignableInScope_iff scope name).mp assignable⟩
  case isFalse =>
    split at held
    case isTrue reaches =>
      exact .inr ⟨reaches, (assignableOutside_iff arranged placed name).mp (Except.ok.inj held)⟩
    case isFalse => contradiction

/-- A write that stands no deeper than a walk may go is accepted exactly if something assignable has its name. -/
theorem resolveWrite_assignable (arranged : t.Arranged) (placed : d.tree? file = some t)
    (isWrite : t.get? Construct.write? write = some name) (reaches : t.reachesFile (maxDepth + 1) write = true) :
    ∃ found, d.resolveWrite file write = .ok found ∧
      (found = true ↔ ∃ r n, d.Assignable file write r n ∧ sameName n name) := by
  refine ⟨(t.ancestors maxDepth write).1.any (t.assignableInScope · name) || d.assignableOutside file t name, ?_, ?_⟩
  · rw [resolveWrite_eq placed isWrite, if_pos reaches]
    split <;> simp_all
  rw [Bool.or_eq_true, List.any_eq_true, assignableOutside_iff arranged placed]
  constructor
  · rintro (⟨scope, passed, assignable⟩ | ⟨r, n, held, same⟩)
    · obtain ⟨id, n, held, same⟩ := (arranged.assignableInScope_iff scope name).mp assignable
      exact ⟨_, n, .scope placed (Tree.below_of_mem_ancestors passed) held, same⟩
    · exact ⟨r, n, .outside held, same⟩
  · rintro ⟨r, n, ⟨placed', around, held⟩ | held, same⟩
    · cases placed.symm.trans placed'
      refine .inl ⟨_, Tree.mem_ancestors_of_below around reaches, ?_⟩
      exact (arranged.assignableInScope_iff _ name).mpr ⟨_, n, held, same⟩
    · exact .inr ⟨r, n, held, same⟩

namespace KeptIn

theorem refl (d : Design) : d.KeptIn d := ⟨fun _ t placed => ⟨t, placed, .refl t⟩, fun _ => rfl⟩

theorem tree (kept : d.KeptIn d') (placed : d.tree? file = some t) (placed' : d'.tree? file = some t') :
    t.KeptIn t' := by
  obtain ⟨other, same, inside⟩ := kept.trees file t placed
  cases same.symm.trans placed'
  exact inside

theorem interface? (kept : d.KeptIn d') {entity : Ref} {owner : Tree} {unit : Interface}
    (kind : d.interface? entity = some (owner, unit)) :
    ∃ owner', d'.interface? entity = some (owner', unit) ∧ owner.KeptIn owner' := by
  obtain ⟨placed, known⟩ := interface?_eq_some_iff.mp kind
  obtain ⟨owner', placed', inside⟩ := kept.trees _ _ placed
  exact ⟨owner', interface?_eq_some_iff.mpr ⟨placed', inside.get?_eq known⟩, inside⟩

/-- What a write of a file can assign wherever it stands is visible to every read in the architecture. -/
theorem visible_of_outside (kept : d.KeptIn d') (placed : d.tree? file = some t) (placed' : d'.tree? file = some t')
    {a : Architecture} {unit : NodeId} (body : t.architecture = some unit)
    (known : t.construct? unit = some (.architecture a)) (around : t'.Below unit read)
    (held : d.AssignableOutside file r n) (packages : List Ref) (isElement : Bool) :
    d'.Visible file read packages isElement r n := by
  have inside := kept.tree placed placed'
  have known' := inside.construct?_eq known
  have own := Tree.architectureUnit?_eq_some_iff.mpr ⟨unit, body, known⟩
  cases held with
  | signal placed₁ own₁ listed _ named =>
    cases placed.symm.trans placed₁
    cases own.symm.trans own₁
    exact .scope placed' around (.architecture known' (.inl listed) (inside.get?_eq named))
  | port bound kind listed isPort _ =>
    obtain ⟨owner', kind', insideOwner⟩ := kept.interface? kind
    refine .entity (.port placed' (inside.architectureUnit?_eq own) ((kept.bound file).trans bound) kind' listed ?_)
    exact insideOwner.get?_eq (Tree.nameOf?_of_port? isPort)
  | state placed₁ own₁ listed isType among _ named =>
    cases placed.symm.trans placed₁
    cases own.symm.trans own₁
    refine .scope placed' around (.architecture known' (.inr (.inr (.inr ?_))) (inside.get?_eq named))
    exact .state listed (inside.get?_eq isType) among

/-- A read that stands beside a write that is accepted refers to something, whatever is imported. -/
theorem exists_resolveRead (kept : d.KeptIn d') (arranged : t.Arranged) (placed : d.tree? file = some t)
    (placed' : d'.tree? file = some t') (isWrite : t.get? Construct.write? write = some name)
    (isRead : t'.get? Construct.read? read = some (name, false)) (beside : t'.parent? read = t.parent? write)
    (held : d.resolveWrite file write = .ok true) (packages : List Ref) :
    ∃ r, d'.resolveRead file read packages = .ok (some r) := by
  have inside := kept.tree placed placed'
  have walk := inside.ancestors_beside arranged.rooted beside maxDepth
  rcases exists_assignable arranged placed isWrite held with ⟨scope, passed, id, n, offered, same⟩ | ⟨reaches, r, n, offered, same⟩
  · -- The walk from the read passes the same scope, so it does not matter how far it is from the file.
    have passed' : scope ∈ (t'.ancestors maxDepth read).1 := by rw [walk]; exact passed
    have met : d'.Met file t' read packages false ⟨file, id⟩ n :=
      .scope passed' ((inside.assignableIn offered).visible false)
    exact met.resolves placed' isRead same
  · have reaches' : t'.reachesFile (maxDepth + 1) read = true := by
      rw [← Tree.ancestors_complete, walk, Tree.ancestors_complete]
      exact reaches
    have plays : t.role? write = some .write :=
      Tree.role?_of_construct? ((Tree.get?_eq_some_iff Construct.write?_eq_some_iff).mp isWrite)
    obtain ⟨unit, body, around⟩ := arranged.architecture_of_write plays
    obtain ⟨a, known⟩ := Tree.exists_of_role?_architecture (arranged.architecture unit body)
    have visible := kept.visible_of_outside placed placed' body known (inside.below_beside beside around) offered packages
    exact ((visible false).met placed' reaches').resolves placed' isRead same

theorem withTree (placed : d.tree? file = some t) (kept : t.KeptIn t') : d.KeptIn (d.withTree file t') where
  trees other t₁ placed₁ := by
    by_cases here : other = file
    · subst here
      cases placed.symm.trans placed₁
      exact ⟨t', tree?_withTree placed t', kept⟩
    · exact ⟨t₁, (tree?_withTree_of_ne here t').trans placed₁, .refl t₁⟩
  bound := boundEntity?_withTree placed kept.entity_eq

end KeptIn

/-- Whatever can be written can be read. If a write is accepted, then a read of the same name that stands beside it,
among the nodes of the tree or added to them, refers to something, whatever is imported. A write is accepted only
because a signal, a variable, an output or a state that it can see has its name. -/
theorem resolveRead_of_resolveWrite (parsed : Tree.parse path text = .ok t) (library : Bytes)
    (placed : d.tree? file = some { t with library }) (isWrite : t.get? Construct.write? write = some name)
    (held : d.resolveWrite file write = .ok true) :
    (∀ packages read, t.get? Construct.read? read = some (name, false) → t.parent? read = t.parent? write →
      ∃ r, d.resolveRead file read packages = .ok (some r)) ∧
    (∃ parent, t.parent? write = some parent ∧ ∀ start stop, checkRange t.text.length start stop = .ok () →
      ∃ t' read, ({ t with library } : Tree).attach parent start stop (.read name false) = .ok (t', read) ∧
        ∀ packages, ∃ r, (d.withTree file t').resolveRead file read packages = .ok (some r)) ∧
    ∃ r n, d.Assignable file write r n ∧ sameName n name := by
  have arranged := (Tree.arranged_of_parse parsed).inLibrary library
  refine ⟨fun packages read isRead beside => ?_, ?_, ?_⟩
  · exact (KeptIn.refl d).exists_resolveRead arranged placed placed isWrite isRead beside held packages
  · have known := (Tree.get?_eq_some_iff Construct.write?_eq_some_iff).mp isWrite
    have positive := arranged.pos_of_ne_file known Construct.noConfusion
    obtain ⟨parent, above, -⟩ := arranged.rooted.parent_lt write positive (Tree.lt_size_of_construct? known)
    refine ⟨parent, above, fun start stop inText => ?_⟩
    have root := arranged.checkRoot_parent above
    obtain ⟨t', attached, kept, isRead, beside⟩ := Tree.KeptIn.exists_attach parent root inText (.read name false)
    refine ⟨t', _, attached, fun packages => ?_⟩
    refine (KeptIn.withTree placed kept).exists_resolveRead arranged placed (tree?_withTree placed t') isWrite ?_ ?_ held
      packages
    · rw [Tree.get?, isRead]
      rfl
    · exact beside.trans above.symm
  · rcases exists_assignable arranged placed isWrite held with ⟨scope, passed, id, n, offered, same⟩ | ⟨-, r, n, offered, same⟩
    · exact ⟨_, n, .scope placed (Tree.below_of_mem_ancestors passed) offered, same⟩
    · exact ⟨r, n, .outside offered, same⟩

/-- An architecture that writes a port of its entity, spelled in the other case. -/
def portWrite : Bytes := Bytes.ofString "architecture a of e is\nbegin\nQ <= '1';\nend;\n"

/-- The entity, in a file of its own. -/
def portEntity : Bytes := Bytes.ofString "entity e is\nport (q : inout bit);\nend;\n"

/-- The file of the architecture, linked to the entity of the other file. -/
def linkedFiles (t u : Tree) : Design := ⟨#[{ tree := t, linked := some ⟨1, 1⟩ }, { tree := u }]⟩

/-- The port can be read where it is written, though the two files only share a link. -/
theorem portWrite_read : ∃ t u, Tree.parse "a.vhd" portWrite = .ok t ∧ Tree.parse "e.vhd" portEntity = .ok u ∧
    ∃ t' read r, t.attach 2 29 30 (.read (Bytes.ofString "Q") false) = .ok (t', read) ∧
      ((linkedFiles t u).withTree 0 t').resolveRead 0 read [] = .ok (some r) := by
  obtain ⟨t, parsed, shown⟩ := exists_ok_of_any (show (Tree.parse "a.vhd" portWrite).toOption.any (fun t =>
    (Tree.parse "e.vhd" portEntity).toOption.any fun u =>
      decide (t.get? Construct.write? 3 = some (Bytes.ofString "Q")) && decide (t.parent? 3 = some 2) &&
        decide (checkRange t.text.length 29 30 = .ok ()) &&
        decide ((linkedFiles t u).resolveWrite 0 3 = .ok true)) = true by
      rw [portWrite, portEntity, Bytes.ofString_ofList, Bytes.ofString_ofList]
      decide +kernel)
  obtain ⟨u, linked, shown⟩ := exists_ok_of_any shown
  simp only [Bool.and_eq_true, decide_eq_true_eq] at shown
  obtain ⟨⟨⟨isWrite, above⟩, inText⟩, held⟩ := shown
  have placed : (linkedFiles t u).tree? 0 = some { t with library := t.library } := rfl
  obtain ⟨-, ⟨parent, above', added⟩, -⟩ := resolveRead_of_resolveWrite parsed t.library placed isWrite held
  obtain rfl : 2 = parent := Option.some.inj (above.symm.trans above')
  obtain ⟨t', read, attached, resolves⟩ := added 29 30 inText
  obtain ⟨r, resolved⟩ := resolves []
  exact ⟨t, u, parsed, linked, t', read, r, attached, resolved⟩

end Design
end DesignLint
