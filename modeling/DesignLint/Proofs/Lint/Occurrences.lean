import DesignLint.Lint.Check
import DesignLint.Proofs.Lint.Items

/-! The occurrences that the check for undeclared names examines. They are the reads and writes below the
architecture, without the initial values of declarations, the bounds of loops and the side of an association
that does not count for its port. Each of them belongs to one item of the architecture. -/
namespace DesignLint

/-- What counts of an association with a port of a direction. If nothing is known about the port, the actual
counts as read. -/
def Mapping.counted (m : Mapping) : Option Direction → List NodeId
  | none | some .input => m.ifInput
  | some .output => m.ifOutputWrites ++ m.ifOutputReads
  | some .both => m.ifOutputWrites ++ m.ifInput
  | some (.other _) => []

namespace Tree

/-- The associations of a map. -/
def associations (t : Tree) (map : Option NodeId) : List NodeId := map.elim [] (t.membersOf .mapping)

/-- The association at a node. -/
def mappingAt (t : Tree) (id : Nat) : Mapping := (t.get? Construct.mapping? id).getD {}

/-- The writes of a simple statement. -/
def ownWrites (t : Tree) : Nat → List NodeId :=
  t.contribution Assignment.writes (fun _ => []) (fun _ => []) fun _ => []

/-- The reads of a statement, clause or arm. The bounds of a loop are not among them. -/
def ownReads (t : Tree) : Nat → List NodeId :=
  t.contribution Assignment.reads IfClause.condition CaseStatement.selector CaseArm.choices

end Tree

namespace Lint

/-- The ports of the unit that an instantiation connects to. -/
def Subject.targetPorts (s : Subject) (instance_ : Nat) : UnitPorts :=
  (s.design.resolveInstance s.file instance_ s.packages s.entities).toOption.bind s.design.ports?

/-- An occurrence counts for an association: in a generic map if it is read as an input, in a port map as the
direction of the port wants. -/
def Subject.Connects (s : Subject) (mapping id : Nat) : Prop :=
  ∃ y i, s.tree.construct? y = some (.instantiation i) ∧
    (mapping ∈ s.tree.associations i.genericMap ∧ id ∈ (s.tree.mappingAt mapping).ifInput ∨
      ∃ position, (s.tree.associations i.portMap)[position]? = some mapping ∧
        id ∈ (s.tree.mappingAt mapping).counted
          (s.tree.formalDirection? (s.targetPorts y) (s.tree.mappingAt mapping) position))

/-- A read or write that counts as a part of its parent. -/
structure Subject.Counts (s : Subject) (owner id : Nat) : Prop where
  parent : s.tree.parent? id = some owner
  role : s.tree.role? id = some .read ∨ s.tree.role? id = some .write
  plain : ∀ c, s.tree.construct? owner = some c → c.initial? = none
  unbounding : ∀ l, s.tree.construct? owner ≠ some (.loop l)
  connects : ∀ m, s.tree.construct? owner = some (.mapping m) → s.Connects owner id

/-- A read or write below the architecture of the file that is neither part of an initial value nor of the
bounds of a loop, and that counts if it is part of an association. -/
def Subject.Examined (s : Subject) (id : Nat) : Prop :=
  ∃ a owner, s.tree.architecture = some a ∧ s.tree.Below a id ∧ s.Counts owner id

/-- The occurrences of one item, in the order in which they are examined. -/
def Subject.occurrencesIn (s : Subject) (y : Nat) : List NodeId :=
  match s.tree.construct? y with
  | some (.process p) =>
    (s.tree.nested y).flatMap s.tree.ownWrites ++ p.sensitivity ++ (s.tree.nested y).flatMap s.tree.ownReads
  | some (.assignment a) => a.writes ++ a.reads
  | some (.instantiation i) =>
    s.tree.instanceWrites i (s.targetPorts y) ++ s.tree.instanceReads i (s.targetPorts y)
  | some (.generate g) => g.bounds ++ g.condition
  | _ => []

end Lint

namespace Mapping

variable {m : Mapping} {d : Option Direction} {id : NodeId}

theorem readsFor_sublist : (m.readsFor d).Sublist (m.formal ++ m.ifInput ++ m.ifOutputReads) := by
  have input : m.ifInput.Sublist (m.formal ++ m.ifInput ++ m.ifOutputReads) :=
    (List.sublist_append_right m.formal m.ifInput).trans (List.sublist_append_left _ _)
  rcases d with _ | (_ | _ | _ | _)
  · exact input
  · exact input
  · exact List.sublist_append_right _ _
  · exact input
  · exact List.nil_sublist _

theorem writesFor_sublist : (m.writesFor d).Sublist m.ifOutputWrites := by
  rcases d with _ | d
  · exact List.nil_sublist _
  · rw [writesFor]
    split
    · exact List.Sublist.refl _
    · exact List.nil_sublist _

theorem mem_counted : id ∈ m.counted d ↔ id ∈ m.writesFor d ∨ id ∈ m.readsFor d := by
  rcases d with _ | (_ | _ | _ | _) <;> simp [counted, writesFor, readsFor, Direction.writable]

end Mapping

namespace Tree

variable {t : Tree} {a id x y parent : Nat} {c : Construct} {role : Role}

theorem listed_read : Role.read.Listed := fun c => by cases c <;> rfl

theorem listed_write : Role.write.Listed := fun c => by cases c <;> rfl

theorem listed_map : Role.map.Listed := fun c => by cases c <;> rfl

theorem listed_mapping : Role.mapping.Listed := fun c => by cases c <;> rfl

/-- The writes of a statement are the writes among its parts. -/
theorem ownWrites_eq (plays : t.role? x = some role) (among : role ∈ statementRoles) :
    t.ownWrites x = t.membersOf .write x := by
  obtain ⟨c, known, same⟩ := Option.map_eq_some_iff.mp plays
  rw [ownWrites, contribution, membersOf_of_construct? known, known]
  cases c
  case assignment | ifStatement | ifClause | caseStatement | caseArm | loop => rfl
  all_goals
    subst same
    simp [Construct.role, statementRoles] at among

/-- The reads of a statement are the reads among its parts, unless it is a loop. -/
theorem ownReads_eq (plays : t.role? x = some role) (among : role ∈ statementRoles)
    (plain : ∀ l, t.construct? x ≠ some (.loop l)) : t.ownReads x = t.membersOf .read x := by
  obtain ⟨c, known, same⟩ := Option.map_eq_some_iff.mp plays
  rw [ownReads, contribution, membersOf_of_construct? known, known]
  cases c
  case assignment | ifStatement | ifClause | caseStatement | caseArm => rfl
  case loop l => exact absurd known (plain l)
  all_goals
    subst same
    simp [Construct.role, statementRoles] at among

theorem ownReads_sublist (plays : t.role? x = some role) (among : role ∈ statementRoles) :
    (t.ownReads x).Sublist (t.membersOf .read x) := by
  by_cases plain : ∀ l, t.construct? x ≠ some (.loop l)
  · rw [ownReads_eq plays among plain]
  · push Not at plain
    obtain ⟨l, known⟩ := plain
    rw [ownReads, contribution, known]
    exact List.nil_sublist _

theorem ownReads_loop {l : Loop} (known : t.construct? x = some (.loop l)) : t.ownReads x = [] := by
  rw [ownReads, contribution, known]

theorem membersOf_mapping (plays : t.role? x = some .mapping) :
    t.construct? x = some (.mapping (t.mappingAt x)) ∧
      t.membersOf .read x = (t.mappingAt x).formal ++ (t.mappingAt x).ifInput ++ (t.mappingAt x).ifOutputReads ∧
      t.membersOf .write x = (t.mappingAt x).ifOutputWrites := by
  obtain ⟨c, known, same⟩ := Option.map_eq_some_iff.mp plays
  cases c <;> simp only [Construct.role, reduceCtorEq] at same
  rename_i m
  have here : t.mappingAt x = m := by rw [mappingAt, get?, known]; rfl
  rw [membersOf_of_construct? known, membersOf_of_construct? known, here]
  exact ⟨known, rfl, rfl⟩

namespace WellFormed

section

variable {β : Type} {xs : List β} {f : β → List Nat} {node : β → Nat}

/-- What is taken from the lists of different nodes under one role are children of these nodes. -/
theorem child_of_mem_flatMap (formed : t.WellFormed) (listed : role.Listed)
    (part : ∀ x ∈ xs, (f x).Sublist (t.membersOf role (node x))) (member : id ∈ xs.flatMap f) :
    ∃ x ∈ xs, t.Child role (node x) id := by
  obtain ⟨x, among, member⟩ := List.mem_flatMap.mp member
  exact ⟨x, among, formed.child_of_mem listed ((part x among).subset member)⟩

theorem nodup_flatMap (formed : t.WellFormed) (listed : role.Listed) (distinct : (xs.map node).Nodup)
    (part : ∀ x ∈ xs, (f x).Sublist (t.membersOf role (node x))) : (xs.flatMap f).Nodup := by
  refine nodup_flatMap_of_eq (List.Nodup.of_map _ distinct)
    (fun x among => (formed.membersOf_nodup listed (node x)).sublist (part x among)) ?_
  intro x among x' among' y left right
  have one := (formed.child_of_mem listed ((part x among).subset left)).1
  have two := (formed.child_of_mem listed ((part x' among').subset right)).1
  exact List.inj_on_of_nodup_map distinct among among' (Option.some.inj (one.symm.trans two))

end

/-- The associations of a map are the nodes that its mappings stand at. -/
theorem mappingsOf_eq (formed : t.WellFormed) (map : Option NodeId) :
    t.mappingsOf map = (t.associations map).map t.mappingAt := by
  cases map with
  | none => rfl
  | some map =>
    rw [mappingsOf, associations, Option.bind_some, Option.elim_some, get?]
    cases known : t.construct? map with
    | none => simp [membersOf, known]
    | some c =>
      have listed : t.membersOf .mapping map = c.members .mapping := membersOf_of_construct? known
      cases c
      case map ids =>
        simp only [Construct.members] at listed
        rw [listed]
        simp only [Option.bind_some, Construct.map?, Option.elim_some]
        rw [← List.filterMap_eq_map]
        refine List.filterMap_congr fun x member => ?_
        have plays := (formed.child_of_mem listed_mapping (listed ▸ member)).2
        obtain ⟨c, found, same⟩ := Option.map_eq_some_iff.mp plays
        cases c <;> simp only [Construct.role, reduceCtorEq] at same
        simp [mappingAt, get?, found, Construct.mapping?]
      all_goals simp [listed, Construct.members, Body.members, Construct.map?]

theorem instanceReads_eq (formed : t.WellFormed) (i : Instantiation) (ports : UnitPorts) :
    t.instanceReads i ports = (t.associations i.genericMap).flatMap (fun x => (t.mappingAt x).ifInput) ++
      (t.associations i.portMap).zipIdx.flatMap fun at_ =>
        (t.mappingAt at_.1).readsFor (t.formalDirection? ports (t.mappingAt at_.1) at_.2) := by
  rw [instanceReads, formed.mappingsOf_eq, formed.mappingsOf_eq, List.flatMap_map, List.zipIdx_map,
    List.flatMap_map]
  rfl

theorem instanceWrites_eq (formed : t.WellFormed) (i : Instantiation) (ports : UnitPorts) :
    t.instanceWrites i ports = (t.associations i.portMap).zipIdx.flatMap fun at_ =>
      (t.mappingAt at_.1).writesFor (t.formalDirection? ports (t.mappingAt at_.1) at_.2) := by
  rw [instanceWrites, formed.mappingsOf_eq, List.zipIdx_map, List.flatMap_map]
  rfl

/-- The associations of an instantiation stand inside it. -/
theorem mem_associations (formed : t.WellFormed) {map : Option NodeId} {i : Instantiation}
    (known : t.construct? y = some (.instantiation i)) (either : map = i.genericMap ∨ map = i.portMap)
    (member : x ∈ t.associations map) :
    ∃ owner, map = some owner ∧ t.Child .mapping owner x ∧ t.Child .map y owner ∧ t.Inside y x := by
  cases map with
  | none => simp [associations] at member
  | some owner =>
    have child := formed.child_of_mem listed_mapping member
    have listed : owner ∈ t.membersOf .map y := by
      rw [membersOf_of_construct? known, Construct.members]
      rcases either with same | same <;> simp [← same]
    have mapped := formed.child_of_mem listed_map listed
    refine ⟨owner, rfl, child, mapped, .step child.1 ?_ (.step mapped.1 ?_ .self)⟩
    · simp [IsUnit, mapped.2]
    · simp [IsUnit, role?_of_construct? known, Construct.role]

section

variable {i : Instantiation} {d : Option Direction}

theorem ifInput_sublist (formed : t.WellFormed) (known : t.construct? y = some (.instantiation i))
    (listed : x ∈ t.associations i.genericMap) : (t.mappingAt x).ifInput.Sublist (t.membersOf .read x) := by
  obtain ⟨_, _, child, _⟩ := formed.mem_associations known (.inl rfl) listed
  rw [(membersOf_mapping child.2).2.1]
  exact (List.sublist_append_right _ _).trans (List.sublist_append_left _ _)

theorem readsFor_sublist (formed : t.WellFormed) (known : t.construct? y = some (.instantiation i))
    (listed : x ∈ t.associations i.portMap) : ((t.mappingAt x).readsFor d).Sublist (t.membersOf .read x) := by
  obtain ⟨_, _, child, _⟩ := formed.mem_associations known (.inr rfl) listed
  rw [(membersOf_mapping child.2).2.1]
  exact Mapping.readsFor_sublist

theorem writesFor_sublist (formed : t.WellFormed) (known : t.construct? y = some (.instantiation i))
    (listed : x ∈ t.associations i.portMap) : ((t.mappingAt x).writesFor d).Sublist (t.membersOf .write x) := by
  obtain ⟨_, _, child, _⟩ := formed.mem_associations known (.inr rfl) listed
  rw [(membersOf_mapping child.2).2.2]
  exact Mapping.writesFor_sublist

theorem role?_of_mem_instanceWrites (formed : t.WellFormed) (known : t.construct? y = some (.instantiation i))
    {ports : UnitPorts} (member : id ∈ t.instanceWrites i ports) : t.role? id = some .write := by
  rw [formed.instanceWrites_eq] at member
  obtain ⟨⟨x, position⟩, listed, write⟩ := List.mem_flatMap.mp member
  have write := (formed.writesFor_sublist known (List.fst_mem_of_mem_zipIdx listed)).subset write
  exact (formed.child_of_mem listed_write write).2

theorem role?_of_mem_instanceReads (formed : t.WellFormed) (known : t.construct? y = some (.instantiation i))
    {ports : UnitPorts} (member : id ∈ t.instanceReads i ports) : t.role? id = some .read := by
  rw [formed.instanceReads_eq] at member
  rcases List.mem_append.mp member with generic | port
  · obtain ⟨x, listed, read⟩ := List.mem_flatMap.mp generic
    exact (formed.child_of_mem listed_read ((formed.ifInput_sublist known listed).subset read)).2
  · obtain ⟨⟨x, position⟩, listed, read⟩ := List.mem_flatMap.mp port
    have read := (formed.readsFor_sublist known (List.fst_mem_of_mem_zipIdx listed)).subset read
    exact (formed.child_of_mem listed_read read).2

end

/-- The statements of a process, flattened, are those that stand inside it. -/
theorem flatten_process (formed : t.WellFormed) {p : Process} (known : t.construct? y = some (.process p))
    {ofAssignment : Assignment → List NodeId} {ofClause : IfClause → List NodeId}
    {ofCase : CaseStatement → List NodeId} {ofArm : CaseArm → List NodeId} :
    t.flatten ofAssignment ofClause ofCase ofArm (t.nodes.size + 1) (t.processStatements y) =
      .ok ((t.nested y).flatMap (t.contribution ofAssignment ofClause ofCase ofArm)) := by
  have enough : t.nodes.size < t.nodes.size + 1 + 1 + y := by omega
  obtain ⟨same, flattenable⟩ := formed.flattenable known (Nat.le_refl y) enough (membersOf_of_construct? known)
    (by simp) rfl
  have statements : t.processStatements y = (t.membersOf .statement y).map some := by
    rw [← same, processStatements, get?, known]
    rfl
  rw [statements, nested]
  exact formed.flatten_eq (Nat.succ_pos _) flattenable

theorem role?_of_mem_nestedWrites (formed : t.WellFormed) (process : t.role? y = some .process)
    (member : id ∈ (t.nested y).flatMap t.ownWrites) : t.role? id = some .write := by
  obtain ⟨x, nested, member⟩ := List.mem_flatMap.mp member
  obtain ⟨⟨role, among, plays⟩, _⟩ := formed.mem_nested process x nested
  exact (formed.child_of_mem listed_write (ownWrites_eq plays among ▸ member)).2

theorem role?_of_mem_nestedReads (formed : t.WellFormed) (process : t.role? y = some .process)
    (member : id ∈ (t.nested y).flatMap t.ownReads) : t.role? id = some .read := by
  obtain ⟨x, nested, member⟩ := List.mem_flatMap.mp member
  obtain ⟨⟨role, among, plays⟩, _⟩ := formed.mem_nested process x nested
  exact (formed.child_of_mem listed_read ((ownReads_sublist plays among).subset member)).2

theorem processStatements_cases (t : Tree) (y : Nat) :
    t.processStatements y = [] ∨ ∃ p, t.construct? y = some (.process p) := by
  cases known : t.get? Construct.process? y with
  | none =>
    rw [processStatements, known]
    exact .inl rfl
  | some p =>
    obtain ⟨c, found, same⟩ := Option.bind_eq_some_iff.mp known
    cases c <;> simp only [Construct.process?, reduceCtorEq] at same
    exact .inr ⟨_, found⟩

/-- The writes of every process can be collected. -/
theorem exists_flattenWrites (formed : t.WellFormed) (y : Nat) :
    ∃ ids, t.flattenWrites (t.processStatements y) = .ok ids ∧ ∀ id ∈ ids, t.role? id = some .write := by
  rcases processStatements_cases t y with none_ | ⟨p, known⟩
  · rw [none_]
    exact ⟨[], rfl, by simp⟩
  · exact ⟨_, formed.flatten_process known, fun _ => formed.role?_of_mem_nestedWrites (role?_of_construct? known)⟩

theorem exists_flattenReads (formed : t.WellFormed) (y : Nat) :
    ∃ ids, t.flattenReads (t.processStatements y) = .ok ids ∧ ∀ id ∈ ids, t.role? id = some .read := by
  rcases processStatements_cases t y with none_ | ⟨p, known⟩
  · rw [none_]
    exact ⟨[], rfl, by simp⟩
  · exact ⟨_, formed.flatten_process known, fun _ => formed.role?_of_mem_nestedReads (role?_of_construct? known)⟩

theorem associations_nodup (formed : t.WellFormed) (map : Option NodeId) : (t.associations map).Nodup := by
  cases map with
  | none => exact .nil
  | some owner => exact formed.membersOf_nodup listed_mapping owner

/-- The two maps of an instantiation have no association in common. -/
theorem associations_disjoint (formed : t.WellFormed) {i : Instantiation}
    (known : t.construct? y = some (.instantiation i)) (left : x ∈ t.associations i.genericMap)
    (right : x ∈ t.associations i.portMap) : False := by
  obtain ⟨one, generics, child, _⟩ := formed.mem_associations known (.inl rfl) left
  obtain ⟨two, ports, child', _⟩ := formed.mem_associations known (.inr rfl) right
  obtain rfl := Option.some.inj (child.1.symm.trans child'.1)
  have nodup := formed.membersOf_nodup listed_map y
  rw [membersOf_of_construct? known, Construct.members, generics, ports] at nodup
  simp at nodup

end WellFormed

end Tree

theorem Construct.plain_of_statementRoles {c : Construct} (among : c.role ∈ Tree.statementRoles) :
    c.initial? = none ∧ ∀ m, c ≠ .mapping m := by
  cases c <;> simp [Construct.role, Tree.statementRoles] at among <;> simp [Construct.initial?]

namespace Lint.Subject

open Tree

variable {s : Subject} {a id x y owner : Nat} {c : Construct} {role : Role}

/-- The reads and writes of a construct count, unless it is a loop or an association. -/
theorem counts_of_mem (formed : s.tree.WellFormed) (known : s.tree.construct? x = some c) (plain : c.initial? = none)
    (unbounding : ∀ l, c ≠ .loop l) (unmapped : ∀ m, c ≠ .mapping m) (sort : role = .read ∨ role = .write)
    (member : id ∈ c.members role) : s.Counts x id := by
  have listed : role.Listed := by
    rcases sort with rfl | rfl
    · exact listed_read
    · exact listed_write
  have child := formed.child_of_mem listed (membersOf_of_construct? known ▸ member)
  have occurs : s.tree.role? id = some .read ∨ s.tree.role? id = some .write := by
    rcases sort with rfl | rfl
    · exact .inl child.2
    · exact .inr child.2
  refine ⟨child.1, occurs, ?_, ?_, ?_⟩
  · intro c' known'
    rw [known] at known'
    exact Option.some.inj known' ▸ plain
  · intro l known'
    rw [known] at known'
    exact unbounding l (Option.some.inj known')
  · intro m known'
    rw [known] at known'
    exact absurd (Option.some.inj known') (unmapped m)

/-- What an association selects counts. -/
theorem counts_of_association (formed : s.tree.WellFormed) {i : Instantiation}
    (known : s.tree.construct? y = some (.instantiation i)) {map : Option NodeId}
    (either : map = i.genericMap ∨ map = i.portMap) (listed : x ∈ s.tree.associations map)
    (connects : s.Connects x id) (member : id ∈ s.tree.membersOf .read x ∨ id ∈ s.tree.membersOf .write x) :
    s.tree.Inside y x ∧ s.Counts x id := by
  obtain ⟨_, _, child, _, inside⟩ := formed.mem_associations known either listed
  have found := (membersOf_mapping child.2).1
  have occurs : s.tree.parent? id = some x ∧ (s.tree.role? id = some .read ∨ s.tree.role? id = some .write) := by
    rcases member with read | write
    · have child := formed.child_of_mem listed_read read
      exact ⟨child.1, .inl child.2⟩
    · have child := formed.child_of_mem listed_write write
      exact ⟨child.1, .inr child.2⟩
  refine ⟨inside, occurs.1, occurs.2, ?_, ?_, fun _ _ => connects⟩
  · intro c found'
    rw [found] at found'
    exact Option.some.inj found' ▸ rfl
  · simp [found]

/-- What an instantiation reads and writes counts as part of one of its associations. -/
theorem counts_of_mem_instance (formed : s.tree.WellFormed) {i : Instantiation}
    (known : s.tree.construct? y = some (.instantiation i))
    (member : id ∈ s.tree.instanceWrites i (s.targetPorts y) ++ s.tree.instanceReads i (s.targetPorts y)) :
    ∃ owner, s.tree.Inside y owner ∧ s.Counts owner id := by
  simp only [formed.instanceWrites_eq, formed.instanceReads_eq, List.mem_append, List.mem_flatMap] at member
  rcases member with ⟨⟨x, position⟩, listed, write⟩ | ⟨x, listed, read⟩ | ⟨⟨x, position⟩, listed, read⟩
  · have at_ := List.mem_zipIdx_iff_getElem?.mp listed
    have listed := List.mem_of_getElem? at_
    refine ⟨x, counts_of_association formed known (.inr rfl) listed ?_
      (.inr ((formed.writesFor_sublist known listed).subset write))⟩
    exact ⟨y, i, known, .inr ⟨position, at_, Mapping.mem_counted.mpr (.inl write)⟩⟩
  · exact ⟨x, counts_of_association formed known (.inl rfl) listed ⟨y, i, known, .inl ⟨listed, read⟩⟩
      (.inl ((formed.ifInput_sublist known listed).subset read))⟩
  · have at_ := List.mem_zipIdx_iff_getElem?.mp listed
    have listed := List.mem_of_getElem? at_
    refine ⟨x, counts_of_association formed known (.inr rfl) listed ?_
      (.inl ((formed.readsFor_sublist known listed).subset read))⟩
    exact ⟨y, i, known, .inr ⟨position, at_, Mapping.mem_counted.mpr (.inr read)⟩⟩

/-- What is examined in an item counts, and it stands inside that item. -/
theorem counts_of_mem_occurrencesIn (formed : s.tree.WellFormed) (member : id ∈ s.occurrencesIn y) :
    ∃ owner, s.tree.Inside y owner ∧ s.Counts owner id := by
  cases known : s.tree.construct? y with
  | none => simp [occurrencesIn, known] at member
  | some c =>
    rw [occurrencesIn, known] at member
    cases c
    case process p =>
      have process := role?_of_construct? known
      simp only [List.mem_append, List.mem_flatMap] at member
      rcases member with (⟨x, nested, write⟩ | read) | ⟨x, nested, read⟩
      · obtain ⟨⟨role, among, plays⟩, inside⟩ := formed.mem_nested process x nested
        rw [ownWrites_eq plays among] at write
        obtain ⟨c, found, rfl⟩ := Option.map_eq_some_iff.mp plays
        rw [membersOf_of_construct? found] at write
        obtain ⟨plain, unmapped⟩ := Construct.plain_of_statementRoles among
        refine ⟨x, inside, counts_of_mem formed found plain ?_ unmapped (.inr rfl) write⟩
        rintro l rfl
        simp [Construct.members] at write
      · exact ⟨y, .self, counts_of_mem formed known rfl (by simp) (by simp) (.inl rfl) read⟩
      · obtain ⟨⟨role, among, plays⟩, inside⟩ := formed.mem_nested process x nested
        obtain ⟨c, found, rfl⟩ := Option.map_eq_some_iff.mp plays
        have unbounding : ∀ l, c ≠ .loop l := by
          rintro l rfl
          simp [ownReads_loop found] at read
        rw [ownReads_eq plays among fun l same => unbounding l (Option.some.inj (found.symm.trans same)),
          membersOf_of_construct? found] at read
        obtain ⟨plain, unmapped⟩ := Construct.plain_of_statementRoles among
        exact ⟨x, inside, counts_of_mem formed found plain unbounding unmapped (.inl rfl) read⟩
    case assignment statement =>
      rcases List.mem_append.mp member with write | read
      · exact ⟨y, .self, counts_of_mem formed known rfl (by simp) (by simp) (.inr rfl) write⟩
      · exact ⟨y, .self, counts_of_mem formed known rfl (by simp) (by simp) (.inl rfl) read⟩
    case instantiation i => exact counts_of_mem_instance formed known member
    case generate g =>
      exact ⟨y, .self, counts_of_mem formed known rfl (by simp) (by simp) (.inl rfl) member⟩
    all_goals simp at member

theorem below_of_below (architecture : s.tree.role? a = some .architecture)
    (below : s.tree.Below a x) (parent : s.tree.parent? x = some y) (plays : s.tree.role? y = some role)
    (other : role ≠ .architecture) : s.tree.Below a y := by
  rcases below.atOrBelow_parent parent with rfl | above
  · rw [architecture] at plays
    exact absurd (Option.some.inj plays).symm other
  · exact above

/-- The occurrences of a reached statement are examined in the item that it belongs to. -/
theorem exists_item_of_statement (formed : s.tree.WellFormed) (architecture : s.tree.role? a = some .architecture)
    (known : s.tree.construct? x = some c) (among : c.role ∈ statementRoles) (unbounding : ∀ l, c ≠ .loop l)
    (reached : s.tree.Reached a x) (member : id ∈ c.members .write ++ c.members .read) :
    ∃ y ∈ s.tree.items a, id ∈ s.occurrencesIn y := by
  have plays := role?_of_construct? known
  rcases reached with item | ⟨y, item, process, nested⟩
  · have isItem := (formed.exists_unit_of_item item plays).1
    have isStatement : c.role = .statement := by
      simp only [itemRoles, statementRoles, List.mem_cons, List.not_mem_nil, or_false] at isItem among
      rcases among with same | same | same <;> simp [same] at isItem ⊢
    obtain ⟨statement, found⟩ := formed.assignment_of_item architecture item (isStatement ▸ plays)
    rw [known] at found
    obtain rfl := Option.some.inj found
    exact ⟨x, item, by rw [occurrencesIn, known]; exact member⟩
  · obtain ⟨c', found, same⟩ := Option.map_eq_some_iff.mp process
    cases c' <;> simp only [Construct.role, reduceCtorEq] at same
    refine ⟨y, item, ?_⟩
    rw [occurrencesIn, found]
    rcases List.mem_append.mp member with write | read
    · rw [← membersOf_of_construct? known, ← ownWrites_eq plays among] at write
      exact List.mem_append_left _ (List.mem_append_left _ (List.mem_flatMap.mpr ⟨x, nested, write⟩))
    · rw [← membersOf_of_construct? known, ← ownReads_eq plays among
        fun l same => unbounding l (Option.some.inj (known.symm.trans same))] at read
      exact List.mem_append_right _ (List.mem_flatMap.mpr ⟨x, nested, read⟩)

/-- What an association of an instantiation below an architecture selects is examined in the instantiation. -/
theorem exists_item_of_association (formed : s.tree.WellFormed) (architecture : s.tree.role? a = some .architecture)
    (below : s.tree.Below a x) (connects : s.Connects x id) : ∃ y ∈ s.tree.items a, id ∈ s.occurrencesIn y := by
  obtain ⟨y, i, known, selected⟩ := connects
  have plays := role?_of_construct? known
  have item {map : Option NodeId} (either : map = i.genericMap ∨ map = i.portMap)
      (listed : x ∈ s.tree.associations map) : y ∈ s.tree.items a := by
    obtain ⟨middle, _, child, mapped, _⟩ := formed.mem_associations known either listed
    have above := below_of_below architecture below child.1 mapped.2 (by simp)
    have above := below_of_below architecture above mapped.1 plays (by simp [Construct.role])
    refine formed.mem_items_of_reached (formed.reached_of_below architecture above plays ?_) plays ?_ <;>
      simp [Construct.role, itemRoles, statementRoles]
  refine ⟨y, ?_, ?_⟩
  · rcases selected with ⟨listed, _⟩ | ⟨position, at_, _⟩
    · exact item (.inl rfl) listed
    · exact item (.inr rfl) (List.mem_of_getElem? at_)
  · rw [occurrencesIn, known]
    simp only [formed.instanceWrites_eq, formed.instanceReads_eq, List.mem_append, List.mem_flatMap]
    rcases selected with ⟨listed, read⟩ | ⟨position, at_, counted⟩
    · exact .inr (.inl ⟨x, listed, read⟩)
    · have listed : (x, position) ∈ (s.tree.associations i.portMap).zipIdx := List.mem_zipIdx_iff_getElem?.mpr at_
      rcases Mapping.mem_counted.mp counted with write | read
      · exact .inl ⟨(x, position), listed, write⟩
      · exact .inr (.inr ⟨(x, position), listed, read⟩)

/-- What counts below an architecture is examined in one of its items. -/
theorem exists_item (formed : s.tree.WellFormed) (architecture : s.tree.role? a = some .architecture)
    (below : s.tree.Below a id) (counts : s.Counts owner id) : ∃ y ∈ s.tree.items a, id ∈ s.occurrencesIn y := by
  obtain ⟨p, c, parent, known, positive, _⟩ := formed.exists_parent_of_below architecture below
  obtain rfl := Option.some.inj (parent.symm.trans counts.parent)
  have plays := role?_of_construct? known
  have member : id ∈ c.members .write ++ c.members .read := by
    have plain := counts.plain c known
    rcases counts.role with read | write
    · exact List.mem_append_right _
        (formed.mem_members_of_plain known positive plain listed_read ⟨parent, read⟩)
    · exact List.mem_append_left _
        (formed.mem_members_of_plain known positive plain listed_write ⟨parent, write⟩)
  have reached (among : c.role ∈ itemRoles ++ statementRoles) : s.tree.Reached a p := by
    refine formed.reached_of_below architecture (below_of_below architecture below parent plays ?_) plays among
    intro same
    simp [same, itemRoles, statementRoles] at among
  cases c
  case process =>
    refine ⟨p, formed.mem_items_of_reached (reached ?_) plays ?_, ?_⟩
    · simp [Construct.role, itemRoles, statementRoles]
    · simp [Construct.role, statementRoles]
    · rw [occurrencesIn, known]
      simp only [Construct.members, List.nil_append] at member
      exact List.mem_append_left _ (List.mem_append_right _ member)
  case generate =>
    refine ⟨p, formed.mem_items_of_reached (reached ?_) plays ?_, ?_⟩
    · simp [Construct.role, itemRoles, statementRoles]
    · simp [Construct.role, statementRoles]
    · rw [occurrencesIn, known]
      simpa [Construct.members, Body.members] using member
  case assignment | ifClause | caseStatement | caseArm =>
    refine exists_item_of_statement formed architecture known ?_ (by simp) (reached ?_) member <;>
      simp [Construct.role, itemRoles, statementRoles]
  case loop l => exact absurd known (counts.unbounding l)
  case mapping m =>
    have above := below_of_below architecture below parent plays (by simp [Construct.role])
    exact exists_item_of_association formed architecture above (counts.connects m known)
  all_goals simp [Construct.members, Body.members] at member

theorem process_nodup (formed : s.tree.WellFormed) {p : Process}
    (known : s.tree.construct? y = some (.process p)) :
    ((s.tree.nested y).flatMap s.tree.ownWrites ++ p.sensitivity ++
      (s.tree.nested y).flatMap s.tree.ownReads).Nodup := by
  have process := role?_of_construct? known
  have distinct : ((s.tree.nested y).map fun x => x).Nodup := by
    rw [List.map_id']
    exact formed.nested_nodup
  have sensitivity : s.tree.membersOf .read y = p.sensitivity := membersOf_of_construct? known
  have writes : ∀ x ∈ s.tree.nested y, (s.tree.ownWrites x).Sublist (s.tree.membersOf .write x) := by
    intro x nested
    obtain ⟨⟨role, among, plays⟩, _⟩ := formed.mem_nested process x nested
    rw [ownWrites_eq plays among]
  have reads : ∀ x ∈ s.tree.nested y, (s.tree.ownReads x).Sublist (s.tree.membersOf .read x) := by
    intro x nested
    obtain ⟨⟨role, among, plays⟩, _⟩ := formed.mem_nested process x nested
    exact ownReads_sublist plays among
  rw [← sensitivity]
  refine ((formed.nodup_flatMap listed_write distinct writes).append (formed.membersOf_nodup listed_read y) ?_).append
    (formed.nodup_flatMap listed_read distinct reads) ?_
  · intro id write read
    obtain ⟨x, _, write⟩ := formed.child_of_mem_flatMap listed_write writes write
    exact absurd (write.2.symm.trans (formed.child_of_mem listed_read read).2) (by simp)
  · intro id left right
    obtain ⟨x, nested, read⟩ := formed.child_of_mem_flatMap listed_read reads right
    rcases List.mem_append.mp left with write | own
    · obtain ⟨x, _, write⟩ := formed.child_of_mem_flatMap listed_write writes write
      exact absurd (write.2.symm.trans read.2) (by simp)
    · -- A process is no statement, so nothing in its sensitivity list is read by a statement inside it.
      obtain rfl := Option.some.inj ((formed.child_of_mem listed_read own).1.symm.trans read.1)
      obtain ⟨⟨role, among, plays⟩, _⟩ := formed.mem_nested process y nested
      rw [process] at plays
      simp [← Option.some.inj plays, Construct.role, statementRoles] at among

theorem instance_nodup (formed : s.tree.WellFormed) {i : Instantiation} {ports : UnitPorts}
    (known : s.tree.construct? y = some (.instantiation i)) :
    (s.tree.instanceWrites i ports ++ s.tree.instanceReads i ports).Nodup := by
  have generics : ∀ x ∈ s.tree.associations i.genericMap,
      (s.tree.mappingAt x).ifInput.Sublist (s.tree.membersOf .read x) := fun x => formed.ifInput_sublist known
  have reads : ∀ at_ ∈ (s.tree.associations i.portMap).zipIdx,
      ((s.tree.mappingAt at_.1).readsFor (s.tree.formalDirection? ports (s.tree.mappingAt at_.1) at_.2)).Sublist
        (s.tree.membersOf .read at_.1) := fun at_ listed =>
    formed.readsFor_sublist known (List.fst_mem_of_mem_zipIdx listed)
  have writes : ∀ at_ ∈ (s.tree.associations i.portMap).zipIdx,
      ((s.tree.mappingAt at_.1).writesFor (s.tree.formalDirection? ports (s.tree.mappingAt at_.1) at_.2)).Sublist
        (s.tree.membersOf .write at_.1) := fun at_ listed =>
    formed.writesFor_sublist known (List.fst_mem_of_mem_zipIdx listed)
  have distinct : ((s.tree.associations i.portMap).zipIdx.map Prod.fst).Nodup := by
    rw [List.zipIdx_map_fst]
    exact formed.associations_nodup i.portMap
  have distinct' : ((s.tree.associations i.genericMap).map fun x => x).Nodup := by
    rw [List.map_id']
    exact formed.associations_nodup i.genericMap
  rw [formed.instanceWrites_eq, formed.instanceReads_eq]
  refine (formed.nodup_flatMap listed_write distinct writes).append
    ((formed.nodup_flatMap listed_read distinct' generics).append (formed.nodup_flatMap listed_read distinct reads)
      ?_) ?_
  · intro id left right
    obtain ⟨x, listed, one⟩ := formed.child_of_mem_flatMap listed_read generics left
    obtain ⟨at_, listed', two⟩ := formed.child_of_mem_flatMap listed_read reads right
    obtain rfl := Option.some.inj (one.1.symm.trans two.1)
    exact formed.associations_disjoint known listed (List.fst_mem_of_mem_zipIdx listed')
  · intro id left right
    obtain ⟨_, _, write⟩ := formed.child_of_mem_flatMap listed_write writes left
    rcases List.mem_append.mp right with read | read
    · obtain ⟨_, _, read⟩ := formed.child_of_mem_flatMap listed_read generics read
      exact absurd (write.2.symm.trans read.2) (by simp)
    · obtain ⟨_, _, read⟩ := formed.child_of_mem_flatMap listed_read reads read
      exact absurd (write.2.symm.trans read.2) (by simp)

theorem occurrencesIn_nodup (formed : s.tree.WellFormed) : (s.occurrencesIn y).Nodup := by
  cases known : s.tree.construct? y with
  | none => simp [occurrencesIn, known]
  | some c =>
    rw [occurrencesIn, known]
    cases c
    case process p => exact process_nodup formed known
    case instantiation i => exact instance_nodup formed known
    case assignment statement =>
      have writes : s.tree.membersOf .write y = statement.writes := membersOf_of_construct? known
      have reads : s.tree.membersOf .read y = statement.reads := membersOf_of_construct? known
      simp only [← writes, ← reads]
      refine (formed.membersOf_nodup listed_write y).append (formed.membersOf_nodup listed_read y) ?_
      intro id write read
      have one := (formed.child_of_mem listed_write write).2
      have two := (formed.child_of_mem listed_read read).2
      exact absurd (one.symm.trans two) (by simp)
    case generate g =>
      have nodup := formed.membersOf_nodup listed_read y
      rwa [membersOf_of_construct? known] at nodup
    all_goals exact .nil

end Lint.Subject
end DesignLint
