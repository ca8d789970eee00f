import Mathlib.Logic.Relation
import Mathlib.Tactic.Tauto
import DesignLint.Tree.Fields
import DesignLint.Tree.View
import DesignLint.Proofs.Tree.Traversal

/-! Fields and parents. A node is held by another if one of its fields names it. In a tree that the parser leaves,
nodes are held by their parents, apart from use clauses, which the file holds, and from initial values, which all
objects of a declaration hold. What no chain of fields leads to was declared in a process that has no field for it. A typed
view answers exactly for the construct that it is named after. -/
namespace DesignLint

/-- The nodes that the value of a field refers to. -/
def FieldValue.ids : FieldValue → List NodeId
  | .child id => id.toList
  | .children ids => ids
  | .statements ids => ids.reduceOption
  | _ => []

/-- A field of a construct holds its initial value, or some of what it lists under a role. -/
theorem Construct.exists_sublist_members (c : Construct) :
    ∀ field ∈ c.fieldList, field.2.ids = c.initial?.getD [] ∨ ∃ role, field.2.ids.Sublist (c.members role) := by
  have text {value : FieldValue} {p : Prop} (bare : value.ids = []) : p ∨ ∃ role, value.ids.Sublist (c.members role) :=
    .inr ⟨.file, bare ▸ List.nil_sublist _⟩
  have under {value : FieldValue} {p : Prop} (role : Role) (all : value.ids = c.members role) :
      p ∨ ∃ role, value.ids.Sublist (c.members role) := .inr ⟨role, all ▸ .refl _⟩
  have body {b : Body} {p : String × FieldValue → Prop} (all : ∀ role, role ≠ .read → b.members role = c.members role) :
      ∀ field ∈ b.fieldList, p field ∨ ∃ role, field.2.ids.Sublist (c.members role) := by
    simp only [Body.fieldList, List.forall_mem_cons, List.not_mem_nil, false_implies, implies_true, and_true]
    exact ⟨under .signal (all .signal nofun), under .constant (all .constant nofun),
      under .typeDecl (all .typeDecl nofun), under .function (all .function nofun),
      under .component (all .component nofun), under .process (all .process nofun),
      under .instantiation (all .instantiation nofun), under .generate (all .generate nofun),
      under .statement (all .statement nofun)⟩
  cases c
  all_goals simp only [fieldList, Interface.fieldList, Declared.fieldList, List.forall_mem_append, List.forall_mem_cons,
    List.not_mem_nil, false_implies, implies_true, and_true]
  case useClause | function => exact ⟨text rfl, text rfl, text rfl⟩
  case recordField | read => exact ⟨text rfl, text rfl⟩
  case state | write => exact text rfl
  case entity | component => exact ⟨text rfl, under .generic rfl, under .port rfl⟩
  case architecture => exact ⟨⟨text rfl, text rfl⟩, body fun _ _ => rfl⟩
  case generate =>
    exact ⟨⟨text rfl, text rfl, text rfl, .inr ⟨.read, List.sublist_append_left ..⟩,
      .inr ⟨.read, List.sublist_append_right ..⟩⟩, body fun role other => by cases role <;> first | rfl | contradiction⟩
  case package =>
    exact ⟨text rfl, under .constant rfl, under .signal rfl, under .typeDecl rfl, under .function rfl,
      under .component rfl⟩
  case signal | localVariable | constant | generic => exact ⟨text rfl, text rfl, .inl rfl⟩
  case port => exact ⟨⟨text rfl, text rfl, .inl rfl⟩, text rfl⟩
  case typeDecl => exact ⟨text rfl, text rfl, under .state rfl, under .field rfl⟩
  case instantiation =>
    exact ⟨text rfl, text rfl, text rfl, text rfl, .inr ⟨.map, List.sublist_append_left ..⟩,
      .inr ⟨.map, List.sublist_append_right ..⟩⟩
  case map => exact under .mapping rfl
  case mapping =>
    exact ⟨.inr ⟨.read, (List.sublist_append_left ..).trans (List.sublist_append_left ..)⟩,
      .inr ⟨.read, (List.sublist_append_right ..).trans (List.sublist_append_left ..)⟩,
      .inr ⟨.read, List.sublist_append_right ..⟩, under .write rfl⟩
  case assignment => exact ⟨text rfl, text rfl, under .write rfl, under .read rfl⟩
  case ifStatement => exact ⟨text rfl, under .clause rfl, under .statement rfl⟩
  case ifClause => exact ⟨under .read rfl, text rfl, under .statement rfl⟩
  case caseStatement => exact ⟨text rfl, under .read rfl, under .arm rfl⟩
  case caseArm => exact ⟨under .read rfl, under .statement rfl⟩
  case loop => exact ⟨text rfl, text rfl, under .read rfl, under .statement rfl⟩
  case process =>
    exact ⟨text rfl, under .read rfl, under .localVariable rfl, under .constant rfl, under .typeDecl rfl,
      under .function rfl, under .statement rfl⟩

/-- A construct lists what it has fields for. -/
theorem Construct.lists_of_mem_members {c : Construct} {role : Role} {id : NodeId} (member : id ∈ c.members role) :
    c.lists role = true := by
  by_contra unlisted
  obtain rfl | ⟨process, declared⟩ := of_not_lists unlisted
  · cases c <;> cases member
  · cases c <;> cases process
    rcases declared with rfl | rfl <;> cases member

/-- The roles that the parts of a construct can play. -/
def Role.parts : Role → List Role
  | file => [use, entity, architecture, package]
  | entity | component => [generic, port]
  | architecture =>
    [use, signal, constant, typeDecl, function, component, process, instantiation, generate, statement]
  | generate =>
    [use, read, signal, constant, typeDecl, function, component, process, instantiation, generate, statement]
  | package => [use, signal, constant, typeDecl, function, component]
  | process => [use, read, localVariable, signal, constant, typeDecl, function, component, statement]
  | signal | port | localVariable | constant | generic => [read]
  | typeDecl => [state, field]
  | instantiation => [map]
  | map => [mapping]
  | mapping => [read, write]
  | statement => [read, write, clause, arm, statement]
  | clause | arm => [read, statement]
  | use | state | field | function | read | write => []

/-- What a body lists can be in an architecture and in a generate statement. -/
theorem Body.mem_parts_of_members {b : Body} {role : Role} {id : NodeId} (member : id ∈ b.members role) :
    role ∈ Role.architecture.parts ∧ role ∈ Role.generate.parts := by
  unfold members at member
  split at member <;> first | decide | cases member

theorem Construct.statement_mem_parts {c : Construct} {id : NodeId} (member : id ∈ c.statements.reduceOption) :
    Role.statement ∈ c.role.parts := by
  unfold statements at member
  split at member <;> first | exact List.elem_iff.mp rfl | cases member

theorem Construct.mem_parts_of_members {c : Construct} {role : Role} {id : NodeId} (member : id ∈ c.members role) :
    role ∈ c.role.parts := by
  unfold members at member
  split at member
  all_goals first
    | exact List.elem_iff.mp rfl
    | exact (Body.mem_parts_of_members member).1
    | exact (Body.mem_parts_of_members member).2
    | exact statement_mem_parts member
    | cases member

/-- What the fields of a construct hold is listed under a role or is an initial value. -/
theorem Construct.mem_fieldList_iff (c : Construct) (id : NodeId) :
    (∃ field ∈ c.fieldList, id ∈ field.2.ids) ↔ id ∈ c.initial?.getD [] ∨ ∃ role, id ∈ c.members role := by
  have held : id ∈ c.fieldList.flatMap (fun field => field.2.ids) ↔
      id ∈ c.initial?.getD [] ∨ id ∈ c.role.parts.flatMap c.members := by
    cases c <;> simp [fieldList, Interface.fieldList, Declared.fieldList, Body.fieldList, FieldValue.ids, initial?,
      Construct.role, Role.parts, members, statements, Body.members]
    case package => exact or_left_comm
    case assignment => exact or_comm
  rw [← List.mem_flatMap, held, List.mem_flatMap]
  exact or_congr_right (exists_congr fun role => and_iff_right_of_imp mem_parts_of_members)

/-- Whether a construct of this role can stand in the declaration of a signal or of a component. -/
def Role.isOutside : Role → Bool
  | signal | component | generic | port | read => true
  | _ => false

theorem Role.isOutside_of_mem_parts {role part : Role} (outside : role.isOutside = true) (member : part ∈ role.parts) :
    part.isOutside = true := by
  revert part
  cases role <;> cases outside <;> decide

theorem Role.isRegion_of_isOutside {role : Role} (outside : role.isOutside = true) : role.isRegion = false := by
  cases role <;> cases outside <;> rfl

namespace Tree

/-- A field of the holder names the node. -/
def HeldBy (t : Tree) (holder id : Nat) : Prop := ∃ field ∈ t.fieldsOf holder, id ∈ field.2.ids

/-- A chain of fields leads from the file to the node. -/
def Attached (t : Tree) (id : Nat) : Prop := Relation.ReflTransGen t.HeldBy 0 id

/-- A node for which the process around it has no field: a signal or a component. -/
def Dropped (t : Tree) (id : Nat) : Prop :=
  ∃ process : Nat, t.parent? id = some process ∧ t.role? process = some .process ∧
    (t.role? id = some .signal ∨ t.role? id = some .component)

variable {t : Tree} {id holder parent above : Nat} {c : Construct} {role : Role}

theorem heldBy_iff (known : t.construct? holder = some c) (ne : c ≠ .file) :
    t.HeldBy holder id ↔ id ∈ c.initial?.getD [] ∨ ∃ role, id ∈ c.members role := by
  rw [← c.mem_fieldList_iff, HeldBy, fieldsOf, known]
  cases c <;> first | contradiction | rfl

theorem heldBy_file_iff (known : t.construct? holder = some .file) :
    t.HeldBy holder id ↔ id ∈ t.uses ∨ ∃ role, (role, id) ∈ t.unitParts := by
  simp [HeldBy, fieldsOf, known, fileFields, FieldValue.ids, unitParts, Part.all, exists_or]

/-- What the parser leaves besides a well-formed tree: the file holds its units and all use clauses, which stand in
regions, and the objects of a declaration share their initial value. -/
structure Arranged (t : Tree) : Prop extends t.WellFormed where
  units : ∀ part, part ∈ t.unitParts ↔ part ∈ t.partsOf 0 ∧ part.1 ≠ .use
  uses : ∀ id : Nat, id ∈ t.uses ↔ t.role? id = some .use
  useParent : ∀ id : Nat, t.role? id = some .use → ∃ p, t.parent? id = some p ∧ t.IsRegion p
  shares : ∀ id : Nat, 0 < id → id < t.nodes.size → t.Shares id

/-- An object and a read in the initial value of its declaration, which stands below the first object of it. -/
structure SharesValue (t : Tree) (first object read : Nat) : Prop where
  value : ∃ c initial, t.construct? object = some c ∧ c.initial? = some initial ∧ read ∈ initial
  together : t.Together first object
  parent : t.parent? read = some first

theorem exists_construct?_of_heldBy (held : t.HeldBy holder id) : ∃ c, t.construct? holder = some c := by
  obtain ⟨field, member, _⟩ := held
  rw [fieldsOf] at member
  cases known : t.construct? holder with
  | none => simp [known] at member
  | some c => exact ⟨c, rfl⟩

theorem AtOrBelow.below_child {top : Nat} (inside : t.AtOrBelow top above) (parent : t.parent? id = some above) :
    t.Below top id := by
  rcases inside with rfl | inside
  · exact .child parent
  · exact .step parent inside

/-- Objects of one declaration play the same role below the same parent. -/
theorem Together.same {first : Nat} (together : t.Together first id) :
    t.parent? first = t.parent? id ∧ t.role? first = t.role? id := by
  rcases Nat.eq_or_lt_of_le together.le with rfl | lt
  · exact ⟨rfl, rfl⟩
  · obtain ⟨name, renamed⟩ := together.renamed first (Nat.le_refl _) lt
    refine ⟨together.parent_eq first (Nat.le_refl _) lt, ?_⟩
    rw [role?, renamed, Option.map_map, role?]
    congr 1
    funext c
    exact c.role_rename name

/-- What is dropped is dropped with its whole declaration. -/
theorem Dropped.of_together {first : Nat} (dropped : t.Dropped first) (together : t.Together first id) :
    t.Dropped id := by
  obtain ⟨process, parent, plays, declared⟩ := dropped
  obtain ⟨sameParent, sameRole⟩ := together.same
  exact ⟨process, sameParent ▸ parent, plays, sameRole ▸ declared⟩

namespace Arranged

/-- Only the first node is a file. -/
theorem role?_ne_file (arranged : t.Arranged) (parent : t.parent? id = some above) : t.role? id ≠ some .file := by
  intro isFile
  have part : (Role.file, id) ∈ t.partsOf above := mem_partsOf.mpr ⟨parent, isFile⟩
  by_cases top : above = 0
  · subst top
    have unit := (arranged.units _).mpr ⟨part, Role.noConfusion⟩
    simp [unitParts, Part.all] at unit
  · have lt := Nat.lt_trans (arranged.rooted.lt_of_parent? parent) (lt_size_of_parent? parent)
    obtain ⟨c, known⟩ := exists_construct? lt
    cases plain : c.initial? with
    | some initial =>
      have read := arranged.role?_of_declared known plain parent
      rw [isFile] at read
      contradiction
    | none =>
      have holds := (arranged.holds_of_pos known (Nat.pos_of_ne_zero top) plain).1
      have picked := Part.mem_pick.mpr part
      rw [holds.lists .file (by cases c <;> rfl)] at picked
      cases c <;> simp [Construct.members, Body.members] at picked

theorem eq_zero_iff (arranged : t.Arranged) (known : t.construct? id = some c) : id = 0 ↔ c = .file := by
  constructor
  · rintro rfl
    exact Option.some.inj (known.symm.trans arranged.file)
  · rintro rfl
    by_contra top
    obtain ⟨above, parent, _⟩ :=
      arranged.rooted.parent_lt id (Nat.pos_of_ne_zero top) (lt_size_of_construct? known)
    exact arranged.role?_ne_file parent (role?_of_construct? known)

/-- What a construct lists under a role is a child of its node that plays the role. -/
theorem child_of_members (arranged : t.Arranged) (known : t.construct? id = some c) {member : Nat}
    (listed : member ∈ c.members role) : t.Child role id member := by
  have plain : c.initial? = none := by
    cases plain : c.initial? with
    | none => rfl
    | some initial => simp [Construct.members_of_initial? plain] at listed
  have ne : c ≠ .file := by
    rintro rfl
    cases role <;> simp [Construct.members, Construct.statements] at listed
  exact (arranged.mem_members_iff known ne plain (Construct.lists_of_mem_members listed)).mp listed

theorem role?_ne_of_members (arranged : t.Arranged) (known : t.construct? id = some c) (role : Role) {other : Role}
    (ne : role ≠ other) {member : Nat} (listed : member ∈ c.members role) : t.role? member ≠ some other := by
  rw [(arranged.child_of_members known listed).2]
  exact fun same => ne (Option.some.inj same)

/-- Every node but a use clause and what a process drops is held by its parent. -/
theorem heldBy_of_parent (arranged : t.Arranged) (parent : t.parent? id = some above)
    (other : t.role? id ≠ some .use) (kept : ¬t.Dropped id) : t.HeldBy above id := by
  obtain ⟨role, plays⟩ : ∃ role, t.role? id = some role := by
    obtain ⟨c, known⟩ := exists_construct? (lt_size_of_parent? parent)
    exact ⟨_, role?_of_construct? known⟩
  have part : (role, id) ∈ t.partsOf above := mem_partsOf.mpr ⟨parent, plays⟩
  have notUse : role ≠ .use := by
    rintro rfl
    exact other plays
  have lt := Nat.lt_trans (arranged.rooted.lt_of_parent? parent) (lt_size_of_parent? parent)
  obtain ⟨c, known⟩ := exists_construct? lt
  by_cases top : above = 0
  · subst top
    rw [heldBy_file_iff arranged.file]
    exact .inr ⟨role, (arranged.units _).mpr ⟨part, notUse⟩⟩
  rw [heldBy_iff known fun isFile => top ((arranged.eq_zero_iff known).mpr isFile)]
  obtain ⟨c', known', fields⟩ := arranged.drawn above (Nat.pos_of_ne_zero top) lt
  rw [known] at known'
  cases known'
  split at fields
  · rename_i initial declared
    obtain ⟨first, _, _, reads, isFirst⟩ := fields
    rcases isFirst with rfl | none_
    · rw [reads, Part.all, List.mem_map] at part
      obtain ⟨read, member, same⟩ := part
      cases same
      exact .inl (by rw [declared]; exact member)
    · simp [none_] at part
  · have listed : c.lists role = true := by
      by_contra unlisted
      obtain isUse | ⟨process, dropped⟩ := Construct.of_not_lists unlisted
      · exact notUse isUse
      · refine kept ⟨above, parent, (role?_of_construct? known).trans (congrArg some process), ?_⟩
        rw [plays]
        exact dropped.imp (congrArg some) (congrArg some)
    exact .inr ⟨role, fields.1.lists role listed ▸ Part.mem_pick.mpr part⟩

/-- Initial values are reads. -/
theorem role?_of_sharesValue (arranged : t.Arranged) {first object : Nat} (shares : t.SharesValue first object id) :
    t.role? id = some .read := by
  obtain ⟨⟨c, initial, known, declared, _⟩, together, parent⟩ := shares
  rcases Nat.eq_or_lt_of_le together.le with rfl | lt
  · exact arranged.role?_of_declared known declared parent
  · obtain ⟨name, renamed⟩ := together.renamed first (Nat.le_refl _) lt
    rw [known, Option.map_some] at renamed
    exact arranged.role?_of_declared renamed (by rwa [Construct.initial?_rename]) parent

/-- Who holds a node: the file in the case of a use clause, and else its parent or an object of the declaration whose
initial value it is. -/
theorem heldBy_cases (arranged : t.Arranged) (held : t.HeldBy holder id) :
    (t.role? id = some .use ∧ holder = 0) ∨
      (t.role? id ≠ some .use ∧ (t.parent? id = some holder ∨ ∃ first, t.SharesValue first holder id)) := by
  obtain ⟨c, known⟩ := exists_construct?_of_heldBy held
  by_cases isFile : c = .file
  · subst isFile
    obtain rfl := (arranged.eq_zero_iff known).mpr rfl
    rcases (heldBy_file_iff known).mp held with use | ⟨role, unit⟩
    · exact .inl ⟨(arranged.uses id).mp use, rfl⟩
    · obtain ⟨part, other⟩ := (arranged.units _).mp unit
      obtain ⟨parent, plays⟩ := mem_partsOf.mp part
      exact .inr ⟨fun isUse => other (Option.some.inj (plays.symm.trans isUse)), .inl parent⟩
  · rcases (heldBy_iff known isFile).mp held with value | ⟨role, member⟩
    · cases declared : c.initial? with
      | none => simp [declared] at value
      | some initial =>
        rw [declared, Option.getD_some] at value
        have positive := arranged.pos_of_ne_file known isFile
        obtain ⟨first, together, reads⟩ :=
          arranged.shares holder positive (lt_size_of_construct? known) c initial known declared
        have shares : t.SharesValue first holder id :=
          ⟨⟨c, initial, known, declared, value⟩, together, (reads id value).2⟩
        exact .inr ⟨by simp [arranged.role?_of_sharesValue shares], .inr ⟨first, shares⟩⟩
    · obtain ⟨parent, plays⟩ := arranged.child_of_members known member
      refine .inr ⟨fun isUse => ?_, .inl parent⟩
      cases plays.symm.trans isUse
      have listed := Construct.lists_of_mem_members member
      simp [Construct.lists] at listed

/-- A process holds nothing that it drops. -/
theorem not_heldBy_of_dropped (arranged : t.Arranged) (dropped : t.Dropped id) (parent : t.parent? id = some above) :
    ¬t.HeldBy above id := by
  obtain ⟨process, parent', plays, declared⟩ := dropped
  rw [parent] at parent'
  cases parent'
  intro held
  obtain ⟨c, known⟩ := exists_construct?_of_heldBy held
  rw [role?_of_construct? known] at plays
  cases c with
  | process p =>
    rcases (heldBy_iff known Construct.noConfusion).mp held with value | ⟨role, member⟩
    · simp [Construct.initial?] at value
    · have listed := Construct.lists_of_mem_members member
      have played := (arranged.child_of_members known member).2
      rw [played] at declared
      rcases declared with same | same <;> cases same <;> simp [Construct.lists] at listed
  | _ => simp [Construct.role] at plays

/-- The constructs in the declaration of a signal or of a component. -/
theorem isOutside_of_atOrBelow (arranged : t.Arranged) {top : Nat}
    (declared : t.role? top = some .signal ∨ t.role? top = some .component) (below : t.AtOrBelow top id) :
    (t.role? id).any Role.isOutside = true := by
  have first : (t.role? top).any Role.isOutside = true := by rcases declared with plays | plays <;> rw [plays] <;> rfl
  have step (id above : Nat) (parent : t.parent? id = some above) (outside : (t.role? above).any Role.isOutside = true) :
      (t.role? id).any Role.isOutside = true := by
    have lt := Nat.lt_trans (arranged.rooted.lt_of_parent? parent) (lt_size_of_parent? parent)
    obtain ⟨c, known⟩ := exists_construct? lt
    rw [role?_of_construct? known, Option.any_some] at outside
    by_cases isUse : t.role? id = some .use
    · -- Use clauses stand in regions, and none of these is one.
      obtain ⟨above', parent', region⟩ := arranged.useParent id isUse
      rw [parent] at parent'
      cases parent'
      rw [IsRegion, known] at region
      exact absurd (Option.some.inj region) (Bool.eq_false_iff.mp (Role.isRegion_of_isOutside outside))
    have kept : ¬t.Dropped id := by
      rintro ⟨process, parent', plays, _⟩
      rw [parent] at parent'
      cases parent'
      rw [role?_of_construct? known] at plays
      rw [Option.some.inj plays] at outside
      contradiction
    have isFile : c ≠ .file := by
      rintro rfl
      contradiction
    obtain value | ⟨role, member⟩ := (heldBy_iff known isFile).mp (arranged.heldBy_of_parent parent isUse kept)
    · cases plain : c.initial? with
      | none => simp [plain] at value
      | some initial => rw [arranged.role?_of_declared known plain parent]; rfl
    · rw [(arranged.child_of_members known member).2, Option.any_some]
      exact Role.isOutside_of_mem_parts outside (Construct.mem_parts_of_members member)
  rcases below with rfl | below
  · exact first
  · induction below with
    | child parent => exact step _ _ parent first
    | step parent _ ih => exact step _ _ parent ih

/-- Whatever stands below a dropped node is reached from it through fields. -/
theorem reached_of_below (arranged : t.Arranged) {top : Nat} (dropped : t.Dropped top) (below : t.AtOrBelow top id) :
    Relation.ReflTransGen t.HeldBy top id := by
  obtain ⟨process, topParent, plays, declared⟩ := dropped
  rcases below with rfl | below
  · exact .refl
  have step (id above : Nat) (parent : t.parent? id = some above) (inside : t.AtOrBelow top above) :
      t.HeldBy above id := by
    have outside := arranged.isOutside_of_atOrBelow declared inside
    refine arranged.heldBy_of_parent parent ?_ ?_
    · intro isUse
      have found := arranged.isOutside_of_atOrBelow declared (.inr (inside.below_child parent))
      rw [isUse] at found
      contradiction
    · rintro ⟨process', parent', plays', _⟩
      rw [parent] at parent'
      cases parent'
      rw [plays'] at outside
      contradiction
  induction below with
  | child parent => exact .single (step _ _ parent (.inl rfl))
  | step parent below ih => exact ih.tail (step _ _ parent (.inr below))

/-- What a process drops, and all that stands below it, is what no chain of fields leads to. -/
theorem not_attached_iff (arranged : t.Arranged) (exists_ : id < t.nodes.size) :
    ¬t.Attached id ↔ ∃ top, t.Dropped top ∧ t.AtOrBelow top id := by
  constructor
  · intro apart
    by_contra kept
    refine apart ?_
    clear apart
    induction id using Nat.strongRecOn with
    | ind id ih =>
      by_cases top : id = 0
      · subst top
        exact .refl
      obtain ⟨above, parent, lt⟩ := arranged.rooted.parent_lt id (Nat.pos_of_ne_zero top) exists_
      by_cases isUse : t.role? id = some .use
      · exact .single ((heldBy_file_iff arranged.file).mpr (.inl ((arranged.uses id).mpr isUse)))
      · refine .tail (ih above lt (Nat.lt_trans lt exists_) ?_) (arranged.heldBy_of_parent parent isUse ?_)
        · rintro ⟨first, dropped, below⟩
          exact kept ⟨first, dropped, .inr (below.below_child parent)⟩
        · intro dropped
          exact kept ⟨id, dropped, .inl rfl⟩
  · rintro ⟨top, dropped, below⟩ attached
    -- No node on a chain of fields from the file stands at or below a dropped one.
    suffices apart : ∀ top, t.Dropped top → ¬t.AtOrBelow top id from apart top dropped below
    clear below dropped exists_
    induction attached with
    | refl =>
      rintro top ⟨process, parent, _⟩ below
      have := arranged.rooted.lt_of_parent? parent
      rcases below with same | below
      · omega
      · have := arranged.rooted.below_lt below
        omega
    | @tail holder id _ held ih =>
      rintro top dropped below
      obtain ⟨process, topParent, plays, declared⟩ := dropped
      rcases arranged.heldBy_cases held with ⟨isUse, _⟩ | ⟨_, parent | shared⟩
      · have outside := arranged.isOutside_of_atOrBelow declared below
        rw [isUse] at outside
        contradiction
      · rcases below with rfl | below
        · exact arranged.not_heldBy_of_dropped ⟨process, topParent, plays, declared⟩ parent held
        · exact ih top ⟨process, topParent, plays, declared⟩ (below.atOrBelow_parent parent)
      · obtain ⟨first, ⟨c, initial, known, value, _⟩, together, parent⟩ := shared
        obtain ⟨sameParent, sameRole⟩ := together.same
        have inside : t.AtOrBelow top first := by
          rcases below with rfl | below
          · rw [topParent] at parent
            cases parent
            rw [plays, role?_of_construct? known] at sameRole
            cases c <;> simp [Construct.initial?, Construct.role] at value sameRole
          · exact below.atOrBelow_parent parent
        rcases inside with rfl | inside
        · exact ih holder (Dropped.of_together ⟨process, topParent, plays, declared⟩ together) (.inl rfl)
        · obtain ⟨above, firstParent⟩ : ∃ above, t.parent? first = some above := by
            cases inside with
            | child found => exact ⟨_, found⟩
            | step found _ => exact ⟨_, found⟩
          refine ih top ⟨process, topParent, plays, declared⟩ (.inr ?_)
          exact (inside.atOrBelow_parent firstParent).below_child (sameParent ▸ firstParent)

end Arranged
end Tree

/-! ### Typed views -/

namespace Construct

variable {c : Construct}

theorem ifStatement?_eq_some_iff {s : IfStatement} : c.ifStatement? = some s ↔ c = ifStatement s := by
  cases c <;> simp [ifStatement?]

theorem ifClause?_eq_some_iff {clause : IfClause} : c.ifClause? = some clause ↔ c = ifClause clause := by
  cases c <;> simp [ifClause?]

theorem assignment?_eq_some_iff {a : Assignment} : c.assignment? = some a ↔ c = assignment a := by
  cases c <;> simp [assignment?]

theorem write?_eq_some_iff {text : Bytes} : c.write? = some text ↔ c = write text := by
  cases c <;> simp [write?]

theorem architecture?_eq_some_iff {a : Architecture} : c.architecture? = some a ↔ c = architecture a := by
  cases c <;> simp [architecture?]

theorem package?_eq_some_iff {p : Package} : c.package? = some p ↔ c = package p := by
  cases c <;> simp [package?]

theorem process?_eq_some_iff {p : Process} : c.process? = some p ↔ c = process p := by
  cases c <;> simp [process?]

theorem typeDecl?_eq_some_iff {d : TypeDecl} : c.typeDecl? = some d ↔ c = typeDecl d := by
  cases c <;> simp [typeDecl?]

theorem mapping?_eq_some_iff {m : Mapping} : c.mapping? = some m ↔ c = mapping m := by
  cases c <;> simp [mapping?]

end Construct

namespace Tree

variable {t : Tree} {id : Nat}

theorem get?_eq_some_iff {α : Type} {choose : Construct → Option α} {make : α → Construct}
    (chooses : ∀ {c a}, choose c = some a ↔ c = make a) {a : α} :
    t.get? choose id = some a ↔ t.construct? id = some (make a) := by
  simp [get?, Option.bind_eq_some_iff, chooses]

theorem architectureUnit?_eq_some_iff {a : Architecture} :
    t.architectureUnit? = some a ↔ ∃ id, t.architecture = some id ∧ t.construct? id = some (.architecture a) := by
  simp only [architectureUnit?, Option.bind_eq_some_iff, get?_eq_some_iff Construct.architecture?_eq_some_iff]

end Tree
end DesignLint
