import Mathlib.Data.Finset.Card
import DesignLint.Tree.Export
import DesignLint.Proofs.Contract.Fits
import DesignLint.Proofs.Tree.Fields

/-! Exported trees. The export is a walk along fields that writes each node where it meets it first. It meets whatever
fields lead to, so that the nodes it lists as detached are the first ones of what no field reaches: the signals and
components that processes drop. Everything it writes says a value, and the whole keeps the contract for trees. -/
namespace DesignLint

open Json

/-- A place in a text is written as a coordinate has to be. -/
theorem Coordinate.fits_toJson (line character : Nat) :
    (Coordinate.toJson ⟨line, character⟩).Fits Contract.coordinate ∧
      (Coordinate.toJson ⟨line, character⟩).Fits Term.isConcrete := by
  have apart : NamedApart [("line", ofNat line), ("character", ofNat character)] :=
    ⟨by simp only [List.forall_mem_cons]; decide, by simp only [List.map_cons, List.map_nil]; decide⟩
  constructor
  · refine apart.fits_record ?_ (by simp only [List.map_cons, List.map_nil]; decide)
    simp only [List.forall_mem_cons, List.not_mem_nil, false_implies, implies_true, and_true]
    exact ⟨fits_allows_known (f := .needed "line" .natural) rfl (fits_natural line),
      fits_allows_known (f := .needed "character" .natural) rfl (fits_natural character)⟩
  · refine apart.fits_isConcrete ?_
    simp only [List.forall_mem_cons, List.not_mem_nil, false_implies, implies_true, and_true]
    exact ⟨fits_ofNat rfl, fits_ofNat rfl⟩

/-- A range is written as a span has to be. -/
theorem Span.fits_toJson {s : Span} {line character line' character' : Nat} (starts : s.start = ⟨line, character⟩)
    (stops : s.stop = ⟨line', character'⟩) : s.toJson.Fits Contract.span ∧ s.toJson.Fits Term.isConcrete := by
  have apart : NamedApart [("start", s.start.toJson), ("end", s.stop.toJson)] :=
    ⟨by simp only [List.forall_mem_cons]; decide, by simp only [List.map_cons, List.map_nil]; decide⟩
  have start := Coordinate.fits_toJson line character
  have stop := Coordinate.fits_toJson line' character'
  rw [← starts] at start
  rw [← stops] at stop
  constructor
  · refine apart.fits_record ?_ (by simp only [List.map_cons, List.map_nil]; decide)
    simp only [List.forall_mem_cons, List.not_mem_nil, false_implies, implies_true, and_true]
    exact ⟨fits_allows_known (f := .needed "start" Contract.coordinate) rfl start.1,
      fits_allows_known (f := .needed "end" Contract.coordinate) rfl stop.1⟩
  · refine apart.fits_isConcrete ?_
    simp only [List.forall_mem_cons, List.not_mem_nil, false_implies, implies_true, and_true]
    exact ⟨start.2, stop.2⟩

/-- Names for fields that can stand beside the number, the kind and the range of a node. -/
def areFree (names : List String) : Bool :=
  decide names.Nodup && names.all fun name =>
    name.toList.all (·.toNat < 0x80) && !(["id", "range", "detached"].contains name)

theorem of_areFree {names : List String} (free : areFree names = true) :
    names.Nodup ∧ ∀ name ∈ names, composed name = name ∧ name ≠ "id" ∧ name ≠ "range" ∧ name ≠ "detached" := by
  rw [areFree, Bool.and_eq_true, decide_eq_true_iff, List.all_eq_true] at free
  refine ⟨free.1, fun name member => ?_⟩
  obtain ⟨ascii, others⟩ := Bool.and_eq_true_iff.mp (free.2 name member)
  refine ⟨by rw [composed, if_pos ascii], ?_⟩
  simpa using others

theorem Construct.areFree_fieldList (c : Construct) : areFree (c.fieldList.map Prod.fst) = true := by
  cases c <;>
    simp only [Construct.fieldList, Interface.fieldList, Declared.fieldList, Body.fieldList, List.map_cons,
      List.map_nil, List.cons_append, List.nil_append] <;> decide +kernel

namespace Tree

variable {t : Tree} {id : Nat} {seen seen₁ seen₂ : Seen} {ids more : List NodeId}

theorem areFree_fieldsOf (t : Tree) (id : Nat) : areFree ((t.fieldsOf id).map Prod.fst) = true := by
  rw [fieldsOf]
  split
  · simp only [fileFields, List.map_cons, List.map_nil]
    decide
  · rename_i c _ _
    exact c.areFree_fieldList
  · rfl

/-- A walk has gone from some nodes met to others: it has met the nodes it was to meet, and whatever the nodes that it
met hold. -/
structure Walked (t : Tree) (seen seen' : Seen) (ids : List NodeId) : Prop where
  grows : ∀ x ∈ seen, x ∈ seen'
  meets : ∀ id ∈ ids, id ∈ seen'
  closed : ∀ x ∈ seen', x ∈ seen ∨ ∀ y, t.HeldBy x y → y ∈ seen'

/-- How many nodes are still to be met. -/
def unseen (t : Tree) (seen : Seen) : Nat := (Finset.range t.nodes.size \ seen.toFinset).card

theorem unseen_le (grows : ∀ x ∈ seen, x ∈ seen₁) : t.unseen seen₁ ≤ t.unseen seen := by
  refine Finset.card_le_card (Finset.sdiff_subset_sdiff (Finset.Subset.refl _) fun x member => ?_)
  rw [List.mem_toFinset] at member ⊢
  exact grows x member

theorem unseen_cons_lt (lt : id < t.nodes.size) (new : id ∉ seen) : t.unseen (id :: seen) < t.unseen seen := by
  refine Finset.card_lt_card ⟨?_, fun all => ?_⟩
  · rw [List.toFinset_cons]
    exact Finset.sdiff_subset_sdiff (Finset.Subset.refl _) (Finset.subset_insert _ _)
  · have member : id ∈ Finset.range t.nodes.size \ seen.toFinset := by simp [lt, new]
    simpa using all member

theorem unseen_le_size (t : Tree) (seen : Seen) : t.unseen seen ≤ t.nodes.size :=
  Nat.le_trans (Finset.card_le_card Finset.sdiff_subset) (Finset.card_range _).le

namespace Walked

theorem refl (met : ∀ id ∈ ids, id ∈ seen) : t.Walked seen seen ids := ⟨fun _ old => old, met, fun _ => .inl⟩

theorem trans (first : t.Walked seen seen₁ ids) (next : t.Walked seen₁ seen₂ more) :
    t.Walked seen seen₂ (ids ++ more) where
  grows x old := next.grows x (first.grows x old)
  meets id member := by
    rcases List.mem_append.mp member with member | member
    · exact next.grows id (first.meets id member)
    · exact next.meets id member
  closed x met := by
    rcases next.closed x met with before | holds
    · exact (first.closed x before).imp_right fun holds y held => next.grows y (holds y held)
    · exact .inr holds

/-- A node is met, and then what its fields hold. -/
theorem enter (walked : t.Walked (id :: seen) seen₁ ((t.fieldsOf id).flatMap fun field => field.2.ids)) :
    t.Walked seen seen₁ [id] where
  grows x old := walked.grows x (List.mem_cons_of_mem _ old)
  meets x member := by
    rw [List.mem_singleton] at member
    exact walked.grows x (member ▸ List.mem_cons_self)
  closed x met := by
    rcases walked.closed x met with before | holds
    · rcases List.mem_cons.mp before with rfl | old
      · exact .inr fun y ⟨field, listed, held⟩ => walked.meets y (List.mem_flatMap.mpr ⟨field, listed, held⟩)
      · exact .inl old
    · exact .inr holds

end Walked

/-- An export of single nodes that writes values and walks along fields, as long as few nodes are left to be met. -/
structure Exports (t : Tree) (levels : Nat) (one : NodeId → Seen → Json × Seen) : Prop where
  values : ∀ id seen, (one id seen).1.Fits Term.isConcrete
  walks : ∀ id seen, t.unseen seen < levels → t.Walked seen (one id seen).2 [id]

variable {levels : Nat} {one : NodeId → Seen → Json × Seen}

theorem Exports.exportList (exports : t.Exports levels one) (ids : List NodeId) (seen : Seen) :
    (∀ item ∈ (exportList one ids seen).1, item.Fits Term.isConcrete) ∧
      (t.unseen seen < levels → t.Walked seen (exportList one ids seen).2 ids) := by
  induction ids generalizing seen with
  | nil => exact ⟨by simp [Tree.exportList], fun _ => .refl (by simp)⟩
  | cons id rest ih =>
    obtain ⟨items, walked⟩ := ih (one id seen).2
    refine ⟨List.forall_mem_cons.mpr ⟨exports.values id seen, items⟩, fun enough => ?_⟩
    have first := exports.walks id seen enough
    exact first.trans (walked (Nat.lt_of_le_of_lt (unseen_le first.grows) enough))

theorem Exports.exportField (exports : t.Exports levels one) (value : FieldValue) (seen : Seen) :
    (∀ j, (exportField one value seen).1 = some j → j.Fits Term.isConcrete) ∧
      (t.unseen seen < levels → t.Walked seen (exportField one value seen).2 value.ids) := by
  fun_cases Tree.exportField one value seen with
  | case1 | case2 | case3 | case4 | case5 | case6 =>
    exact ⟨by simp, fun _ => .refl (by simp [FieldValue.ids])⟩
  | case7 text filled => exact ⟨by simpa using fits_string rfl, fun _ => .refl (by simp [FieldValue.ids])⟩
  | case8 => exact ⟨by simpa using fits_bool rfl, fun _ => .refl (by simp [FieldValue.ids])⟩
  | case9 names filled =>
    refine ⟨?_, fun _ => .refl (by simp [FieldValue.ids])⟩
    rintro j ⟨⟩
    refine fits_array_isConcrete fun item member => ?_
    obtain ⟨name, _, rfl⟩ := List.mem_map.mp member
    exact fits_string rfl
  | case10 id item seen' step =>
    have value := exports.values id seen
    have walk := exports.walks id seen
    rw [step] at value walk
    refine ⟨?_, walk⟩
    rintro j ⟨⟩
    exact value
  | case11 ids filled items seen' steps =>
    have list := exports.exportList ids seen
    rw [steps] at list
    refine ⟨?_, list.2⟩
    rintro j ⟨⟩
    exact fits_array_isConcrete list.1
  | case12 ids filled items seen' steps =>
    have list := exports.exportList (ids.filterMap id) seen
    rw [steps] at list
    refine ⟨?_, list.2⟩
    rintro j ⟨⟩
    exact fits_array_isConcrete list.1

theorem exportFields_nil (one : NodeId → Seen → Json × Seen) (seen : Seen) : exportFields one [] seen = ([], seen) := rfl

theorem exportFields_cons (one : NodeId → Seen → Json × Seen) (name : String) (value : FieldValue)
    (rest : List (String × FieldValue)) (seen : Seen) :
    exportFields one ((name, value) :: rest) seen =
      (((exportField one value seen).1.map (name, ·)).toList ++
          (exportFields one rest (exportField one value seen).2).1,
        (exportFields one rest (exportField one value seen).2).2) := by
  rw [exportFields]
  obtain ⟨item, seen'⟩ := exportField one value seen
  cases item <;> rfl

/-- A field is written under its name, if at all. -/
theorem names_exportFields (one : NodeId → Seen → Json × Seen) (fields : List (String × FieldValue)) (seen : Seen) :
    ((exportFields one fields seen).1.map Prod.fst).Sublist (fields.map Prod.fst) := by
  induction fields generalizing seen with
  | nil => simp [exportFields_nil]
  | cons field rest ih =>
    obtain ⟨name, value⟩ := field
    have others := ih (exportField one value seen).2
    rw [exportFields_cons]
    cases (exportField one value seen).1 with
    | none => exact others.cons _
    | some j => exact others.cons_cons _

/-- A text that is not empty is written as it is. -/
theorem mem_exportFields_text {one : NodeId → Seen → Json × Seen} {fields : List (String × FieldValue)} {name : String}
    {text : Bytes} (listed : (name, .text text) ∈ fields) (filled : text ≠ []) (seen : Seen) :
    (name, .string text) ∈ (exportFields one fields seen).1 := by
  induction fields generalizing seen with
  | nil => contradiction
  | cons field rest ih =>
    obtain ⟨other, value⟩ := field
    rw [exportFields_cons, List.mem_append]
    rcases List.mem_cons.mp listed with same | listed
    · cases same
      obtain ⟨b, bytes, rfl⟩ := List.exists_cons_of_ne_nil filled
      exact .inl (by simp [exportField])
    · exact .inr (ih listed _)

theorem Exports.exportFields (exports : t.Exports levels one) (fields : List (String × FieldValue)) (seen : Seen) :
    (∀ m ∈ (exportFields one fields seen).1, m.2.Fits Term.isConcrete) ∧
      (t.unseen seen < levels →
        t.Walked seen (exportFields one fields seen).2 (fields.flatMap fun field => field.2.ids)) := by
  induction fields generalizing seen with
  | nil => exact ⟨by simp [exportFields_nil], fun _ => .refl (by simp)⟩
  | cons field rest ih =>
    obtain ⟨name, value⟩ := field
    obtain ⟨written, walked⟩ := exports.exportField value seen
    obtain ⟨others, walked'⟩ := ih (Tree.exportField one value seen).2
    rw [exportFields_cons]
    refine ⟨fun m member => ?_, fun enough => ?_⟩
    · rcases List.mem_append.mp member with member | member
      · obtain ⟨j, found, rfl⟩ := Option.map_eq_some_iff.mp (Option.mem_toList.mp member)
        exact written j found
      · exact others m member
    · have first := walked enough
      exact first.trans (walked' (Nat.lt_of_le_of_lt (unseen_le first.grows) enough))

/-- The kind under which a node is written: what its own field of that name says, or else what it is. -/
def writtenKind (t : Tree) (id : Nat) (fields : List (String × Json)) : Bytes :=
  ((fields.lookup "kind").bind Json.text?).getD (Bytes.ofString (((t.construct? id).map Construct.kindName).getD ""))

/-- What stands in a node that is written in full, apart from the order. -/
def nodeMembers (t : Tree) (id : Nat) (fields : List (String × Json)) : List (String × Json) :=
  [("id", .ofNat id), ("kind", .string (t.writtenKind id fields)), ("range", (t.span id).toJson)]
    ++ fields.filter (·.1 ≠ "kind")

theorem exportNode_seen (levels : Nat) (met : id ∈ seen) : t.exportNode levels id seen = (reference id, seen) := by
  cases levels with
  | zero => rw [exportNode]
  | succ levels => rw [exportNode, if_pos (List.contains_iff_mem.mpr met)]

theorem exportNode_new (levels : Nat) (new : id ∉ seen) :
    t.exportNode (levels + 1) id seen =
      (inOrder (t.nodeMembers id (Tree.exportFields (t.exportNode levels) (t.fieldsOf id) (id :: seen)).1),
        (Tree.exportFields (t.exportNode levels) (t.fieldsOf id) (id :: seen)).2) := by
  rw [exportNode, if_neg (by rwa [List.contains_iff_mem])]
  rfl

theorem mem_nodeMembers {fields : List (String × Json)} {m : String × Json} :
    m ∈ t.nodeMembers id fields ↔
      m = ("id", .ofNat id) ∨ m = ("kind", .string (t.writtenKind id fields)) ∨ m = ("range", (t.span id).toJson) ∨
        m ∈ fields ∧ m.1 ≠ "kind" := by
  simp [nodeMembers]

/-- The names in a node are different. -/
theorem nodeMembers_apart (t : Tree) (id : Nat) {names : List String} {fields : List (String × Json)} (free : areFree names = true)
    (named : (fields.map Prod.fst).Sublist names) : NamedApart (t.nodeMembers id fields) := by
  obtain ⟨distinct, each⟩ := of_areFree free
  have field {m : String × Json} (member : m ∈ fields) := each m.1 (named.subset (List.mem_map_of_mem member))
  constructor
  · intro m member
    rcases mem_nodeMembers.1 member with rfl | rfl | rfl | ⟨member, _⟩
    · exact show composed "id" = "id" by decide
    · exact show composed "kind" = "kind" by decide
    · exact show composed "range" = "range" by decide
    · exact (field member).1
  · simp only [nodeMembers, List.cons_append, List.nil_append, List.map_cons, List.nodup_cons, List.mem_cons,
      List.mem_map, List.mem_filter, decide_eq_true_eq]
    refine ⟨?_, ?_, ?_, (distinct.sublist named).sublist (List.filter_sublist.map _)⟩
    · rintro (same | same | ⟨m, ⟨member, _⟩, same⟩)
      · contradiction
      · contradiction
      · exact (field member).2.1 same
    · rintro (same | ⟨m, ⟨_, other⟩, same⟩)
      · contradiction
      · exact other same
    · rintro ⟨m, ⟨member, _⟩, same⟩
      exact (field member).2.2.1 same

theorem inOrder_apart {members : List (String × Json)} (apart : NamedApart members) :
    NamedApart (members.mergeSort fun a b => decide (a.1 ≤ b.1)) :=
  apart.perm (List.mergeSort_perm _ _)

theorem mem_names_inOrder {members : List (String × Json)} {name : String} {j : Json} (member : (name, j) ∈ members) :
    name ∈ (members.mergeSort fun a b => decide (a.1 ≤ b.1)).map Prod.fst :=
  List.mem_map.mpr ⟨(name, j), (List.mergeSort_perm _ _).mem_iff.mpr member, rfl⟩

theorem fits_reference (id : Nat) : (reference id).Fits Term.isConcrete := by
  have apart : NamedApart [("$ref", ofNat id)] :=
    ⟨by simp only [List.forall_mem_cons]; decide, by simp only [List.map_cons, List.map_nil]; decide⟩
  refine apart.fits_isConcrete ?_
  simp only [List.forall_mem_cons, List.not_mem_nil, false_implies, implies_true, and_true]
  exact fits_ofNat rfl

theorem fits_span (t : Tree) (id : Nat) :
    (t.span id).toJson.Fits Contract.span ∧ (t.span id).toJson.Fits Term.isConcrete := by
  rw [span]
  split
  · exact Span.fits_toJson rfl rfl
  · exact Span.fits_toJson (s := ⟨⟨(0 : Nat), (0 : Nat)⟩, ⟨(0 : Nat), (0 : Nat)⟩⟩) rfl rfl

theorem exports_exportNode (t : Tree) (levels : Nat) : t.Exports levels (t.exportNode levels) := by
  induction levels with
  | zero => exact ⟨fun id _ => fits_reference id, fun _ _ none_ => absurd none_ (Nat.not_lt_zero _)⟩
  | succ levels ih =>
    constructor
    · intro id seen
      by_cases met : id ∈ seen
      · rw [exportNode_seen _ met]
        exact fits_reference id
      · rw [exportNode_new _ met]
        have apart := t.nodeMembers_apart id (t.areFree_fieldsOf id)
          (names_exportFields (t.exportNode levels) (t.fieldsOf id) (id :: seen))
        refine (inOrder_apart apart).fits_isConcrete fun m member => ?_
        rw [(List.mergeSort_perm _ _).mem_iff, mem_nodeMembers] at member
        rcases member with rfl | rfl | rfl | ⟨member, _⟩
        · exact fits_ofNat rfl
        · exact fits_string rfl
        · exact (t.fits_span id).2
        · exact (ih.exportFields _ _).1 m member
    · intro id seen enough
      by_cases met : id ∈ seen
      · rw [exportNode_seen _ met]
        exact .refl (by simpa using met)
      · rw [exportNode_new _ met]
        by_cases lt : id < t.nodes.size
        · refine ((ih.exportFields (t.fieldsOf id) (id :: seen)).2 ?_).enter
          have := unseen_cons_lt lt met
          omega
        · -- A number outside the tree stands for a node without fields.
          have outside : t.fieldsOf id = [] := by
            rw [fieldsOf, construct?, node?_eq_none (Nat.not_lt.mp lt)]
            rfl
          refine Walked.enter ?_
          rw [outside]
          exact .refl (by simp)

/-- Without a field for it, the kind is what the node is. -/
theorem writtenKind_of_plain {c : Construct} {fields : List (String × Json)} {names : List String}
    (known : t.construct? id = some c) (named : (fields.map Prod.fst).Sublist names) (plain : "kind" ∉ names) :
    t.writtenKind id fields = Bytes.ofString c.kindName := by
  have missing : fields.lookup "kind" = none := by
    rw [List.lookup_eq_none_iff]
    intro m member
    have other : "kind" ≠ m.1 := fun same => plain (same ▸ named.subset (List.mem_map_of_mem member))
    exact bne_iff_ne.mpr other
  rw [writtenKind, missing, known]
  rfl

theorem isKindName_kindName (c : Construct) : Contract.isKindName c.kindName = true := by
  cases c <;> simp only [Construct.kindName] <;> decide

/-- A node that is met first, and whose kind is what it is, keeps the contract for nodes. -/
theorem fits_exportNode {c : Construct} (levels : Nat) (new : id ∉ seen) (known : t.construct? id = some c)
    (plain : "kind" ∉ (t.fieldsOf id).map Prod.fst) :
    (t.exportNode (levels + 1) id seen).1.Fits Contract.node := by
  rw [exportNode_new _ new]
  have named := names_exportFields (t.exportNode levels) (t.fieldsOf id) (id :: seen)
  have exports := (t.exports_exportNode levels).exportFields (t.fieldsOf id) (id :: seen)
  obtain ⟨_, free⟩ := of_areFree (t.areFree_fieldsOf id)
  refine (inOrder_apart (t.nodeMembers_apart id (t.areFree_fieldsOf id) named)).fits_record (fun m member => ?_) ?_
  · rw [(List.mergeSort_perm _ _).mem_iff, mem_nodeMembers, writtenKind_of_plain known named plain] at member
    rcases member with rfl | rfl | rfl | ⟨member, other⟩
    · exact fits_allows_known (f := .needed "id" .natural) rfl (fits_natural id)
    · refine fits_allows_known (f := .needed "kind" (.textWith Contract.isKindName)) rfl (fits_string ?_)
      rw [Bytes.decode_ofString]
      exact isKindName_kindName c
    · exact fits_allows_known (f := .needed "range" Contract.span) rfl (t.fits_span id).1
    · obtain ⟨_, notId, notRange, _⟩ := free m.1 (named.subset (List.mem_map_of_mem member))
      refine fits_allows_other ?_ (exports.1 m member)
      simp [Field.needed, notId.symm, notRange.symm, other.symm]
  · simp only [List.forall_mem_cons, List.not_mem_nil, false_implies, implies_true, and_true]
    exact ⟨fun _ => mem_names_inOrder (mem_nodeMembers.mpr (.inl rfl)),
      fun _ => mem_names_inOrder (mem_nodeMembers.mpr (.inr (.inl rfl))),
      fun _ => mem_names_inOrder (mem_nodeMembers.mpr (.inr (.inr (.inl rfl))))⟩

/-- Nodes from which no field leads elsewhere, the file among them. -/
structure Settled (t : Tree) (seen : Seen) : Prop where
  file : 0 ∈ seen
  closed : ∀ x ∈ seen, ∀ y, t.HeldBy x y → y ∈ seen

namespace Settled

theorem reaches {x y : Nat} (settled : t.Settled seen) (met : x ∈ seen) (leads : Relation.ReflTransGen t.HeldBy x y) :
    y ∈ seen := by
  induction leads with
  | refl => exact met
  | tail _ held ih => exact settled.closed _ ih _ held

theorem walk (settled : t.Settled seen) (walked : t.Walked seen seen₁ ids) : t.Settled seen₁ where
  file := walked.grows 0 settled.file
  closed x met y held := by
    rcases walked.closed x met with before | holds
    · exact walked.grows y (settled.closed x before y held)
    · exact holds y held

/-- The first node that is not met is one that a process drops. -/
theorem dropped (settled : t.Settled seen) (arranged : t.Arranged) (lt : id < t.nodes.size) (new : id ∉ seen)
    (first : ∀ x < id, x ∈ seen) : t.Dropped id := by
  have apart : ¬t.Attached id := fun attached => new (settled.reaches settled.file attached)
  obtain ⟨top, dropped, below⟩ := (arranged.not_attached_iff lt).mp apart
  rcases below with rfl | below
  · exact dropped
  · have met := first top (arranged.rooted.below_lt below)
    exact absurd (settled.reaches met (arranged.reached_of_below dropped (.inr below))) new

end Settled

/-- What is listed as detached keeps the contract for nodes: it is signals and components. -/
theorem fits_exportDetached (arranged : t.Arranged) {k count : Nat} (range : k + count = t.nodes.size) (seen : Seen)
    (settled : t.Settled seen) (first : ∀ x < k, x ∈ seen) :
    ∀ item ∈ t.exportDetached (List.range' k count) seen, item.Fits Contract.node := by
  induction count generalizing k seen with
  | zero => simp [exportDetached]
  | succ count ih =>
    have next {seen' : Seen} (met : k ∈ seen') (before : ∀ x ∈ seen, x ∈ seen') : ∀ x < k + 1, x ∈ seen' := by
      intro x lt
      rcases Nat.lt_succ_iff_lt_or_eq.mp lt with lt | rfl
      · exact before x (first x lt)
      · exact met
    rw [List.range'_succ, exportDetached]
    by_cases met : k ∈ seen
    · rw [if_pos (List.contains_iff_mem.mpr met)]
      exact ih (by omega) seen settled (next met fun _ old => old)
    · rw [if_neg (by rwa [List.contains_iff_mem])]
      have lt : k < t.nodes.size := by omega
      have walked := (t.exports_exportNode (t.nodes.size + 1)).walks k seen (Nat.lt_succ_of_le (t.unseen_le_size seen))
      refine List.forall_mem_cons.mpr ⟨?_, ?_⟩
      · obtain ⟨c, known⟩ := exists_construct? lt
        refine fits_exportNode _ met known ?_
        obtain ⟨_, _, _, declared⟩ := settled.dropped arranged lt met first
        rw [role?_of_construct? known] at declared
        rw [fieldsOf, known]
        cases c <;> simp [Construct.role] at declared <;>
          simp [Construct.fieldList, Declared.fieldList, Interface.fieldList]
      · exact ih (by omega) _ (settled.walk walked) (next (walked.meets k (by simp)) walked.grows)

/-- Where a written field comes from. -/
theorem mem_exportFields {one : NodeId → Seen → Json × Seen} {fields : List (String × FieldValue)} {seen : Seen}
    {m : String × Json} (member : m ∈ (exportFields one fields seen).1) :
    ∃ value seen', (m.1, value) ∈ fields ∧ (exportField one value seen').1 = some m.2 := by
  induction fields generalizing seen with
  | nil => contradiction
  | cons field rest ih =>
    obtain ⟨name, value⟩ := field
    rw [exportFields_cons, List.mem_append] at member
    rcases member with member | member
    · obtain ⟨j, found, rfl⟩ := Option.map_eq_some_iff.mp (Option.mem_toList.mp member)
      exact ⟨value, seen, List.mem_cons_self, found⟩
    · obtain ⟨other, seen', listed, found⟩ := ih member
      exact ⟨other, seen', List.mem_cons_of_mem _ listed, found⟩

theorem exportField_text {one : NodeId → Seen → Json × Seen} {text : Bytes} {seen : Seen} {j : Json}
    (written : (exportField one (.text text) seen).1 = some j) : j = .string text ∧ text ≠ [] := by
  cases text with
  | nil => simp [exportField] at written
  | cons b rest => simpa [exportField, eq_comm] using written

/-- The fields of the file as they are written. -/
def writtenFields (t : Tree) : List (String × Json) :=
  (exportFields (t.exportNode t.nodes.size) (t.fieldsOf 0) [0]).1

/-- The nodes that are not below the file. -/
def detached (t : Tree) : List Json :=
  t.exportDetached (List.range t.nodes.size) (exportFields (t.exportNode t.nodes.size) (t.fieldsOf 0) [0]).2

/-- What stands in the whole tree, apart from the order: the file, and what is detached if there is anything. -/
def fileMembers (t : Tree) : List (String × Json) :=
  t.nodeMembers 0 t.writtenFields ++ if t.detached = [] then [] else [("detached", .array t.detached)]

theorem toJson_members (t : Tree) : ∃ members, t.toJson = .object members ∧ members.Perm t.fileMembers := by
  have root : t.exportNode (t.nodes.size + 1) 0 [] = (inOrder (t.nodeMembers 0 t.writtenFields),
      (exportFields (t.exportNode t.nodes.size) (t.fieldsOf 0) [0]).2) := exportNode_new _ List.not_mem_nil
  have apart : t.exportDetached (List.range t.nodes.size)
      (exportFields (t.exportNode t.nodes.size) (t.fieldsOf 0) [0]).2 = t.detached := rfl
  have sorted (members : List (String × Json)) := List.mergeSort_perm members fun a b => decide (a.1 ≤ b.1)
  simp only [toJson, root, apart, fileMembers]
  cases t.detached with
  | nil => exact ⟨_, rfl, by simpa using sorted _⟩
  | cons first others =>
    refine ⟨_, rfl, (sorted _).trans ?_⟩
    rw [if_neg (List.cons_ne_nil _ _)]
    exact (sorted _).append_right _

theorem names_writtenFields (t : Tree) : (t.writtenFields.map Prod.fst).Sublist ((t.fieldsOf 0).map Prod.fst) :=
  names_exportFields _ _ _

theorem fileMembers_apart (t : Tree) : NamedApart t.fileMembers := by
  have node := t.nodeMembers_apart 0 (t.areFree_fieldsOf 0) t.names_writtenFields
  rw [fileMembers]
  split
  · rwa [List.append_nil]
  · refine node.append (fun old => ?_) (by decide) _
    obtain ⟨m, member, isDetached⟩ := List.mem_map.mp old
    rcases mem_nodeMembers.mp member with rfl | rfl | rfl | ⟨member, _⟩
    · simp at isDetached
    · simp at isDetached
    · simp at isDetached
    · have field := t.names_writtenFields.subset (List.mem_map_of_mem member)
      exact ((of_areFree (t.areFree_fieldsOf 0)).2 m.1 field).2.2.2 isDetached

theorem fits_detached (arranged : t.Arranged) : (array t.detached).Fits (Shape.listOf Contract.node) := by
  have walked := (t.exports_exportNode (t.nodes.size + 1)).walks 0 [] (Nat.lt_succ_of_le (t.unseen_le_size _))
  rw [exportNode_new _ List.not_mem_nil] at walked
  have settled : t.Settled (exportFields (t.exportNode t.nodes.size) (t.fieldsOf 0) [0]).2 :=
    ⟨walked.meets 0 (by simp), fun x met => (walked.closed x met).resolve_left List.not_mem_nil⟩
  refine fits_listOf ?_
  rw [detached, List.range_eq_range']
  exact fits_exportDetached arranged (Nat.zero_add _) _ settled (by simp)

/-- The export of a tree keeps the contract for trees. -/
theorem fits_toJson (arranged : t.Arranged) (filled : t.library ≠ []) : t.toJson.Fits Contract.tree := by
  have fields : t.fieldsOf 0 = t.fileFields := by rw [fieldsOf, arranged.file]
  have plain : "kind" ∉ (t.fieldsOf 0).map Prod.fst := by simp [fields, fileFields]
  obtain ⟨members, written, perm⟩ := t.toJson_members
  rw [written]
  refine (t.fileMembers_apart.perm perm).fits_record (fun m member => ?_) ?_
  · rw [perm.mem_iff, fileMembers, List.mem_append, mem_nodeMembers,
      writtenKind_of_plain arranged.file t.names_writtenFields plain] at member
    rcases member with (rfl | rfl | rfl | ⟨member, other⟩) | member
    · exact fits_allows_known (f := .needed "id" (.exactly 0)) rfl (fits_ofNat rfl)
    · refine fits_allows_known (f := .needed "kind" (.word "File")) rfl (fits_string ?_)
      rw [Bytes.decode_ofString]
      rfl
    · exact fits_allows_known (f := .needed "range" Contract.span) rfl (t.fits_span 0).1
    · obtain ⟨name, j⟩ := m
      obtain ⟨value, seen, listed, found⟩ := mem_exportFields member
      rw [fields] at listed
      by_cases isPath : name = "path"
      · subst isPath
        obtain rfl : value = .text (Bytes.ofString t.path) := by simpa [fileFields] using listed
        obtain ⟨rfl, _⟩ := exportField_text found
        exact fits_allows_known (f := .allowed "path" .text) rfl (fits_string rfl)
      by_cases isLibrary : name = "library"
      · subst isLibrary
        obtain rfl : value = .text t.library := by simpa [fileFields] using listed
        obtain ⟨rfl, _⟩ := exportField_text found
        refine fits_allows_known (f := .needed "library" .filledText) rfl (fits_string ?_)
        simp [Field.needed, Shape.filledText, Shape.textWith, Bytes.decode_ne_empty filled]
      · have field := t.names_writtenFields.subset (List.mem_map_of_mem member)
        obtain ⟨_, notId, notRange, notDetached⟩ := (of_areFree (t.areFree_fieldsOf 0)).2 name field
        refine fits_allows_other ?_ (((t.exports_exportNode _).exportFields _ _).1 _ member)
        simp [Field.needed, Field.allowed, Ne.symm notId, Ne.symm notRange, Ne.symm notDetached, Ne.symm other,
          Ne.symm isPath, Ne.symm isLibrary]
    · split at member
      · contradiction
      · rw [List.mem_singleton] at member
        subst member
        exact fits_allows_known (f := .allowed "detached" (.listOf Contract.node)) rfl (fits_detached arranged)
  · have library : ("library", .string t.library) ∈ t.writtenFields :=
      mem_exportFields_text (by simp [fields, fileFields]) filled _
    have stated (name : String) (j : Json) (member : (name, j) ∈ t.nodeMembers 0 t.writtenFields) :
        name ∈ members.map Prod.fst :=
      List.mem_map.mpr ⟨(name, j), perm.mem_iff.mpr (List.mem_append_left _ member), rfl⟩
    simp only [List.forall_mem_cons, List.not_mem_nil, false_implies, implies_true, and_true]
    exact ⟨fun _ => stated _ _ (mem_nodeMembers.mpr (.inl rfl)),
      fun _ => stated _ _ (mem_nodeMembers.mpr (.inr (.inl rfl))),
      fun _ => stated _ _ (mem_nodeMembers.mpr (.inr (.inr (.inl rfl)))), fun isOptional => by contradiction,
      fun _ => stated _ _ (mem_nodeMembers.mpr (.inr (.inr (.inr ⟨library, show "library" ≠ "kind" by decide⟩)))),
      fun isOptional => by contradiction⟩

end Tree
end DesignLint
