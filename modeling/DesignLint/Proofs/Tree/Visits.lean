import DesignLint.Proofs.Tree.Export

/-! Each node once. Whatever the fields of a tree hold, be it shared or in circles, its export writes every node in full where
it meets it first and refers to it everywhere else. -/
namespace DesignLint

namespace Json

mutual

/-- The numbers of the nodes that are written in full in a value: what stands under their name. -/
def ids : Json → List Json
  | array items => itemIds items
  | object members => memberIds members
  | _ => []

def itemIds : List Json → List Json
  | [] => []
  | item :: items => ids item ++ itemIds items

def memberIds : List (String × Json) → List Json
  | [] => []
  | (name, value) :: members => (if name = "id" then [value] else []) ++ ids value ++ memberIds members

end

theorem memberIds_eq (members : List (String × Json)) :
    memberIds members = members.flatMap fun m => (if m.1 = "id" then [m.2] else []) ++ ids m.2 := by
  induction members with
  | nil => rfl
  | cons m members ih => rw [memberIds, List.flatMap_cons, ih]

theorem memberIds_perm {members members' : List (String × Json)} (perm : members.Perm members') :
    (memberIds members).Perm (memberIds members') := by
  rw [memberIds_eq, memberIds_eq]
  exact perm.flatMap_right _

theorem memberIds_append (members more : List (String × Json)) :
    memberIds (members ++ more) = memberIds members ++ memberIds more := by
  rw [memberIds_eq, memberIds_eq, memberIds_eq, List.flatMap_append]

theorem ids_names (names : List Bytes) : (Json.ofList .string names).ids = [] := by
  rw [ofList, ids]
  induction names with
  | nil => rfl
  | cons name names ih => exact ih

end Json

namespace Tree

/-- How the value of a field is written, given how nodes are. What says nothing is left out, and so is an absent statement. -/
inductive RendersValue (one : NodeId → Json → Prop) : FieldValue → Option Json → Prop where
  | noText : RendersValue one (.text []) none
  | text (b : UInt8) (rest : Bytes) : RendersValue one (.text (b :: rest)) (some (.string (b :: rest)))
  | noFlag : RendersValue one (.flag false) none
  | flag : RendersValue one (.flag true) (some (.bool true))
  | noNames : RendersValue one (.names []) none
  | names {ns : List Bytes} : ns ≠ [] → RendersValue one (.names ns) (some (.ofList .string ns))
  | noChild : RendersValue one (.child none) none
  | child {id : NodeId} {j : Json} : one id j → RendersValue one (.child (some id)) (some j)
  | noChildren : RendersValue one (.children []) none
  | children {ids : List NodeId} {items : List Json} : ids ≠ [] → List.Forall₂ one ids items →
      RendersValue one (.children ids) (some (.array items))
  | noStatements : RendersValue one (.statements []) none
  | statements {ids : List (Option NodeId)} {items : List Json} : ids ≠ [] → List.Forall₂ one (ids.filterMap id) items →
      RendersValue one (.statements ids) (some (.array items))

/-- How fields are written, one after the other. -/
inductive RendersFields (one : NodeId → Json → Prop) : List (String × FieldValue) → List (String × Json) → Prop where
  | nil : RendersFields one [] []
  | absent {name : String} {value : FieldValue} {rest : List (String × FieldValue)} {members : List (String × Json)} :
      RendersValue one value none → RendersFields one rest members → RendersFields one ((name, value) :: rest) members
  | present {name : String} {value : FieldValue} {j : Json} {rest : List (String × FieldValue)}
      {members : List (String × Json)} : RendersValue one value (some j) → RendersFields one rest members →
      RendersFields one ((name, value) :: rest) ((name, j) :: members)

/-- How a node is written: as a reference, or in full with its number, its kind, its range and its fields. -/
inductive Renders (t : Tree) : NodeId → Json → Prop where
  | again (id : NodeId) : Renders t id (reference id)
  | full {id : NodeId} {fields : List (String × Json)} : RendersFields (Renders t) (t.fieldsOf id) fields →
      Renders t id (inOrder (t.nodeMembers id fields))

/-- A node that is written in full. -/
def InFull (t : Tree) (id : NodeId) (j : Json) : Prop :=
  ∃ fields, RendersFields t.Renders (t.fieldsOf id) fields ∧ j = inOrder (t.nodeMembers id fields)

variable {t : Tree} {id : Nat} {seen seen₁ seen₂ : Seen} {written more : List Json} {ids : List NodeId}

/-- A part of a walk has met new nodes of the tree, which are those that are written in full in its part of the export. -/
def Adds (t : Tree) (seen seen' : Seen) (written : List Json) : Prop :=
  ∃ new : List NodeId, written.Perm (new.map Json.ofNat) ∧ seen'.Perm (new ++ seen) ∧ (∀ x ∈ new, x < t.nodes.size) ∧
    (seen.Nodup → seen'.Nodup)

namespace Adds

theorem refl : t.Adds seen seen [] := ⟨[], .nil, .refl _, by simp, fun distinct => distinct⟩

theorem trans (first : t.Adds seen seen₁ written) (next : t.Adds seen₁ seen₂ more) : t.Adds seen seen₂ (written ++ more) := by
  obtain ⟨new, listed, met, inside, distinct⟩ := first
  obtain ⟨new', listed', met', inside', distinct'⟩ := next
  refine ⟨new' ++ new, ?_, ?_, ?_, fun start => distinct' (distinct start)⟩
  · rw [List.map_append]
    exact (listed.append listed').trans List.perm_append_comm
  · rw [List.append_assoc]
    exact met'.trans (met.append_left new')
  · intro x member
    exact (List.mem_append.mp member).elim (inside' x) (inside x)

theorem perm (adds : t.Adds seen seen₁ written) (same : more.Perm written) : t.Adds seen seen₁ more := by
  obtain ⟨new, listed, rest⟩ := adds
  exact ⟨new, same.trans listed, rest⟩

/-- A node is met, and then what its fields hold. -/
theorem enter (lt : id < t.nodes.size) (new : id ∉ seen) (adds : t.Adds (id :: seen) seen₁ written) :
    t.Adds seen seen₁ (Json.ofNat id :: written) := by
  obtain ⟨others, listed, met, inside, distinct⟩ := adds
  refine ⟨id :: others, listed.cons _, met.trans List.perm_middle, ?_, fun start => ?_⟩
  · intro x member
    rcases List.mem_cons.mp member with rfl | later
    · exact lt
    · exact inside x later
  · exact distinct (List.nodup_cons.mpr ⟨new, start⟩)

end Adds

/-- An export of single nodes that shows them and writes in full what it meets. -/
structure Lists (t : Tree) (one : NodeId → Seen → Json × Seen) : Prop where
  shows : ∀ id seen, t.Renders id (one id seen).1
  adds : ∀ id seen, id < t.nodes.size → t.Adds seen (one id seen).2 (one id seen).1.ids

variable {one : NodeId → Seen → Json × Seen}

theorem Lists.exportList (lists : t.Lists one) (ids : List NodeId) (seen : Seen) :
    List.Forall₂ t.Renders ids (exportList one ids seen).1 ∧
      ((∀ id ∈ ids, id < t.nodes.size) → t.Adds seen (exportList one ids seen).2 (Json.itemIds (exportList one ids seen).1)) := by
  induction ids generalizing seen with
  | nil => exact ⟨.nil, fun _ => .refl⟩
  | cons id rest ih =>
    obtain ⟨shown, adds⟩ := ih (one id seen).2
    refine ⟨.cons (lists.shows id seen) shown, fun inside => ?_⟩
    have first := lists.adds id seen (inside id List.mem_cons_self)
    exact first.trans (adds fun id member => inside id (List.mem_cons_of_mem _ member))

/-- What is written in full in a field that may be left out. -/
def optionIds (j : Option Json) : List Json := (j.map Json.ids).getD []

theorem Lists.exportField (lists : t.Lists one) (value : FieldValue) (seen : Seen) :
    RendersValue t.Renders value (exportField one value seen).1 ∧
      ((∀ id ∈ value.ids, id < t.nodes.size) →
        t.Adds seen (exportField one value seen).2 (optionIds (exportField one value seen).1)) := by
  fun_cases Tree.exportField one value seen with
  | case1 => exact ⟨.noText, fun _ => .refl⟩
  | case2 => exact ⟨.noFlag, fun _ => .refl⟩
  | case3 => exact ⟨.noNames, fun _ => .refl⟩
  | case4 => exact ⟨.noChild, fun _ => .refl⟩
  | case5 => exact ⟨.noChildren, fun _ => .refl⟩
  | case6 => exact ⟨.noStatements, fun _ => .refl⟩
  | case7 text filled =>
    obtain ⟨b, rest, rfl⟩ := List.exists_cons_of_ne_nil filled
    exact ⟨.text b rest, fun _ => .refl⟩
  | case8 => exact ⟨.flag, fun _ => .refl⟩
  | case9 names filled =>
    refine ⟨.names (by simpa using filled), fun _ => ?_⟩
    rw [optionIds, Option.map_some, Json.ids_names]
    exact .refl
  | case10 id item seen' step =>
    have shown := lists.shows id seen
    have adds := lists.adds id seen
    rw [step] at shown adds
    exact ⟨.child shown, fun inside => adds (inside id (by simp [FieldValue.ids]))⟩
  | case11 ids filled items seen' steps =>
    have list := lists.exportList ids seen
    rw [steps] at list
    exact ⟨.children (by simpa using filled) list.1, list.2⟩
  | case12 ids filled items seen' steps =>
    have list := lists.exportList (ids.filterMap id) seen
    rw [steps] at list
    exact ⟨.statements (by simpa using filled) list.1, list.2⟩

theorem Lists.exportFields (lists : t.Lists one) (fields : List (String × FieldValue)) (seen : Seen)
    (free : ∀ field ∈ fields, field.1 ≠ "id") : RendersFields t.Renders fields (exportFields one fields seen).1 ∧
      ((∀ field ∈ fields, ∀ id ∈ field.2.ids, id < t.nodes.size) →
        t.Adds seen (exportFields one fields seen).2 (Json.memberIds (exportFields one fields seen).1)) := by
  induction fields generalizing seen with
  | nil => exact ⟨.nil, fun _ => .refl⟩
  | cons field rest ih =>
    obtain ⟨name, value⟩ := field
    obtain ⟨shown, adds⟩ := lists.exportField value seen
    obtain ⟨others, adds'⟩ := ih (Tree.exportField one value seen).2 fun field member => free field (List.mem_cons_of_mem _ member)
    have name_free : name ≠ "id" := free (name, value) List.mem_cons_self
    rw [exportFields_cons]
    have inside_both (inside : ∀ field ∈ (name, value) :: rest, ∀ id ∈ field.2.ids, id < t.nodes.size) :=
      (adds (inside (name, value) List.mem_cons_self)).trans (adds' fun field member => inside field (List.mem_cons_of_mem _ member))
    cases written : (Tree.exportField one value seen).1 with
    | none =>
      rw [written] at shown inside_both
      exact ⟨.absent shown others, inside_both⟩
    | some j =>
      rw [written] at shown inside_both
      refine ⟨.present shown others, fun inside => ?_⟩
      rw [Option.map_some, Option.toList_some, List.singleton_append, Json.memberIds, if_neg name_free]
      exact inside_both inside

/-- A field called kind holds a text. -/
theorem text_of_kind {value : FieldValue} (field : ("kind", value) ∈ t.fieldsOf id) : ∃ text, value = .text text := by
  rw [fieldsOf] at field
  split at field
  · simp [fileFields] at field
  · rename_i c _ _
    cases c <;> simp [Construct.fieldList, Declared.fieldList, Interface.fieldList, Body.fieldList] at field <;> exact ⟨_, field⟩
  · contradiction

theorem ids_eq_nil_of_kind {seen : Seen} {j : Json}
    (written : ("kind", j) ∈ (exportFields one (t.fieldsOf id) seen).1) : j.ids = [] := by
  obtain ⟨value, seen', field, found⟩ := mem_exportFields written
  obtain ⟨text, rfl⟩ := text_of_kind field
  obtain ⟨rfl, _⟩ := exportField_text found
  rfl

/-- In a node that is written in full stand its own number and what its fields hold. -/
theorem memberIds_nodeMembers {fields : List (String × Json)} (plain : ∀ j, ("kind", j) ∈ fields → j.ids = []) :
    Json.memberIds (t.nodeMembers id fields) = Json.ofNat id :: Json.memberIds fields := by
  have others : Json.memberIds (fields.filter (·.1 ≠ "kind")) = Json.memberIds fields := by
    induction fields with
    | nil => rfl
    | cons field fields ih =>
      obtain ⟨name, j⟩ := field
      have rest := ih fun j member => plain j (List.mem_cons_of_mem _ member)
      by_cases isKind : name = "kind"
      · subst isKind
        rw [List.filter_cons_of_neg (by simp), rest, Json.memberIds, plain j List.mem_cons_self]
        rfl
      · rw [List.filter_cons_of_pos (by simpa using isKind), Json.memberIds, Json.memberIds, rest]
  have range : (t.span id).toJson.ids = [] := by
    simp [Span.toJson, Coordinate.toJson, Json.ids, Json.memberIds, Json.ofInt]
  rw [nodeMembers, Json.memberIds_append, others]
  simp [Json.memberIds, Json.ids, Json.ofNat, range]

theorem fieldsOf_free (t : Tree) (id : Nat) : ∀ field ∈ t.fieldsOf id, field.1 ≠ "id" := fun field member =>
  ((of_areFree (t.areFree_fieldsOf id)).2 field.1 (List.mem_map_of_mem member)).2.1

/-- A node that is met first is written in full. -/
theorem Lists.inFull {levels : Nat} (lists : t.Lists (t.exportNode levels)) (new : id ∉ seen) :
    t.InFull id (t.exportNode (levels + 1) id seen).1 := by
  rw [exportNode_new _ new]
  exact ⟨_, (lists.exportFields (t.fieldsOf id) (id :: seen) (t.fieldsOf_free id)).1, rfl⟩

theorem lists_exportNode (inside : ∀ x y, t.HeldBy x y → y < t.nodes.size) (levels : Nat) :
    t.Lists (t.exportNode levels) := by
  induction levels with
  | zero => exact ⟨fun id _ => .again id, fun _ _ _ => .refl⟩
  | succ levels ih =>
    constructor
    · intro id seen
      by_cases met : id ∈ seen
      · rw [exportNode_seen _ met]
        exact .again id
      · obtain ⟨fields, shown, written⟩ := ih.inFull met
        rw [written]
        exact .full shown
    · intro id seen lt
      by_cases met : id ∈ seen
      · rw [exportNode_seen _ met]
        exact .refl
      · rw [exportNode_new _ met]
        have fields := (ih.exportFields (t.fieldsOf id) (id :: seen) (t.fieldsOf_free id)).2
          fun field member y held => inside id y ⟨field, member, held⟩
        refine (fields.enter lt met).perm ?_
        rw [← memberIds_nodeMembers fun j => ids_eq_nil_of_kind]
        exact Json.memberIds_perm (List.mergeSort_perm _ _)

/-- What is listed as detached is written in full and in order, and after it all nodes are met. -/
theorem exists_exportDetached (inside : ∀ x y, t.HeldBy x y → y < t.nodes.size) {k count : Nat}
    (range : k + count = t.nodes.size) (seen : Seen) (first : ∀ x < k, x ∈ seen) :
    ∃ ids, List.Forall₂ t.InFull ids (t.exportDetached (List.range' k count) seen) ∧ ids.Pairwise (· < ·) ∧
      (∀ id ∈ ids, k ≤ id ∧ id ∉ seen) ∧
        ∃ seen', t.Adds seen seen' (Json.itemIds (t.exportDetached (List.range' k count) seen)) ∧
          ∀ x < t.nodes.size, x ∈ seen' := by
  induction count generalizing k seen with
  | zero => exact ⟨[], .nil, .nil, by simp, seen, .refl, fun x lt => first x (by omega)⟩
  | succ count ih =>
    have next {seen' : Seen} (met : k ∈ seen') (before : ∀ x ∈ seen, x ∈ seen') : ∀ x < k + 1, x ∈ seen' := by
      intro x lt
      rcases Nat.lt_succ_iff_lt_or_eq.mp lt with lt | rfl
      · exact before x (first x lt)
      · exact met
    rw [List.range'_succ, exportDetached]
    by_cases met : k ∈ seen
    · rw [if_pos (List.contains_iff_mem.mpr met)]
      obtain ⟨ids, shown, sorted, above, rest⟩ := ih (by omega) seen (next met fun _ old => old)
      exact ⟨ids, shown, sorted, fun id member => ⟨Nat.le_of_succ_le (above id member).1, (above id member).2⟩, rest⟩
    · rw [if_neg (by rwa [List.contains_iff_mem])]
      have walked := (t.exports_exportNode (t.nodes.size + 1)).walks k seen (Nat.lt_succ_of_le (t.unseen_le_size seen))
      have adds := (lists_exportNode inside (t.nodes.size + 1)).adds k seen (by omega)
      obtain ⟨ids, shown, sorted, above, seen', rest, all⟩ :=
        ih (by omega) (t.exportNode (t.nodes.size + 1) k seen).2 (next (walked.meets k (by simp)) walked.grows)
      refine ⟨k :: ids, .cons ((lists_exportNode inside t.nodes.size).inFull met) shown, ?_, ?_, seen', adds.trans rest, all⟩
      · exact List.pairwise_cons.mpr ⟨fun id member => (above id member).1, sorted⟩
      · intro id member
        rcases List.mem_cons.mp member with rfl | member
        · exact ⟨Nat.le_refl _, met⟩
        · exact ⟨Nat.le_of_succ_le (above id member).1, fun old => (above id member).2 (walked.grows id old)⟩

/-- The export of a tree writes every node in full once. Wherever a field holds a node, it is written in full or as a
reference, absent statements are left out of lists, and what no field reaches is listed in full and in order. -/
theorem toJson_once (filled : 0 < t.nodes.size) (inside : ∀ x y, t.HeldBy x y → y < t.nodes.size) :
    ∃ fields detached ids members, t.toJson = .object members ∧
      members.Perm (t.nodeMembers 0 fields ++ if detached = [] then [] else [("detached", .array detached)]) ∧
      RendersFields t.Renders (t.fieldsOf 0) fields ∧
      List.Forall₂ t.InFull ids detached ∧ ids.Pairwise (· < ·) ∧ (∀ id ∈ ids, ¬t.Attached id) ∧
      t.toJson.ids.Perm ((List.range t.nodes.size).map Json.ofNat) := by
  obtain ⟨members, written, perm⟩ := t.toJson_members
  have lists := lists_exportNode inside t.nodes.size
  have root : t.exportNode (t.nodes.size + 1) 0 [] = (inOrder (t.nodeMembers 0 t.writtenFields),
      (exportFields (t.exportNode t.nodes.size) (t.fieldsOf 0) [0]).2) := exportNode_new _ List.not_mem_nil
  have adds := (lists_exportNode inside (t.nodes.size + 1)).adds 0 [] filled
  have walked := (t.exports_exportNode (t.nodes.size + 1)).walks 0 [] (Nat.lt_succ_of_le (t.unseen_le_size []))
  rw [root] at adds walked
  have settled : t.Settled (exportFields (t.exportNode t.nodes.size) (t.fieldsOf 0) [0]).2 :=
    ⟨walked.meets 0 (by simp), fun x met => (walked.closed x met).resolve_left List.not_mem_nil⟩
  obtain ⟨ids, shown, sorted, apart, seen', rest, all⟩ :=
    exists_exportDetached inside (Nat.zero_add _) _ (fun x lt => absurd lt (Nat.not_lt_zero x))
  rw [← List.range_eq_range', show t.exportDetached (List.range t.nodes.size) _ = t.detached from rfl] at shown rest
  refine ⟨t.writtenFields, t.detached, ids, members, written, perm,
    (lists.exportFields (t.fieldsOf 0) [0] (t.fieldsOf_free 0)).1, shown, sorted, ?_, ?_⟩
  · exact fun id member attached => (apart id member).2 (settled.reaches settled.file attached)
  · obtain ⟨new, listed, met, below, distinct⟩ := adds.trans rest
    have same : new.Perm (List.range t.nodes.size) := by
      rw [List.append_nil] at met
      refine (List.perm_ext_iff_of_nodup (met.nodup_iff.mp (distinct List.nodup_nil)) List.nodup_range).mpr fun x => ?_
      rw [List.mem_range]
      exact ⟨below x, fun lt => met.mem_iff.mp (all x lt)⟩
    have parts : t.toJson.ids.Perm ((inOrder (t.nodeMembers 0 t.writtenFields)).ids ++ Json.itemIds t.detached) := by
      rw [written, Json.ids]
      refine (Json.memberIds_perm perm).trans ?_
      rw [fileMembers, Json.memberIds_append]
      refine (Json.memberIds_perm (List.mergeSort_perm _ _)).symm.append ?_
      split
      · rename_i none
        rw [none]
        exact .nil
      · rw [Json.memberIds, if_neg (by decide), Json.ids, Json.memberIds, List.nil_append, List.append_nil]
    exact (parts.trans listed).trans (same.map _)

/-- A process that holds an absent statement, itself and one assignment twice, and a read that nothing holds. -/
def circular : Tree where
  path := "design.vhd"
  text := []
  library := []
  architecture := some 1
  nodes := #[⟨none, 0, 0, .file⟩, ⟨some 0, 0, 0, .architecture { body := { processes := [2] } }⟩,
    ⟨some 1, 0, 0, .process { statements := [some 3, none, some 2, some 3] }⟩, ⟨some 2, 0, 0, .assignment {}⟩,
    ⟨some 3, 0, 0, .read [] false⟩]

theorem circular_once : 0 < circular.nodes.size ∧ (∀ x y, circular.HeldBy x y → y < circular.nodes.size) ∧
    circular.toJson.ids.Perm ((List.range 5).map Json.ofNat) := by
  have held : ∀ x < 5, ∀ field ∈ circular.fieldsOf x, ∀ y ∈ field.2.ids, y < circular.nodes.size := by decide
  have inside : ∀ x y, circular.HeldBy x y → y < circular.nodes.size := by
    rintro x y ⟨field, member, found⟩
    by_cases lt : x < 5
    · exact held x lt field member y found
    · have outside : circular.fieldsOf x = [] := by
        rw [fieldsOf, construct?, node?_eq_none (Nat.not_lt.mp lt)]
        rfl
      rw [outside] at member
      contradiction
  obtain ⟨_, _, _, _, _, _, _, _, _, _, once⟩ := toJson_once (by decide) inside
  exact ⟨by decide, inside, once⟩

end Tree
end DesignLint
