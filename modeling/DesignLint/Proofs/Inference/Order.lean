import DesignLint.Proofs.Parse.Structure
import DesignLint.Proofs.Tree.Containment
import DesignLint.Proofs.Inference.Memo
import DesignLint.Proofs.Lint.Occurrences

/-! The order of flattened statements. What a statement reads and writes was built before the statements inside it, and
all of a statement before the next one, so that a traversal meets occurrences in the order of their numbers. -/
namespace DesignLint

open Tree (statementRoles)

/-- What a construct inside a process reads or writes itself comes before the statements inside it. -/
theorem Construct.Holds.sublist {c : Construct} {parts : List Part} (holds : c.Holds parts)
    (among : c.role ∈ statementRoles) {role : Role} (occurs : role = .read ∨ role = .write) :
    (c.members role ++ statementRoles.flatMap c.members).Sublist (parts.map Prod.snd) := by
  have listed : c.lists role = true := by
    rcases occurs with rfl | rfl <;> cases c <;> rfl
  cases order : c.sequence? with
  | none =>
    -- Only an assignment has no statements inside it.
    have simple : statementRoles.flatMap c.members = [] := by
      cases c <;> simp [Construct.role, statementRoles, sequence?] at among order
      rfl
    rw [simple, List.append_nil, ← holds.lists role listed]
    exact Part.pick_sublist role parts
  | some first =>
    rw [holds.sequence first order]
    rcases occurs with rfl | rfl <;> cases c <;> simp only [sequence?, reduceCtorEq] at order <;>
      obtain rfl := Option.some.inj order <;>
      simp [statementRoles, members, statements]

namespace Tree

variable {t : Tree} {own : Nat → List NodeId} {id x y parent levels : Nat} {ids : List Nat} {role : Role}

/-- A node that sequential statements are made of. -/
def IsSequential (t : Tree) (id : Nat) : Prop := ∃ role ∈ statementRoles, t.role? id = some role

/-- Children that some nodes contribute, each ahead of the statements inside it. -/
structure Ordered (t : Tree) (own : Nat → List NodeId) : Prop where
  child : ∀ x y : Nat, t.IsSequential x → y ∈ own x → t.parent? y = some x
  pairwise : ∀ x : Nat, t.IsSequential x → (own x ++ t.kids statementRoles x).Pairwise (· < ·)

theorem isSequential_of_mem_kids (formed : t.WellFormed) (member : y ∈ t.kids statementRoles x) : t.IsSequential y := by
  obtain ⟨role, among, member⟩ := mem_kids.mp member
  exact ⟨role, among, (formed.child_of_mem (listed_statementRoles role among) member).2⟩

/-- Statements are packed, as no object is among them. -/
theorem lt_of_below_sibling (packed : ∀ i : Nat, 0 < i → i < t.nodes.size → t.Packed i) (sequential : t.IsSequential id)
    (positive : 0 < id) (later : id < x) (beside : t.parent? x = t.parent? id) (below : t.Below id y) : y < x := by
  obtain ⟨role, among, plays⟩ := sequential
  obtain ⟨c, known, rfl⟩ := Option.map_eq_some_iff.mp plays
  refine packed id positive (lt_size_of_construct? known) ?_ x y later beside below
  rw [known, Option.map_some, Function.comp_apply]
  simp only [statementRoles, List.mem_cons, List.not_mem_nil, or_false] at among
  rcases among with same | same | same <;> rw [same] <;> rfl

/-- A traversal of statements meets what they contribute in the order in which it was built. -/
theorem preorder_pairwise (formed : t.WellFormed) (packed : ∀ i : Nat, 0 < i → i < t.nodes.size → t.Packed i)
    (ordered : t.Ordered own) (siblings : ∀ id ∈ ids, t.parent? id = some parent)
    (sequential : ∀ id ∈ ids, t.IsSequential id) (sorted : ids.Pairwise (· < ·)) :
    ((t.preorder statementRoles levels ids).flatMap own).Pairwise (· < ·) := by
  induction levels generalizing ids parent with
  | zero => exact .nil
  | succ levels ih =>
    have inner (id : Nat) : ∀ y ∈ (t.preorder statementRoles levels (t.kids statementRoles id)).flatMap own,
        ∃ kid ∈ t.kids statementRoles id, t.Below kid y := by
      intro y member
      obtain ⟨x, met, member⟩ := List.mem_flatMap.mp member
      obtain ⟨kid, among, inside⟩ := preorder_atOrBelow formed listed_statementRoles x met
      have sequential : t.IsSequential x :=
        preorder_induction t.IsSequential (fun _ => isSequential_of_mem_kids formed)
          (fun _ _ _ => isSequential_of_mem_kids formed) x met
      exact ⟨kid, among, inside.below_child (ordered.child x y sequential member)⟩
    have within (id : Nat) (among : id ∈ ids) :
        ∀ y ∈ own id ++ (t.preorder statementRoles levels (t.kids statementRoles id)).flatMap own, t.Below id y := by
      intro y member
      rcases List.mem_append.mp member with direct | member
      · exact .child (ordered.child id y (sequential id among) direct)
      · obtain ⟨kid, listed, below⟩ := inner id y member
        exact (Below.child (formed.parent?_of_mem_kids listed_statementRoles listed)).trans below
    simp only [preorder, List.flatMap_assoc, List.flatMap_cons]
    refine List.pairwise_flatMap.mpr ⟨fun id among => ?_, sorted.imp_of_mem ?_⟩
    · obtain ⟨first, kids, before⟩ := List.pairwise_append.mp (ordered.pairwise id (sequential id among))
      refine List.pairwise_append.mpr ⟨first, ?_, fun x direct y member => ?_⟩
      · exact ih (fun _ => formed.parent?_of_mem_kids listed_statementRoles)
          (fun _ => isSequential_of_mem_kids formed) kids
      · obtain ⟨kid, listed, below⟩ := inner id y member
        exact Nat.lt_trans (before x direct kid listed) (formed.rooted.below_lt below)
    · intro id next among among' lt y member y' member'
      have positive := Nat.zero_lt_of_lt (formed.rooted.lt_of_parent? (siblings id among))
      have beside := (siblings next among').trans (siblings id among).symm
      have := lt_of_below_sibling packed (sequential id among) positive lt beside (within id among y member)
      exact Nat.lt_trans this (formed.rooted.below_lt (within next among' y' member'))

/-- Whatever statements take from their reads or writes they contribute in order. -/
theorem WellFormed.ordered (formed : t.WellFormed) (occurs : role = .read ∨ role = .write)
    (part : ∀ x : Nat, t.IsSequential x → (own x).Sublist (t.membersOf role x)) : t.Ordered own where
  child x y sequential member := by
    have listed : role.Listed := by
      rcases occurs with rfl | rfl
      · exact listed_read
      · exact listed_write
    exact (formed.child_of_mem listed ((part x sequential).subset member)).1
  pairwise x sequential := by
    have own := part x sequential
    obtain ⟨_, among, plays⟩ := sequential
    obtain ⟨c, known, rfl⟩ := Option.map_eq_some_iff.mp plays
    have holds : c.Holds (t.partsOf x) := by
      refine formed.holds known ?_ (Construct.plain_of_statementRoles among).1
      rintro rfl
      simp [Construct.role, statementRoles] at among
    have kids : t.kids statementRoles x = statementRoles.flatMap c.members := by
      simp [kids, membersOf_of_construct? known]
    rw [membersOf_of_construct? known] at own
    rw [kids]
    exact (t.partsOf_pairwise x).sublist ((own.append_right _).trans (holds.sublist among occurs))

/-- The statements that a construct lists are its children. -/
theorem WellFormed.mem_statements_iff (formed : t.WellFormed) {c : Construct} (known : t.construct? x = some c)
    (isFile : c ≠ .file) (plain : c.initial? = none) (inside : c.members .statement = c.statements.reduceOption) :
    some y ∈ c.statements ↔ t.Child .statement x y := by
  rw [← List.reduceOption_mem_iff, ← inside]
  exact formed.mem_members_iff known isFile plain (listed_statementRoles .statement (by simp [statementRoles]) c)

/-- A statement below a process stands inside it. -/
theorem Arranged.mem_nested_of_below (arranged : t.Arranged) (process : t.role? y = some .process) (below : t.Below y x)
    (sequential : t.IsSequential x) : x ∈ t.nested y := by
  have formed := arranged.toWellFormed
  have positive : 0 < y := by
    obtain ⟨c, known, same⟩ := Option.map_eq_some_iff.mp process
    refine formed.pos_of_ne_file known ?_
    rintro rfl
    contradiction
  -- The parent lists the statement, so it is the process or a statement itself.
  have listed {x parent : Nat} (above : t.parent? x = some parent) (later : 0 < parent)
      (sequential : t.IsSequential x) : ∃ role ∈ statementRoles, x ∈ t.membersOf role parent := by
    obtain ⟨role, among, plays⟩ := sequential
    have lt := Nat.lt_trans (formed.rooted.lt_of_parent? above) (lt_size_of_parent? above)
    obtain ⟨c, known⟩ := exists_construct? lt
    refine ⟨role, among, ?_⟩
    rw [membersOf_of_construct? known]
    refine formed.mem_members_of_child known later (listed_statementRoles role among) ?_ ⟨above, plays⟩
    rintro rfl
    simp [statementRoles] at among
  induction below with
  | @child x above =>
    obtain ⟨role, among, member⟩ := listed above positive sequential
    obtain ⟨c, known, same⟩ := Option.map_eq_some_iff.mp process
    cases c <;> simp only [Construct.role, reduceCtorEq] at same
    have isStatement : role = .statement := by
      have part := Construct.mem_parts_of_members (membersOf_of_construct? known ▸ member)
      simp only [statementRoles, List.mem_cons, List.not_mem_nil, or_false] at among
      rcases among with rfl | rfl | rfl <;> simp [Construct.role, Role.parts] at part ⊢
    exact formed.mem_nested_of_mem (isStatement ▸ member)
  | @step x parent above inside ih =>
    have later := Nat.lt_trans positive (formed.rooted.below_lt inside)
    obtain ⟨role, among, member⟩ := listed above later sequential
    obtain ⟨middle, isInside, plays⟩ := arranged.role?_in_process process inside
    have compound : middle ∈ statementRoles := by
      obtain ⟨c, known, rfl⟩ := Option.map_eq_some_iff.mp plays
      have part := Construct.mem_parts_of_members (membersOf_of_construct? known ▸ member)
      simp only [statementRoles, List.mem_cons, List.not_mem_nil, or_false] at among
      generalize c.role = middle at part isInside
      rcases among with rfl | rfl | rfl <;> cases middle <;>
        simp [Role.parts, Role.inProcess, statementRoles] at part isInside ⊢
    refine mem_under_of_mem_kids formed listed_statementRoles (fun _ member => ?_) (ih ⟨middle, compound, plays⟩)
      (mem_kids.mpr ⟨role, among, member⟩)
    exact lt_size_of_parent? (formed.child_of_mem (listed_statementRoles .statement (by simp [statementRoles])) member).1

/-- A traversal meets the statements of a process in order. -/
theorem nested_pairwise (formed : t.WellFormed) (packed : ∀ i : Nat, 0 < i → i < t.nodes.size → t.Packed i)
    (ordered : t.Ordered own) : ((t.nested y).flatMap own).Pairwise (· < ·) := by
  have listed := listed_statementRoles .statement (by simp [statementRoles])
  have sorted : (t.membersOf .statement y).Pairwise (· < ·) := by
    cases known : t.construct? y with
    | none => simp [membersOf, known]
    | some c =>
      rw [membersOf_of_construct? known]
      by_cases isFile : c = .file
      · subst isFile
        exact .nil
      cases plain : c.initial? with
      | some initial => simp [Construct.members_of_initial? plain]
      | none =>
        rw [← (formed.holds known isFile plain).lists .statement (listed c)]
        exact (t.partsOf_pairwise y).sublist (Part.pick_sublist _ _)
  exact preorder_pairwise formed packed ordered (fun x member => (formed.child_of_mem listed member).1)
    (fun x member => ⟨.statement, by simp [statementRoles], (formed.child_of_mem listed member).2⟩) sorted

namespace Arranged

variable {p : Process}

/-- The statements of a process write what is written below it. -/
theorem mem_nestedWrites_iff (arranged : t.Arranged) (process : t.role? y = some .process) :
    id ∈ (t.nested y).flatMap t.ownWrites ↔ t.Below y id ∧ t.role? id = some .write := by
  have formed := arranged.toWellFormed
  constructor
  · intro member
    refine ⟨?_, formed.role?_of_mem_nestedWrites process member⟩
    obtain ⟨x, nested, member⟩ := List.mem_flatMap.mp member
    obtain ⟨⟨role, among, plays⟩, inside⟩ := formed.mem_nested process x nested
    rw [ownWrites_eq plays among] at member
    exact inside.atOrBelow.below_child (formed.child_of_mem listed_write member).1
  · rintro ⟨below, write⟩
    -- Below a process only assignments write.
    have writer {x : Nat} (above : t.parent? id = some x) {role : Role} (around : t.role? x = some role)
        (among : role ∈ Role.inProcess ∨ role = .process) : role = .statement := by
      have part := arranged.role_mem_parts above around write
      cases role <;> simp [Role.parts, Role.inProcess] at part among ⊢
    obtain ⟨x, above, inside⟩ : ∃ x, t.parent? id = some x ∧ t.AtOrBelow y x := by
      cases below with
      | child above => exact ⟨y, above, .inl rfl⟩
      | step above inside => exact ⟨_, above, .inr inside⟩
    rcases inside with rfl | inside
    · have := writer above process (.inr rfl)
      contradiction
    obtain ⟨role, among, plays⟩ := arranged.role?_in_process process inside
    obtain rfl := writer above plays (.inl among)
    have sequential : Role.statement ∈ statementRoles := by simp [statementRoles]
    refine List.mem_flatMap.mpr ⟨x, arranged.mem_nested_of_below process inside ⟨_, sequential, plays⟩, ?_⟩
    obtain ⟨c, known, same⟩ := Option.map_eq_some_iff.mp plays
    rw [ownWrites_eq plays sequential, membersOf_of_construct? known]
    refine formed.mem_members_of_child known ?_ listed_write (by simp) ⟨above, write⟩
    exact Nat.zero_lt_of_lt (formed.rooted.below_lt inside)

/-- The statements of a process read what is read below one of them, apart from the bounds of loops. -/
theorem mem_nestedReads_iff (arranged : t.Arranged) (known : t.construct? y = some (.process p)) :
    id ∈ (t.nested y).flatMap t.ownReads ↔
      (∃ statement : Nat, some statement ∈ p.statements ∧ t.Below statement id) ∧ t.role? id = some .read ∧
        ∀ parent l, t.parent? id = some parent → t.construct? parent ≠ some (.loop l) := by
  have formed := arranged.toWellFormed
  have process := role?_of_construct? known
  have statement_iff (st : Nat) : some st ∈ p.statements ↔ t.Child .statement y st :=
    formed.mem_statements_iff known (by simp) rfl rfl
  have isStatement : Role.statement ∈ statementRoles := by simp [statementRoles]
  constructor
  · intro member
    have read := formed.role?_of_mem_nestedReads process member
    obtain ⟨x, nested, member⟩ := List.mem_flatMap.mp member
    obtain ⟨⟨role, among, plays⟩, _⟩ := formed.mem_nested process x nested
    obtain ⟨st, first, inside⟩ := preorder_atOrBelow formed listed_statementRoles x nested
    have above := (formed.child_of_mem listed_read ((ownReads_sublist plays among).subset member)).1
    have child := formed.child_of_mem (listed_statementRoles .statement isStatement) first
    refine ⟨⟨st, (statement_iff st).mpr child, inside.below_child above⟩, read, fun parent l above' isLoop => ?_⟩
    obtain rfl := Option.some.inj (above.symm.trans above')
    simp [ownReads_loop isLoop] at member
  · rintro ⟨⟨st, first, below⟩, read, unbounding⟩
    have child := (statement_iff st).mp first
    obtain ⟨x, above, inside⟩ : ∃ x, t.parent? id = some x ∧ t.AtOrBelow st x := by
      cases below with
      | child above => exact ⟨st, above, .inl rfl⟩
      | step above inside => exact ⟨_, above, .inr inside⟩
    -- Whatever has parts below a statement is sequential itself.
    obtain ⟨role, among, plays⟩ : ∃ role ∈ Role.statement :: Role.statement.parts, t.role? x = some role := by
      rcases inside with rfl | inside
      · exact ⟨.statement, List.mem_cons_self, child.2⟩
      · exact arranged.role?_of_below (by decide) child.2 (by decide) inside
    have sequential : role ∈ statementRoles := by
      have part := arranged.role_mem_parts above plays read
      simp only [Role.parts, List.mem_cons, List.not_mem_nil, or_false] at among
      rcases among with rfl | rfl | rfl | rfl | rfl | rfl <;> simp [Role.parts, statementRoles] at part ⊢
    have nested : x ∈ t.nested y := by
      refine arranged.mem_nested_of_below process ?_ ⟨role, sequential, plays⟩
      rcases inside with rfl | inside
      · exact .child child.1
      · exact (Below.child child.1).trans inside
    refine List.mem_flatMap.mpr ⟨x, nested, ?_⟩
    obtain ⟨c, found, rfl⟩ := Option.map_eq_some_iff.mp plays
    rw [ownReads_eq plays sequential fun l => unbounding x l above, membersOf_of_construct? found]
    refine formed.mem_members_of_plain found ?_ (Construct.plain_of_statementRoles sequential).1 listed_read ⟨above, read⟩
    refine formed.pos_of_ne_file found ?_
    rintro rfl
    simp [Construct.role, statementRoles] at sequential

end Arranged

theorem role?_eq_write_iff : t.role? id = some .write ↔ ∃ name, t.construct? id = some (.write name) := by
  constructor
  · intro plays
    obtain ⟨c, known, same⟩ := Option.map_eq_some_iff.mp plays
    cases c <;> simp only [Construct.role, reduceCtorEq] at same
    exact ⟨_, known⟩
  · rintro ⟨name, known⟩
    exact role?_of_construct? known

theorem role?_eq_read_iff :
    t.role? id = some .read ↔ ∃ name isElement, t.construct? id = some (.read name isElement) := by
  constructor
  · intro plays
    obtain ⟨c, known, same⟩ := Option.map_eq_some_iff.mp plays
    cases c <;> simp only [Construct.role, reduceCtorEq] at same
    exact ⟨_, _, known⟩
  · rintro ⟨name, isElement, known⟩
    exact role?_of_construct? known

/-- What a process of a parsed text writes and reads can be collected, and comes in the order in which it was built: the
writes below the process, and the reads below one of its statements that are no bounds of a loop. A memo gives the same
lists, whatever was asked before. -/
theorem flattened_of_parse {path : String} {text : Bytes} (parsed : parse path text = .ok t) (rules : InferenceRules)
    {process : Nat} {p : Process} (known : t.construct? process = some (.process p)) :
    ∃ writes reads : List NodeId,
      (t.facts rules : Facts (Except Fault)).flatWrites process = .ok writes ∧
      (t.facts rules : Facts (Except Fault)).flatReads process = .ok reads ∧
      (∀ ports memo, Memo.Sound t rules ports memo →
        ((Memo.facts t rules).flatWrites process memo).1 = .ok writes ∧
        ((Memo.facts t rules).flatReads process memo).1 = .ok reads) ∧
      writes.Pairwise (· < ·) ∧ reads.Pairwise (· < ·) ∧
      (∀ id : Nat, id ∈ writes ↔ t.Below process id ∧ ∃ name, t.construct? id = some (.write name)) ∧
      ∀ id : Nat, id ∈ reads ↔
        (∃ statement : Nat, some statement ∈ p.statements ∧ t.Below statement id) ∧
          (∃ name isElement, t.construct? id = some (.read name isElement)) ∧
          ∀ parent l, t.parent? id = some parent → t.construct? parent ≠ some (.loop l) := by
  have arranged := arranged_of_parse parsed
  have formed := arranged.toWellFormed
  have packed : ∀ i : Nat, 0 < i → i < t.nodes.size → t.Packed i := fun i => packed_of_parse parsed
  have writes : (t.facts rules : Facts (Except Fault)).flatWrites process =
      .ok ((t.nested process).flatMap t.ownWrites) :=
    congrArg (liftTree (m := Except Fault)) (formed.flatten_process known)
  have reads : (t.facts rules : Facts (Except Fault)).flatReads process =
      .ok ((t.nested process).flatMap t.ownReads) :=
    congrArg (liftTree (m := Except Fault)) (formed.flatten_process known)
  refine ⟨_, _, writes, reads, fun ports memo sound => ?_, ?_, ?_, fun id => ?_, fun id => ?_⟩
  · rw [← writes, ← reads]
    exact ⟨(Memo.computes_flatWrites process memo sound).1, (Memo.computes_flatReads process memo sound).1⟩
  · refine nested_pairwise formed packed (formed.ordered (.inr rfl) fun x ⟨role, among, plays⟩ => ?_)
    rw [ownWrites_eq plays among]
  · exact nested_pairwise formed packed
      (formed.ordered (.inl rfl) fun x ⟨role, among, plays⟩ => ownReads_sublist plays among)
  · rw [arranged.mem_nestedWrites_iff (role?_of_construct? known), role?_eq_write_iff]
  · rw [arranged.mem_nestedReads_iff known, role?_eq_read_iff]

/-- A process with a loop in the branch of an if statement and an assignment in the arm of a case statement. -/
def nestedStatements : Bytes := Bytes.ofString
  ("architecture a of e is\nbegin\nprocess (clk)\nvariable v : t := k;\nbegin\nif c then x <= d;\n" ++
    "elsif r(i) then\nfor i in m to n loop\ny(j) <= f;\nend loop;\nelse\nz <= g;\nend if;\n" ++
    "case s is\nwhen h => w <= u;\nend case;\nend process;\nend;\n")

/-- The sensitivity list, the initial value and the bounds of the loop are not among the reads. -/
theorem nestedStatements_flattened :
    ∃ t p, parse "design.vhd" nestedStatements = .ok t ∧ t.construct? 2 = some (.process p) ∧
      (t.facts .standard : Facts (Except Fault)).flatWrites 2 = .ok [10, 19, 23, 30] ∧
      (t.facts .standard : Facts (Except Fault)).flatReads 2 = .ok [8, 11, 13, 14, 20, 21, 24, 26, 28, 31] ∧
      (∀ id : Nat, id ∈ [10, 19, 23, 30] ↔ t.Below 2 id ∧ ∃ name, t.construct? id = some (.write name)) ∧
      ∀ id : Nat, id ∈ [8, 11, 13, 14, 20, 21, 24, 26, 28, 31] ↔
        (∃ statement : Nat, some statement ∈ p.statements ∧ t.Below statement id) ∧
          (∃ name isElement, t.construct? id = some (.read name isElement)) ∧
          ∀ parent l, t.parent? id = some parent → t.construct? parent ≠ some (.loop l) := by
  obtain ⟨t, parsed, found⟩ := exists_ok_of_any (show (parse "design.vhd" nestedStatements).toOption.any (fun t =>
    t.role? 2 = some .process ∧
      ((t.facts .standard : Facts (Except Fault)).flatWrites 2).toOption = some [10, 19, 23, 30] ∧
      ((t.facts .standard : Facts (Except Fault)).flatReads 2).toOption =
        some [8, 11, 13, 14, 20, 21, 24, 26, 28, 31]) = true by
      rw [nestedStatements, Bytes.ofString_append, Bytes.ofString_append, Bytes.ofString_ofList, Bytes.ofString_ofList,
        Bytes.ofString_ofList]
      decide +kernel)
  obtain ⟨process, written, read⟩ := of_decide_eq_true found
  obtain ⟨c, known, same⟩ := Option.map_eq_some_iff.mp process
  cases c <;> simp only [Construct.role, reduceCtorEq] at same
  rename_i p
  obtain ⟨writes, reads, writes_eq, reads_eq, _, _, _, mem_writes, mem_reads⟩ := flattened_of_parse parsed .standard known
  rw [writes_eq] at written
  rw [reads_eq] at read
  cases written
  cases read
  exact ⟨t, p, parsed, known, writes_eq, reads_eq, mem_writes, mem_reads⟩

end Tree
end DesignLint
