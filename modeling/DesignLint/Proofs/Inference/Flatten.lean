import DesignLint.Inference.Facts
import DesignLint.Proofs.Tree.Traversal

/-! Flattened statements. Collecting what statements contribute never fails on a well-formed tree, and gives
what a traversal of the statements gives, node by node. -/
namespace DesignLint

theorem mapM_eq_ok {ε α β : Type} {f : α → Except ε β} {g : α → β} {xs : List α}
    (each : ∀ x ∈ xs, f x = .ok (g x)) : xs.mapM f = .ok (xs.map g) := by
  induction xs with
  | nil => rfl
  | cons x xs ih =>
    rw [List.mapM_cons, each x List.mem_cons_self, ih fun y member => each y (List.mem_cons_of_mem x member)]
    rfl

theorem map_some_reduceOption {α : Type} {xs : List (Option α)} (present : none ∉ xs) :
    xs.reduceOption.map some = xs := by
  induction xs with
  | nil => rfl
  | cons x xs ih =>
    obtain ⟨here, later⟩ := not_or.mp (List.mem_cons.not.mp present)
    cases x with
    | none => exact absurd rfl here
    | some x => rw [List.reduceOption_cons_of_some, List.map_cons, ih later]

namespace Tree

/-- The roles that sequential statements are made of. -/
def statementRoles : List Role := [.clause, .arm, .statement]

/-- What a node contributes by itself when statements are flattened. -/
def contribution (t : Tree) (ofAssignment : Assignment → List NodeId) (ofClause : IfClause → List NodeId)
    (ofCase : CaseStatement → List NodeId) (ofArm : CaseArm → List NodeId) (id : Nat) : List NodeId :=
  match t.construct? id with
  | some (.assignment a) => ofAssignment a
  | some (.ifClause c) => ofClause c
  | some (.caseStatement s) => ofCase s
  | some (.caseArm a) => ofArm a
  | _ => []

/-- Statements with enough levels for everything inside them. -/
def Flattenable (t : Tree) (levels : Nat) (ids : List Nat) : Prop :=
  ∀ id ∈ ids, t.role? id = some .statement ∧ t.nodes.size < levels + id

variable {t : Tree} {ofAssignment : Assignment → List NodeId} {ofClause : IfClause → List NodeId}
  {ofCase : CaseStatement → List NodeId} {ofArm : CaseArm → List NodeId} {levels id : Nat} {ids : List Nat}

theorem listed_statementRoles : ∀ role ∈ statementRoles, role.Listed := by
  intro role member c
  simp only [statementRoles, List.mem_cons, List.not_mem_nil, or_false] at member
  rcases member with rfl | rfl | rfl <;> cases c <;> rfl

theorem lt_size_of_role? {role : Role} (plays : t.role? id = some role) : id < t.nodes.size := by
  obtain ⟨c, known, _⟩ := Option.map_eq_some_iff.mp plays
  exact lt_size_of_construct? known

theorem under_append (a b : List Nat) (roles : List Role) :
    t.under roles (a ++ b) = t.under roles a ++ t.under roles b := by
  rw [under, under, under]
  cases t.nodes.size with
  | zero => rfl
  | succ levels => exact List.flatMap_append

theorem under_nil (roles : List Role) : t.under roles [] = [] := by
  rw [under]
  cases t.nodes.size <;> rfl

/-- The statements directly inside a node, and that there are levels enough for them. -/
theorem WellFormed.flattenable (formed : t.WellFormed) {parent : Nat} {c : Construct}
    (known : t.construct? id = some c) (below : parent ≤ id) (enough : t.nodes.size < levels + 1 + parent)
    (body : t.membersOf .statement id = c.statements.reduceOption) (ne : c ≠ .file) (plain : c.initial? = none) :
    c.statements = (t.membersOf .statement id).map some ∧ t.Flattenable levels (t.membersOf .statement id) := by
  refine ⟨by rw [body, map_some_reduceOption (formed.holds known ne plain).present], fun x member => ?_⟩
  have child := formed.child_of_mem (listed_statementRoles .statement (by simp [statementRoles])) member
  have := formed.rooted.lt_of_parent? child.1
  exact ⟨child.2, by omega⟩

theorem kids_statementRoles {c : Construct} (known : t.construct? id = some c) :
    t.kids statementRoles id = c.members .clause ++ (c.members .arm ++ c.members .statement) := by
  simp [kids, statementRoles, membersOf_of_construct? known]

section

variable {inside : List (Option NodeId) → Except TreeFault (List NodeId)}

/-- The statements inside a node from `first` on are collected as a traversal gives them. -/
def Collects (t : Tree) (inside : List (Option NodeId) → Except TreeFault (List NodeId)) (own : Nat → List NodeId)
    (first : Nat) : Prop :=
  ∀ x c, first ≤ x → t.construct? x = some c → c ≠ .file → c.initial? = none →
    t.membersOf .statement x = c.statements.reduceOption →
    inside c.statements = .ok ((t.under statementRoles (t.membersOf .statement x)).flatMap own)

/-- A clause or an arm contributes what a traversal of it gives. -/
theorem flattenBranch_eq {branch? : Construct → Option (List NodeId × List (Option NodeId))} {x : Nat}
    {c : Construct} {own : Nat → List NodeId} {first : Nat} (collects : t.Collects inside own first)
    (below : first ≤ x) (known : t.construct? x = some c) (branch : branch? c = some (own x, c.statements))
    (only : t.kids statementRoles x = c.statements.reduceOption)
    (body : t.membersOf .statement x = c.statements.reduceOption) (ne : c ≠ .file) (plain : c.initial? = none) :
    t.flattenBranch inside branch? x =
      .ok ((x :: t.under statementRoles (t.kids statementRoles x)).flatMap own) := by
  have collected := collects x c below known ne plain body
  rw [body] at collected
  rw [flattenBranch, get?, known, Option.bind_some, branch, List.flatMap_cons, only]
  simp only [collected]
  rfl

/-- A statement contributes what a traversal of it gives, if that holds of the statements inside it. -/
theorem WellFormed.flattenStatement_eq (formed : t.WellFormed) (plays : t.role? id = some .statement)
    (collects : t.Collects inside (t.contribution ofAssignment ofClause ofCase ofArm) id) :
    t.flattenStatement ofAssignment ofClause ofCase ofArm inside (some id) =
      .ok ((id :: t.under statementRoles (t.kids statementRoles id)).flatMap
        (t.contribution ofAssignment ofClause ofCase ofArm)) := by
  obtain ⟨c, known, same⟩ := Option.map_eq_some_iff.mp plays
  -- Clauses and arms stand one step further down.
  have part (role : Role) (among : role ∈ statementRoles) {x : Nat} (member : x ∈ c.members role) :
      ∃ c', t.construct? x = some c' ∧ c'.role = role ∧ id ≤ x := by
    rw [← membersOf_of_construct? known] at member
    obtain ⟨parent, plays⟩ := formed.child_of_mem (listed_statementRoles role among) member
    obtain ⟨c', known', same⟩ := Option.map_eq_some_iff.mp plays
    exact ⟨c', known', same, Nat.le_of_lt (formed.rooted.lt_of_parent? parent)⟩
  have exist (role : Role) (among : role ∈ statementRoles) : ∀ x ∈ c.members role, x < t.nodes.size :=
    fun x member => (part role among member).elim fun _ found => lt_size_of_construct? found.1
  rw [flattenStatement, known, List.flatMap_cons, kids_statementRoles known]
  cases c <;> simp only [Construct.role, reduceCtorEq] at same
  case assignment a =>
    simp [Construct.members, Construct.statements, contribution, known, under_nil]
    rfl
  case ifStatement s =>
    have branches : ∀ clause ∈ s.clauses, t.flattenBranch inside (clauseBranch? ofClause) clause =
        .ok ((clause :: t.under statementRoles (t.kids statementRoles clause)).flatMap
          (t.contribution ofAssignment ofClause ofCase ofArm)) := by
      intro clause member
      obtain ⟨c, known', same', below⟩ := part .clause (by simp [statementRoles]) member
      cases c <;> simp only [Construct.role, reduceCtorEq] at same'
      refine flattenBranch_eq collects below known' ?_ ?_ (membersOf_of_construct? known') (by simp) rfl
      · simp [clauseBranch?, contribution, known', Construct.statements]
      · simp [kids_statementRoles known', Construct.members]
    have rest := collects id _ (Nat.le_refl _) known (by simp) rfl (membersOf_of_construct? known)
    simp only [Construct.statements, membersOf_of_construct? known] at rest
    have clauses := under_eq formed listed_statementRoles (exist .clause (by simp [statementRoles]))
    simp only [mapM_eq_ok branches, rest]
    simp only [Construct.members, List.nil_append, under_append, List.flatMap_append] at clauses ⊢
    rw [clauses, List.flatMap_assoc]
    simp only [contribution, known]
    rfl
  case caseStatement s =>
    have branches : ∀ arm ∈ s.arms, t.flattenBranch inside (armBranch? ofArm) arm =
        .ok ((arm :: t.under statementRoles (t.kids statementRoles arm)).flatMap
          (t.contribution ofAssignment ofClause ofCase ofArm)) := by
      intro arm member
      obtain ⟨c, known', same', below⟩ := part .arm (by simp [statementRoles]) member
      cases c <;> simp only [Construct.role, reduceCtorEq] at same'
      refine flattenBranch_eq collects below known' ?_ ?_ (membersOf_of_construct? known') (by simp) rfl
      · simp [armBranch?, contribution, known', Construct.statements]
      · simp [kids_statementRoles known', Construct.members]
    have arms := under_eq formed listed_statementRoles (exist .arm (by simp [statementRoles]))
    simp only [mapM_eq_ok branches]
    simp only [Construct.members, Construct.statements, List.nil_append, List.append_nil,
      List.reduceOption_nil] at arms ⊢
    rw [arms, List.flatMap_assoc]
    simp only [contribution, known]
    rfl
  case loop l =>
    have body := collects id _ (Nat.le_refl _) known (by simp) rfl (membersOf_of_construct? known)
    simp only [Construct.statements, membersOf_of_construct? known] at body
    simp [body, Construct.members, contribution, known]

end

/-- Flattening a list of statements is traversing it. -/
theorem WellFormed.flatten_eq (formed : t.WellFormed) (some_ : 0 < levels) (flattenable : t.Flattenable levels ids) :
    t.flatten ofAssignment ofClause ofCase ofArm levels (ids.map some) =
      .ok ((t.under statementRoles ids).flatMap (t.contribution ofAssignment ofClause ofCase ofArm)) := by
  induction levels generalizing ids with
  | zero => contradiction
  | succ levels ih =>
    have exist : ∀ id ∈ ids, id < t.nodes.size := fun id member => lt_size_of_role? (flattenable id member).1
    have each : ∀ id ∈ ids, (t.flattenStatement ofAssignment ofClause ofCase ofArm
        (t.flatten ofAssignment ofClause ofCase ofArm levels) ∘ some) id =
        .ok ((id :: t.under statementRoles (t.kids statementRoles id)).flatMap
          (t.contribution ofAssignment ofClause ofCase ofArm)) := by
      intro id member
      obtain ⟨plays, enough⟩ := flattenable id member
      refine formed.flattenStatement_eq plays fun x c below known ne plain body => ?_
      obtain ⟨same, fewer⟩ := formed.flattenable known below enough body ne plain
      have := exist id member
      rw [same]
      exact ih (by omega) fewer
    rw [under_eq formed listed_statementRoles exist, List.flatMap_assoc, flatten, List.mapM_map, mapM_eq_ok each]
    rfl

end Tree
end DesignLint
