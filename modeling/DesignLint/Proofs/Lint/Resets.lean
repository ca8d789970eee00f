import DesignLint.Proofs.Inference.Order
import DesignLint.Proofs.Inference.Roots
import DesignLint.Proofs.Lint.Completion
import DesignLint.Proofs.Lint.Schedule
import DesignLint.Proofs.Tree.Fields

/-! The check for missing resets. What it asks of a process is a matter of the tree: the clauses of the if statements
directly inside it, the writes anywhere below it, and the assignments directly inside a reset clause. The last register
process of a body decides where a finding stands. -/
namespace DesignLint

namespace Tree

/-- A clause of an if statement that stands directly in a process. -/
def TopClause (t : Tree) (process clause : Nat) (c : IfClause) : Prop :=
  t.construct? clause = some (.ifClause c) ∧
    ∃ statement : Nat, t.parent? statement = some process ∧ t.parent? clause = some statement

/-- A process with a top-level clause on a clock edge. -/
def Clocked (t : Tree) (rules : InferenceRules) (process : Nat) : Prop :=
  ∃ clause c, t.TopClause process clause c ∧ rules.clock.matchesIn c.conditionText = true

/-- A process with a clock edge that writes a name, however deep in its statements. -/
def Registers (t : Tree) (rules : InferenceRules) (name : Bytes) (process : Nat) : Prop :=
  t.Clocked rules process ∧
    ∃ id text, t.Below process id ∧ t.construct? id = some (.write text) ∧ sameName text name = true

/-- A process that assigns a name directly in a top-level clause on a reset. -/
def ResetsName (t : Tree) (rules : InferenceRules) (name : Bytes) (process : Nat) : Prop :=
  ∃ clause c, t.TopClause process clause c ∧ rules.reset.matchesIn c.conditionText = true ∧
    ∃ assignment id text, t.parent? assignment = some clause ∧ t.parent? id = some assignment ∧
      t.construct? id = some (.write text) ∧ sameName text name = true

variable {t : Tree} {rules : InferenceRules} {y id u signal : Nat} {p : Process} {c : IfClause} {name text : Bytes}
  {role : Role}

theorem mem_writtenTexts_iff {ids : List NodeId} :
    text ∈ t.writtenTexts ids ↔ ∃ id ∈ ids, t.construct? id = some (.write text) := by
  simp only [writtenTexts, List.mem_filterMap, get?_eq_some_iff Construct.write?_eq_some_iff]

/-- The top-level clauses that are collected from a process. -/
theorem WellFormed.mem_topClauses_iff (formed : t.WellFormed) (known : t.construct? y = some (.process p)) :
    c ∈ t.topClauses (t.processStatements y) ↔ ∃ clause, t.TopClause y clause c := by
  have listed : Role.clause.Listed := listed_statementRoles .clause (by simp [statementRoles])
  have statements : t.processStatements y = p.statements := by
    rw [processStatements, get?, known]
    rfl
  have statement_iff (st : Nat) : some st ∈ p.statements ↔ t.Child .statement y st :=
    formed.mem_statements_iff known (by simp) rfl rfl
  rw [statements, topClauses, List.mem_flatMap]
  constructor
  · rintro ⟨statement, member, found⟩
    split at found
    · rename_i branching chosen
      obtain ⟨st, rfl, chosen⟩ := Option.bind_eq_some_iff.mp chosen
      obtain ⟨clause, among, isClause⟩ := List.mem_filterMap.mp found
      have isIf := (get?_eq_some_iff Construct.ifStatement?_eq_some_iff).mp chosen
      have inside : clause ∈ t.membersOf .clause st := by
        rw [membersOf_of_construct? isIf]
        exact among
      have child := formed.child_of_mem listed inside
      exact ⟨clause, (get?_eq_some_iff Construct.ifClause?_eq_some_iff).mp isClause, st,
        ((statement_iff st).mp member).1, child.1⟩
    · contradiction
  · rintro ⟨clause, isClause, st, above, around⟩
    have positive := Nat.zero_lt_of_lt (formed.rooted.lt_of_parent? above)
    obtain ⟨branching, found⟩ := exists_construct? (lt_size_of_parent? above)
    have among := formed.mem_members_of_child found positive listed (by simp) ⟨around, role?_of_construct? isClause⟩
    have isIf : ∃ s, branching = .ifStatement s := by
      cases branching <;> simp [Construct.members, Body.members] at among ⊢
    obtain ⟨s, rfl⟩ := isIf
    refine ⟨some st, (statement_iff st).mpr ⟨above, role?_of_construct? found⟩, ?_⟩
    have chosen : (some st).bind (t.get? Construct.ifStatement?) = some s :=
      (get?_eq_some_iff Construct.ifStatement?_eq_some_iff).mpr found
    rw [chosen]
    exact List.mem_filterMap.mpr ⟨clause, among, (get?_eq_some_iff Construct.ifClause?_eq_some_iff).mpr isClause⟩

theorem WellFormed.testsClock_iff (formed : t.WellFormed) (known : t.construct? y = some (.process p)) :
    t.testsClock rules (t.processStatements y) = true ↔ t.Clocked rules y := by
  rw [testsClock, List.any_eq_true]
  constructor
  · rintro ⟨c, member, tests⟩
    obtain ⟨clause, top⟩ := (formed.mem_topClauses_iff known).mp member
    exact ⟨clause, c, top, tests⟩
  · rintro ⟨clause, c, top, tests⟩
    exact ⟨c, (formed.mem_topClauses_iff known).mpr ⟨clause, top⟩, tests⟩

/-- What stands directly in a clause and writes is an assignment. -/
theorem Arranged.exists_assignment (arranged : t.Arranged) {clause assignment : Nat}
    (known : t.construct? clause = some (.ifClause c)) (above : t.parent? assignment = some clause)
    (around : t.parent? id = some assignment) (write : t.role? id = some .write) :
    ∃ a, t.construct? assignment = some (.assignment a) ∧ id ∈ a.writes := by
  have positive := Nat.zero_lt_of_lt (arranged.rooted.lt_of_parent? above)
  obtain ⟨inner, found⟩ := exists_construct? (lt_size_of_parent? above)
  have part := arranged.role_mem_parts above (role?_of_construct? known) (role?_of_construct? found)
  have member := arranged.mem_members_of_child found positive listed_write (by simp) ⟨around, write⟩
  cases inner <;> simp [Construct.members, Body.members] at member
  case assignment a => exact ⟨a, found, member⟩
  case mapping => simp [Construct.role, Role.parts] at part

/-- The names that are collected as the resets of a process. -/
theorem Arranged.any_resetNames_iff (arranged : t.Arranged) (known : t.construct? y = some (.process p)) :
    (t.resetNames rules (t.processStatements y)).any (sameName · name) = true ↔ t.ResetsName rules name y := by
  have formed := arranged.toWellFormed
  rw [List.any_eq_true]
  constructor
  · rintro ⟨text, member, same⟩
    obtain ⟨c, among, member⟩ := List.mem_flatMap.mp member
    obtain ⟨top, resets⟩ := List.mem_filter.mp among
    obtain ⟨clause, top⟩ := (formed.mem_topClauses_iff known).mp top
    obtain ⟨statement, inside, member⟩ := List.mem_flatMap.mp member
    split at member
    · rename_i a chosen
      obtain ⟨assignment, rfl, chosen⟩ := Option.bind_eq_some_iff.mp chosen
      have isAssignment := (get?_eq_some_iff Construct.assignment?_eq_some_iff).mp chosen
      obtain ⟨id, listed, write⟩ := mem_writtenTexts_iff.mp member
      have child := (formed.mem_statements_iff top.1 (by simp) rfl rfl).mp inside
      have inner : id ∈ t.membersOf .write assignment := by
        rw [membersOf_of_construct? isAssignment]
        exact listed
      have written := formed.child_of_mem listed_write inner
      exact ⟨clause, c, top, resets, assignment, id, text, child.1, written.1, write, same⟩
    · contradiction
  · rintro ⟨clause, c, top, resets, assignment, id, text, above, around, write, same⟩
    obtain ⟨a, isAssignment, listed⟩ := arranged.exists_assignment top.1 above around (role?_of_construct? write)
    refine ⟨text, List.mem_flatMap.mpr ⟨c, ?_, List.mem_flatMap.mpr ⟨some assignment, ?_, ?_⟩⟩, same⟩
    · exact List.mem_filter.mpr ⟨(formed.mem_topClauses_iff known).mpr ⟨clause, top⟩, resets⟩
    · exact (formed.mem_statements_iff top.1 (by simp) rfl rfl).mpr ⟨above, role?_of_construct? isAssignment⟩
    · have chosen : (some assignment).bind (t.get? Construct.assignment?) = some a :=
        (get?_eq_some_iff Construct.assignment?_eq_some_iff).mpr isAssignment
      rw [chosen]
      exact mem_writtenTexts_iff.mpr ⟨id, listed, write⟩

/-- Whether a process has a clock edge and writes a name. -/
def registers (t : Tree) (rules : InferenceRules) (name : Bytes) (process : Nat) : Bool :=
  t.testsClock rules (t.processStatements process) &&
    (t.writtenTexts ((t.nested process).flatMap t.ownWrites)).any (sameName · name)

/-- Whether a process has a clock edge and resets a name. -/
def resets (t : Tree) (rules : InferenceRules) (name : Bytes) (process : Nat) : Bool :=
  t.testsClock rules (t.processStatements process) &&
    (t.resetNames rules (t.processStatements process)).any (sameName · name)

theorem Arranged.registers_iff (arranged : t.Arranged) (known : t.construct? y = some (.process p)) :
    t.registers rules name y = true ↔ t.Registers rules name y := by
  rw [registers, Bool.and_eq_true, arranged.toWellFormed.testsClock_iff known, Registers, List.any_eq_true]
  refine and_congr_right fun _ => ?_
  simp only [mem_writtenTexts_iff, arranged.mem_nestedWrites_iff (role?_of_construct? known)]
  constructor
  · rintro ⟨text, ⟨id, ⟨below, _⟩, write⟩, same⟩
    exact ⟨id, text, below, write, same⟩
  · rintro ⟨id, text, below, write, same⟩
    exact ⟨text, ⟨id, ⟨below, role?_of_construct? write⟩, write⟩, same⟩

theorem Arranged.resets_iff (arranged : t.Arranged) (known : t.construct? y = some (.process p)) :
    t.resets rules name y = true ↔ t.Clocked rules y ∧ t.ResetsName rules name y := by
  rw [resets, Bool.and_eq_true, arranged.toWellFormed.testsClock_iff known, arranged.any_resetNames_iff known]

/-- The search goes on to the last process that it accepts. -/
theorem lastRegister_eq {isRegister : NodeId → Except Fault Bool} {flatWrites : NodeId → Except Fault (List NodeId)}
    {clocked : NodeId → Bool} {writes : NodeId → List NodeId} {processes : List NodeId}
    (answered : ∀ y ∈ processes, isRegister y = .ok (clocked y)) (written : ∀ y ∈ processes, flatWrites y = .ok (writes y))
    (found : Option NodeId) :
    t.lastRegister isRegister flatWrites name found processes =
      .ok ((processes.reverse.find? fun y => clocked y && (t.writtenTexts (writes y)).any (sameName · name)).or found) := by
  induction processes generalizing found with
  | nil => rfl
  | cons process rest ih =>
    have ih := ih (fun y member => answered y (List.mem_cons_of_mem _ member))
      fun y member => written y (List.mem_cons_of_mem _ member)
    rw [lastRegister, answered process List.mem_cons_self, List.reverse_cons, List.find?_append, Option.or_assoc]
    cases clock : clocked process with
    | false =>
      change t.lastRegister isRegister flatWrites name found rest = _
      simp [ih, clock]
    | true =>
      rw [written process List.mem_cons_self]
      change t.lastRegister isRegister flatWrites name _ rest = _
      rw [ih, List.find?_singleton, clock, Bool.true_and]
      cases (t.writtenTexts (writes process)).any (sameName · name) <;> rfl

theorem IsUnit.exists_construct? (unit : t.IsUnit u) :
    ∃ c, t.construct? u = some c ∧ c ≠ .file ∧ c.initial? = none ∧ (∀ role ≠ .use, c.lists role = true) ∧
      ∀ role ≠ .read, c.members role = (t.bodyOf u).members role := by
  obtain ⟨c, known⟩ : ∃ c, t.construct? u = some c :=
    Tree.exists_construct? (unit.elim lt_size_of_role? lt_size_of_role?)
  rw [IsUnit, role?_of_construct? known] at unit
  refine ⟨c, known, ?_⟩
  rw [bodyOf, known]
  cases c <;> simp only [Construct.role, Option.some.injEq, reduceCtorEq, or_false, or_self] at unit
  all_goals
    refine ⟨by simp, rfl, fun role other => ?_, fun role other => ?_⟩
    · cases role <;> first | rfl | contradiction
    · cases role <;> first | rfl | contradiction

/-- The body of a unit lists what stands directly in the unit, in the order of the text. -/
theorem WellFormed.bodyOf_members (formed : t.WellFormed) (unit : t.IsUnit u) (role : Role) (read : role ≠ .read)
    (use : role ≠ .use) :
    ((t.bodyOf u).members role).Pairwise (· < ·) ∧ ∀ id : Nat, id ∈ (t.bodyOf u).members role ↔ t.Child role u id := by
  obtain ⟨c, known, isFile, plain, lists, members⟩ := unit.exists_construct?
  rw [← members role read]
  refine ⟨?_, fun id => formed.mem_members_iff known isFile plain (lists role use)⟩
  rw [← (formed.holds known isFile plain).lists role (lists role use)]
  exact (t.partsOf_pairwise u).sublist (Part.pick_sublist role _)

/-- The processes that can register a signal of a unit are those of the unit. -/
theorem candidateProcesses_eq (unit : t.IsUnit u) (parent : t.parent? signal = some u) :
    t.candidateProcesses signal = .ok (t.bodyOf u).processes := by
  obtain ⟨c, known⟩ : ∃ c, t.construct? u = some c :=
    Tree.exists_construct? (unit.elim lt_size_of_role? lt_size_of_role?)
  rw [IsUnit, role?_of_construct? known] at unit
  rw [candidateProcesses, parent, bodyOf, known]
  cases c <;> simp only [Construct.role, Option.some.injEq, reduceCtorEq, or_false, or_self] at unit
  all_goals
    simp only [known]
    rfl

theorem WellFormed.exists_process (formed : t.WellFormed) (unit : t.IsUnit u) (member : y ∈ (t.bodyOf u).processes) :
    ∃ p, t.construct? y = some (.process p) := by
  have child := ((formed.bodyOf_members unit .process (by simp) (by simp)).2 y).mp member
  obtain ⟨c, known, same⟩ := Option.map_eq_some_iff.mp child.2
  cases c <;> simp only [Construct.role, reduceCtorEq] at same
  exact ⟨_, known⟩

section

variable (roots : ∀ id, t.checkRoot id = .ok ())
include roots

theorem isRegisterProcess_ok (y : Nat) :
    (t.facts rules : Facts (Except Fault)).isRegisterProcess y = .ok (t.testsClock rules (t.processStatements y)) := by
  change (liftTree (t.checkRoot y) >>= fun _ => pure _ : Except Fault Bool) = _
  rw [roots y]
  rfl

theorem resets_ok (y : Nat) :
    (t.facts rules : Facts (Except Fault)).resets y =
      .ok (if t.testsClock rules (t.processStatements y) then t.resetNames rules (t.processStatements y) else []) := by
  change (t.computeResets rules (t.facts rules : Facts (Except Fault)).isRegisterProcess y) = _
  rw [computeResets, isRegisterProcess_ok roots, roots y]
  cases t.testsClock rules (t.processStatements y) <;> rfl

theorem resetByAny_ok (name : Bytes) (processes : List NodeId) :
    Lint.resetByAny (t.facts rules : Facts (Except Fault)) name processes = .ok (processes.any (t.resets rules name)) := by
  induction processes with
  | nil => rfl
  | cons process rest ih =>
    rw [Lint.resetByAny, resets_ok roots, List.any_cons, resets]
    cases t.testsClock rules (t.processStatements process) with
    | false => exact ih
    | true =>
      rw [Bool.true_and]
      change (if (t.resetNames rules (t.processStatements process)).any (sameName · name) = true then _ else _) = _
      cases (t.resetNames rules (t.processStatements process)).any (sameName · name)
      · exact ih
      · rfl

/-- The process that registers a signal of a unit is the last one of the unit that does. -/
theorem registerProcess_ok (formed : t.WellFormed) (unit : t.IsUnit u) (parent : t.parent? signal = some u) :
    (t.facts rules : Facts (Except Fault)).registerProcess signal =
      .ok ((t.bodyOf u).processes.reverse.find? (t.registers rules ((t.nameOf? signal).getD []))) := by
  have written : ∀ y ∈ (t.bodyOf u).processes, (t.facts rules : Facts (Except Fault)).flatWrites y =
      .ok ((t.nested y).flatMap t.ownWrites) := by
    intro y member
    obtain ⟨p, known⟩ := formed.exists_process unit member
    exact congrArg (liftTree (m := Except Fault)) (formed.flatten_process known)
  change (liftTree (t.candidateProcesses signal) >>= _ : Except Fault _) = _
  rw [candidateProcesses_eq unit parent]
  refine (lastRegister_eq (fun y _ => isRegisterProcess_ok roots y) written none).trans ?_
  rw [Option.or_none]
  rfl

end

end Tree

namespace Lint

open Tree

/-- The finding about a signal that no process resets. It spans the first line of the process that registers it. -/
def Subject.missingReset (s : Subject) (name : Bytes) (process : Nat) : Diagnostic :=
  .ofRule .missingReset s.tree.path (Bytes.ofString "Reset '" ++ name ++ Bytes.ofString "' missing")
    ⟨(s.tree.span process).start, ⟨(s.tree.span process).start.line, Coordinate.endOfLine⟩⟩

/-- A finding about a name: processes of the unit register it, none of them that has a clock edge resets it, and the
finding stands at the last of those that register it. -/
def Subject.MissesReset (s : Subject) (rules : InferenceRules) (u : Nat) (name : Bytes) (d : Diagnostic) : Prop :=
  ∃ before process after, (s.tree.bodyOf u).processes = before ++ process :: after ∧
    s.tree.Registers rules name process ∧ (∀ later ∈ after, ¬s.tree.Registers rules name later) ∧
    (∀ other ∈ (s.tree.bodyOf u).processes, s.tree.Clocked rules other → ¬s.tree.ResetsName rules name other) ∧
    d = s.missingReset name process

/-- What the check finds about a signal of a unit. -/
def Subject.resetFinding (s : Subject) (rules : InferenceRules) (u signal : Nat) : Option Diagnostic :=
  let name := (s.tree.nameOf? signal).getD []
  ((s.tree.bodyOf u).processes.reverse.find? (s.tree.registers rules name)).bind fun process =>
    if (s.tree.bodyOf u).processes.any (s.tree.resets rules name) then none else some (s.missingReset name process)

variable {s : Subject} {rules : InferenceRules} {u signal : Nat}

theorem checkReset_eq (formed : s.tree.WellFormed) (roots : ∀ id, s.tree.checkRoot id = .ok ()) (unit : s.tree.IsUnit u)
    (parent : s.tree.parent? signal = some u) :
    checkReset (s.tree.facts rules) s (s.tree.bodyOf u) signal =
      (.ok (s.resetFinding rules u signal).toList : Except Fault _) := by
  rw [checkReset, registerProcess_ok roots formed unit parent, Subject.resetFinding]
  cases (s.tree.bodyOf u).processes.reverse.find? (s.tree.registers rules ((s.tree.nameOf? signal).getD [])) with
  | none => rfl
  | some process =>
    change (resetByAny (s.tree.facts rules) _ _ >>= _ : Except Fault _) = _
    rw [resetByAny_ok roots, Option.bind_some]
    cases (s.tree.bodyOf u).processes.any (s.tree.resets rules ((s.tree.nameOf? signal).getD [])) <;> rfl

/-- The findings about the signals of one unit. -/
theorem checkResets_unit (formed : s.tree.WellFormed) (roots : ∀ id, s.tree.checkRoot id = .ok ())
    (unit : s.tree.IsUnit u) :
    (do return (← (s.tree.bodyOf u).signals.mapM (checkReset (s.tree.facts rules) s (s.tree.bodyOf u))).flatten) =
      (.ok ((s.tree.bodyOf u).signals.filterMap (s.resetFinding rules u)) : Except Fault _) := by
  have findings : ∀ signal ∈ (s.tree.bodyOf u).signals, checkReset (s.tree.facts rules) s (s.tree.bodyOf u) signal =
      (.ok (s.resetFinding rules u signal).toList : Except Fault _) := fun signal listed =>
    checkReset_eq formed roots unit (((formed.bodyOf_members unit .signal (by simp) (by simp)).2 signal).mp listed).1
  rw [mapM_eq_ok findings, List.filterMap_eq_flatMap_toList, List.flatMap_def]
  rfl

/-- The check goes through the signals of all bodies, each body before those inside it. -/
theorem checkResets_eq (formed : s.tree.WellFormed) (roots : ∀ id, s.tree.checkRoot id = .ok ()) :
    checkResets (s.tree.facts rules) s =
      (.ok (s.tree.architecture.elim [] fun a => (s.tree.units a).flatMap fun u =>
        (s.tree.bodyOf u).signals.filterMap (s.resetFinding rules u)) : Except Fault _) := by
  rw [checkResets]
  cases found : s.tree.architecture with
  | none =>
    have none_ : s.tree.bodies = [] := by simp [bodies, architectureUnit?, found]
    rw [none_]
    rfl
  | some a =>
    have architecture := formed.architecture a found
    have each : ∀ u ∈ s.tree.units a, ((fun b => do
        return (← b.signals.mapM (checkReset (s.tree.facts rules) s b)).flatten) ∘ s.tree.bodyOf) u =
          (.ok ((s.tree.bodyOf u).signals.filterMap (s.resetFinding rules u)) : Except Fault _) := fun u member =>
      checkResets_unit formed roots (formed.mem_units architecture u member).1
    rw [formed.bodies_eq found, List.mapM_map, mapM_eq_ok each, Option.elim_some, List.flatMap_def]
    rfl

/-- The last of some processes that passes a test. -/
theorem find?_reverse_eq_some_iff {α : Type} {test : α → Bool} {xs : List α} {x : α} :
    xs.reverse.find? test = some x ↔
      ∃ before after, xs = before ++ x :: after ∧ test x = true ∧ ∀ later ∈ after, ¬test later = true := by
  rw [List.find?_eq_some_iff_append]
  constructor
  · rintro ⟨passes, after, before, split, fail⟩
    refine ⟨before.reverse, after.reverse, ?_, passes, fun later member => ?_⟩
    · rw [← List.reverse_inj, split]
      simp
    · simpa using fail later (List.mem_reverse.mp member)
  · rintro ⟨before, after, rfl, passes, fail⟩
    exact ⟨passes, after.reverse, before.reverse, by simp, fun later member => by simpa using fail later (List.mem_reverse.mp member)⟩

/-- The check finds what there is to be found. -/
theorem resetFinding_eq_some_iff (arranged : s.tree.Arranged) (unit : s.tree.IsUnit u) {o : Declared}
    (known : s.tree.construct? signal = some (.signal o)) {d : Diagnostic} :
    s.resetFinding rules u signal = some d ↔ s.MissesReset rules u o.name d := by
  have name : (s.tree.nameOf? signal).getD [] = o.name := by
    rw [nameOf?, get?, known]
    rfl
  have registers {y : Nat} (member : y ∈ (s.tree.bodyOf u).processes) :
      s.tree.registers rules o.name y = true ↔ s.tree.Registers rules o.name y :=
    (arranged.exists_process unit member).elim fun _ => arranged.registers_iff
  have resets {y : Nat} (member : y ∈ (s.tree.bodyOf u).processes) :
      s.tree.resets rules o.name y = true ↔ s.tree.Clocked rules y ∧ s.tree.ResetsName rules o.name y :=
    (arranged.exists_process unit member).elim fun _ => arranged.resets_iff
  have free : ¬(s.tree.bodyOf u).processes.any (s.tree.resets rules o.name) = true ↔
      ∀ other ∈ (s.tree.bodyOf u).processes, s.tree.Clocked rules other → ¬s.tree.ResetsName rules o.name other := by
    rw [List.any_eq_true, not_exists]
    refine forall_congr' fun other => ?_
    rw [not_and]
    refine imp_congr_right fun member => ?_
    rw [resets member, not_and]
  simp only [Subject.resetFinding, name, Option.bind_eq_some_iff, find?_reverse_eq_some_iff,
    Option.ite_none_left_eq_some, Option.some.injEq]
  constructor
  · rintro ⟨process, ⟨before, after, split, last, rest⟩, unreset, rfl⟩
    have among : process ∈ (s.tree.bodyOf u).processes := by simp [split]
    refine ⟨before, process, after, split, (registers among).mp last, fun later member => ?_, free.mp unreset, rfl⟩
    rw [← registers (by simp [split, member])]
    exact rest later member
  · rintro ⟨before, process, after, split, last, rest, unreset, rfl⟩
    have among : process ∈ (s.tree.bodyOf u).processes := by simp [split]
    refine ⟨process, ⟨before, after, split, (registers among).mpr last, fun later member => ?_⟩, free.mpr unreset, rfl⟩
    rw [registers (by simp [split, member])]
    exact rest later member

/-- The units of an architecture are itself and the generate statements below it. -/
theorem mem_units_iff {t : Tree} (formed : t.WellFormed) {a : Nat} (architecture : t.role? a = some .architecture) :
    u ∈ t.units a ↔ u = a ∨ t.Below a u ∧ t.role? u = some .generate := by
  constructor
  · intro member
    obtain ⟨unit, same | below⟩ := formed.mem_units architecture u member
    · exact .inl same
    · exact .inr ⟨below, unit.resolve_left (formed.not_architecture_below architecture below)⟩
  · rintro (rfl | ⟨below, generate⟩)
    · exact List.mem_cons_self
    · refine formed.mem_units_of_item (formed.mem_items_of_reached ?_ generate (by simp [statementRoles])) generate
      exact formed.reached_of_below architecture below generate (by simp [itemRoles])

/-- A unit comes before the generate statements of its body, each of them followed by those inside it. -/
theorem units_eq {t : Tree} (formed : t.WellFormed) (unit : t.IsUnit u) :
    t.units u = u :: (t.bodyOf u).generates.flatMap t.units := by
  have exist : ∀ g ∈ t.membersOf .generate u, g < t.nodes.size := fun g among =>
    lt_size_of_parent? (formed.child_of_mem (listed_generate _ List.mem_cons_self) among).1
  have generates : t.membersOf .generate u = (t.bodyOf u).generates := membersOf_unit unit (by simp [itemRoles])
  rw [units, under_eq formed listed_generate exist, generates]
  simp only [kids, List.flatMap_singleton]
  rfl

/-- A register process that was found stays in its cell while the resets are asked for. -/
theorem lookup_registerProcess {t : Tree} (memo : Memo) {process : Nat}
    (found : ((Memo.facts t rules).registerProcess signal memo).1 = .ok (some process)) (name : Bytes)
    (processes : List NodeId) :
    (resetByAny (Memo.facts t rules) name processes
      ((Memo.facts t rules).registerProcess signal memo).2).2.registerProcess.lookup signal = some (some process) := by
  have kept : Query.Keeps Memo.registerProcess (resetByAny (Memo.facts t rules) name processes) :=
    keeps_resetByAny t rules (fun _ _ => rfl) (fun _ _ => rfl) name processes
  obtain ⟨compute, asks⟩ : ∃ compute, (Memo.facts t rules).registerProcess signal =
      Memo.memoize Memo.registerProcess (fun memo cells => { memo with registerProcess := cells }) signal compute :=
    ⟨_, rfl⟩
  rw [kept]
  rw [asks] at found ⊢
  exact Memo.lookup_memoize (fun _ _ => rfl) found

/-- For every parsed text that is not too deep, the check for missing resets goes through the architecture and the
generate statements below it, each before those inside it, and through the signals of each in the order of the text. A
signal is reported exactly if a process of its body registers it and none with a clock edge resets it, once, at the last
process that registers it. A memo changes nothing, and the process that it has found stays at hand. -/
theorem checkResets_exact {path : String} {text : Bytes} {t : Tree} (parsed : Tree.parse path text = .ok t)
    (shallow : ∀ id : Nat, id < t.nodes.size → t.depth id ≤ maxDepth) (library : Bytes) (s : Subject)
    (tree : s.tree = { t with library := library }) (rules : InferenceRules) :
    ∃ finding : Nat → Nat → Option Diagnostic,
      checkResets (s.tree.facts rules) s =
        (.ok (s.tree.architecture.elim [] fun a => (s.tree.units a).flatMap fun u =>
          (s.tree.bodyOf u).signals.filterMap (finding u)) : Except Fault _) ∧
      (∀ memo, s.SoundMemo rules memo →
        (checkResets (Memo.facts s.tree rules) s memo).1 = checkResets (s.tree.facts rules) s) ∧
      (∀ memo signal process name processes,
        ((Memo.facts s.tree rules).registerProcess signal memo).1 = .ok (some process) →
          (resetByAny (Memo.facts s.tree rules) name processes
            ((Memo.facts s.tree rules).registerProcess signal memo).2).2.registerProcess.lookup signal =
              some (some process)) ∧
      ∀ a, s.tree.architecture = some a →
        (∀ u : Nat, u ∈ s.tree.units a ↔ u = a ∨ s.tree.Below a u ∧ s.tree.role? u = some .generate) ∧
        ∀ u ∈ s.tree.units a,
          s.tree.units u = u :: (s.tree.bodyOf u).generates.flatMap s.tree.units ∧
          (∀ role ∈ [Role.signal, .process, .generate], ((s.tree.bodyOf u).members role).Pairwise (· < ·) ∧
            ∀ id : Nat, id ∈ (s.tree.bodyOf u).members role ↔ s.tree.Child role u id) ∧
          ∀ signal ∈ (s.tree.bodyOf u).signals, ∃ o, s.tree.construct? signal = some (.signal o) ∧
            ∀ d, finding u signal = some d ↔ s.MissesReset rules u o.name d := by
  have arranged : s.tree.Arranged := tree ▸ (arranged_of_parse parsed).inLibrary library
  have formed := arranged.toWellFormed
  have nodes_eq : s.tree.nodes = t.nodes := by rw [tree]
  have roots := formed.rooted.checkRoot_of_shallow fun id lt =>
    (redrawn_of_nodes_eq nodes_eq).depth_eq ▸ shallow id (nodes_eq ▸ lt)
  refine ⟨s.resetFinding rules, checkResets_eq formed roots, fun memo sound => (computes_checkResets memo sound).1,
    fun memo signal process name processes found => lookup_registerProcess memo found name processes, fun a found => ?_⟩
  have architecture := formed.architecture a found
  refine ⟨fun u => mem_units_iff formed architecture, fun u member => ?_⟩
  obtain ⟨unit, _⟩ := formed.mem_units architecture u member
  refine ⟨units_eq formed unit, fun role among => ?_, fun signal listed => ?_⟩
  · simp only [List.mem_cons, List.not_mem_nil, or_false] at among
    rcases among with rfl | rfl | rfl <;> exact formed.bodyOf_members unit _ (by simp) (by simp)
  · have child := ((formed.bodyOf_members unit .signal (by simp) (by simp)).2 signal).mp listed
    obtain ⟨c, known, same⟩ := Option.map_eq_some_iff.mp child.2
    cases c <;> simp only [Construct.role, reduceCtorEq] at same
    exact ⟨_, known, fun d => resetFinding_eq_some_iff arranged unit known⟩

/-- Two signals and two processes that register the first of them; the second process resets the other signal. -/
def twoRegisters : Bytes := Bytes.ofString
  ("architecture a of e is\nsignal q, r : bit;\nbegin\nprocess (clk) begin\n" ++
    "if rising_edge(clk) then q <= d; r <= d; end if;\nend process;\nprocess (clk) begin\n" ++
    "if reset then r <= d; elsif rising_edge(clk) then q <= r; end if;\nend process;\nend;\n")

/-- Patterns of one word each. -/
def plainRules : InferenceRules := ⟨.ofKnown "edge", .ofKnown "res"⟩

/-- One signal is reported, at the second process. -/
theorem twoRegisters_resets :
    ∃ t, Tree.parse "design.vhd" twoRegisters = .ok t ∧ t.checkRoots = .ok () ∧
      checkResets (t.facts plainRules) (.alone t) =
        (.ok [(Subject.alone t).missingReset (Bytes.ofString "q") 16] : Except Fault _) ∧
      ∃ u ∈ t.units 1, ∃ signal ∈ (t.bodyOf u).signals, ∃ o, t.construct? signal = some (.signal o) ∧
        (Subject.alone t).MissesReset plainRules u o.name ((Subject.alone t).missingReset (Bytes.ofString "q") 16) := by
  obtain ⟨t, parsed, found⟩ := exists_ok_of_any (show (Tree.parse "design.vhd" twoRegisters).toOption.any (fun t =>
    t.checkRoots = .ok () ∧ t.architecture = some 1 ∧
      (checkResets (t.facts plainRules) (.alone t) : Except Fault _).toOption =
        some [(Subject.alone t).missingReset (Bytes.ofString "q") 16]) = true by
      rw [twoRegisters, Bytes.ofString_append, Bytes.ofString_append, Bytes.ofString_ofList, Bytes.ofString_ofList,
        Bytes.ofString_ofList]
      decide +kernel)
  obtain ⟨roots, architecture, reported⟩ := of_decide_eq_true found
  have shallow := (wellFormed_of_parse parsed).1.rooted.checkRoots_iff.mp roots
  obtain ⟨finding, checked, _, _, bodies⟩ := checkResets_exact parsed shallow t.library (.alone t) rfl plainRules
  obtain ⟨_, bodies⟩ := bodies 1 architecture
  rw [show (Subject.alone t).tree = t from rfl, architecture, Option.elim_some] at checked
  rw [checked] at reported
  have reports := Option.some.inj reported
  refine ⟨t, parsed, roots, checked.trans (congrArg Except.ok reports), ?_⟩
  have member := List.mem_singleton_self ((Subject.alone t).missingReset (Bytes.ofString "q") 16)
  rw [← reports] at member
  obtain ⟨u, unit, member⟩ := List.mem_flatMap.mp member
  obtain ⟨signal, among, finds⟩ := List.mem_filterMap.mp member
  obtain ⟨_, _, signals⟩ := bodies u unit
  obtain ⟨o, known, finds_iff⟩ := signals signal among
  exact ⟨u, unit, signal, among, o, known, (finds_iff _).mp finds⟩

end Lint
end DesignLint
