import DesignLint.Proofs.Lockstep.Analysis
import DesignLint.Proofs.Lockstep.DesignUnit
import DesignLint.Proofs.Lint.Occurrences

/-! The findings of two texts of one design. Undeclared names are reported alike; registers without a reset are
reported alike as long as the conditions match the patterns alike. -/
namespace DesignLint

/-- Two computations with related results or with the same fault. -/
inductive SameOutcome {ε α β : Type} (related : α → β → Prop) : Except ε α → Except ε β → Prop
  | ok {a : α} {b : β} (holds : related a b) : SameOutcome related (.ok a) (.ok b)
  | error (fault : ε) : SameOutcome related (.error fault) (.error fault)

namespace SameOutcome

variable {ε α β γ δ σ : Type} {related : α → β → Prop} {final : γ → δ → Prop}

theorem bind {x : Except ε α} {y : Except ε β} {f : α → Except ε γ} {g : β → Except ε δ}
    (first : SameOutcome related x y) (next : ∀ a b, related a b → SameOutcome final (f a) (g b)) :
    SameOutcome final (x >>= f) (y >>= g) := by
  cases first with
  | ok holds => exact next _ _ holds
  | error fault => exact .error fault

/-- Both sides start with the same computation. -/
theorem eq_bind {x y : Except ε α} {f : α → Except ε γ} {g : α → Except ε δ} (same : x = y)
    (next : ∀ a, x = .ok a → SameOutcome final (f a) (g a)) : SameOutcome final (x >>= f) (y >>= g) := by
  subst same
  cases run : x with
  | error fault => exact .error fault
  | ok a => exact next a run

theorem mapM {f : σ → Except ε γ} {g : σ → Except ε δ} {xs : List σ}
    (each : ∀ x ∈ xs, SameOutcome final (f x) (g x)) :
    SameOutcome (List.Forall₂ final) (xs.mapM f) (xs.mapM g) := by
  induction xs with
  | nil => exact .ok .nil
  | cons x xs ih =>
    rw [List.mapM_cons, List.mapM_cons]
    refine (each x List.mem_cons_self).bind fun _ _ head => ?_
    refine (ih fun y member => each y (List.mem_cons_of_mem x member)).bind fun _ _ tail => ?_
    exact .ok (.cons head tail)

/-- The findings of a list of places, one after the other. -/
theorem flatten_mapM {f : σ → Except ε (List γ)} {g : σ → Except ε (List δ)} {xs : List σ}
    (each : ∀ x ∈ xs, SameOutcome (List.Forall₂ final) (f x) (g x)) :
    SameOutcome (List.Forall₂ final) (do return (← xs.mapM f).flatten) (do return (← xs.mapM g).flatten) :=
  (mapM each).bind fun _ _ lists => .ok (List.rel_flatten lists)

end SameOutcome

/-- Two findings of one rule with one message, at one place: at a token, or from its start to the end of the line. -/
structure Diagnostic.Twin (r : Pairing) (text text' : Bytes) (d d' : Diagnostic) : Prop where
  rule_eq : d.rule = d'.rule
  severity_eq : d.severity = d'.severity
  message : r.NameTwin d.message d'.message
  file_eq : d.file = d'.file
  place : ∃ t u, r.meets t u ∧ d.range.start = Coordinate.ofOffset text t.offset ∧
    d'.range.start = Coordinate.ofOffset text' u.offset ∧
    (d.range.stop = Coordinate.ofOffset text t.stop ∧ d'.range.stop = Coordinate.ofOffset text' u.stop ∨
      d.range.stop = ⟨d.range.start.line, Coordinate.endOfLine⟩ ∧
        d'.range.stop = ⟨d'.range.start.line, Coordinate.endOfLine⟩)

namespace Tree

variable {r : Pairing} {t t' : Tree} {id : Nat}

/-- The nodes of a well-formed tree, other than the file, start at the same place. -/
theorem Twin.exists_beside (twin : t.Twin r t') (formed : t.WellFormed) {c : Construct}
    (known : t.construct? id = some c) (ne : c ≠ .file) :
    ∃ n n', t.node? id = some n ∧ t'.node? id = some n' ∧ n.construct = c ∧ n.Beside r n' := by
  obtain ⟨n, found, rfl⟩ := Option.map_eq_some_iff.mp known
  have lt' : id < t'.nodes.size := size_eq twin.outline ▸ lt_size_of_construct? known
  have found' : t'.node? id = some (t'.nodes[id]) := Array.getElem?_eq_getElem lt'
  obtain ⟨parent, child, _⟩ := formed.rooted.parent_lt id (formed.pos_of_ne_file known ne) (lt_size_of_construct? known)
  have isChild : n.parent.isSome := by
    rw [parent?, found, Option.bind_some] at child
    rw [child]
    rfl
  exact ⟨n, _, found, found', rfl, twin.beside id n _ found found' isChild⟩

/-- A read or write spans the same token on both sides. -/
theorem Twin.span_occurrence (twin : t.Twin r t') (formed : t.WellFormed) {c : Construct}
    (known : t.construct? id = some c) (occurrence : c.isOccurrence = true) :
    ∃ u u', r.meets u u' ∧ t.span id = ⟨Coordinate.ofOffset t.text u.offset, Coordinate.ofOffset t.text u.stop⟩ ∧
      t'.span id = ⟨Coordinate.ofOffset t'.text u'.offset, Coordinate.ofOffset t'.text u'.stop⟩ := by
  have ne : c ≠ .file := by
    rintro rfl
    contradiction
  obtain ⟨n, n', found, found', rfl, u, u', twins, start, start', stops⟩ := twin.exists_beside formed known ne
  obtain ⟨stop, stop'⟩ := stops occurrence
  refine ⟨u, u', twins.meets, ?_, ?_⟩
  · simp only [span, found, start, stop]
  · simp only [span, found', start', stop']

/-- A process starts at the same token on both sides. -/
theorem Twin.span_process (twin : t.Twin r t') (formed : t.WellFormed) (process : t.role? id = some .process) :
    ∃ u u', r.meets u u' ∧ (t.span id).start = Coordinate.ofOffset t.text u.offset ∧
      (t'.span id).start = Coordinate.ofOffset t'.text u'.offset := by
  obtain ⟨c, known, same⟩ := Option.map_eq_some_iff.mp process
  have ne : c ≠ .file := by
    rintro rfl
    simp [Construct.role] at same
  obtain ⟨n, n', found, found', _, u, u', twins, start, start', _⟩ := twin.exists_beside formed known ne
  refine ⟨u, u', twins.meets, ?_, ?_⟩
  · simp only [span, found, start]
  · simp only [span, found', start']

theorem WellFormed.role?_of_mem_allProcesses (formed : t.WellFormed) {a : Architecture}
    (unit : t.architectureUnit? = some a) (member : id ∈ t.allProcesses a) : t.role? id = some .process := by
  obtain ⟨b, body, listed⟩ := List.mem_flatMap.mp member
  have body : b ∈ t.bodies := by
    rw [bodies, unit]
    exact body
  exact formed.role?_of_mem_bodies body (by simp [itemRoles]) listed

/-- The processes that could register a signal are processes of the tree. -/
theorem WellFormed.role?_of_candidate (formed : t.WellFormed) {signal : NodeId} {processes : List NodeId}
    (candidates : t.candidateProcesses signal = .ok processes) (member : id ∈ processes) :
    t.role? id = some .process := by
  have listed := listed_itemRoles .process (by simp [itemRoles])
  rw [candidateProcesses] at candidates
  split at candidates
  · cases candidates
    contradiction
  · split at candidates
    · rename_i known
      cases candidates
      exact formed.role?_of_mem_members listed known member
    · rename_i known
      cases candidates
      exact formed.role?_of_mem_members listed known member
    · rename_i known
      cases candidates
      rw [List.mem_singleton.mp member]
      exact role?_of_construct? known
    · cases root : t.checkRoot signal with
      | error fault =>
        rw [root] at candidates
        contradiction
      | ok _ =>
        rw [root] at candidates
        cases unit : t.architectureUnit? with
        | none =>
          simp only [unit] at candidates
          cases candidates
          contradiction
        | some a =>
          simp only [unit] at candidates
          cases candidates
          exact formed.role?_of_mem_allProcesses unit member
    · cases candidates
      contradiction

theorem lastRegister_mem {isRegisterProcess : NodeId → Except Fault Bool}
    {flatWrites : NodeId → Except Fault (List NodeId)} {name : Bytes} {processes : List NodeId}
    {found : Option NodeId} (run : t.lastRegister isRegisterProcess flatWrites name found processes = .ok (some id)) :
    found = some id ∨ id ∈ processes := by
  induction processes generalizing found with
  | nil =>
    cases run
    exact .inl rfl
  | cons process processes ih =>
    have later {found : Option NodeId} (run : t.lastRegister isRegisterProcess flatWrites name found processes =
        .ok (some id)) : found = some id ∨ id ∈ process :: processes :=
      (ih run).imp_right (List.mem_cons_of_mem process)
    rw [lastRegister] at run
    cases answer : isRegisterProcess process with
    | error fault =>
      rw [answer] at run
      contradiction
    | ok isRegister =>
      rw [answer] at run
      cases isRegister with
      | false => exact later run
      | true =>
        cases written : flatWrites process with
        | error fault =>
          rw [written] at run
          contradiction
        | ok ids =>
          rw [written] at run
          rcases later run with now | member
          · split at now
            · cases now
              exact .inr List.mem_cons_self
            · exact .inl now
          · exact .inr member

theorem WellFormed.role?_of_registerProcess (formed : t.WellFormed) {rules : InferenceRules} {signal : NodeId}
    (run : (t.facts rules : Facts (Except Fault)).registerProcess signal = .ok (some id)) :
    t.role? id = some .process := by
  change t.computeRegisterProcess _ _ signal = _ at run
  rw [computeRegisterProcess] at run
  cases candidates : t.candidateProcesses signal with
  | error fault =>
    rw [candidates] at run
    contradiction
  | ok processes =>
    rw [candidates] at run
    rcases lastRegister_mem run with none_ | member
    · contradiction
    · exact formed.role?_of_candidate candidates member

end Tree

namespace Lint

open Tree

variable {r : Pairing} {s s' : Subject} {rules : InferenceRules} {id y : Nat} {ids : List Nat}

/-- Two subjects whose files are texts of one design. -/
structure Subject.Twin (r : Pairing) (s s' : Subject) : Prop where
  formed : s.tree.WellFormed
  tree : s.tree.Twin r s'.tree
  design : s.design.outline r.toLikeness = s'.design.outline r.toLikeness
  file : s.file = s'.file
  packages : s.packages = s'.packages
  entities : s.entities = s'.entities
  respects : s.entities.Respects r.toLikeness

/-- Two lists of findings, one by one at the same places. -/
def Subject.FindingsAlike (r : Pairing) (s s' : Subject) :
    Except Fault (List Diagnostic) → Except Fault (List Diagnostic) → Prop :=
  SameOutcome (List.Forall₂ (Diagnostic.Twin r s.tree.text s'.tree.text))

namespace Subject.Twin

theorem path_eq (twin : s.Twin r s') : s.tree.path = s'.tree.path :=
  eq_of_outline Tree.path (fun _ => rfl) twin.tree.outline

theorem get?_eq (twin : s.Twin r s') {α : Type} {choose : Construct → Option α} {draw : α → α}
    (outlined : ∀ c, choose (c.outline r.toLikeness) = (choose c).map draw) (id : NodeId) :
    (s.tree.get? choose id).map draw = (s'.tree.get? choose id).map draw := by
  have drawn (t : Tree) : (t.outline r.toLikeness).get? choose id = (t.get? choose id).map draw :=
    congrFun (t.outline_get? outlined) id
  rw [← drawn, twin.tree.outline, drawn]

/-- What a construct holds besides the texts that are not compared is the same on both sides. -/
theorem held_eq (twin : s.Twin r s') {α β : Type} {choose : Construct → Option α} {draw : α → α}
    (outlined : ∀ c, choose (c.outline r.toLikeness) = (choose c).map draw) (id : NodeId) {f : Option α → β}
    (drawn : ∀ a, f (a.map draw) = f a) : f (s.tree.get? choose id) = f (s'.tree.get? choose id) := by
  rw [← drawn, twin.get?_eq outlined, drawn]

theorem resolveWrite_eq (twin : s.Twin r s') (id : NodeId) :
    s.design.resolveWrite s.file id = s'.design.resolveWrite s'.file id := by
  rw [← Design.outline_resolveWrite (l := r.toLikeness), twin.design, twin.file, Design.outline_resolveWrite]

theorem resolveRead_eq (twin : s.Twin r s') (id : NodeId) :
    s.design.resolveRead s.file id s.packages = s'.design.resolveRead s'.file id s'.packages := by
  rw [← Design.outline_resolveRead (l := r.toLikeness), twin.design, twin.file, twin.packages,
    Design.outline_resolveRead]

theorem resolveInstance_eq (twin : s.Twin r s') (id : NodeId) :
    s.design.resolveInstance s.file id s.packages s.entities =
      s'.design.resolveInstance s'.file id s'.packages s'.entities := by
  rw [← Design.outline_resolveInstance _ twin.respects, twin.design, twin.file, twin.packages,
    Design.outline_resolveInstance _ twin.respects, twin.entities]

theorem ports?_eq (twin : s.Twin r s') (unit : Option Ref) :
    (s.design.ports? unit).map r.ports = (s'.design.ports? unit).map r.ports := by
  rw [← Design.outline_ports?, twin.design, Design.outline_ports?]

/-- A finding about a read or write is made at the same token. -/
theorem undeclared (twin : s.Twin r s') {c : Construct} (known : s.tree.construct? id = some c)
    (occurrence : c.isOccurrence = true) {name name' : Bytes} (names : r.NameTwin name name') (verb : String) :
    Diagnostic.Twin r s.tree.text s'.tree.text (Lint.undeclared s id name verb) (Lint.undeclared s' id name' verb) := by
  obtain ⟨u, u', place, span, span'⟩ := twin.tree.span_occurrence twin.formed known occurrence
  have message : r.NameTwin (Bytes.ofString "signal '" ++ name ++ Bytes.ofString ("' is " ++ verb ++ " but not declared"))
      (Bytes.ofString "signal '" ++ name' ++ Bytes.ofString ("' is " ++ verb ++ " but not declared")) :=
    (Likeness.NameTwin.append rfl names).append rfl
  refine ⟨rfl, rfl, message, twin.path_eq, u, u', place, ?_, ?_, .inl ⟨?_, ?_⟩⟩
  · exact congrArg Span.start span
  · exact congrArg Span.start span'
  · exact congrArg Span.stop span
  · exact congrArg Span.stop span'

theorem checkWrite (twin : s.Twin r s') (write : s.tree.role? id = some .write) :
    s.FindingsAlike r s' (Lint.checkWrite s id) (Lint.checkWrite s' id) := by
  obtain ⟨c, known, same⟩ := Option.map_eq_some_iff.mp write
  have occurrence : c.isOccurrence = true := by cases c <;> first | rfl | simp [Construct.role] at same
  have names : r.NameTwin ((s.tree.get? Construct.write? id).getD []) ((s'.tree.get? Construct.write? id).getD []) :=
    twin.held_eq (Construct.write?_outline _) id (f := fun a => r.name (a.getD [])) fun a => by cases a <;> simp
  rw [Lint.checkWrite, Lint.checkWrite, twin.resolveWrite_eq]
  refine .eq_bind rfl fun found _ => ?_
  cases found with
  | true => exact .ok .nil
  | false => exact .ok (.cons (twin.undeclared known occurrence names _) .nil)

theorem checkRead (twin : s.Twin r s') (read : s.tree.role? id = some .read) :
    s.FindingsAlike r s' (Lint.checkRead s id) (Lint.checkRead s' id) := by
  obtain ⟨c, known, same⟩ := Option.map_eq_some_iff.mp read
  have occurrence : c.isOccurrence = true := by cases c <;> first | rfl | simp [Construct.role] at same
  have names : r.NameTwin ((s.tree.get? Construct.read? id).elim [] Prod.fst)
      ((s'.tree.get? Construct.read? id).elim [] Prod.fst) :=
    twin.held_eq (Construct.read?_outline _) id (f := fun a => r.name (a.elim [] Prod.fst)) fun a => by
      cases a <;> simp
  rw [Lint.checkRead, Lint.checkRead, twin.resolveRead_eq]
  refine .eq_bind rfl fun found _ => ?_
  cases found with
  | some _ => exact .ok .nil
  | none => exact .ok (.cons (twin.undeclared known occurrence names _) .nil)

theorem checkWrites (twin : s.Twin r s') (writes : ∀ id ∈ ids, s.tree.role? id = some .write) :
    s.FindingsAlike r s' (Lint.checkWrites s ids) (Lint.checkWrites s' ids) :=
  .flatten_mapM fun id member => twin.checkWrite (writes id member)

theorem checkReads (twin : s.Twin r s') (reads : ∀ id ∈ ids, s.tree.role? id = some .read) :
    s.FindingsAlike r s' (Lint.checkReads s ids) (Lint.checkReads s' ids) :=
  .flatten_mapM fun id member => twin.checkRead (reads id member)

/-- Findings that are collected in two parts. -/
theorem append {x x' y y' : Except Fault (List Diagnostic)} (first : s.FindingsAlike r s' x x')
    (second : s.FindingsAlike r s' y y') :
    s.FindingsAlike r s' (do return (← x) ++ (← y)) (do return (← x') ++ (← y')) :=
  first.bind fun _ _ found => second.bind fun _ _ more => .ok (List.rel_append found more)

theorem checkProcess (twin : s.Twin r s') (y : Nat) :
    s.FindingsAlike r s' (Lint.checkProcess (s.tree.facts rules) s y) (Lint.checkProcess (s'.tree.facts rules) s' y) := by
  obtain ⟨writes, flatWrites, written⟩ := twin.formed.exists_flattenWrites y
  obtain ⟨reads, flatReads, read⟩ := twin.formed.exists_flattenReads y
  have sensitivity : ∀ id ∈ ((s.tree.get? Construct.process? y).map Process.sensitivity).getD [],
      s.tree.role? id = some .read := by
    cases found : s.tree.get? Construct.process? y with
    | none => simp
    | some p =>
      obtain ⟨c, known, same⟩ := Option.bind_eq_some_iff.mp found
      cases c <;> cases same
      exact fun id member => twin.formed.role?_of_mem_members listed_read known member
  have sensitivity_eq : ((s.tree.get? Construct.process? y).map Process.sensitivity).getD [] =
      ((s'.tree.get? Construct.process? y).map Process.sensitivity).getD [] :=
    twin.held_eq (Construct.process?_outline _) y (f := fun p => (p.map Process.sensitivity).getD []) fun p => by
      cases p <;> rfl
  rw [Lint.checkProcess, Lint.checkProcess, ← flatWrites_eq twin.tree.outline, ← flatReads_eq twin.tree.outline,
    ← sensitivity_eq]
  simp only [facts, flatWrites, flatReads, liftTree]
  refine (twin.checkWrites written).bind fun _ _ first => (twin.checkReads sensitivity).bind fun _ _ second => ?_
  exact (twin.checkReads read).bind fun _ _ third => .ok (List.rel_append (List.rel_append first second) third)

theorem checkAssignment (twin : s.Twin r s') (y : Nat) :
    s.FindingsAlike r s' (Lint.checkAssignment s y) (Lint.checkAssignment s' y) := by
  have writes_eq := twin.held_eq (Construct.assignment?_outline _) y (f := fun a => (a.getD {}).writes) fun a => by
    cases a <;> rfl
  have reads_eq := twin.held_eq (Construct.assignment?_outline _) y (f := fun a => (a.getD {}).reads) fun a => by
    cases a <;> rfl
  rw [Lint.checkAssignment, Lint.checkAssignment, ← writes_eq, ← reads_eq]
  cases found : s.tree.get? Construct.assignment? y with
  | none => exact append (twin.checkWrites (by simp)) (twin.checkReads (by simp))
  | some a =>
    obtain ⟨c, known, same⟩ := Option.bind_eq_some_iff.mp found
    cases c <;> cases same
    refine append (twin.checkWrites fun id member => ?_) (twin.checkReads fun id member => ?_)
    · exact twin.formed.role?_of_mem_members listed_write known member
    · exact twin.formed.role?_of_mem_members listed_read known member

theorem checkGenerate (twin : s.Twin r s') (y : Nat) :
    s.FindingsAlike r s' (Lint.checkGenerate s y) (Lint.checkGenerate s' y) := by
  have bounds_eq := twin.held_eq (Construct.generate?_outline _) y (f := fun g => (g.getD {}).bounds) fun g => by
    cases g <;> rfl
  have condition_eq := twin.held_eq (Construct.generate?_outline _) y (f := fun g => (g.getD {}).condition) fun g => by
    cases g <;> rfl
  rw [Lint.checkGenerate, Lint.checkGenerate, ← bounds_eq, ← condition_eq]
  cases found : s.tree.get? Construct.generate? y with
  | none => exact append (twin.checkReads (by simp)) (twin.checkReads (by simp))
  | some g =>
    obtain ⟨c, known, same⟩ := Option.bind_eq_some_iff.mp found
    cases c <;> cases same
    have reads : ∀ id ∈ g.bounds ++ g.condition, s.tree.role? id = some .read :=
      fun id member => twin.formed.role?_of_mem_members listed_read known member
    exact append (twin.checkReads fun id member => reads id (List.mem_append_left _ member))
      (twin.checkReads fun id member => reads id (List.mem_append_right _ member))

theorem checkInstance (twin : s.Twin r s') (y : Nat) :
    s.FindingsAlike r s' (Lint.checkInstance (s.tree.facts rules) s y)
      (Lint.checkInstance (s'.tree.facts rules) s' y) := by
  have writes (ports : UnitPorts) : ∀ id ∈ (s.tree.get? Construct.instantiation? y).elim []
      (s.tree.instanceWrites · ports), s.tree.role? id = some .write := by
    cases found : s.tree.get? Construct.instantiation? y with
    | none => simp
    | some i =>
      obtain ⟨c, known, same⟩ := Option.bind_eq_some_iff.mp found
      cases c <;> cases same
      exact fun id member => twin.formed.role?_of_mem_instanceWrites known member
  have reads (ports : UnitPorts) : ∀ id ∈ (s.tree.get? Construct.instantiation? y).elim []
      (s.tree.instanceReads · ports), s.tree.role? id = some .read := by
    cases found : s.tree.get? Construct.instantiation? y with
    | none => simp
    | some i =>
      obtain ⟨c, known, same⟩ := Option.bind_eq_some_iff.mp found
      cases c <;> cases same
      exact fun id member => twin.formed.role?_of_mem_instanceReads known member
  rw [Lint.checkInstance, Lint.checkInstance, twin.resolveInstance_eq]
  refine .eq_bind rfl fun unit _ => ?_
  simp only [← instanceReads_eq twin.tree.outline (twin.ports?_eq unit),
    ← instanceWrites_eq twin.tree.outline (twin.ports?_eq unit)]
  exact append (twin.checkWrites (writes _)) (twin.checkReads (reads _))

theorem checkBody (twin : s.Twin r s') (b : Body) :
    s.FindingsAlike r s' (Lint.checkBody (s.tree.facts rules) s b) (Lint.checkBody (s'.tree.facts rules) s' b) := by
  refine (SameOutcome.mapM fun y _ => twin.checkProcess y).bind fun _ _ processes => ?_
  refine (SameOutcome.mapM fun y _ => twin.checkAssignment y).bind fun _ _ assignments => ?_
  refine (SameOutcome.mapM fun y _ => twin.checkInstance y).bind fun _ _ instances => ?_
  refine (SameOutcome.mapM fun y _ => twin.checkGenerate y).bind fun _ _ generates => .ok (List.rel_flatten ?_)
  exact List.rel_append (List.rel_append (List.rel_append processes assignments) instances) generates

theorem bodies_eq (twin : s.Twin r s') : s.tree.bodies = s'.tree.bodies :=
  eq_of_outline Tree.bodies outline_bodies twin.tree.outline

/-- Undeclared names are reported alike whatever the layout. -/
theorem checkUndeclared (twin : s.Twin r s') :
    s.FindingsAlike r s' (Lint.checkUndeclared (s.tree.facts rules) s)
      (Lint.checkUndeclared (s'.tree.facts rules) s') := by
  rw [Lint.checkUndeclared, Lint.checkUndeclared, ← twin.bodies_eq]
  exact .flatten_mapM fun b _ => twin.checkBody b

/-- Which names each process resets, as far as names are compared, is all that a search for a reset asks for. -/
theorem resetByAny_eq {l : Likeness} {facts facts' : Facts (Except Fault)}
    (same : ∀ process, (facts.resets process).map (List.map l.name) = (facts'.resets process).map (List.map l.name))
    {name name' : Bytes} (names : l.NameTwin name name') (processes : List NodeId) :
    resetByAny facts name processes = resetByAny facts' name' processes := by
  have any_eq {resets resets' : List Bytes} (same : resets.map l.name = resets'.map l.name) :
      resets.any (sameName · name) = resets'.any (sameName · name') := by
    have drawn (resets : List Bytes) (name : Bytes) :
        (resets.map l.name).any (sameName · (l.name name)) = resets.any (sameName · name) := by
      simp [List.any_map, Function.comp_def]
    rw [← drawn, same, names, drawn]
  induction processes with
  | nil => rfl
  | cons process processes ih =>
    have resets := same process
    rw [resetByAny, resetByAny, ih]
    cases found : facts.resets process <;> cases found' : facts'.resets process <;> rw [found, found'] at resets
    · cases resets
      rfl
    · contradiction
    · contradiction
    · simp only [Except.map, Except.ok.injEq] at resets
      simp only [bind, Except.bind, any_eq resets]

section

variable (twin : s.Twin r s') (conditions : ∀ process, ConditionsAlike rules s.tree s'.tree process)
include twin conditions

theorem checkReset (b : Body) (signal : NodeId) :
    s.FindingsAlike r s' (Lint.checkReset (s.tree.facts rules) s b signal)
      (Lint.checkReset (s'.tree.facts rules) s' b signal) := by
  rw [Lint.checkReset, Lint.checkReset]
  refine .eq_bind (congrFun (registerProcess_eq twin.tree.outline conditions) signal) fun found run => ?_
  cases found with
  | none => exact .ok .nil
  | some process =>
    have plays := twin.formed.role?_of_registerProcess run
    obtain ⟨u, u', place, start, start'⟩ := twin.tree.span_process twin.formed plays
    have names : r.NameTwin ((s.tree.nameOf? signal).getD []) ((s'.tree.nameOf? signal).getD []) :=
      twin.held_eq (Construct.name?_outline _) signal (f := fun a => r.name (a.getD [])) fun a => by cases a <;> simp
    simp only [twin.path_eq, resetByAny_eq (fun process => resets_eq twin.tree.outline (conditions process)) names]
    refine .eq_bind rfl fun reset _ => ?_
    cases reset with
    | true => exact .ok .nil
    | false =>
      refine .ok (.cons ⟨rfl, rfl, ?_, rfl, u, u', place, ?_, ?_, .inr ⟨?_, ?_⟩⟩ .nil)
      · exact (Likeness.NameTwin.append rfl names).append rfl
      · exact start
      · exact start'
      · rfl
      · rfl

theorem checkResets :
    s.FindingsAlike r s' (Lint.checkResets (s.tree.facts rules) s) (Lint.checkResets (s'.tree.facts rules) s') := by
  rw [Lint.checkResets, Lint.checkResets, ← twin.bodies_eq]
  exact .flatten_mapM fun b _ => .flatten_mapM fun signal _ => twin.checkReset conditions b signal

theorem checkAll :
    s.FindingsAlike r s' (Lint.checkAll (s.tree.facts rules) s) (Lint.checkAll (s'.tree.facts rules) s') :=
  append twin.checkUndeclared (twin.checkResets conditions)

end

end Subject.Twin
end Lint
end DesignLint
