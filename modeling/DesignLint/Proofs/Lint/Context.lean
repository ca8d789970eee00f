import DesignLint.Lint.Check

/-! What the checks of a file take from the rest of the design: whether its reads and writes resolve, and the ports of
the units that it instantiates. Files of one tree that agree in this have the same findings. -/
namespace DesignLint.Lint

/-- A file on its own. -/
def Subject.alone (t : Tree) : Subject := ⟨⟨#[{ tree := t }]⟩, 0, t, [], fun _ _ => none⟩

/-- The ports of the unit that an instantiation of the file connects to. -/
def Subject.portsAt (s : Subject) (id : NodeId) : Except TreeFault UnitPorts :=
  (s.design.resolveInstance s.file id s.packages s.entities).map s.design.ports?

/-- Two subjects of one tree for which all names resolve alike. -/
structure Subject.Agrees (s s' : Subject) : Prop where
  tree : s.tree = s'.tree
  writes : ∀ id, s.design.resolveWrite s.file id = s'.design.resolveWrite s'.file id
  reads : ∀ id, (s.design.resolveRead s.file id s.packages).map Option.isSome =
    (s'.design.resolveRead s'.file id s'.packages).map Option.isSome
  instances : ∀ b ∈ s.tree.bodies, ∀ id ∈ b.instantiations, s.portsAt id = s'.portsAt id

variable {s s' : Subject}

theorem mapM_congr {α β : Type} {f g : α → Except Fault β} {xs : List α} (same : ∀ x ∈ xs, f x = g x) :
    xs.mapM f = xs.mapM g := by
  induction xs with
  | nil => rfl
  | cons x xs ih =>
    rw [List.mapM_cons, List.mapM_cons, same x List.mem_cons_self,
      ih fun y member => same y (List.mem_cons_of_mem x member)]

namespace Subject.Agrees

theorem checkWrites (agrees : s.Agrees s') (ids : List NodeId) :
    (Lint.checkWrites s ids : Except Fault _) = Lint.checkWrites s' ids := by
  rw [Lint.checkWrites, Lint.checkWrites, mapM_congr fun id _ => ?_]
  rw [checkWrite, checkWrite, agrees.writes, undeclared, undeclared, agrees.tree]

theorem checkReads (agrees : s.Agrees s') (ids : List NodeId) :
    (Lint.checkReads s ids : Except Fault _) = Lint.checkReads s' ids := by
  rw [Lint.checkReads, Lint.checkReads, mapM_congr fun id _ => ?_]
  have same := agrees.reads id
  simp only [checkRead, undeclared, agrees.tree]
  generalize s.design.resolveRead s.file id s.packages = found, s'.design.resolveRead s'.file id s'.packages = found' at same ⊢
  cases found with
  | error fault =>
    cases found' with
    | error fault' =>
      cases same
      rfl
    | ok _ => cases same
  | ok target =>
    cases found' with
    | error _ => cases same
    | ok target' =>
      cases target with
      | none =>
        cases target' with
        | none => rfl
        | some _ => cases same
      | some _ =>
        cases target' with
        | none => cases same
        | some _ => rfl

theorem checkInstance (agrees : s.Agrees s') (rules : InferenceRules) {id : NodeId} (ports : s.portsAt id = s'.portsAt id) :
    Lint.checkInstance (s.tree.facts rules) s id =
      (Lint.checkInstance (s'.tree.facts rules) s' id : Except Fault _) := by
  rw [portsAt, portsAt] at ports
  simp only [Lint.checkInstance, agrees.tree, agrees.checkWrites, agrees.checkReads]
  generalize s.design.resolveInstance s.file id s.packages s.entities = unit,
    s'.design.resolveInstance s'.file id s'.packages s'.entities = unit' at ports ⊢
  cases unit with
  | error fault =>
    cases unit' with
    | error fault' =>
      cases ports
      rfl
    | ok _ => cases ports
  | ok unit =>
    cases unit' with
    | error _ => cases ports
    | ok unit' =>
      have same : s.design.ports? unit = s'.design.ports? unit' := Except.ok.inj ports
      simp only [liftTree, pure_bind, same]

theorem checkBody (agrees : s.Agrees s') (rules : InferenceRules) {b : Body} (member : b ∈ s.tree.bodies) :
    Lint.checkBody (s.tree.facts rules) s b = (Lint.checkBody (s'.tree.facts rules) s' b : Except Fault _) := by
  have processes (id : NodeId) : Lint.checkProcess (s.tree.facts rules) s id =
      (Lint.checkProcess (s'.tree.facts rules) s' id : Except Fault _) := by
    simp only [Lint.checkProcess, agrees.tree, agrees.checkWrites, agrees.checkReads]
  have assignments (id : NodeId) : Lint.checkAssignment s id = (Lint.checkAssignment s' id : Except Fault _) := by
    simp only [Lint.checkAssignment, agrees.tree, agrees.checkWrites, agrees.checkReads]
  have generates (id : NodeId) : Lint.checkGenerate s id = (Lint.checkGenerate s' id : Except Fault _) := by
    simp only [Lint.checkGenerate, agrees.tree, agrees.checkReads]
  have instances := mapM_congr fun id listed => agrees.checkInstance rules (agrees.instances b member id listed)
  rw [Lint.checkBody, Lint.checkBody, mapM_congr fun id _ => processes id, mapM_congr fun id _ => assignments id,
    instances, mapM_congr fun id _ => generates id]

/-- The findings are the same. -/
theorem checkAll (agrees : s.Agrees s') (rules : InferenceRules) :
    Lint.checkAll (s.tree.facts rules) s = (Lint.checkAll (s'.tree.facts rules) s' : Except Fault _) := by
  have bodies := mapM_congr fun b (member : b ∈ s.tree.bodies) => agrees.checkBody rules member
  have resets : Lint.checkResets (s.tree.facts rules) s = (Lint.checkResets (s'.tree.facts rules) s' : Except Fault _) := by
    have reset (b : Body) : Lint.checkReset (s.tree.facts rules) s b =
        (Lint.checkReset (s'.tree.facts rules) s' b : NodeId → Except Fault _) := by
      funext signal
      simp only [checkReset, agrees.tree]
    rw [checkResets, checkResets, agrees.tree]
    simp only [← agrees.tree, reset]
  rw [Lint.checkAll, Lint.checkAll, checkUndeclared, checkUndeclared, bodies, resets, agrees.tree]

end Subject.Agrees
end DesignLint.Lint
