import DesignLint.Proofs.Inference.Memo

/-! Which queries fill the cells of the roots. Facts of processes, signals and instantiations have cells of their own,
so nothing that the checks ask for adds a root. -/
namespace DesignLint

namespace Query

/-- The query leaves a part of the memo as it is. -/
def Keeps {α γ : Type} (part : Memo → γ) (q : Query α) : Prop := ∀ memo, part (q memo).2 = part memo

namespace Keeps

variable {α β γ : Type} {part : Memo → γ}

theorem pure (a : α) : Keeps part (Pure.pure a) := fun _ => rfl

theorem liftTree (x : Except TreeFault α) : Keeps part (liftTree x) := by
  intro memo
  cases x <;> rfl

theorem bind {q : Query α} {f : α → Query β} (first : Keeps part q) (next : ∀ a, Keeps part (f a)) :
    Keeps part (q >>= f) := by
  intro memo
  have kept := first memo
  rw [bind_apply]
  generalize q memo = run at kept
  obtain ⟨answer, memo'⟩ := run
  cases answer with
  | error fault => exact kept
  | ok a => exact (next a memo').trans kept

theorem memoize (cells : Memo → List (NodeId × α)) (fill : Memo → List (NodeId × α) → Memo) {id : NodeId}
    {compute : Query α} (fills : ∀ memo values, part (fill memo values) = part memo)
    (computes : Keeps part compute) : Keeps part (Memo.memoize cells fill id compute) := by
  intro memo
  rw [Memo.memoize_apply]
  cases (cells memo).lookup id with
  | some known => rfl
  | none =>
    have kept := computes memo
    generalize compute memo = run at kept
    obtain ⟨answer, memo'⟩ := run
    cases answer with
    | error fault => exact kept
    | ok value => exact (fills memo' _).trans kept

end Keeps

/-- The query fills no cell for the root of a node. -/
def KeepsRoots {α : Type} (q : Query α) : Prop := ∀ memo, (q memo).2.root = memo.root

namespace KeepsRoots

variable {α β σ : Type}

theorem pure (a : α) : KeepsRoots (Pure.pure a) := Keeps.pure a

theorem liftTree (x : Except TreeFault α) : KeepsRoots (liftTree x) := Keeps.liftTree x

theorem bind {q : Query α} {f : α → Query β} (first : KeepsRoots q) (next : ∀ a, KeepsRoots (f a)) :
    KeepsRoots (q >>= f) := Keeps.bind first next

theorem mapM {f : σ → Query β} (each : ∀ a, KeepsRoots (f a)) (xs : List σ) : KeepsRoots (xs.mapM f) := by
  induction xs with
  | nil => exact pure []
  | cons x xs ih =>
    rw [List.mapM_cons]
    exact (each x).bind fun _ => ih.bind fun _ => pure _

theorem flatten {f : σ → Query (List β)} (each : ∀ a, KeepsRoots (f a)) (xs : List σ) :
    KeepsRoots (do return (← xs.mapM f).flatten) := (mapM each xs).bind fun _ => pure _

theorem memoize (cells : Memo → List (NodeId × α)) (fill : Memo → List (NodeId × α) → Memo) {id : NodeId}
    {compute : Query α} (fills : ∀ memo values, (fill memo values).root = memo.root)
    (computes : KeepsRoots compute) : KeepsRoots (Memo.memoize cells fill id compute) :=
  Keeps.memoize cells fill fills computes

end KeepsRoots
end Query

namespace Memo

open Query

/-- A fact that was asked for stands in its cell. -/
theorem lookup_memoize {α : Type} {cells : Memo → List (NodeId × α)} {fill : Memo → List (NodeId × α) → Memo}
    (fills : ∀ memo values, cells (fill memo values) = values) {id : NodeId} {compute : Query α} {memo : Memo} {value : α}
    (answered : (memoize cells fill id compute memo).1 = .ok value) :
    (cells (memoize cells fill id compute memo).2).lookup id = some value := by
  rw [memoize_apply] at answered ⊢
  cases known : (cells memo).lookup id with
  | some found =>
    rw [known] at answered
    cases answered
    exact known
  | none =>
    rw [known] at answered
    generalize compute memo = run at answered ⊢
    obtain ⟨answer, memo'⟩ := run
    cases answer with
    | error fault => contradiction
    | ok found =>
      cases answered
      change (cells (fill memo' _)).lookup id = _
      rw [fills, List.lookup_cons_self]

variable (t : Tree) (rules : InferenceRules)

theorem keepsRoots_flatWrites (id : NodeId) : KeepsRoots ((facts t rules).flatWrites id) :=
  .memoize Memo.flatWrites (fun memo cells => { memo with flatWrites := cells }) (fun _ _ => rfl)
    (.liftTree _)

theorem keepsRoots_flatReads (id : NodeId) : KeepsRoots ((facts t rules).flatReads id) :=
  .memoize Memo.flatReads (fun memo cells => { memo with flatReads := cells }) (fun _ _ => rfl)
    (.liftTree _)

theorem keepsRoots_isRegisterProcess (id : NodeId) : KeepsRoots ((facts t rules).isRegisterProcess id) :=
  .memoize Memo.isRegisterProcess (fun memo cells => { memo with isRegisterProcess := cells }) (fun _ _ => rfl)
    (.bind (.liftTree _) fun _ => .pure _)

/-- A question for the resets of a process fills the cells of two facts of that process. -/
theorem keeps_resets {γ : Type} {part : Memo → γ}
    (register : ∀ memo cells, part { memo with isRegisterProcess := cells } = part memo)
    (resets : ∀ memo cells, part { memo with resets := cells } = part memo) (id : NodeId) :
    Keeps part ((facts t rules).resets id) := by
  apply Keeps.memoize Memo.resets (fun memo cells => { memo with resets := cells }) resets
  have isRegister : Keeps part ((facts t rules).isRegisterProcess id) :=
    .memoize Memo.isRegisterProcess (fun memo cells => { memo with isRegisterProcess := cells }) register
      (.bind (.liftTree _) fun _ => .pure _)
  apply isRegister.bind
  intro isRegister
  cases isRegister with
  | false => exact .pure []
  | true => exact .bind (.liftTree _) fun _ => .pure _

theorem keepsRoots_resets (id : NodeId) : KeepsRoots ((facts t rules).resets id) :=
  keeps_resets t rules (fun _ _ => rfl) (fun _ _ => rfl) id

theorem keepsRoots_lastRegister (name : Bytes) (found : Option NodeId) (processes : List NodeId) :
    KeepsRoots
      (t.lastRegister (facts t rules).isRegisterProcess (facts t rules).flatWrites name found processes) := by
  induction processes generalizing found with
  | nil => exact .pure found
  | cons process processes ih =>
    apply (keepsRoots_isRegisterProcess t rules process).bind
    intro isRegister
    cases isRegister with
    | false => exact ih found
    | true => exact (keepsRoots_flatWrites t rules process).bind fun _ => ih _

theorem keepsRoots_registerProcess (id : NodeId) : KeepsRoots ((facts t rules).registerProcess id) :=
  .memoize Memo.registerProcess (fun memo cells => { memo with registerProcess := cells }) (fun _ _ => rfl)
    (.bind (.liftTree _) fun _ => keepsRoots_lastRegister t rules _ none _)

theorem keepsRoots_instanceReads (id : NodeId) (unit : UnitPorts) :
    KeepsRoots ((facts t rules).instanceReads id unit) :=
  .memoize Memo.instanceReads (fun memo cells => { memo with instanceReads := cells }) (fun _ _ => rfl)
    (.pure _)

theorem keepsRoots_instanceWrites (id : NodeId) (unit : UnitPorts) :
    KeepsRoots ((facts t rules).instanceWrites id unit) :=
  .memoize Memo.instanceWrites (fun memo cells => { memo with instanceWrites := cells }) (fun _ _ => rfl)
    (.pure _)

end Memo

namespace Lint

open Query Memo

variable (t : Tree) (rules : InferenceRules) (s : Subject)

theorem keepsRoots_checkWrites (ids : List NodeId) : KeepsRoots (checkWrites s ids) := by
  apply KeepsRoots.flatten
  intro id
  apply (KeepsRoots.liftTree _).bind
  intro visible
  cases visible <;> exact .pure _

theorem keepsRoots_checkReads (ids : List NodeId) : KeepsRoots (checkReads s ids) := by
  apply KeepsRoots.flatten
  intro id
  apply (KeepsRoots.liftTree _).bind
  intro declared
  cases declared <;> exact .pure _

theorem keepsRoots_checkBody (b : Body) : KeepsRoots (checkBody (facts t rules) s b) := by
  have process (id : NodeId) : KeepsRoots (checkProcess (facts t rules) s id) :=
    (keepsRoots_flatWrites t rules id).bind fun _ => (keepsRoots_flatReads t rules id).bind fun _ =>
      (keepsRoots_checkWrites s _).bind fun _ => (keepsRoots_checkReads s _).bind fun _ =>
        (keepsRoots_checkReads s _).bind fun _ => .pure _
  have assignment (id : NodeId) : KeepsRoots (checkAssignment s id) :=
    (keepsRoots_checkWrites s _).bind fun _ => (keepsRoots_checkReads s _).bind fun _ => .pure _
  have instance_ (id : NodeId) : KeepsRoots (checkInstance (facts t rules) s id) :=
    (KeepsRoots.liftTree _).bind fun _ => (keepsRoots_instanceWrites t rules id _).bind fun _ =>
      (keepsRoots_checkWrites s _).bind fun _ => (keepsRoots_instanceReads t rules id _).bind fun _ =>
        (keepsRoots_checkReads s _).bind fun _ => .pure _
  have generate (id : NodeId) : KeepsRoots (checkGenerate s id) :=
    (keepsRoots_checkReads s _).bind fun _ => (keepsRoots_checkReads s _).bind fun _ => .pure _
  exact (KeepsRoots.mapM process _).bind fun _ => (KeepsRoots.mapM assignment _).bind fun _ =>
    (KeepsRoots.mapM instance_ _).bind fun _ => (KeepsRoots.mapM generate _).bind fun _ => .pure _

theorem keeps_resetByAny {γ : Type} {part : Memo → γ}
    (register : ∀ memo cells, part { memo with isRegisterProcess := cells } = part memo)
    (resets : ∀ memo cells, part { memo with resets := cells } = part memo) (name : Bytes) (processes : List NodeId) :
    Keeps part (resetByAny (facts t rules) name processes) := by
  induction processes with
  | nil => exact .pure false
  | cons process processes ih =>
    apply (keeps_resets t rules register resets process).bind
    intro resets
    split
    · exact .pure true
    · exact ih

theorem keepsRoots_resetByAny (name : Bytes) (processes : List NodeId) :
    KeepsRoots (resetByAny (facts t rules) name processes) :=
  keeps_resetByAny t rules (fun _ _ => rfl) (fun _ _ => rfl) name processes

theorem keepsRoots_checkReset (b : Body) (signal : NodeId) :
    KeepsRoots (checkReset (facts t rules) s b signal) := by
  apply (keepsRoots_registerProcess t rules signal).bind
  intro process
  cases process with
  | none => exact .pure []
  | some process =>
    apply (keepsRoots_resetByAny t rules _ _).bind
    intro reset
    split <;> exact .pure _

theorem keepsRoots_checkAll : KeepsRoots (checkAll (facts t rules) s) := by
  have undeclared : KeepsRoots (checkUndeclared (facts t rules) s) :=
    .flatten (fun b => keepsRoots_checkBody t rules s b) _
  have resets : KeepsRoots (checkResets (facts t rules) s) :=
    .flatten (fun b => .flatten (fun signal => keepsRoots_checkReset t rules s b signal) _) _
  exact undeclared.bind fun _ => resets.bind fun _ => .pure _

end Lint
end DesignLint
