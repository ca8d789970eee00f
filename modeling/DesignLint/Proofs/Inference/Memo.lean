import DesignLint.Inference.Memo
import DesignLint.Lint.Check

/-! Facts kept in a memo. Every cell that is filled holds what the plain definition gives; a query that starts from
such a memo gives the plain answer and leaves such a memo behind. Both halves are carried by one relation, with one
rule each for sequences, lists and cells. -/
namespace DesignLint

variable {α β σ : Type}

namespace Query

/-- From a sound memo, the query gives the answer of a plain computation and leaves the memo sound. -/
def Computes (sound : Memo → Prop) (q : Query α) (answer : Except Fault α) : Prop :=
  ∀ memo, sound memo → (q memo).1 = answer ∧ sound (q memo).2

theorem bind_apply (q : Query α) (f : α → Query β) (memo : Memo) :
    (q >>= f) memo = match q memo with
      | (.ok a, memo') => f a memo'
      | (.error fault, memo') => (.error fault, memo') := by
  change ExceptT.bindCont f (q memo).1 (q memo).2 = _
  cases q memo with
  | mk answer memo' => cases answer <;> rfl

namespace Computes

variable {sound : Memo → Prop}

theorem pure (a : α) : Computes sound (Pure.pure a) (Pure.pure a) := fun _ holds => ⟨rfl, holds⟩

theorem liftTree (x : Except TreeFault α) : Computes sound (liftTree x) (liftTree x) := by
  cases x with
  | ok a => exact pure a
  | error fault => exact fun _ holds => ⟨rfl, holds⟩

theorem bind {q : Query α} {x : Except Fault α} {f : α → Query β} {g : α → Except Fault β}
    (first : Computes sound q x) (next : ∀ a, x = .ok a → Computes sound (f a) (g a)) :
    Computes sound (q >>= f) (x >>= g) := by
  intro memo holds
  obtain ⟨same, kept⟩ := first memo holds
  rw [bind_apply]
  generalize q memo = run at same kept
  obtain ⟨answer, memo'⟩ := run
  subst same
  cases answer with
  | error fault => exact ⟨rfl, kept⟩
  | ok a => exact next a rfl memo' kept

/-- What comes after does not depend on how the first answer came about. -/
theorem andThen {q : Query α} {x : Except Fault α} {f : α → Query β} {g : α → Except Fault β}
    (first : Computes sound q x) (next : ∀ a, Computes sound (f a) (g a)) : Computes sound (q >>= f) (x >>= g) :=
  first.bind fun a _ => next a

theorem mapM {f : σ → Query β} {g : σ → Except Fault β} (each : ∀ a, Computes sound (f a) (g a)) (xs : List σ) :
    Computes sound (xs.mapM f) (xs.mapM g) := by
  induction xs with
  | nil => exact pure []
  | cons x xs ih =>
    rw [List.mapM_cons, List.mapM_cons]
    exact (each x).andThen fun _ => ih.andThen fun _ => pure _

theorem forM {f : σ → Query PUnit} {g : σ → Except Fault PUnit} (each : ∀ a, Computes sound (f a) (g a))
    (xs : List σ) : Computes sound (xs.forM f) (xs.forM g) := by
  induction xs with
  | nil => exact pure PUnit.unit
  | cons x xs ih => exact (each x).andThen fun _ => ih

/-- The findings of several places, one after the other. -/
theorem flatten {f : σ → Query (List β)} {g : σ → Except Fault (List β)} (each : ∀ a, Computes sound (f a) (g a))
    (xs : List σ) : Computes sound (do return (← xs.mapM f).flatten) (do return (← xs.mapM g).flatten) :=
  (mapM each xs).andThen fun _ => pure _

end Computes
end Query

namespace Memo

open Query

/-- Every filled cell holds its fact. -/
def Holds (cells : List (NodeId × α)) (fact : NodeId → Except Fault α) : Prop :=
  ∀ id value, cells.lookup id = some value → fact id = .ok value

theorem holds_nil (fact : NodeId → Except Fault α) : Holds [] fact := by
  intro id value known
  cases known

theorem Holds.cons {cells : List (NodeId × α)} {fact : NodeId → Except Fault α} {id : NodeId} {value : α}
    (holds : Holds cells fact) (new : fact id = .ok value) : Holds ((id, value) :: cells) fact := by
  intro other known found
  rw [List.lookup_cons] at found
  split at found
  · rename_i same
    cases found
    rw [beq_iff_eq.mp same]
    exact new
  · exact holds other known found

theorem memoize_apply (cells : Memo → List (NodeId × α)) (fill : Memo → List (NodeId × α) → Memo) (id : NodeId)
    (compute : Query α) (memo : Memo) :
    memoize cells fill id compute memo = match (cells memo).lookup id with
      | some known => (.ok known, memo)
      | none => match compute memo with
        | (.ok value, memo') => (.ok value, fill memo' ((id, value) :: cells memo'))
        | (.error fault, memo') => (.error fault, memo') := by
  rw [memoize, bind_apply]
  change (match (cells memo).lookup id with
    | some known => _
    | none => _ : Query α) memo = _
  cases (cells memo).lookup id with
  | some known => rfl
  | none =>
    change (compute >>= _) memo = _
    rw [bind_apply]
    cases compute memo with
    | mk answer memo' => cases answer <;> rfl

/-- A cell is read if it is filled; else the fact is computed and kept. -/
theorem computes_memoize {sound : Memo → Prop} (cells : Memo → List (NodeId × α))
    (fill : Memo → List (NodeId × α) → Memo) (fact : NodeId → Except Fault α) {id : NodeId} {compute : Query α}
    (holds : ∀ memo, sound memo → Holds (cells memo) fact)
    (fills : ∀ memo values, sound memo → Holds values fact → sound (fill memo values))
    (computes : Computes sound compute (fact id)) : Computes sound (memoize cells fill id compute) (fact id) := by
  intro memo start
  rw [memoize_apply]
  cases found : (cells memo).lookup id with
  | some known => exact ⟨(holds memo start id known found).symm, start⟩
  | none =>
    obtain ⟨same, kept⟩ := computes memo start
    generalize compute memo = run at same kept
    obtain ⟨answer, memo'⟩ := run
    cases answer with
    | error fault => exact ⟨same, kept⟩
    | ok value => exact ⟨same, fills memo' _ kept ((holds memo' kept).cons same.symm)⟩

/-- The filled cells of a memo hold the facts of the tree. An instantiation is judged by the unit with the given
ports, whoever asks first. -/
structure Sound (t : Tree) (rules : InferenceRules) (ports : NodeId → Except TreeFault UnitPorts) (memo : Memo) :
    Prop where
  root : Holds memo.root fun id => do
    liftTree (t.checkRoot id)
    return 0
  flatWrites : Holds memo.flatWrites (t.facts rules).flatWrites
  flatReads : Holds memo.flatReads (t.facts rules).flatReads
  isRegisterProcess : Holds memo.isRegisterProcess (t.facts rules).isRegisterProcess
  resets : Holds memo.resets (t.facts rules).resets
  registerProcess : Holds memo.registerProcess (t.facts rules).registerProcess
  instanceReads : Holds memo.instanceReads fun id => do
    (t.facts rules).instanceReads id (← liftTree (ports id))
  instanceWrites : Holds memo.instanceWrites fun id => do
    (t.facts rules).instanceWrites id (← liftTree (ports id))

/-- An empty memo is sound. -/
theorem sound_empty (t : Tree) (rules : InferenceRules) (ports : NodeId → Except TreeFault UnitPorts) :
    Sound t rules ports {} := by
  constructor <;> exact holds_nil _

variable {t : Tree} {rules : InferenceRules} {ports : NodeId → Except TreeFault UnitPorts}

theorem computes_rootOf (id : NodeId) :
    Computes (Sound t rules ports) (rootOf t id) (do liftTree (t.checkRoot id); return 0) :=
  computes_memoize Memo.root (fun memo cells => { memo with root := cells })
    (fun id => do liftTree (t.checkRoot id); return 0) (fun _ sound => sound.root)
    (fun _ _ sound new => { sound with root := new })
    ((Computes.liftTree _).andThen fun _ => .pure 0)

theorem computes_flatWrites (process : NodeId) :
    Computes (Sound t rules ports) ((facts t rules).flatWrites process) ((t.facts rules).flatWrites process) := by
  have computed : Computes (Sound t rules ports) (liftTree (t.flattenWrites (t.processStatements process)))
      ((t.facts rules).flatWrites process) := .liftTree _
  exact computes_memoize Memo.flatWrites (fun memo cells => { memo with flatWrites := cells }) (t.facts rules).flatWrites
    (fun _ sound => sound.flatWrites) (fun _ _ sound new => { sound with flatWrites := new }) computed

theorem computes_flatReads (process : NodeId) :
    Computes (Sound t rules ports) ((facts t rules).flatReads process) ((t.facts rules).flatReads process) := by
  have computed : Computes (Sound t rules ports) (liftTree (t.flattenReads (t.processStatements process)))
      ((t.facts rules).flatReads process) := .liftTree _
  exact computes_memoize Memo.flatReads (fun memo cells => { memo with flatReads := cells }) (t.facts rules).flatReads
    (fun _ sound => sound.flatReads) (fun _ _ sound new => { sound with flatReads := new }) computed

theorem computes_isRegisterProcess (process : NodeId) :
    Computes (Sound t rules ports) ((facts t rules).isRegisterProcess process)
      ((t.facts rules).isRegisterProcess process) := by
  have computed : Computes (Sound t rules ports) (t.computeIsRegister rules process)
      ((t.facts rules).isRegisterProcess process) := (Computes.liftTree _).andThen fun _ => .pure _
  exact computes_memoize Memo.isRegisterProcess (fun memo cells => { memo with isRegisterProcess := cells }) (t.facts rules).isRegisterProcess
    (fun _ sound => sound.isRegisterProcess) (fun _ _ sound new => { sound with isRegisterProcess := new }) computed

/-- The resets of a process are computed from the cell that says whether it is a register process. -/
theorem computes_resets (process : NodeId) :
    Computes (Sound t rules ports) ((facts t rules).resets process) ((t.facts rules).resets process) := by
  have computed : Computes (Sound t rules ports) (t.computeResets rules (facts t rules).isRegisterProcess process)
      ((t.facts rules).resets process) := by
    refine (computes_isRegisterProcess process).andThen fun isRegister => ?_
    cases isRegister with
    | false => exact .pure []
    | true => exact (Computes.liftTree _).andThen fun _ => .pure _
  exact computes_memoize Memo.resets (fun memo cells => { memo with resets := cells }) (t.facts rules).resets
    (fun _ sound => sound.resets) (fun _ _ sound new => { sound with resets := new }) computed

/-- The search for the last register process asks for two facts of every process. -/
theorem computes_lastRegister (name : Bytes) (found : Option NodeId) (processes : List NodeId) :
    Computes (Sound t rules ports)
      (t.lastRegister (facts t rules).isRegisterProcess (facts t rules).flatWrites name found processes)
      (t.lastRegister (t.facts rules).isRegisterProcess (t.facts rules).flatWrites name found processes) := by
  induction processes generalizing found with
  | nil => exact .pure found
  | cons process processes ih =>
    refine (computes_isRegisterProcess process).andThen fun isRegister => ?_
    cases isRegister with
    | false => exact ih found
    | true => exact (computes_flatWrites process).andThen fun written => ih _

theorem computes_registerProcess (signal : NodeId) :
    Computes (Sound t rules ports) ((facts t rules).registerProcess signal) ((t.facts rules).registerProcess signal) := by
  have computed : Computes (Sound t rules ports)
      (t.computeRegisterProcess (facts t rules).isRegisterProcess (facts t rules).flatWrites signal)
      ((t.facts rules).registerProcess signal) :=
    (Computes.liftTree _).andThen fun candidates => computes_lastRegister _ none candidates
  exact computes_memoize Memo.registerProcess (fun memo cells => { memo with registerProcess := cells }) (t.facts rules).registerProcess
    (fun _ sound => sound.registerProcess) (fun _ _ sound new => { sound with registerProcess := new }) computed

theorem computes_instanceReads {id : NodeId} {unit : UnitPorts} (resolved : ports id = .ok unit) :
    Computes (Sound t rules ports) ((facts t rules).instanceReads id unit) ((t.facts rules).instanceReads id unit) := by
  have judged : (t.facts rules : Facts (Except Fault)).instanceReads id unit =
      (do (t.facts rules).instanceReads id (← liftTree (ports id))) := by
    rw [resolved]
    rfl
  rw [judged]
  refine computes_memoize Memo.instanceReads (fun memo cells => { memo with instanceReads := cells })
    (fun id => do (t.facts rules).instanceReads id (← liftTree (ports id)))
    (fun _ sound => sound.instanceReads) (fun _ _ sound new => { sound with instanceReads := new }) ?_
  rw [← judged]
  exact .pure _

theorem computes_instanceWrites {id : NodeId} {unit : UnitPorts} (resolved : ports id = .ok unit) :
    Computes (Sound t rules ports) ((facts t rules).instanceWrites id unit) ((t.facts rules).instanceWrites id unit) := by
  have judged : (t.facts rules : Facts (Except Fault)).instanceWrites id unit =
      (do (t.facts rules).instanceWrites id (← liftTree (ports id))) := by
    rw [resolved]
    rfl
  rw [judged]
  refine computes_memoize Memo.instanceWrites (fun memo cells => { memo with instanceWrites := cells })
    (fun id => do (t.facts rules).instanceWrites id (← liftTree (ports id)))
    (fun _ sound => sound.instanceWrites) (fun _ _ sound new => { sound with instanceWrites := new }) ?_
  rw [← judged]
  exact .pure _

end Memo
end DesignLint
