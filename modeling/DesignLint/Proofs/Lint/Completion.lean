import DesignLint.Proofs.Reader.Nesting
import DesignLint.Proofs.Lint.Undeclared

/-! How deep a parsed tree can be and what follows. A node is accepted if its parent is no deeper than a walk may
go, so the node itself can be one step deeper. The walks from such a node fail; in a tree without one, the
checks always complete. -/
namespace DesignLint

theorem exists_mapM_ok {ε α β : Type} {f : α → Except ε β} {xs : List α} (each : ∀ x ∈ xs, ∃ y, f x = .ok y) :
    ∃ ys, xs.mapM f = .ok ys := by
  induction xs with
  | nil => exact ⟨[], rfl⟩
  | cons x xs ih =>
    rw [List.mapM_cons]
    refine exists_bind_ok (each x List.mem_cons_self) fun y => ?_
    exact exists_bind_ok (ih fun x member => each x (List.mem_cons_of_mem _ member)) fun ys => ⟨_, rfl⟩

namespace Lint

open Tree

variable {s : Subject} {rules : InferenceRules} {process signal : Nat}

namespace Subject.Sound

theorem exists_liftTree {α : Type} {x : Except TreeFault α} (found : ∃ a, x = .ok a) :
    ∃ a, (liftTree x : Except Fault α) = .ok a := by
  obtain ⟨a, rfl⟩ := found
  exact ⟨a, rfl⟩

theorem checkRoot_eq (sound : s.Sound) (id : Nat) : s.tree.checkRoot id = .ok () :=
  sound.formed.rooted.checkRoot_of_shallow sound.shallow id

theorem exists_isRegisterProcess (sound : s.Sound) (process : Nat) :
    ∃ answer, (s.tree.facts rules : Facts (Except Fault)).isRegisterProcess process = .ok answer :=
  exists_bind_ok (exists_liftTree ⟨_, sound.checkRoot_eq process⟩) fun _ => ⟨_, rfl⟩

theorem exists_resets (sound : s.Sound) (process : Nat) :
    ∃ names, (s.tree.facts rules : Facts (Except Fault)).resets process = .ok names := by
  refine exists_bind_ok (sound.exists_isRegisterProcess process) fun answer => ?_
  cases answer with
  | false => exact ⟨_, rfl⟩
  | true => exact exists_bind_ok (exists_liftTree ⟨_, sound.checkRoot_eq process⟩) fun _ => ⟨_, rfl⟩

theorem exists_candidateProcesses (sound : s.Sound) (signal : Nat) :
    ∃ processes, s.tree.candidateProcesses signal = .ok processes := by
  rw [candidateProcesses]
  split
  · exact ⟨_, rfl⟩
  · split
    · exact ⟨_, rfl⟩
    · exact ⟨_, rfl⟩
    · exact ⟨_, rfl⟩
    · refine exists_bind_ok ⟨_, sound.checkRoot_eq signal⟩ fun _ => ?_
      split <;> exact ⟨_, rfl⟩
    · exact ⟨_, rfl⟩

theorem exists_registerProcess (sound : s.Sound) (signal : Nat) :
    ∃ found, (s.tree.facts rules : Facts (Except Fault)).registerProcess signal = .ok found := by
  refine exists_bind_ok (exists_liftTree (sound.exists_candidateProcesses signal)) fun candidates => ?_
  -- The search keeps the last register found so far, whatever that is.
  generalize none = found
  induction candidates generalizing found with
  | nil => exact ⟨_, rfl⟩
  | cons process rest ih =>
    refine exists_bind_ok (sound.exists_isRegisterProcess process) fun answer => ?_
    cases answer with
    | false => exact ih _
    | true =>
      obtain ⟨ids, flat, _⟩ := sound.formed.exists_flattenWrites process
      exact exists_bind_ok (exists_liftTree ⟨ids, flat⟩) fun _ => ih _

theorem exists_resetByAny (sound : s.Sound) (name : Bytes) (processes : List NodeId) :
    ∃ answer, resetByAny (s.tree.facts rules : Facts (Except Fault)) name processes = .ok answer := by
  induction processes with
  | nil => exact ⟨_, rfl⟩
  | cons process rest ih =>
    refine exists_bind_ok (sound.exists_resets process) fun names => ?_
    split
    · exact ⟨_, rfl⟩
    · exact ih

theorem exists_checkReset (sound : s.Sound) (b : Body) (signal : Nat) :
    ∃ found, checkReset (s.tree.facts rules : Facts (Except Fault)) s b signal = .ok found := by
  refine exists_bind_ok (sound.exists_registerProcess signal) fun registered => ?_
  cases registered with
  | none => exact ⟨_, rfl⟩
  | some process =>
    refine exists_bind_ok (sound.exists_resetByAny _ b.processes) fun answer => ?_
    cases answer <;> exact ⟨_, rfl⟩

theorem exists_checkAll (sound : s.Sound) (rules : InferenceRules) :
    ∃ found, checkAll (s.tree.facts rules : Facts (Except Fault)) s = .ok found := by
  refine exists_bind_ok ⟨_, checkUndeclared_eq sound⟩ fun found => ?_
  refine exists_bind_ok (exists_bind_ok (exists_mapM_ok fun b _ => ?_) fun _ => ⟨_, rfl⟩) fun _ => ⟨_, rfl⟩
  exact exists_bind_ok (exists_mapM_ok fun signal _ => sound.exists_checkReset b signal) fun _ => ⟨_, rfl⟩

end Subject.Sound

/-- In a parsed tree a node is at most one step deeper than a walk may go. The root of a node is found, and the
walk through its scopes reaches the file, exactly if it is not deeper than that; all roots are found exactly if no
node is; and then the checks of the file complete, whatever it is linked to. -/
theorem parse_depth {path : String} {text : Bytes} {t : Tree} (parsed : Tree.parse path text = .ok t) :
    (∀ id : Nat, id < t.nodes.size → t.depth id ≤ maxDepth + 1) ∧
      (∀ id : Nat, t.checkRoot id = .ok () ↔ t.depth id ≤ maxDepth) ∧
      (∀ id : Nat, (t.scopes id).2 = true ↔ t.depth id ≤ maxDepth) ∧
      (t.checkRoots = .ok () ↔ ∀ id : Nat, id < t.nodes.size → t.depth id ≤ maxDepth) ∧
      (t.checkRoots = .ok () → ∀ (library : Bytes) (rules : InferenceRules) (s : Subject),
        s.tree = { t with library := library } → s.design.tree? s.file = some s.tree →
          ∃ found, checkAll (s.tree.facts rules) s = (.ok found : Except Fault _)) := by
  have formed := (wellFormed_of_parse parsed).1
  have rooted := formed.rooted
  refine ⟨formed.shallow, fun id => rooted.checkRoot_iff, fun id => rooted.scopes_complete_iff, rooted.checkRoots_iff,
    fun roots library rules s tree placed => ?_⟩
  have sound := Subject.Sound.ofParsed parsed (rooted.checkRoots_iff.mp roots) tree placed
  exact sound.exists_checkAll rules

/-- Ninety-seven loops put the two names of the assignment one step too deep, and the file is parsed. -/
theorem parse_depth_reached :
    ∃ t, Tree.parse "design.vhd" (nestedLoops 97) = .ok t ∧ t.checkRoot 103 = .error (.longChain 103) ∧
      (t.scopes 103).2 = false ∧ t.depth 103 = maxDepth + 1 ∧ t.checkRoots ≠ .ok () := by
  obtain ⟨tokens, lexed, spelled⟩ := Option.map_eq_some_iff.mp (nestedLoops_spelling 97)
  obtain ⟨t, parsed, size, depth⟩ :=
    Tree.parse_nested "design.vhd" (eq_ok_of_toOption lexed) spelled (by decide)
  obtain ⟨_, checked, walked, all, _⟩ := parse_depth parsed
  have beyond : ¬t.depth 103 ≤ maxDepth := by
    rw [depth]
    decide
  refine ⟨t, parsed, ?_, ?_, depth, ?_⟩
  · have refused := (checked 103).not.mpr beyond
    unfold Tree.checkRoot at refused ⊢
    split at refused
    · exact absurd rfl refused
    · rename_i far
      rw [if_neg far]
  · rw [← Bool.not_eq_true, walked]
    exact beyond
  · exact fun roots => beyond (all.mp roots 103 (by omega))

end Lint
end DesignLint
