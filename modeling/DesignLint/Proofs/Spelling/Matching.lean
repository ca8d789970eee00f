import DesignLint.Proofs.Spelling.Reading
import DesignLint.Proofs.Lockstep.Analysis

/-! Matching without regard to case. An automaton whose classes hold both cases of each letter in them finds a match in
a text if and only if it finds one in the text in small letters. Those of the standard rules are such automata, so
conditions match alike in every spelling. -/
namespace DesignLint

namespace Regex

/-- Both cases of an ASCII letter fold alike, so they are in the class of either. -/
theorem mem_foldClass_of_ascii {c : Char} (ascii : c.toNat < 128) : c ∈ foldClass c ∧ c.toLower ∈ foldClass c := by
  have listed : c = foldChar c ∨ c ∈ (if (foldChar c).isAlpha then [(foldChar c).toUpper] else []) :=
    forall_ascii (p := fun c => c = foldChar c ∨ c ∈ (if (foldChar c).isAlpha then [(foldChar c).toUpper] else []))
      (by decide) ascii
  have base : c.toLower = foldChar c := by rw [foldChar, if_pos ascii]
  rw [foldClass, base]
  exact ⟨List.mem_append_left _ (List.mem_cons.mpr listed), List.mem_append_left _ List.mem_cons_self⟩

theorem holdsFolded_toLower (set : Property.CharSet) (c : Char) :
    holdsFolded set true c.toLower = holdsFolded set true c := by
  by_cases ascii : c.toNat < 128
  · obtain ⟨self, small⟩ := mem_foldClass_of_ascii ascii
    have class_eq : foldClass c.toLower = foldClass c := by rw [foldClass, foldChar_toLower, foldClass]
    have found {d : Char} (member : d ∈ foldClass c) :
        (set.holds d || (foldClass c).any set.holds) = (foldClass c).any set.holds := by
      rw [Bool.or_eq_right_iff_imp]
      exact fun holds => List.any_eq_true.mpr ⟨d, member, holds⟩
    rw [holdsFolded, holdsFolded, class_eq, Bool.true_and, found small, found self]
  · rw [toLower_of_le (Nat.le_of_not_lt ascii)]

/-- Whether a part of a class is read without regard to case. -/
def ClassItem.isFolded : ClassItem → Bool
  | range _ _ folded => folded
  | group _ _ folded => folded

theorem ClassItem.holds_toLower {item : ClassItem} (folded : item.isFolded = true) (c : Char) :
    item.holds c.toLower = item.holds c := by
  cases item with
  | range low high f =>
    cases (folded : f = true)
    exact holdsFolded_toLower _ c
  | group set negated f =>
    cases (folded : f = true)
    rw [holds, holds, holdsFolded_toLower]

/-- A class that holds both cases of each letter in it. -/
def CharClass.Caseless (cls : CharClass) : Prop := ∀ c, cls.holds c.toLower = cls.holds c

theorem CharClass.caseless_of_folded {cls : CharClass} (folded : cls.items.all ClassItem.isFolded = true) :
    cls.Caseless := by
  intro c
  have same : cls.items.any (·.holds c.toLower) = cls.items.any (·.holds c) := by
    rw [Bool.eq_iff_iff, List.any_eq_true, List.any_eq_true]
    refine exists_congr fun item => and_congr_right fun member => ?_
    rw [ClassItem.holds_toLower (List.all_eq_true.mp folded item member)]
  rw [holds, holds, same]

theorem Assertion.holds_toLower (condition : Assertion) (before after : Option Char) :
    condition.holds (before.map Char.toLower) (after.map Char.toLower) = condition.holds before after := by
  have newline (c : Char) : c.toLower = '\n' ↔ c = '\n' :=
    ⟨eq_of_toLower_eq (by decide), by rintro rfl; rfl⟩
  have word (c : Char) : isWordChar c.toLower = isWordChar c := apply_toLower (by decide) c
  cases condition <;> cases before <;> cases after <;> simp [holds, newline, word]

/-- A step that takes both cases of each letter that it takes. -/
def Step.Caseless : Step → Prop
  | take cls _ => cls.Caseless
  | _ => True

/-- Whether a step takes characters without regard to case. -/
def Step.isFolded : Step → Bool
  | take cls _ => cls.items.all ClassItem.isFolded
  | _ => true

theorem Step.caseless_of_folded {step : Step} (folded : step.isFolded = true) : step.Caseless := by
  cases step with
  | take cls next => exact CharClass.caseless_of_folded folded
  | _ => trivial

namespace Automaton

variable {steps : Array Step} {mark : Nat} {before after : Option Char}

/-- Which steps are followed depends on the conditions only. -/
theorem explore_toLower (before after : Option Char) (fuel : Nat) (pending : List Nat) (front : Front) :
    explore steps mark (before.map Char.toLower) (after.map Char.toLower) fuel pending front =
      explore steps mark before after fuel pending front := by
  induction fuel generalizing pending front with
  | zero => rfl
  | succ fuel ih =>
    cases pending with
    | nil => rfl
    | cons here pending => simp only [explore, ih, Assertion.holds_toLower]

/-- What waits for a character are classes of the steps. -/
theorem explore_waiting (caseless : ∀ step ∈ steps, step.Caseless) (fuel : Nat) (pending : List Nat) {front : Front}
    (waiting : ∀ w ∈ front.waiting, w.1.Caseless) :
    ∀ w ∈ (explore steps mark before after fuel pending front).waiting, w.1.Caseless := by
  fun_induction explore steps mark before after fuel pending front with
  | case1 => exact waiting
  | case2 => exact waiting
  | case3 _ _ _ _ _ ih => exact ih waiting
  | case4 fuel here pending front _ marked cls next found ih =>
    refine ih fun w member => ?_
    rcases List.mem_cons.mp member with rfl | earlier
    · exact caseless _ (Array.mem_of_getElem? found)
    · exact waiting w earlier
  | case5 _ _ _ _ _ _ _ _ _ ih => exact ih waiting
  | case6 _ _ _ _ _ _ _ _ _ ih => exact ih waiting
  | case7 => exact waiting
  | case8 _ _ _ _ _ _ _ ih => exact ih waiting

/-- A run over small letters is ready for the same steps at each place. -/
theorem run_toLower {automaton : Automaton} (caseless : ∀ step ∈ automaton.steps, step.Caseless) (mark : Nat)
    (before : Option Char) (ready : List Nat) (marks : Array Nat) (rest : List Char) :
    automaton.run mark (before.map Char.toLower) ready marks (rest.map Char.toLower) =
      automaton.run mark before ready marks rest := by
  induction rest generalizing mark before ready marks with
  | nil =>
    rw [List.map_nil, run, run]
    exact congrArg Front.done (explore_toLower _ none _ _ _)
  | cons c rest ih =>
    have front_eq (fuel : Nat) (pending : List Nat) (front : Front) :
        explore automaton.steps mark (before.map Char.toLower) (some c.toLower) fuel pending front =
          explore automaton.steps mark before (some c) fuel pending front :=
      explore_toLower before (some c) fuel pending front
    rw [List.map_cons, run, run]
    simp only [front_eq]
    have waiting : ∀ w ∈ (explore automaton.steps mark before (some c)
        (2 * automaton.steps.size + (automaton.start :: ready).length) (automaton.start :: ready)
        ⟨marks, [], false⟩).waiting, w.1.Caseless := explore_waiting caseless _ _ (by simp)
    generalize explore automaton.steps mark before (some c) _ _ _ = front at waiting ⊢
    have ready_eq : front.waiting.filterMap (fun w => if w.1.holds c.toLower then some w.2 else none) =
        front.waiting.filterMap fun w => if w.1.holds c then some w.2 else none :=
      List.filterMap_congr fun w member => by rw [waiting w member c]
    rw [ready_eq]
    exact congrArg (front.done || ·) (ih (mark + 1) (some c) _ _)

end Automaton

/-- A pattern without regard to case matches in a text if it matches in the text in small letters. -/
theorem Pattern.matchesIn_toLower {pattern : Pattern} (caseless : ∀ step ∈ pattern.automaton.steps, step.Caseless)
    (text : List Char) : pattern.matchesIn (text.map Char.toLower) = pattern.matchesIn text :=
  Automaton.run_toLower caseless 1 none [] _ text

end Regex

namespace CompiledPattern

/-- Texts in two spellings match alike if the pattern is read without regard to case. -/
theorem matchesIn_eq {p : CompiledPattern} (folded : ∀ step ∈ p.pattern.automaton.steps, step.isFolded = true)
    {text text' : Bytes} (same : text.lowered = text'.lowered) : p.matchesIn text = p.matchesIn text' := by
  have lowered (text : Bytes) : p.matchesIn text.lowered = p.matchesIn text := by
    rw [matchesIn, Bytes.chars_lowered, matchesIn]
    exact Regex.Pattern.matchesIn_toLower (fun step member => Regex.Step.caseless_of_folded (folded step member)) _
  rw [← lowered text, same, lowered]

end CompiledPattern

theorem InferenceRules.standard_clock_folded :
    ∀ step ∈ standard.clock.pattern.automaton.steps, step.isFolded = true := by
  have all : (standard.clock.pattern.automaton.steps.toList.all Regex.Step.isFolded) = true := by decide
  exact fun step member => List.all_eq_true.mp all step (Array.mem_toList_iff.mpr member)

theorem InferenceRules.standard_reset_folded :
    ∀ step ∈ standard.reset.pattern.automaton.steps, step.isFolded = true := by
  have all : (standard.reset.pattern.automaton.steps.toList.all Regex.Step.isFolded) = true := by decide
  exact fun step member => List.all_eq_true.mp all step (Array.mem_toList_iff.mpr member)

namespace Tree

/-- The standard rules see the same conditions in every spelling. -/
theorem Respelt.conditionsAlike {t t' : Tree} (same : t.Respelt t') (process : NodeId) :
    ConditionsAlike .standard t t' process := by
  have statements_eq : t.processStatements process = t'.processStatements process :=
    eq_of_outline (·.processStatements process) (·.outline_processStatements process) same
  have clauses_eq : (t.topClauses (t.processStatements process)).map (IfClause.outline .spelling) =
      (t'.topClauses (t'.processStatements process)).map (IfClause.outline .spelling) := by
    rw [← outline_topClauses, statements_eq, same, outline_topClauses]
  have pairs : List.Forall₂ Eq ((t.topClauses (t.processStatements process)).map (IfClause.outline .spelling))
      ((t'.topClauses (t'.processStatements process)).map (IfClause.outline .spelling)) :=
    List.forall₂_eq_eq_eq ▸ clauses_eq
  rw [List.forall₂_map_left_iff, List.forall₂_map_right_iff] at pairs
  refine pairs.imp fun c c' drawn => ?_
  have texts : Likeness.spelling.source c.conditionText = Likeness.spelling.source c'.conditionText :=
    (congrArg IfClause.conditionText drawn :)
  rw [Likeness.source_spelling, Likeness.source_spelling] at texts
  exact ⟨CompiledPattern.matchesIn_eq InferenceRules.standard_clock_folded texts,
    CompiledPattern.matchesIn_eq InferenceRules.standard_reset_folded texts⟩

end Tree
end DesignLint
