import Mathlib.Algebra.Ring.Int.Defs
import DesignLint.Proofs.Text.Decoding
import DesignLint.Report.LintReport

/-! What the severity policy makes of findings, and how a report adds up. The policy drops the findings of rules
that are off, gives the others their severities, and writes them anew: a message is read as text, and a
coordinate passes through a number of 53 bits. Counts by severity and counts by file are counts of one list. -/
namespace DesignLint

theorem roundDiv_one (m : Nat) : roundDiv m 1 = m := by simp [roundDiv, Nat.mod_one]

namespace Fraction

theorem scale_natCast (a : Fraction) (k : Nat) : a.scale k = ⟨a.num * 2 ^ k, a.den⟩ := by
  rw [scale, if_pos (Int.natCast_nonneg k)]
  rfl

theorem scale_neg_natCast (a : Fraction) (k : Nat) : a.scale (-k) = ⟨a.num, a.den * 2 ^ k⟩ := by
  rw [scale]
  split
  case isTrue nonneg =>
    obtain rfl : k = 0 := by omega
    simp
  case isFalse => rw [Int.neg_neg]; rfl

/-- A number of at most so many bits is its own nearest one. -/
theorem significand_ofNat {bits n : Nat} (positive : 0 < n) (small : n < 2 ^ bits) :
    (ofNat n).significand bits =
      (n * 2 ^ (bits - 1 - n.log2), -((bits - 1 - n.log2 : Nat) : Int)) := by
  have bound : n.log2 < bits := (Nat.log2_lt (Nat.ne_of_gt positive)).mpr small
  generalize exact : bits - 1 - n.log2 = k
  have least : 2 ^ n.log2 * 2 ^ k = 2 ^ (bits - 1) := by rw [← Nat.pow_add]; congr 1; omega
  have twice : 2 * 2 ^ (bits - 1) = 2 ^ bits := by rw [← Nat.pow_succ']; congr 1; omega
  have atLeast : 2 ^ (bits - 1) ≤ n * 2 ^ k :=
    least ▸ Nat.mul_le_mul_right _ (Nat.log2_self_le (Nat.ne_of_gt positive))
  have below : n * 2 ^ k < 2 ^ bits := by
    rw [← twice, ← least, ← Nat.mul_assoc, ← Nat.pow_succ']
    exact Nat.mul_lt_mul_of_pos_right Nat.lt_log2_self (Nat.two_pow_pos k)
  have guess : ((n.log2 : Int) - (1 : Nat).log2 - (bits - 1 : Nat)) = -(k : Int) := by
    have : (1 : Nat).log2 = 0 := by decide
    omega
  have notLess : ¬ n * 2 ^ k < 2 ^ (bits - 1) * 1 := by omega
  have notTwice : n * 2 ^ k ≠ 2 * 2 ^ (bits - 1) := by omega
  simp only [significand, ofNat, (Nat.ne_of_gt positive), if_false, guess, Int.neg_neg, scale_natCast, Nat.pow_eq, notLess, roundDiv_one,
    notTwice]

end Fraction

theorem roundToBinary_natCast (n : Nat) :
    roundToBinary n = (((Fraction.ofNat n).nearest 53).num / ((Fraction.ofNat n).nearest 53).den : Nat) := by
  have nonneg : ¬ ((n : Int) < 0) := by omega
  simp only [roundToBinary, nonneg, if_false, Int.natAbs_natCast]
  rfl

/-- Whole numbers of at most 53 bits come through as they are. -/
theorem roundToBinary_of_lt {n : Nat} (small : n < 2 ^ 53) : roundToBinary n = n := by
  rcases Nat.eq_zero_or_pos n with rfl | positive
  · rfl
  · rw [roundToBinary_natCast, Fraction.nearest, Fraction.significand_ofNat positive small]
    simp only [Fraction.scale_neg_natCast, Fraction.ofNat, Nat.one_mul]
    rw [Nat.mul_div_cancel _ (Nat.two_pow_pos _)]

/-- A coordinate after its way through floating-point numbers. -/
def Coordinate.rounded (c : Coordinate) : Coordinate := ⟨roundToBinary c.line, roundToBinary c.character⟩

/-- A coordinate that counts from zero and is exact as a floating-point number. -/
def Coordinate.IsExact (c : Coordinate) : Prop :=
  ∃ line character : Nat, c = ⟨line, character⟩ ∧ line < 2 ^ 53 ∧ character < 2 ^ 53

/-- A finding as the policy writes it. -/
def Diagnostic.rewritten (d : Diagnostic) (severity : String) : Diagnostic :=
  { d with
    severity
    message := Bytes.ofString d.message.decode
    range := ⟨d.range.start.rounded, d.range.stop.rounded⟩ }

namespace SeverityRules

variable {rules : SeverityRules} {found reported : List Diagnostic}

theorem rounded?_eq_some {c c' : Coordinate} (rounds : rounded? c = some c') : c' = c.rounded := by
  rw [rounded?] at rounds
  split at rounds
  · exact (Option.some.inj rounds).symm
  · contradiction

theorem rounded?_of_isExact {c : Coordinate} (exact : c.IsExact) : rounded? c = some c := by
  obtain ⟨line, character, rfl, small, small'⟩ := exact
  have fits {n : Nat} (lt : n < 2 ^ 53) : fitsWord n = true := by
    simp only [fitsWord, Bool.and_eq_true, decide_eq_true_eq]
    omega
  simp only [rounded?, roundToBinary_of_lt small, roundToBinary_of_lt small', fits small, fits small', Bool.and_self,
    if_true]

/-- Whether a finding is reported at all. -/
def keeps (rules : SeverityRules) (d : Diagnostic) : Bool := rules.severityOf d.rule d.severity ≠ severityOff

theorem reported?_eq_some {severity : String} {d d' : Diagnostic} (written : reported? severity d = some d') :
    d' = d.rewritten severity := by
  obtain ⟨start, starts, written⟩ := Option.bind_eq_some_iff.mp written
  obtain ⟨stop, stops, written⟩ := Option.bind_eq_some_iff.mp written
  rw [← Option.some.inj written, rounded?_eq_some starts, rounded?_eq_some stops]
  rfl

theorem mapM_eq_some {α β : Type} {f : α → Option β} {g : α → β} {xs : List α} {ys : List β}
    (each : ∀ x y, f x = some y → y = g x) (all : xs.mapM f = some ys) : ys = xs.map g := by
  induction xs generalizing ys with
  | nil => simpa using all.symm
  | cons x xs ih =>
    rw [List.mapM_cons] at all
    obtain ⟨y, first, all⟩ := Option.bind_eq_some_iff.mp all
    obtain ⟨rest, others, all⟩ := Option.bind_eq_some_iff.mp all
    rw [← Option.some.inj all, each x y first, ih others]
    rfl

theorem mapM_eq_some_map {α β : Type} {f : α → Option β} {g : α → β} {xs : List α}
    (each : ∀ x ∈ xs, f x = some (g x)) : xs.mapM f = some (xs.map g) := by
  induction xs with
  | nil => rfl
  | cons x xs ih =>
    rw [List.mapM_cons, each x List.mem_cons_self, ih fun y member => each y (List.mem_cons_of_mem x member)]
    rfl

/-- What is reported is what is kept, written anew, in order. -/
theorem evaluate?_eq_some (evaluated : rules.evaluate? found = some reported) :
    reported = (found.filter rules.keeps).map fun d => d.rewritten (rules.severityOf d.rule d.severity) :=
  mapM_eq_some (fun _ _ => reported?_eq_some) evaluated

/-- Findings with exact coordinates can all be reported, and keep their places. -/
theorem evaluate?_of_isExact (exact : ∀ d ∈ found, d.range.start.IsExact ∧ d.range.stop.IsExact) :
    rules.evaluate? found = some ((found.filter rules.keeps).map fun d =>
      { d with severity := rules.severityOf d.rule d.severity, message := Bytes.ofString d.message.decode }) := by
  have each : ∀ d ∈ found.filter rules.keeps, reported? (rules.severityOf d.rule d.severity) d = some
      { d with severity := rules.severityOf d.rule d.severity, message := Bytes.ofString d.message.decode } := by
    intro d member
    obtain ⟨start, stop⟩ := exact d (List.mem_filter.mp member).1
    rw [reported?, rounded?_of_isExact start, rounded?_of_isExact stop]
    rfl
  exact mapM_eq_some_map each

end SeverityRules

/-- The severities that are counted. -/
def countedSeverities : List String := ["error", "warning", "info"]

namespace Summary

/-- All findings are counted under one severity each. -/
theorem total_eq {found : List Diagnostic} (counted : ∀ d ∈ found, d.severity ∈ countedSeverities) :
    (ofFindings found).total = (ofFindings found).errors + (ofFindings found).warnings + (ofFindings found).info := by
  induction found with
  | nil => rfl
  | cons d found ih =>
    obtain ⟨first, others⟩ := List.forall_mem_cons.mp counted
    have smaller := ih others
    simp only [ofFindings, List.length_cons, List.countP_cons] at smaller ⊢
    simp only [countedSeverities, List.mem_cons, List.not_mem_nil, or_false] at first
    rcases first with same | same | same <;> simp [same] <;> omega

end Summary

/-- Counting by a key and summing up counts everything once. -/
theorem sum_countP_filter {α β : Type} [DecidableEq β] (key : α → β) (test : α → Bool) {keys : List β}
    (distinct : keys.Nodup) {xs : List α} (covered : ∀ x ∈ xs, key x ∈ keys) :
    (keys.map fun k => ((xs.filter fun x => key x = k).countP test : Int)).sum = xs.countP test := by
  induction keys generalizing xs with
  | nil =>
    obtain rfl := List.eq_nil_iff_forall_not_mem.mpr fun x member => List.not_mem_nil (covered x member)
    rfl
  | cons k keys ih =>
    obtain ⟨new, distinct⟩ := List.nodup_cons.mp distinct
    let others := xs.filter fun x => !decide (key x = k)
    have elsewhere : ∀ x ∈ others, key x ∈ keys := fun x member => by
      obtain ⟨listed, other⟩ := List.mem_filter.mp member
      exact (List.mem_cons.mp (covered x listed)).resolve_left (by simpa using other)
    have rest := ih distinct elsewhere
    have same : ∀ k' ∈ keys, others.filter (fun x => key x = k') = xs.filter fun x => key x = k' := by
      intro k' member
      rw [List.filter_filter]
      refine List.filter_congr fun x _ => ?_
      have differs : k' ≠ k := fun eq => new (eq ▸ member)
      by_cases here : key x = k' <;> simp [here, differs]
    rw [List.map_cons, List.sum_cons, List.countP_eq_countP_filter_add xs test fun x => key x = k, Int.natCast_add, ← rest]
    congr 2
    exact List.map_congr_left fun k' member => by rw [same k' member]

end DesignLint
