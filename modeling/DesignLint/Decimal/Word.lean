/-! Whole numbers of 64 bits with a sign. Sums and differences that leave the range come back at its other end. -/
namespace DesignLint

/-- Whether a number fits into 64 bits with a sign. -/
def fitsWord (n : Int) : Bool := -9223372036854775808 ≤ n && n ≤ 9223372036854775807

/-- The number of 64 bits that a sum or difference comes out as. -/
def wrapWord (n : Int) : Int := Int.bmod n 18446744073709551616

theorem wrapWord_of_fitsWord {n : Int} (h : fitsWord n = true) : wrapWord n = n := by
  simp only [fitsWord, Bool.and_eq_true, decide_eq_true_eq] at h
  unfold wrapWord
  exact Int.bmod_eq_of_le (by omega) (by omega)

end DesignLint
