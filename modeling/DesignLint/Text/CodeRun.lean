/-! Runs of code points. A set of characters that a standard lists, such as a category or a script, is kept as
runs: all characters of a range, or every second one, which is how capital and small letters alternate. -/
namespace DesignLint

/-- The code points `first`, `first + step`, … `last`. -/
structure CodeRun where
  first : Nat
  last : Nat
  step : Nat

namespace CodeRun

/-- Whether a code point is in the run. -/
def holds (run : CodeRun) (code : Nat) : Bool :=
  run.first ≤ code && code ≤ run.last && (code - run.first) % run.step == 0

/-- Whether a code point is in one of the runs. -/
def anyHolds (runs : List CodeRun) (code : Nat) : Bool := runs.any (·.holds code)

end CodeRun
end DesignLint
