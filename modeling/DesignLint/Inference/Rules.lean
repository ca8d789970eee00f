import DesignLint.Regex.Reader

/-! The patterns behind the inference of registers and resets: one that recognises a condition on a clock
edge, one that recognises the condition of a reset. -/
namespace DesignLint

/-- An expression and the pattern it denotes. -/
structure CompiledPattern where
  expression : String
  pattern : Regex.Pattern

namespace CompiledPattern

/-- Reads an expression. -/
def compile (expression : String) : Except Regex.Error CompiledPattern :=
  (Regex.parse expression).map (⟨expression, ·⟩)

/-- Reads an expression that is known to be well formed. -/
def ofKnown (expression : String) : CompiledPattern :=
  match compile expression with
  | .ok p => p
  | .error _ => ⟨expression, .empty⟩

/-- Whether the pattern matches somewhere in a text. -/
def matchesIn (p : CompiledPattern) (text : Bytes) : Bool := p.pattern.matchesIn text.chars

end CompiledPattern

/-- The patterns in effect for a file. -/
structure InferenceRules where
  clock : CompiledPattern
  reset : CompiledPattern

namespace InferenceRules

/-- The expression for clock edges that holds unless another is given. -/
def defaultClock : String := "(?i)rising_edge|falling_edge|'event"

/-- The expression for resets that holds unless another is given. -/
def defaultReset : String := "(?i)res"

/-- The rules that hold unless others are given. -/
def standard : InferenceRules := ⟨.ofKnown defaultClock, .ofKnown defaultReset⟩

end InferenceRules

/-- An expression for clock edges or resets that is not well formed. -/
inductive RulesError where
  | clock (error : Regex.Error)
  | reset (error : Regex.Error)

/-- The wording of the error. -/
def RulesError.message : RulesError → String
  | clock error => "compiling clockEdgePattern: " ++ error.message
  | reset error => "compiling resetPattern: " ++ error.message

namespace InferenceRules

/-- The rules for two expressions; an empty one stands for the default. -/
def compile (clock reset : String) : Except RulesError InferenceRules := do
  let edge ← if clock.isEmpty then .ok standard.clock
    else (CompiledPattern.compile clock).mapError RulesError.clock
  let clear ← if reset.isEmpty then .ok standard.reset
    else (CompiledPattern.compile reset).mapError RulesError.reset
  return ⟨edge, clear⟩

end InferenceRules
end DesignLint
