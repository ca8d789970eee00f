import DesignLint.Regex.Pattern

/-! The automaton of a pattern. A pattern becomes a table of steps, each of which names the step that follows it, so
that matching keeps a set of steps for each place of the text and never goes back. A text matches if an accepting step
is reached from some place, so which of several matches is preferred does not matter here. -/
namespace DesignLint.Regex

/-- A step of an automaton. -/
inductive Step where
  /-- Takes a character of the class. -/
  | take (cls : CharClass) (next : Nat)
  /-- Goes on if the condition holds. -/
  | check (condition : Assertion) (next : Nat)
  /-- Goes on both ways. -/
  | fork (first second : Nat)
  | accept

/-- Applies `add` a number of times, each time in front of what was added before. -/
def addTimes (add : Nat → Array Step → Nat × Array Step) : (n : Nat) → Nat × Array Step → Nat × Array Step
  | 0, result => result
  | n + 1, (next, steps) => addTimes add n (add next steps)

/-- Adds the steps of a pattern that lead on to `next`, and gives the step to start at. -/
def Pattern.addSteps : Pattern → (next : Nat) → Array Step → Nat × Array Step
  | empty, next, steps => (next, steps)
  | one cls, next, steps => (steps.size, steps.push (.take cls next))
  | assert condition, next, steps => (steps.size, steps.push (.check condition next))
  | sequence first second, next, steps =>
    let (middle, steps) := second.addSteps next steps
    first.addSteps middle steps
  | choice first second, next, steps =>
    let (left, steps) := first.addSteps next steps
    let (right, steps) := second.addSteps next steps
    (steps.size, steps.push (.fork left right))
  | copies least most pattern, next, steps =>
    let tail := match most with
      | none =>
        let loop := steps.size
        let (inside, steps) := pattern.addSteps loop (steps.push (.fork next next))
        (loop, steps.setIfInBounds loop (.fork inside next))
      | some most =>
        let optional (after : Nat) (steps : Array Step) : Nat × Array Step :=
          let (inside, steps) := pattern.addSteps after steps
          (steps.size, steps.push (.fork inside next))
        addTimes optional (most - least) (next, steps)
    addTimes pattern.addSteps least tail

/-- A table of steps and the one to start at. -/
structure Automaton where
  steps : Array Step
  start : Nat

/-- The automaton of a pattern. -/
def Pattern.automaton (pattern : Pattern) : Automaton :=
  let (start, steps) := pattern.addSteps 0 #[.accept]
  ⟨steps, start⟩

/-- What is reached at a place: the steps met so far, each marked with the place, the classes that wait for the next
character with where they lead, and whether a match ends here. -/
structure Front where
  marks : Array Nat
  waiting : List (CharClass × Nat)
  done : Bool

namespace Automaton

/-- Follows the pending steps up to those that wait for a character, each step once. -/
def explore (steps : Array Step) (mark : Nat) (before after : Option Char) :
    (fuel : Nat) → (pending : List Nat) → Front → Front
  | 0, _, front => front
  | _, [], front => front
  | fuel + 1, here :: pending, front =>
    if front.marks[here]? = some mark then explore steps mark before after fuel pending front
    else
      let front := { front with marks := front.marks.setIfInBounds here mark }
      match steps[here]? with
      | some (.take cls next) =>
        explore steps mark before after fuel pending { front with waiting := (cls, next) :: front.waiting }
      | some (.check condition next) =>
        explore steps mark before after fuel (if condition.holds before after then next :: pending else pending)
          front
      | some (.fork first second) =>
        explore steps mark before after fuel (first :: second :: pending) front
      | some .accept => { front with done := true }
      | none => explore steps mark before after fuel pending front

/-- Whether a match ends in the rest of a text, from the steps that are ready or the start. -/
def run (automaton : Automaton) : (mark : Nat) → (before : Option Char) → (ready : List Nat) →
    (marks : Array Nat) → (rest : List Char) → Bool
  | mark, before, ready, marks, [] =>
    let pending := automaton.start :: ready
    (explore automaton.steps mark before none (2 * automaton.steps.size + pending.length) pending
      ⟨marks, [], false⟩).done
  | mark, before, ready, marks, c :: rest =>
    let pending := automaton.start :: ready
    let front := explore automaton.steps mark before (some c) (2 * automaton.steps.size + pending.length) pending
      ⟨marks, [], false⟩
    front.done || run automaton (mark + 1) (some c)
      (front.waiting.filterMap fun (cls, next) => if cls.holds c then some next else none) front.marks rest

end Automaton

/-- Whether the pattern matches somewhere in a text. -/
def Pattern.matchesIn (pattern : Pattern) (text : List Char) : Bool :=
  let automaton := pattern.automaton
  automaton.run 1 none [] (Array.replicate automaton.steps.size 0) text

end DesignLint.Regex
