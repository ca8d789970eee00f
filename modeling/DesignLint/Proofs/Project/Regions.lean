import DesignLint.Project.Regions
import DesignLint.Proofs.Source.Coordinate
import DesignLint.Proofs.Text.Decoding
import DesignLint.Regex.Reader
import Mathlib.Data.List.Basic
import Mathlib.Data.List.Induction

/-! Ignore regions, line by line. A line starts or ends a region if the expression for the comments is found in it, and what
an expression finds is said by its pattern alone. Reading a line byte by byte decides the same, and a text in which the
comments are found mentions their marker, so looking for the marker first loses no region. -/
namespace DesignLint

namespace Regex

/-! ### What a pattern takes -/

/-- Copies of a pattern one behind the other, each between the characters beside it. -/
def chained (takes : Option Char → List Char → Option Char → Prop) :
    (before : Option Char) → List (List Char) → (after : Option Char) → Prop
  | _, [], _ => True
  | before, taken :: more, after =>
    takes before taken (more.flatten.head?.or after) ∧ chained takes (taken.getLast?.or before) more after

/-- Whether a pattern can take exactly these characters between the two beside them. -/
def Pattern.Takes : Pattern → (before : Option Char) → List Char → (after : Option Char) → Prop
  | empty, _, taken, _ => taken = []
  | one cls, _, taken, _ => ∃ c, taken = [c] ∧ cls.holds c = true
  | assert condition, before, taken, after => taken = [] ∧ condition.holds before after = true
  | sequence first second, before, taken, after => ∃ front back, taken = front ++ back ∧
      first.Takes before front (back.head?.or after) ∧ second.Takes (front.getLast?.or before) back after
  | choice first second, before, taken, after => first.Takes before taken after ∨ second.Takes before taken after
  | copies least most pattern, before, taken, after => ∃ pieces, taken = pieces.flatten ∧ least ≤ pieces.length ∧
      (∀ bound ∈ most, pieces.length ≤ bound) ∧ chained pattern.Takes before pieces after

/-- An expression is found in a text if its pattern takes some part of it. -/
def Finds (expression : String) (text : List Char) : Prop :=
  ∃ pattern, parse expression = .ok pattern ∧ ∃ before taken after, text = before ++ taken ++ after ∧
    pattern.Takes before.getLast? taken after.head?

/-! ### Classes without regard to case -/

/-- The signs of ASCII that no character beyond ASCII folds like, small letters of them only. -/
def Plain (sign : Char) : Prop := sign.toNat < 128 ∧ sign.toLower = sign ∧ sign ∉ [Char.ofNat 0, 'k', 's']

instance (sign : Char) : Decidable (Plain sign) := inferInstanceAs (Decidable (_ ∧ _ ∧ _))

variable {sign c : Char}

theorem Plain.ne_ofNat (plain : Plain sign) {n : Nat} (high : 128 ≤ n) : Char.ofNat n ≠ sign := by
  rintro rfl
  obtain ⟨ascii, _, other⟩ := plain
  have large := Bytes.le_toNat_ofNat high fun zero => other (by simp [zero])
  omega

/-- Case foldings lead from beyond ASCII to beyond ASCII, except for the Kelvin sign and the long s. -/
theorem foldRuns_far : ∀ run ∈ CaseTable.foldRuns, 128 ≤ run.first ∧ ((128 : Int) ≤ run.first + run.shift ∨
    run.first = run.last ∧ (run.first + run.shift = 'k'.toNat ∨ run.first + run.shift = 's'.toNat)) := by
  decide +kernel

theorem foldRuns_image {run : CaseTable.Run} (member : run ∈ CaseTable.foldRuns) {code image : Nat}
    (found : run.image? code = some image) : 128 ≤ code ∧ (128 ≤ image ∨ image = 'k'.toNat ∨ image = 's'.toNat) := by
  have far := foldRuns_far run member
  obtain ⟨low, high, moved⟩ := CaseTable.Run.of_image? found
  omega

theorem foldChar_eq_iff (plain : Plain sign) : foldChar c = sign ↔ c.toLower = sign := by
  by_cases ascii : c.toNat < 128
  · rw [foldChar, if_pos ascii]
  · have other : c ≠ sign := fun same => ascii (same ▸ plain.1)
    rw [toLower_of_le (Nat.le_of_not_lt ascii), foldChar, if_neg ascii, mapByRuns]
    split
    · rename_i code found
      obtain ⟨run, member, image⟩ := List.exists_of_findSome?_eq_some found
      refine iff_of_false (fun same => ?_) other
      obtain ⟨_, _, unlike⟩ := id plain
      rcases (foldRuns_image member image).2 with far | rfl | rfl
      · exact plain.ne_ofNat far same
      · exact unlike (by simp [← same])
      · exact unlike (by simp [← same])
    · rfl

theorem ascii_of_isAlpha (letter : c.isAlpha = true) : c.toNat < 128 := by
  delta Char.isAlpha Char.isUpper Char.isLower at letter
  simp only [Bool.or_eq_true, Bool.and_eq_true, decide_eq_true_eq, ge_iff_le, UInt32.le_iff_toNat_le] at letter
  have code : c.toNat = c.val.toNat := rfl
  simp at letter
  omega

/-- What folds like a plain sign is its capital or the sign itself. -/
theorem mem_foldClass (plain : Plain sign) : sign ∈ foldClass c ↔ c.toLower = sign := by
  rw [← foldChar_eq_iff plain, foldClass]
  constructor
  · intro member
    rcases List.mem_append.mp member with listed | source
    · rcases List.mem_cons.mp listed with base | capital
      · exact base.symm
      · split at capital
        · rename_i letter
          have same := List.mem_singleton.mp capital
          have changed : (foldChar c).toUpper.toLower ≠ (foldChar c).toUpper :=
            forall_ascii (p := fun d => d.isAlpha = true → d.toUpper.toLower ≠ d.toUpper) (by decide)
              (ascii_of_isAlpha letter) letter
          exact absurd (same ▸ plain.2.1) changed
        · cases capital
    · obtain ⟨run, member, origin⟩ := List.mem_filterMap.mp source
      obtain ⟨code, found, same⟩ := Option.map_eq_some_iff.mp origin
      rw [CaseTable.Run.source?] at found
      split at found
      · rename_i image
        rw [Option.some.inj found, beq_iff_eq] at image
        exact absurd same (plain.ne_ofNat (foldRuns_image member image).1)
      · cases found
  · rintro rfl
    exact List.mem_append_left _ List.mem_cons_self

theorem holdsFolded_iff {set : Property.CharSet} (plain : ∀ d, set.holds d = true → Plain d) (c : Char) :
    holdsFolded set true c = set.holds c.toLower := by
  rw [Bool.eq_iff_iff, holdsFolded, Bool.true_and, Bool.or_eq_true, List.any_eq_true]
  constructor
  · rintro (itself | ⟨d, member, holds⟩)
    · rwa [(plain c itself).2.1]
    · rwa [(mem_foldClass (plain d holds)).mp member]
  · intro holds
    exact .inr ⟨_, (mem_foldClass (plain _ holds)).mpr rfl, holds⟩

/-- Copies of a single character are that many characters. -/
theorem chained_one {cls : CharClass} {before after : Option Char} {pieces : List (List Char)} :
    chained (Pattern.one cls).Takes before pieces after ↔
      ∃ cs : List Char, pieces = cs.map (fun c => [c]) ∧ ∀ c ∈ cs, cls.holds c = true := by
  induction pieces generalizing before with
  | nil => exact iff_of_true trivial ⟨[], rfl, by simp⟩
  | cons piece pieces ih =>
    rw [chained, ih]
    constructor
    · rintro ⟨⟨c, rfl, holds⟩, cs, rfl, all⟩
      exact ⟨c :: cs, rfl, List.forall_mem_cons.mpr ⟨holds, all⟩⟩
    · rintro ⟨cs, same, all⟩
      obtain ⟨c, cs, rfl, rfl, rfl⟩ := List.map_eq_cons_iff.mp same.symm
      obtain ⟨holds, all⟩ := List.forall_mem_cons.mp all
      exact ⟨⟨c, rfl, holds⟩, cs, rfl, all⟩

theorem flatten_singletons (cs : List Char) : (cs.map fun c => [c]).flatten = cs := by
  rw [← List.flatMap_def, List.flatMap_singleton' cs]

theorem takes_copies_one {cls : CharClass} {least : Nat} {before after : Option Char} {taken : List Char} :
    (Pattern.copies least none (.one cls)).Takes before taken after ↔
      least ≤ taken.length ∧ ∀ c ∈ taken, cls.holds c = true := by
  rw [Pattern.Takes]
  constructor
  · rintro ⟨pieces, rfl, many, _, run⟩
    obtain ⟨cs, rfl, all⟩ := chained_one.mp run
    rw [List.length_map] at many
    rw [flatten_singletons]
    exact ⟨many, all⟩
  · rintro ⟨many, all⟩
    exact ⟨taken.map fun c => [c], (flatten_singletons taken).symm, by simpa using many, by simp,
      chained_one.mpr ⟨taken, rfl, all⟩⟩

theorem ascii_of_isWordChar {c : Char} (word : isWordChar c = true) : c.toNat < 128 ∧ c ≠ Char.ofNat 0 := by
  refine ⟨?_, by rintro rfl; exact absurd word (by decide)⟩
  simp only [isWordChar, Char.isAlphanum, Bool.or_eq_true, decide_eq_true_eq] at word
  rcases word with (letter | digit) | rfl
  · exact ascii_of_isAlpha letter
  · simp only [Char.isDigit, Bool.and_eq_true, decide_eq_true_eq, UInt32.le_iff_toNat_le] at digit
    have code : c.toNat = c.val.toNat := rfl
    simp at digit
    omega
  · decide

end Regex

namespace Region

open Regex Coordinate

variable {off inside : Bool} {before after : Option Char} {cs taken word : List Char}
  {text line rest : Bytes} {lines : List Bytes} {n i : Nat} {number : Int}

/-! ### The expressions -/

/-- The comments that a region may begin or end with. -/
def expression (words : String) : String := "(?i)^\\s*--\\s*vhdl_lint\\s+(" ++ words ++ ")\\b"

/-- A character of a word in either case. -/
def letter (c : Char) : Pattern := .one (.single c.toNat true)

/-- The characters of a word, one behind the other. -/
def letters : List Char → Pattern
  | [] => .empty
  | c :: rest => rest.foldl (fun before c => .sequence before (letter c)) (letter c)

/-- White space. -/
def blankSet : Property.CharSet := ⟨[⟨9, 10, 1⟩, ⟨12, 13, 1⟩, ⟨32, 32, 1⟩], false⟩

/-- A run of white space. -/
def blanks (least : Nat) : Pattern := .copies least none (.one ⟨[.group blankSet false true], false⟩)

/-- A comment with one of some words. -/
def comment (words : Pattern) : Pattern :=
  .sequence ([blanks 0, letters ['-', '-'], blanks 0, letters marker.toList, blanks 1, words].foldl .sequence
    (.assert .beginText)) (.assert .wordBoundary)

theorem parse_both : Regex.parse (expression "off|on") =
    .ok (comment (.choice (letters "off".toList) (letters "on".toList))) := by rfl

theorem parse_on : Regex.parse (expression "on") = .ok (comment (letters "on".toList)) := by rfl

theorem plain_of_blank (c : Char) (blank : blankSet.holds c = true) : Plain c := by
  have code : c.toNat < 128 := by
    simp [Property.CharSet.holds, CodeRun.anyHolds, CodeRun.holds, blankSet] at blank
    omega
  exact forall_ascii (p := fun c => blankSet.holds c = true → Plain c) (by decide) code blank

theorem blank_toLower (c : Char) : blankSet.holds c.toLower = blankSet.holds c := apply_toLower (by decide) c

theorem takes_blanks {least : Nat} :
    (blanks least).Takes before taken after ↔ least ≤ taken.length ∧ ∀ c ∈ taken, blankSet.holds c = true := by
  have holds (c : Char) : CharClass.holds ⟨[.group blankSet false true], false⟩ c = blankSet.holds c := by
    rw [CharClass.holds, List.any_cons, List.any_nil, ClassItem.holds, holdsFolded_iff plain_of_blank, blank_toLower]
    simp
  rw [blanks, takes_copies_one]
  simp only [holds]

theorem takes_letter {sign : Char} (plain : Plain sign) :
    (letter sign).Takes before taken after ↔ taken.map Char.toLower = [sign] := by
  have exact_ (d : Char) : (Property.CharSet.holds ⟨[⟨sign.toNat, sign.toNat, 1⟩], false⟩ d = true) ↔ d = sign := by
    simp only [Property.CharSet.holds, CodeRun.anyHolds, CodeRun.holds, List.any_cons, List.any_nil, Bool.bne_false,
      Bool.or_false, Bool.and_eq_true, decide_eq_true_eq, Nat.mod_one, beq_self_eq_true, and_true]
    exact ⟨fun same => Char.toNat_inj.mp (by omega), by rintro rfl; simp⟩
  have holds (c : Char) : ((CharClass.single sign.toNat true).holds c = true) ↔ c.toLower = sign := by
    rw [CharClass.single, CharClass.holds, List.any_cons, List.any_nil, ClassItem.holds,
      holdsFolded_iff fun d same => (exact_ d).mp same ▸ plain]
    simp only [Bool.bne_false, Bool.or_false, exact_]
  rw [letter, Pattern.Takes, List.map_eq_singleton_iff]
  simp only [holds]

theorem letters_concat (nonempty : word ≠ []) (c : Char) : letters (word ++ [c]) = .sequence (letters word) (letter c) := by
  cases word with
  | nil => contradiction
  | cons d rest => rw [List.cons_append, letters, letters, List.foldl_append]; rfl

theorem takes_letters (plain : ∀ sign ∈ word, Plain sign) :
    (letters word).Takes before taken after ↔ taken.map Char.toLower = word := by
  induction word using List.reverseRecOn generalizing taken after with
  | nil => simp [letters, Pattern.Takes]
  | append_singleton word c ih =>
    have last : Plain c := plain c (by simp)
    by_cases empty : word = []
    · subst empty
      exact takes_letter last
    · rw [letters_concat empty, Pattern.Takes, List.map_eq_append_iff]
      simp only [ih fun sign member => plain sign (by simp [member]), takes_letter last]

/-! ### The comments -/

/-- A comment with a word: the marker between blanks and letters of either case. -/
def Comment (word cs : List Char) : Prop :=
  ∃ indent dashes gap mark space said, cs = indent ++ (dashes ++ (gap ++ (mark ++ (space ++ said)))) ∧
    (∀ c ∈ indent, blankSet.holds c = true) ∧ dashes.map Char.toLower = ['-', '-'] ∧
    (∀ c ∈ gap, blankSet.holds c = true) ∧ mark.map Char.toLower = marker.toList ∧
    ((∀ c ∈ space, blankSet.holds c = true) ∧ space ≠ []) ∧ said.map Char.toLower = word

/-- A word that blanks before it do not run into, spelled in signs whose case can be ignored byte by byte. -/
def IsWord (word : String) : Prop := (∀ sign ∈ word.toList, Plain sign ∧ blankSet.holds sign = false) ∧ word.toList ≠ []

instance (word : String) : Decidable (IsWord word) :=
  decidable_of_iff
    ((word.toList.all fun sign => decide (Plain sign ∧ blankSet.holds sign = false)) = true ∧ word.toList ≠ [])
    (by simp only [IsWord, List.all_eq_true, decide_eq_true_eq])

theorem IsWord.plain {word : String} (isWord : IsWord word) : ∀ sign ∈ word.toList, Plain sign :=
  fun sign member => (isWord.1 sign member).1

theorem isWord_dashes : IsWord "--" := by decide

theorem isWord_marker : IsWord marker := by decide

theorem ascii_of_map_toLower {word : List Char} (plain : ∀ sign ∈ word, Plain sign) (low : cs.map Char.toLower = word) :
    ∀ c ∈ cs, c.toNat < 128 ∧ c ≠ Char.ofNat 0 := by
  intro c member
  obtain ⟨ascii, _, other⟩ := plain c.toLower (by simpa [← low] using ⟨c, member, rfl⟩)
  refine ⟨Nat.lt_of_not_le fun high => ?_, fun zero => other (by simp [zero])⟩
  rw [toLower_of_le high] at ascii
  omega

theorem afterWord?_eq_some {word : String} (isWord : IsWord word) :
    afterWord? word line = some rest ↔
      ∃ cs : List Char, cs.map Char.toLower = word.toList ∧ line = Bytes.ofAscii cs ++ rest := by
  have plain := isWord.plain
  have bytes : Bytes.ofString word = Bytes.ofAscii word.toList :=
    Bytes.ofString_of_ascii fun sign member => (plain sign member).1
  have spelled : afterWord? word line = if Bytes.lowered (line.take (Bytes.ofString word).length) = Bytes.ofString word then
      some (line.drop (Bytes.ofString word).length) else none := rfl
  rw [spelled]
  constructor
  · intro found
    split at found
    · rename_i same
      obtain rfl := Option.some.inj found
      have low : (Bytes.chars (line.take (Bytes.ofString word).length)).map Char.toLower = word.toList := by
        rw [← Bytes.chars_lowered, same, Bytes.chars_ofString]
      obtain ⟨behind, front, none_⟩ := (Bytes.chars_eq_append (ascii_of_map_toLower plain low)).mp (List.append_nil _).symm
      have empty : behind = [] := by
        cases behind with
        | nil => rfl
        | cons => simp [Bytes.chars, Bytes.units] at none_
      rw [empty, List.append_nil] at front
      exact ⟨_, low, by rw [← front, List.take_append_drop]⟩
    · cases found
  · rintro ⟨cs, low, rfl⟩
    have ascii : ∀ c ∈ cs, c.toNat < 128 := fun c member => (ascii_of_map_toLower plain low c member).1
    have length_eq : (Bytes.ofString word).length = (Bytes.ofAscii cs).length := by
      rw [bytes, ← low, Bytes.ofAscii, Bytes.ofAscii, List.length_map, List.length_map, List.length_map]
    rw [length_eq, List.take_left, List.drop_left, Bytes.lowered_ofAscii ascii, low, bytes, if_pos rfl]

theorem isBlank_ofNat {c : Char} (ascii : c.toNat < 128) : isBlank (UInt8.ofNat c.toNat) = blankSet.holds c :=
  forall_ascii (p := fun c => isBlank (UInt8.ofNat c.toNat) = blankSet.holds c) (by decide) ascii

theorem exists_blanks (line : Bytes) :
    ∃ space, (∀ c ∈ space, blankSet.holds c = true) ∧ line = Bytes.ofAscii space ++ line.dropWhile isBlank := by
  obtain ⟨space, bytes, rfl⟩ := Bytes.exists_ofAscii (line.takeWhile isBlank)
  refine ⟨_, fun c member => ?_, by rw [← bytes, List.takeWhile_append_dropWhile]⟩
  obtain ⟨b, inside, rfl⟩ := List.mem_map.mp member
  have blank := List.mem_takeWhile_imp inside
  simp only [isBlank, Bool.or_eq_true, beq_iff_eq] at blank
  obtain (((rfl | rfl) | rfl) | rfl) | rfl := blank <;> decide

theorem dropWhile_blanks {word : String} (isWord : IsWord word) {space : List Char}
    (blank : ∀ c ∈ space, blankSet.holds c = true) (low : cs.map Char.toLower = word.toList) (rest : Bytes) :
    (Bytes.ofAscii space ++ (Bytes.ofAscii cs ++ rest)).dropWhile isBlank = Bytes.ofAscii cs ++ rest := by
  have run : ∀ b ∈ Bytes.ofAscii space, isBlank b = true := by
    intro b member
    obtain ⟨c, inside, rfl⟩ := List.mem_map.mp member
    rw [isBlank_ofNat (plain_of_blank c (blank c inside)).1, blank c inside]
  rw [List.dropWhile_append_of_pos run]
  cases cs with
  | nil => exact absurd low.symm isWord.2
  | cons c cs =>
    obtain ⟨plain, other⟩ := isWord.1 c.toLower (by rw [← low]; simp)
    have ascii : c.toNat < 128 :=
      (ascii_of_map_toLower (fun sign member => (isWord.1 sign member).1) low c List.mem_cons_self).1
    exact List.dropWhile_cons_of_neg (by rw [isBlank_ofNat ascii, ← blank_toLower, other]; exact Bool.false_ne_true)

/-- The word of a comment that starts or ends a region. -/
def command (off : Bool) : String := if off then "off" else "on"

theorem isWord_command (off : Bool) : IsWord (command off) := by cases off <;> decide

theorem afterWord?_dropWhile {word : String} (isWord : IsWord word) :
    afterWord? word (line.dropWhile isBlank) = some rest ↔ ∃ space said : List Char,
      (∀ c ∈ space, blankSet.holds c = true) ∧ said.map Char.toLower = word.toList ∧
        line = Bytes.ofAscii space ++ (Bytes.ofAscii said ++ rest) := by
  rw [afterWord?_eq_some isWord]
  constructor
  · rintro ⟨said, low, behind⟩
    obtain ⟨space, blank, line_eq⟩ := exists_blanks line
    exact ⟨space, said, blank, low, by rw [line_eq, behind]⟩
  · rintro ⟨space, said, blank, low, rfl⟩
    exact ⟨said, low, dropWhile_blanks isWord blank low rest⟩

theorem lowered_of_afterWord? {word : String} (isWord : IsWord word) (found : afterWord? word line = some rest) :
    Bytes.lowered line = Bytes.ofString word ++ Bytes.lowered rest := by
  obtain ⟨said, low, rfl⟩ := (afterWord?_eq_some isWord).mp found
  have plain := isWord.plain
  rw [Bytes.lowered_append, Bytes.lowered_ofAscii fun c member => (ascii_of_map_toLower plain low c member).1, low,
    Bytes.ofString_of_ascii fun sign member => (plain sign member).1]

/-- A line does not go on with both commands. -/
theorem afterWord?_on_eq_none (found : afterWord? "off" line = some rest) : afterWord? "on" line = none := by
  rw [Option.eq_none_iff_forall_ne_some]
  intro behind on
  have stops := lowered_of_afterWord? (isWord_command true) found
  have starts := lowered_of_afterWord? (isWord_command false) on
  have stop_bytes : Bytes.ofString (command true) = [111, 102, 102] := by decide
  have start_bytes : Bytes.ofString (command false) = [111, 110] := by decide
  simp [stops, stop_bytes, start_bytes] at starts

theorem pragma?_eq_some_iff : pragma? line = some off ↔
    ∃ comment, afterWord? "--" (line.dropWhile isBlank) = some comment ∧
      ∃ rest, afterWord? marker (comment.dropWhile isBlank) = some rest ∧
        (rest.dropWhile isBlank).length ≠ rest.length ∧
          ∃ behind, afterWord? (command off) (rest.dropWhile isBlank) = some behind ∧ wordEnds behind = true := by
  simp only [pragma?, Option.bind_eq_bind, Option.bind_eq_some_iff]
  refine exists_congr fun comment => and_congr_right fun _ => exists_congr fun rest => and_congr_right fun _ => ?_
  by_cases same : (rest.dropWhile isBlank).length = rest.length
  · simp [same]
  rw [if_neg same]
  cases stops : afterWord? "off" (rest.dropWhile isBlank) with
  | some behind =>
    cases off with
    | true => simp [command, stops, same]
    | false =>
      have other : afterWord? "on" (rest.dropWhile isBlank) = none := afterWord?_on_eq_none stops
      simp [command, other]
  | none => cases off <;> simp [command, stops, same, Option.bind_eq_some_iff]

theorem pragma?_eq_some : pragma? line = some off ↔
    ∃ cs rest, line = Bytes.ofAscii cs ++ rest ∧ Comment (command off).toList cs ∧ wordEnds rest = true := by
  rw [pragma?_eq_some_iff]
  constructor
  · rintro ⟨comment, starts, behind, named, shorter, rest, stated, ends⟩
    obtain ⟨indent, dashes, blank, dashed, rfl⟩ := (afterWord?_dropWhile isWord_dashes).mp starts
    obtain ⟨gap, mark, blank', marked, rfl⟩ := (afterWord?_dropWhile isWord_marker).mp named
    obtain ⟨space, said, blank'', low, rfl⟩ := (afterWord?_dropWhile (isWord_command off)).mp stated
    refine ⟨indent ++ (dashes ++ (gap ++ (mark ++ (space ++ said)))), rest, ?_, ⟨indent, dashes, gap, mark, space, said, rfl,
      blank, dashed, blank', marked, ⟨blank'', ?_⟩, low⟩, ends⟩
    · simp only [Bytes.ofAscii_append, List.append_assoc]
    · rintro rfl
      rw [dropWhile_blanks (isWord_command off) blank'' low] at shorter
      exact shorter rfl
  · rintro ⟨cs, rest, rfl, written, ends⟩
    obtain ⟨indent, dashes, gap, mark, space, said, rfl, blank, dashed, blank', marked, ⟨blank'', some_⟩, low⟩ := written
    simp only [Bytes.ofAscii_append, List.append_assoc]
    refine ⟨_, (afterWord?_dropWhile isWord_dashes).mpr ⟨indent, dashes, blank, dashed, rfl⟩, _,
      (afterWord?_dropWhile isWord_marker).mpr ⟨gap, mark, blank', marked, rfl⟩, ?_, rest,
      (afterWord?_dropWhile (isWord_command off)).mpr ⟨space, said, blank'', low, rfl⟩, ends⟩
    rw [dropWhile_blanks (isWord_command off) blank'' low]
    simpa [Bytes.ofAscii] using some_

theorem isWordByte_eq (b : UInt8) (rest : Bytes) : isWordByte b = isWordChar (Bytes.head b rest).1 := by
  by_cases low : b < 0x80
  · have ascii : (Char.ofNat b.toNat).toNat < 128 := by
      rw [toNat_ofByte]
      exact UInt8.lt_iff_toNat_lt.mp low
    have same := forall_ascii (p := fun c => isWordByte (UInt8.ofNat c.toNat) = isWordChar c) (by decide) ascii
    rw [Bytes.byte_ofNat] at same
    simp only [Bytes.head, if_pos low, same]
  · have outside : isWordByte b = false := Bool.eq_false_iff.mpr fun word => by
      simp only [isWordByte, Bool.or_eq_true (_ || _), Bool.or_eq_true (_ && _), byte_between, beq_iff_eq] at word
      rw [UInt8.lt_iff_toNat_lt] at low
      rcases word with word | rfl
      · simp at word low
        omega
      · exact low (by decide)
    obtain ⟨n, large, read⟩ := Bytes.head_high low rest
    rw [outside, read, eq_comm, Bool.eq_false_iff]
    intro word
    obtain ⟨ascii, nonzero⟩ := ascii_of_isWordChar word
    exact absurd ascii (Nat.not_lt.mpr (Bytes.le_toNat_ofNat large nonzero))

theorem wordEnds_eq (rest : Bytes) : wordEnds rest = !rest.chars.head?.any isWordChar := by
  cases rest with
  | nil => simp [wordEnds, Bytes.chars, Bytes.units]
  | cons b rest => simp [wordEnds, Bytes.chars, Bytes.units, isWordByte_eq b rest]

theorem ascii_of_comment (written : Comment (command off).toList cs) : ∀ c ∈ cs, c.toNat < 128 ∧ c ≠ Char.ofNat 0 := by
  obtain ⟨indent, dashes, gap, mark, space, said, rfl, blank, dashed, blank', marked, ⟨blank'', _⟩, low⟩ := written
  have run {space : List Char} (blank : ∀ c ∈ space, blankSet.holds c = true) :
      ∀ c ∈ space, c.toNat < 128 ∧ c ≠ Char.ofNat 0 := by
    intro c member
    obtain ⟨ascii, _, other⟩ := plain_of_blank c (blank c member)
    exact ⟨ascii, fun zero => other (by simp [zero])⟩
  have plain (off : Bool) : ∀ sign ∈ (command off).toList, Plain sign :=
    fun sign member => ((isWord_command off).1 sign member).1
  intro c member
  simp only [List.mem_append] at member
  rcases member with inside | inside | inside | inside | inside | inside
  · exact run blank c inside
  · exact ascii_of_map_toLower isWord_dashes.plain dashed c inside
  · exact run blank' c inside
  · exact ascii_of_map_toLower isWord_marker.plain marked c inside
  · exact run blank'' c inside
  · exact ascii_of_map_toLower (plain off) low c inside

/-- A comment ends with a letter. -/
theorem isWordChar_last (written : Comment (command off).toList taken) (before : Option Char) :
    (taken.getLast?.or before).any isWordChar = true := by
  obtain ⟨indent, dashes, gap, mark, space, said, rfl, _, _, _, _, _, low⟩ := written
  have last : said.getLast?.map Char.toLower = (command off).toList.getLast? := by rw [← List.getLast?_map, low]
  have letter : (command off).toList.getLast? = some (if off then 'f' else 'n') := by cases off <;> decide
  obtain ⟨c, found, small⟩ := Option.map_eq_some_iff.mp (last.trans letter)
  simp only [List.getLast?_append, found, Option.some_or, Option.any_some]
  have word : isWordChar c.toLower = isWordChar c := apply_toLower (by decide) c
  rw [← word, small]
  cases off <;> decide

variable {words : Pattern} {offs : List Bool} (spelt : ∀ before taken after,
  words.Takes before taken after ↔ ∃ off ∈ offs, taken.map Char.toLower = (command off).toList)

include spelt in
theorem takes_comment : (comment words).Takes before taken after ↔
    before = none ∧ (∃ off ∈ offs, Comment (command off).toList taken) ∧ after.any isWordChar = false := by
  have dashes_plain : ∀ sign ∈ ['-', '-'], Plain sign := isWord_dashes.plain
  have marker_plain := isWord_marker.plain
  rw [comment, List.foldl]
  simp only [List.foldl, Pattern.Takes, takes_letters dashes_plain, takes_letters marker_plain, takes_blanks, spelt,
    Assertion.holds]
  constructor
  · -- The sequences lean to the left: the first one is all but the end of the word, and the last the start of the text.
    rintro ⟨_, _, rfl, ⟨_, said, rfl, ⟨_, space, rfl, ⟨_, mark, rfl, ⟨_, gap, rfl, ⟨_, dashes, rfl, ⟨_, indent, rfl,
      ⟨rfl, first⟩, _, blank⟩, dashed⟩, _, blank'⟩, marked⟩, some_, blank''⟩, off, member, low⟩, rfl, ends⟩
    have written : Comment (command off).toList (indent ++ (dashes ++ (gap ++ (mark ++ (space ++ said))))) :=
      ⟨indent, dashes, gap, mark, space, said, rfl, blank, dashed, blank', marked,
        ⟨blank'', List.ne_nil_of_length_pos some_⟩, low⟩
    simp only [List.nil_append, List.append_assoc, List.append_nil] at ends ⊢
    rw [isWordChar_last written] at ends
    exact ⟨Option.isNone_iff_eq_none.mp first, ⟨off, member, written⟩, by simpa using ends⟩
  · rintro ⟨rfl, ⟨off, member, written⟩, ends⟩
    have last := isWordChar_last written none
    obtain ⟨indent, dashes, gap, mark, space, said, rfl, blank, dashed, blank', marked, ⟨blank'', some_⟩, low⟩ := written
    refine ⟨_, [], (List.append_nil _).symm, ⟨_, said, ?_, ⟨_, space, rfl, ⟨_, mark, rfl, ⟨_, gap, rfl, ⟨_, dashes, rfl,
      ⟨[], indent, (List.nil_append _).symm, ⟨rfl, rfl⟩, Nat.zero_le _, blank⟩, dashed⟩, Nat.zero_le _, blank'⟩, marked⟩,
      List.length_pos_iff.mpr some_, blank''⟩, off, member, low⟩, rfl, ?_⟩
    · simp only [List.append_assoc]
    · rw [last, ends]
      rfl

include spelt in
theorem finds_iff {source : String} (parsed : Regex.parse (expression source) = .ok (comment words)) :
    Finds (expression source) line.chars ↔ ∃ off ∈ offs, pragma? line = some off := by
  constructor
  · rintro ⟨pattern, read, before, taken, after, chars_eq, takes⟩
    obtain rfl := Except.ok.inj (parsed.symm.trans read)
    obtain ⟨first, ⟨off, member, written⟩, ends⟩ := (takes_comment spelt).mp takes
    obtain rfl := List.getLast?_eq_none_iff.mp first
    obtain ⟨rest, rfl, rfl⟩ := (Bytes.chars_eq_append (ascii_of_comment written)).mp chars_eq
    exact ⟨off, member, pragma?_eq_some.mpr ⟨taken, rest, rfl, written, by rw [wordEnds_eq, ends]; rfl⟩⟩
  · rintro ⟨off, member, found⟩
    obtain ⟨taken, rest, rfl, written, ends⟩ := pragma?_eq_some.mp found
    refine ⟨_, parsed, [], taken, rest.chars, (Bytes.chars_eq_append (ascii_of_comment written)).mpr ⟨rest, rfl, rfl⟩, ?_⟩
    exact (takes_comment spelt).mpr ⟨rfl, ⟨off, member, written⟩, by simpa [wordEnds_eq] using ends⟩

/-! ### The lines -/

/-- Whether a line starts or ends a region. -/
def IsPragma (line : Bytes) : Prop := Finds (expression "off|on") line.chars

/-- Whether a line ends a region. -/
def IsOn (line : Bytes) : Prop := Finds (expression "on") line.chars

theorem isPragma_iff : IsPragma line ↔ ∃ off, pragma? line = some off := by
  have spelt (before : Option Char) (taken : List Char) (after : Option Char) :
      (Pattern.choice (letters "off".toList) (letters "on".toList)).Takes before taken after ↔
        ∃ off ∈ [true, false], taken.map Char.toLower = (command off).toList := by
    rw [Pattern.Takes, takes_letters (show IsWord "off" from isWord_command true).plain, takes_letters (show IsWord "on" from isWord_command false).plain]
    simp [command, or_comm]
  rw [IsPragma, finds_iff spelt parse_both]
  simp

theorem isOn_iff : IsOn line ↔ pragma? line = some false := by
  have spelt (before : Option Char) (taken : List Char) (after : Option Char) :
      (letters "on".toList).Takes before taken after ↔
        ∃ off ∈ [false], taken.map Char.toLower = (command off).toList := by
    rw [takes_letters (show IsWord "on" from isWord_command false).plain]
    simp [command]
  rw [IsOn, finds_iff spelt parse_on]
  simp

/-- The state of the scan before a line. -/
def regionAt (inside : Bool) (lines : List Bytes) : Nat → Bool
  | 0 => inside
  | i + 1 => (pragma? (lines.getD i [])).getD (regionAt inside lines i)

theorem regionAt_succ (inside : Bool) (lines : List Bytes) (i : Nat) :
    regionAt inside lines (i + 1) = (pragma? (lines.getD i [])).getD (regionAt inside lines i) := rfl

theorem regionAt_cons (inside : Bool) (line : Bytes) (lines : List Bytes) (i : Nat) :
    regionAt inside (line :: lines) (i + 1) = regionAt ((pragma? line).getD inside) lines i := by
  induction i with
  | zero => rfl
  | succ i ih => rw [regionAt_succ, ih, regionAt_succ, List.getD_cons_succ]

theorem mem_ignoredFrom {k : Nat} : k ∈ ignoredFrom n inside lines ↔
    ∃ i < lines.length, k = n + i ∧ pragma? (lines.getD i []) = none ∧ regionAt inside lines i = true := by
  induction lines generalizing n inside with
  | nil => simp [ignoredFrom]
  | cons line lines ih =>
    have step : k ∈ ignoredFrom n inside (line :: lines) ↔ (k = n ∧ pragma? line = none ∧ inside = true) ∨
        k ∈ ignoredFrom (n + 1) ((pragma? line).getD inside) lines := by
      rw [ignoredFrom]
      cases pragma? line <;> cases inside <;> simp
    rw [step, ih]
    constructor
    · rintro (⟨rfl, plain, started⟩ | ⟨i, within, rfl, plain, started⟩)
      · exact ⟨0, Nat.zero_lt_succ _, rfl, plain, started⟩
      · exact ⟨i + 1, Nat.succ_lt_succ within, by omega, plain, by rw [regionAt_cons, started]⟩
    · rintro ⟨_ | i, within, rfl, plain, started⟩
      · exact .inl ⟨rfl, plain, started⟩
      · rw [regionAt_cons] at started
        exact .inr ⟨i, Nat.lt_of_succ_lt_succ within, by omega, plain, started⟩

/-- The state before a line is that behind the nearest comment above it. -/
theorem regionAt_eq_iff : regionAt inside lines i = off ↔
    (inside = off ∧ ∀ j < i, pragma? (lines.getD j []) = none) ∨
      ∃ j < i, pragma? (lines.getD j []) = some off ∧ ∀ k < i, j < k → pragma? (lines.getD k []) = none := by
  induction i with
  | zero =>
    change inside = off ↔ _
    simp
  | succ i ih =>
    rw [regionAt_succ]
    constructor
    · intro state
      cases last : pragma? (lines.getD i []) with
      | some said =>
        rw [last, Option.getD_some] at state
        exact .inr ⟨i, Nat.lt_succ_self i, by rw [last, state], fun k below above => by omega⟩
      | none =>
        rw [last, Option.getD_none] at state
        have here {k : Nat} (below : k < i + 1) (earlier : k < i → pragma? (lines.getD k []) = none) :
            pragma? (lines.getD k []) = none := by
          rcases Nat.lt_succ_iff_lt_or_eq.mp below with before | rfl
          · exact earlier before
          · exact last
        rcases ih.mp state with ⟨same, clear⟩ | ⟨j, before, said, clear⟩
        · exact .inl ⟨same, fun j below => here below (clear j)⟩
        · exact .inr ⟨j, Nat.lt_succ_of_lt before, said, fun k below above => here below fun earlier => clear k earlier above⟩
    · rintro (⟨same, clear⟩ | ⟨j, before, said, clear⟩)
      · rw [clear i (Nat.lt_succ_self i), Option.getD_none]
        exact ih.mpr (.inl ⟨same, fun j below => clear j (Nat.lt_succ_of_lt below)⟩)
      · rcases Nat.lt_succ_iff_lt_or_eq.mp before with earlier | rfl
        · rw [clear i (Nat.lt_succ_self i) earlier, Option.getD_none]
          exact ih.mpr (.inr ⟨j, earlier, said, fun k below above => clear k (Nat.lt_succ_of_lt below) above⟩)
        · rw [said, Option.getD_some]

/-! ### The fast path -/

/-- A text with a line that starts or ends a region mentions the marker. -/
theorem mentioned_of_pragma? (member : line ∈ Bytes.splitOn newline text) (found : pragma? line = some off) :
    mentioned text = true := by
  obtain ⟨cs, rest, rfl, ⟨indent, dashes, gap, mark, space, said, rfl, _, _, _, marked, _, _⟩, _⟩ := pragma?_eq_some.mp found
  obtain ⟨front, behind, rfl⟩ := infix_of_mem_splitOn member
  have ascii := ascii_of_map_toLower isWord_marker.plain marked
  have lower : mark.map lowerChar = marker.toList :=
    (List.map_congr_left fun c inside => if_pos (ascii c inside).1).trans marked
  obtain ⟨m, ms, rfl⟩ : ∃ m ms, mark = m :: ms := List.exists_cons_of_ne_nil fun empty => by
    rw [empty] at marked
    exact absurd marked (by decide)
  obtain ⟨before, after, text_eq⟩ : ∃ before after : Bytes,
      front ++ (Bytes.ofAscii (indent ++ (dashes ++ (gap ++ (m :: ms ++ (space ++ said))))) ++ rest) ++ behind =
        before ++ (Bytes.ofAscii (m :: ms) ++ after) :=
    ⟨front ++ Bytes.ofAscii (indent ++ (dashes ++ gap)), Bytes.ofAscii (space ++ said) ++ (rest ++ behind), by
      simp only [Bytes.ofAscii_append, List.append_assoc]⟩
  rw [text_eq, mentioned, Bytes.lower, Bytes.chars_append_ofAscii ascii, List.map_append, List.map_append, lower,
    Bytes.ofString_eq (String.ofList _), String.toList_ofList, List.flatMap_append, List.flatMap_append, ← Bytes.ofString_eq]
  exact Bytes.occursIn_append _ _ _

/-- A text that does not mention the marker has no regions. -/
theorem keepOutside_eq (text : Bytes) (findings : List Diagnostic) : keepOutside text findings =
    findings.filter fun d => !((ignoredLines text).any fun n => d.range.start.line == Int.ofNat n) := by
  by_cases mentions : mentioned text = true
  · rw [keepOutside, mentions]
    rfl
  · have none_ : ignoredLines text = [] := by
      rw [ignoredLines, List.eq_nil_iff_forall_not_mem]
      intro k member
      obtain ⟨i, within, _, _, started⟩ := mem_ignoredFrom.1 member
      rcases regionAt_eq_iff.mp started with ⟨outside, _⟩ | ⟨j, before, found, _⟩
      · cases outside
      · refine mentions (mentioned_of_pragma? ?_ found)
        rw [List.getD_eq_getElem?_getD, List.getElem?_eq_getElem (Nat.lt_trans before within)]
        exact List.getElem_mem _
    rw [none_, keepOutside, Bool.eq_false_iff.mpr mentions]
    simp

/-! ### The findings outside -/

/-- A line that is a pragma, has none above it, or has one above it that ends a region and is the nearest. -/
def Shown (text : Bytes) (number : Int) : Prop :=
  IsPragma (lineAt text number) ∨ (∀ earlier < number, ¬IsPragma (lineAt text earlier)) ∨
    ∃ earlier < number, IsOn (lineAt text earlier) ∧
      ∀ between < number, earlier < between → ¬IsPragma (lineAt text between)

theorem not_isPragma_of_neg (negative : number < 0) : ¬IsPragma (lineAt text number) := by
  rw [lineAt_eq, if_pos negative, isPragma_iff]
  decide

theorem not_isPragma_natCast {k : Nat} :
    ¬IsPragma (lineAt text k) ↔ pragma? ((Bytes.splitOn newline text).getD k []) = none := by
  rw [lineAt_natCast, isPragma_iff, ← Option.ne_none_iff_exists', not_not]

theorem shown_natCast {k : Nat} : Shown text k ↔
    pragma? ((Bytes.splitOn newline text).getD k []) ≠ none ∨ regionAt false (Bytes.splitOn newline text) k = false := by
  rw [Shown, lineAt_natCast, isPragma_iff, ← Option.ne_none_iff_exists', regionAt_eq_iff]
  refine or_congr Iff.rfl (or_congr ?_ ?_)
  · constructor
    · exact fun clear => ⟨rfl, fun j below => not_isPragma_natCast.mp (clear j (by omega))⟩
    · rintro ⟨_, clear⟩ earlier below
      rcases Int.lt_or_le earlier 0 with negative | nonneg
      · exact not_isPragma_of_neg negative
      · obtain ⟨j, rfl⟩ := Int.eq_ofNat_of_zero_le nonneg
        exact not_isPragma_natCast.mpr (clear j (by omega))
  · constructor
    · rintro ⟨earlier, below, ends, clear⟩
      rcases Int.lt_or_le earlier 0 with negative | nonneg
      · exact absurd (isPragma_iff.mpr ⟨false, isOn_iff.mp ends⟩) (not_isPragma_of_neg negative)
      · obtain ⟨j, rfl⟩ := Int.eq_ofNat_of_zero_le nonneg
        rw [isOn_iff, lineAt_natCast] at ends
        exact ⟨j, by omega, ends, fun i within above => not_isPragma_natCast.mp (clear i (by omega) (by omega))⟩
    · rintro ⟨j, below, ends, clear⟩
      refine ⟨j, by omega, isOn_iff.mpr (by rw [lineAt_natCast, ends]), fun between within above => ?_⟩
      obtain ⟨i, rfl⟩ := Int.eq_ofNat_of_zero_le (show 0 ≤ between by omega)
      exact not_isPragma_natCast.mpr (clear i (by omega) (by omega))

theorem ignored_iff :
    ((ignoredLines text).any fun n => number == Int.ofNat n) = true ↔ HasLine text number ∧ ¬Shown text number := by
  have listed : ((ignoredLines text).any fun n => number == Int.ofNat n) = true ↔
      ∃ k : Nat, number = k ∧ k ∈ ignoredLines text := by
    simp [List.any_eq_true, and_comm]
  rw [listed, hasLine_iff]
  constructor
  · rintro ⟨k, rfl, member⟩
    obtain ⟨i, within, rfl, plain, started⟩ := mem_ignoredFrom.1 member
    rw [Nat.zero_add, Int.toNat_natCast, shown_natCast, plain, started]
    exact ⟨⟨Int.natCast_nonneg i, within⟩, by simp⟩
  · rintro ⟨⟨nonneg, within⟩, inside⟩
    obtain ⟨k, rfl⟩ := Int.eq_ofNat_of_zero_le nonneg
    rw [shown_natCast, not_or, not_not, Bool.not_eq_false] at inside
    exact ⟨k, rfl, mem_ignoredFrom.2 ⟨k, within, (Nat.zero_add k).symm, inside⟩⟩

open Classical in
/-- The findings that are kept, in their order, are those that start at no line of the text or at one that is shown. Looking
for the marker first changes nothing. -/
theorem keepOutside_eq_filter (text : Bytes) (findings : List Diagnostic) :
    keepOutside text findings =
        findings.filter (fun d => ¬HasLine text d.range.start.line ∨ Shown text d.range.start.line) ∧
      keepOutside text findings =
        findings.filter fun d => !((ignoredLines text).any fun n => d.range.start.line == Int.ofNat n) := by
  refine ⟨?_, keepOutside_eq text findings⟩
  rw [keepOutside_eq]
  refine List.filter_congr fun d _ => ?_
  rw [Bool.eq_iff_iff, decide_eq_true_iff, Bool.not_eq_true', Bool.eq_false_iff, Ne, ignored_iff, not_and, not_not,
    ← imp_iff_not_or]

open Classical in
/-- Behind the end of a text nothing is dropped, also where its last region is not ended. -/
theorem keepOutside_behind :
    let text := Bytes.ofString "-- vhdl_lint off\nx"
    let finding := Diagnostic.ofRule .undeclared "a.vhd" [] ⟨⟨3, 0⟩, ⟨3, 1⟩⟩
    keepOutside text [finding] = [finding] ∧ [finding].filter (fun d => Shown text d.range.start.line) = [] := by
  intro text finding
  have lines : ignoredLines text = [1] := by decide
  have hidden : ¬Shown text (3 : Nat) := by
    rw [shown_natCast, not_or]
    decide
  constructor
  · rw [keepOutside_eq, lines]
    rfl
  · exact (List.filter_cons_of_neg (by rw [decide_eq_true_iff]; exact hidden)).trans List.filter_nil

end Region
end DesignLint
