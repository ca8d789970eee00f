import Mathlib.Computability.Language
import DesignLint.Source.Position
import DesignLint.Proofs.Token.Extent

/-! The patterns of the lexical rules, as languages. Each rule takes the longest part of the text that its pattern
describes, and takes nothing exactly if there is no such part. Greedy choices never have to be given back here: where a
pattern goes on, the next byte lies outside the class that came before it. -/
namespace DesignLint.Lexer

open scoped Computability

/-- One byte of a class. -/
def byte (p : UInt8 → Bool) : Language UInt8 := {word | ∃ b, p b = true ∧ word = [b]}

/-- A fixed text. -/
def fixed (text : Bytes) : Language UInt8 := {text}

/-- At least one byte of a class. -/
def bytes (p : UInt8 → Bool) : Language UInt8 := byte p * (byte p)∗

/-- Something or nothing. -/
def optional (l : Language UInt8) : Language UInt8 := 1 + l

/-- One character other than a line break, by the bytes it is read from. -/
def oneCharacter : Language UInt8 :=
  {word | ∃ b rest, word = b :: rest ∧ isNewline b = false ∧ (Bytes.step b rest).2 = []}

/-- A text with no `*/` in it, even if a `*` follows. -/
def unclosed : Language UInt8 := {word | ¬[42, 47] <:+: word ++ [42]}

/-- A sign letter of a bit string. The long s is one, since the pattern disregards case. -/
def signLetter : Language UInt8 :=
  byte (fun b => b = 117 || b = 85 || b = 115 || b = 83) + fixed [0xC5, 0xBF]

/-- A digit of a bit string. The long s and the Kelvin sign are letters without regard to case. -/
def bitDigit : Language UInt8 :=
  byte (fun b => isLetter b || isDigit b || isUnderscore b || b = 32) + fixed [0xC5, 0xBF] + fixed [0xE2, 0x84, 0xAA]

/-- What stands between the quotes of a string: other characters of the line, and doubled quotes. -/
def inString : Language UInt8 := byte (fun b => !isQuote b && !isNewline b) + fixed [34, 34]

def isWide (b : UInt8) : Bool := isDigit b || isUnderscore b

def based : Language UInt8 := byte (· = 35) * (bytes isBasedDigit * byte (· = 35))
def fraction : Language UInt8 := byte (· = 46) * bytes isWide
def exponent : Language UInt8 :=
  byte (fun b => b = 101 || b = 69) * (optional (byte fun b => b = 43 || b = 45) * bytes isDigit)

/-- The texts that a rule describes. -/
def Rule.pattern : Rule → Language UInt8
  | comment => fixed [45, 45] * (byte (!isNewline ·))∗ + fixed [47, 42] * unclosed * fixed [42, 47]
  | blanks => bytes isBlank
  | bitString => (byte isDigit)∗ * (optional signLetter * (byte isBitBase * (byte isQuote * (bitDigit∗ * byte isQuote))))
  | string => byte isQuote * (inString∗ * byte isQuote)
  | character => byte isApostrophe * (oneCharacter * byte isApostrophe)
  | number => byte isDigit * ((byte isWide)∗ * (optional based * (optional fraction * optional exponent)))
  | identifier => byte isLetter * (byte fun b => isLetter b || isDigit b || isUnderscore b)∗ +
      byte isBackslash * (bytes (fun b => !isBackslash b && !isNewline b) * byte isBackslash)
  | operator => {word | word ∈ operators}
  | tick => byte isApostrophe
  | punctuation => byte (Lexer.punctuation.elem ·)

/-- A matcher takes the longest part of a text that the language describes. -/
structure Follows (take? : Bytes → Option Nat) (l : Language UInt8) : Prop where
  sound : ∀ {text : Bytes} {n : Nat}, take? text = some n → text.take n ∈ l
  longest : ∀ {word : Bytes} (rest : Bytes), word ∈ l → ∃ n, take? (word ++ rest) = some n ∧ word.length ≤ n

variable {p : UInt8 → Bool} {l : Language UInt8} {word text rest : Bytes}

theorem mem_byte_mul : word ∈ byte p * l ↔ ∃ b rest, p b = true ∧ rest ∈ l ∧ word = b :: rest := by
  rw [Language.mem_mul]
  constructor
  · rintro ⟨_, ⟨b, holds, rfl⟩, rest, member, rfl⟩
    exact ⟨b, rest, holds, member, rfl⟩
  · rintro ⟨b, rest, holds, member, rfl⟩
    exact ⟨[b], ⟨b, holds, rfl⟩, rest, member, rfl⟩

theorem mem_star_byte : word ∈ (byte p)∗ ↔ ∀ b ∈ word, p b = true := by
  constructor
  · intro member
    obtain ⟨words, rfl, each⟩ := Language.mem_kstar.mp member
    intro b inside
    obtain ⟨single, listed, inside⟩ := List.mem_flatten.mp inside
    obtain ⟨c, holds, rfl⟩ := each single listed
    rw [List.mem_singleton.mp inside]
    exact holds
  · intro holds
    refine Language.mem_kstar.mpr ⟨word.map ([·]), by rw [← List.flatMap_def, List.flatMap_singleton'], ?_⟩
    intro single listed
    obtain ⟨b, inside, rfl⟩ := List.mem_map.mp listed
    exact ⟨b, holds b inside, rfl⟩

theorem mem_bytes : word ∈ bytes p ↔ word ≠ [] ∧ ∀ b ∈ word, p b = true := by
  rw [bytes, mem_byte_mul]
  constructor
  · rintro ⟨b, rest, holds, member, rfl⟩
    exact ⟨by simp, List.forall_mem_cons.mpr ⟨holds, mem_star_byte.mp member⟩⟩
  · rintro ⟨ne, holds⟩
    obtain ⟨b, rest, rfl⟩ := List.exists_cons_of_ne_nil ne
    obtain ⟨first, others⟩ := List.forall_mem_cons.mp holds
    exact ⟨b, rest, first, mem_star_byte.mpr others, rfl⟩

section Counting

theorem take_countWhile (p : UInt8 → Bool) (text : Bytes) : text.take (countWhile p text) = text.takeWhile p :=
  List.prefix_iff_eq_take.mp (List.takeWhile_prefix p) |>.symm

theorem countWhile_append (holds : ∀ b ∈ word, p b = true) :
    countWhile p (word ++ rest) = word.length + countWhile p rest := by
  rw [countWhile, List.takeWhile_append_of_pos holds, List.length_append, countWhile]

theorem countWhile_eq_zero {b : UInt8} (outside : p b = false) : countWhile p (b :: rest) = 0 := by
  simp [countWhile, outside]

theorem mem_take_countWhile (p : UInt8 → Bool) (text : Bytes) :
    ∀ b ∈ text.take (countWhile p text), p b = true := by
  rw [take_countWhile]
  exact List.all_eq_true.mp List.all_takeWhile

theorem take_run_mem {n : Nat} (size : countWhile p text = n + 1) : text.take (n + 1) ∈ bytes p := by
  have fits := countWhile_le p text
  refine mem_bytes.mpr ⟨?_, size ▸ mem_take_countWhile p text⟩
  intro empty
  have := congrArg List.length empty
  simp only [List.length_take, List.length_nil] at this
  omega

theorem take_closed_run_mem {q : UInt8 → Bool} {c : UInt8} {more : Bytes} {n : Nat} (size : countWhile p text = n + 1)
    (left : text.drop (n + 1) = c :: more) (closes : q c = true) : text.take (n + 1 + 1) ∈ bytes p * byte q := by
  refine Language.mem_mul.mpr ⟨_, take_run_mem size, [c], ⟨c, closes, rfl⟩, ?_⟩
  rw [List.take_add (i := n + 1), left]
  rfl

theorem le_countWhile (member : word ∈ bytes p) (rest : Bytes) :
    ∃ n, countWhile p (word ++ rest) = n + 1 ∧ word.length ≤ n + 1 := by
  obtain ⟨ne, holds⟩ := mem_bytes.mp member
  have positive := List.length_pos_iff.mpr ne
  exact ⟨word.length + countWhile p rest - 1, by rw [countWhile_append holds]; omega, by omega⟩

/-- A run is measured exactly if what follows lies outside its class. -/
theorem countWhile_run {c : UInt8} (member : word ∈ bytes p) (outside : p c = false) :
    countWhile p (word ++ c :: rest) = word.length := by
  rw [countWhile_append (mem_bytes.mp member).2, countWhile_eq_zero outside, Nat.add_zero]

end Counting

theorem run?_follows (p : UInt8 → Bool) : Follows (run? p) (bytes p) where
  sound := by
    intro text n taken
    unfold run? at taken
    split at taken
    · contradiction
    · rename_i some_
      cases taken
      obtain ⟨n, size⟩ := Nat.exists_eq_succ_of_ne_zero some_
      rw [size]
      exact take_run_mem size
  longest := by
    intro word rest member
    obtain ⟨n, size, le⟩ := le_countWhile member rest
    exact ⟨n + 1, by rw [run?, size]; rfl, le⟩

theorem single?_follows (p : UInt8 → Bool) : Follows (single? p) (byte p) where
  sound := by
    intro text n taken
    unfold single? at taken
    split at taken
    · split at taken
      · rename_i b _ holds
        cases taken
        exact ⟨b, holds, rfl⟩
      · contradiction
    · contradiction
  longest := by
    rintro word rest ⟨b, holds, rfl⟩
    exact ⟨1, by simp [single?, holds], Nat.le_refl _⟩

section Repetition

variable {m : Language UInt8} {first : Bytes}

theorem mem_star_mul (member : word ∈ m) : word ∈ l∗ * m :=
  Language.mem_mul.mpr ⟨[], Language.nil_mem_kstar l, word, member, rfl⟩

theorem append_mem_star_mul (one : first ∈ l) (member : word ∈ l∗ * m) : first ++ word ∈ l∗ * m := by
  obtain ⟨many, members, last, ends, rfl⟩ := Language.mem_mul.mp member
  obtain ⟨words, rfl, each⟩ := Language.mem_kstar.mp members
  refine Language.mem_mul.mpr ⟨(first :: words).flatten, ?_, last, ends, by simp⟩
  exact Language.join_mem_kstar (List.forall_mem_cons.mpr ⟨one, each⟩)

/-- What holds of nothing and stays so when one more word comes first holds of every repetition. -/
theorem star_induction {motive : Bytes → Prop} (nil : motive [])
    (append : ∀ first word, first ∈ l → motive word → motive (first ++ word)) (member : word ∈ l∗) : motive word := by
  obtain ⟨words, rfl, each⟩ := Language.mem_kstar.mp member
  clear member
  induction words with
  | nil => exact nil
  | cons first words ih =>
    obtain ⟨one, others⟩ := List.forall_mem_cons.mp each
    exact append first _ one (ih others)

end Repetition

section Sequences

/-- How much of a text two parts take together, the second from where the first ends. -/
def andThen (first next : Bytes → Nat) (text : Bytes) : Nat := first text + next (text.drop (first text))

/-- A part takes a text of the language, and at least as much as any such text at the start. -/
structure Measures (part : Bytes → Nat) (l : Language UInt8) : Prop where
  sound : ∀ text : Bytes, text.take (part text) ∈ l
  longest : ∀ {word : Bytes} (rest : Bytes), word ∈ l → word.length ≤ part (word ++ rest)

/-- Two parts in a row take the longest text if the first one takes exactly its own wherever the second is there. -/
theorem Measures.andThen {first next : Bytes → Nat} {m : Language UInt8} (one : Measures first l) (two : Measures next m)
    (exact_ : ∀ {word more : Bytes} (rest : Bytes), word ∈ l → more ∈ m → more ≠ [] →
      first (word ++ (more ++ rest)) = word.length) : Measures (andThen first next) (l * m) where
  sound := by
    intro text
    rw [Lexer.andThen, List.take_add]
    exact Language.mem_mul.mpr ⟨_, one.sound text, _, two.sound _, rfl⟩
  longest := by
    intro word rest member
    obtain ⟨word, inFirst, more, inNext, rfl⟩ := Language.mem_mul.mp member
    rw [Lexer.andThen, List.append_assoc]
    by_cases absent : more = []
    · subst absent
      have := one.longest rest inFirst
      simp only [List.nil_append, List.append_nil]
      omega
    · have := two.longest rest inNext
      rw [exact_ rest inFirst inNext absent, List.drop_left, List.length_append]
      omega

/-- The words of a language are empty or start with a byte of the class. -/
def StartsWith (l : Language UInt8) (p : UInt8 → Bool) : Prop :=
  ∀ word ∈ l, word ≠ [] → ∃ c rest, word = c :: rest ∧ p c = true

theorem startsWith_optional (p : UInt8 → Bool) (l : Language UInt8) : StartsWith (optional (byte p * l)) p := by
  intro word member ne
  obtain rfl | member := member
  · contradiction
  · obtain ⟨c, rest, holds, _, rfl⟩ := mem_byte_mul.mp member
    exact ⟨c, rest, rfl, holds⟩

theorem StartsWith.mul {m : Language UInt8} {q : UInt8 → Bool} (first : StartsWith l p) (next : StartsWith m q) :
    StartsWith (l * m) fun b => p b || q b := by
  intro word member ne
  obtain ⟨word, one, more, two, rfl⟩ := Language.mem_mul.mp member
  by_cases empty : word = []
  · subst empty
    obtain ⟨c, rest, rfl, holds⟩ := next more two ne
    exact ⟨c, rest, rfl, by simp [holds]⟩
  · obtain ⟨c, rest, rfl, holds⟩ := first word one empty
    exact ⟨c, rest ++ more, rfl, by simp [holds]⟩

end Sequences

section LastBytes

variable {m : Language UInt8}

/-- No word of the language ends in white space. -/
def Solid (l : Language UInt8) : Prop := ∀ word ∈ l, ∀ b, word.getLast? = some b → isTrimmable b = false

/-- Every word of the language ends in a byte other than white space. -/
def Closed (l : Language UInt8) : Prop := ∀ word ∈ l, ∃ b, word.getLast? = some b ∧ isTrimmable b = false

theorem Closed.solid (closed : Closed l) : Solid l := by
  intro word member b last
  obtain ⟨c, found, other⟩ := closed word member
  rw [last] at found
  cases found
  exact other

theorem Solid.add (one : Solid l) (two : Solid m) : Solid (l + m) := by
  rintro word (member | member)
  · exact one word member
  · exact two word member

theorem Solid.optional (solid : Solid l) : Solid (optional l) := by
  refine Solid.add ?_ solid
  rintro word member b last
  obtain rfl : word = [] := member
  contradiction

theorem Solid.mul (one : Solid l) (two : Solid m) : Solid (l * m) := by
  intro word member b last
  obtain ⟨word, first, more, next, rfl⟩ := Language.mem_mul.mp member
  rw [List.getLast?_append] at last
  cases ends : more.getLast? with
  | none =>
    rw [ends, Option.none_or] at last
    exact one word first b last
  | some c =>
    rw [ends, Option.some_or] at last
    exact two more next b (ends.trans last)

theorem Closed.add (one : Closed l) (two : Closed m) : Closed (l + m) := by
  rintro word (member | member)
  · exact one word member
  · exact two word member

/-- What closes the second part closes both. -/
theorem Closed.after (l : Language UInt8) (closed : Closed m) : Closed (l * m) := by
  intro word member
  obtain ⟨word, _, more, next, rfl⟩ := Language.mem_mul.mp member
  obtain ⟨b, last, other⟩ := closed more next
  exact ⟨b, by rw [List.getLast?_append, last, Option.some_or], other⟩

/-- A part that may be empty keeps closed what stands before it. -/
theorem Closed.mul (closed : Closed l) (solid : Solid m) : Closed (l * m) := by
  intro word member
  obtain ⟨word, first, more, next, rfl⟩ := Language.mem_mul.mp member
  obtain ⟨b, last, other⟩ := closed word first
  cases ends : more.getLast? with
  | none => exact ⟨b, by rw [List.getLast?_append, ends, Option.none_or, last], other⟩
  | some c => exact ⟨c, by rw [List.getLast?_append, ends, Option.some_or], solid more next c ends⟩

theorem closed_byte (other : ∀ b, p b = true → isTrimmable b = false) : Closed (byte p) := by
  rintro word ⟨b, holds, rfl⟩
  exact ⟨b, rfl, other b holds⟩

theorem solid_star_byte (other : ∀ b, p b = true → isTrimmable b = false) : Solid (byte p)∗ := by
  intro word member b last
  exact other b (mem_star_byte.mp member b (List.mem_of_getLast? last))

theorem closed_bytes (other : ∀ b, p b = true → isTrimmable b = false) : Closed (bytes p) :=
  (closed_byte other).mul (solid_star_byte other)

/-- A class without white space holds no byte that is trimmed. -/
theorem not_isTrimmable_of_all (blanks : [32, 9, 10, 11, 12, 13].all (fun b => !p b) = true) (b : UInt8)
    (holds : p b = true) : isTrimmable b = false := by
  cases trimmed : isTrimmable b with
  | false => rfl
  | true =>
    have blank : b ∈ [32, 9, 10, 11, 12, 13] := by simpa [isTrimmable, or_assoc] using trimmed
    have other := List.all_eq_true.mp blanks b blank
    rw [holds] at other
    contradiction

/-- A token never ends in white space. -/
theorem Rule.closed_pattern {rule : Rule} {kind : TokenKind} (made : rule.kind? = some kind) : Closed rule.pattern := by
  have quote : Closed (byte isQuote) := closed_byte (not_isTrimmable_of_all (by decide))
  have digits : Closed (bytes isDigit) := closed_bytes (not_isTrimmable_of_all (by decide))
  cases rule with
  | comment => contradiction
  | blanks => contradiction
  | bitString => exact .after _ (.after _ (.after _ (.after _ (.after _ quote))))
  | string => exact .after _ (.after _ quote)
  | character => exact .after _ (.after _ (closed_byte (not_isTrimmable_of_all (by decide))))
  | number =>
    have based : Closed based := .after _ (.after _ (closed_byte (not_isTrimmable_of_all (by decide))))
    have fraction : Closed fraction := .after _ (closed_bytes (not_isTrimmable_of_all (by decide)))
    have exponent : Closed exponent := .after _ (.after _ digits)
    refine (closed_byte (not_isTrimmable_of_all (by decide))).mul (.mul ?_ (.mul ?_ (.mul ?_ ?_)))
    · exact solid_star_byte (not_isTrimmable_of_all (by decide))
    · exact based.solid.optional
    · exact fraction.solid.optional
    · exact exponent.solid.optional
  | identifier =>
    refine .add (.mul (closed_byte (not_isTrimmable_of_all (by decide))) ?_) (.after _ (.after _ ?_))
    · exact solid_star_byte (not_isTrimmable_of_all (by decide))
    · exact closed_byte (not_isTrimmable_of_all (by decide))
  | operator =>
    have each : ∀ word ∈ operators, word.getLast?.any (fun b => !isTrimmable b) = true := by decide
    intro word member
    have ends := each word member
    cases last : word.getLast? with
    | none => rw [last] at ends; contradiction
    | some b =>
      rw [last] at ends
      exact ⟨b, rfl, by simpa using ends⟩
  | tick => exact closed_byte (not_isTrimmable_of_all (by decide))
  | punctuation => exact closed_byte (not_isTrimmable_of_all (by decide))

end LastBytes

end DesignLint.Lexer
