import DesignLint.Proofs.Text.Lowered
import DesignLint.Proofs.Token.Extent

/-! The lexer in small letters. Every lexical rule takes as much of a text as of the same text in small letters, so
the two texts have tokens of the same kinds at the same offsets, or stop at the same offset. -/
namespace DesignLint

namespace Lexer

open Bytes (lowered)

/-- A class of bytes that holds both cases of each letter in it. -/
def Caseless (p : UInt8 → Bool) : Prop := ∀ b, p (lowerByte b) = p b

theorem caseless_of_letters {p : UInt8 → Bool}
    (letters : ∀ n < 26, p (UInt8.ofNat (n + 97)) = p (UInt8.ofNat (n + 65))) : Caseless p := eq_of_letters letters

theorem caseless_isBlank : Caseless isBlank := caseless_of_letters (by decide)
theorem caseless_isDigit : Caseless isDigit := caseless_of_letters (by decide)
theorem caseless_isLetter : Caseless isLetter := caseless_of_letters (by decide)
theorem caseless_isNewline : Caseless isNewline := caseless_of_letters (by decide)
theorem caseless_isQuote : Caseless isQuote := caseless_of_letters (by decide)
theorem caseless_isApostrophe : Caseless isApostrophe := caseless_of_letters (by decide)
theorem caseless_isBackslash : Caseless isBackslash := caseless_of_letters (by decide)
theorem caseless_isBitBase : Caseless isBitBase := caseless_of_letters (by decide)
theorem caseless_isBasedDigit : Caseless isBasedDigit := caseless_of_letters (by decide)

theorem lowerByte_of_not_letter {b : UInt8} (plain : isLetter b = false) : lowerByte b = b := by
  have noCapital : (65 ≤ b && b ≤ 90) = false := (Bool.or_eq_false_iff.mp plain).1
  rw [lowerByte, noCapital]
  rfl

/-- Only a byte that is no letter becomes one. -/
theorem lowerByte_eq_iff {b k : UInt8} (plain : isLetter k = false) : lowerByte b = k ↔ b = k := by
  constructor
  · intro same
    have here : isLetter b = false := by rw [← caseless_isLetter, same, plain]
    rw [← lowerByte_of_not_letter here, same]
  · rintro rfl
    exact lowerByte_of_not_letter plain

theorem lowered_cons (b : UInt8) (rest : Bytes) : lowered (b :: rest) = lowerByte b :: lowered rest := rfl

theorem lowered_drop (text : Bytes) (n : Nat) : lowered (text.drop n) = text.lowered.drop n := List.map_drop

theorem lowered_take (text : Bytes) (n : Nat) : lowered (text.take n) = text.lowered.take n := List.map_take

/-- A text in small letters starts with a sign only if the text does. -/
theorem exists_of_lowered_eq_cons {text rest : Bytes} {k : UInt8} (plain : isLetter k = false)
    (starts : text.lowered = k :: rest) : ∃ others, text = k :: others ∧ lowered others = rest := by
  cases text with
  | nil => cases starts
  | cons b others =>
    rw [lowered_cons, List.cons.injEq, lowerByte_eq_iff plain] at starts
    exact ⟨others, by rw [starts.1], starts.2⟩

theorem countWhile_lowered {p : UInt8 → Bool} (caseless : Caseless p) (text : Bytes) :
    countWhile p text.lowered = countWhile p text := by
  have same : p ∘ lowerByte = p := funext caseless
  rw [countWhile, Bytes.lowered, List.takeWhile_map, List.length_map, same, countWhile]

theorem blockEnd?_lowered (text : Bytes) : blockEnd? text.lowered = blockEnd? text := by
  induction text with
  | nil => rfl
  | cons b rest ih =>
    have star : lowerByte b = 42 ↔ b = 42 := lowerByte_eq_iff rfl
    have slash : ((lowered rest).head? = some 47) ↔ (rest.head? = some 47) := by
      cases rest with
      | nil => rfl
      | cons c rest => simpa [lowered_cons] using lowerByte_eq_iff (b := c) (k := 47) rfl
    rw [lowered_cons, blockEnd?, blockEnd?, ih]
    simp only [star, slash]

theorem comment?_lowered (text : Bytes) : comment? text.lowered = comment? text := by
  fun_cases comment? text with
  | case1 rest =>
    change comment? (45 :: 45 :: lowered rest) = _
    rw [comment?, countWhile_lowered fun b => congrArg (!·) (caseless_isNewline b)]
  | case2 rest =>
    change comment? (47 :: 42 :: lowered rest) = _
    rw [comment?, blockEnd?_lowered]
  | case3 _ noLine noBlock =>
    rw [comment?]
    · intro rest starts
      obtain ⟨others, rfl, next⟩ := exists_of_lowered_eq_cons rfl starts
      obtain ⟨others, rfl, _⟩ := exists_of_lowered_eq_cons rfl next
      exact noLine _ rfl
    · intro rest starts
      obtain ⟨others, rfl, next⟩ := exists_of_lowered_eq_cons rfl starts
      obtain ⟨others, rfl, _⟩ := exists_of_lowered_eq_cons rfl next
      exact noBlock _ rfl

theorem run?_lowered {p : UInt8 → Bool} (caseless : Caseless p) (text : Bytes) :
    run? p text.lowered = run? p text := by
  rw [run?, run?, countWhile_lowered caseless]

/-- The digits of a bit string that take one byte. -/
theorem caseless_bitDigit : Caseless fun b => isLetter b || isDigit b || isUnderscore b || b = 32 :=
  caseless_of_letters (by decide)

theorem bitDigits_lowered (text : Bytes) : bitDigits text.lowered = bitDigits text := by
  fun_induction bitDigits text with
  | case1 => rfl
  | case2 b rest digit ih =>
    rw [lowered_cons, bitDigits.eq_def]
    simp only [(caseless_bitDigit b).trans digit, if_true, ih]
  | case3 rest digit ih =>
    change bitDigits (0xC5 :: 0xBF :: lowered rest) = _
    rw [bitDigits, if_neg (by decide), ih]
  | case4 rest digit ih =>
    change bitDigits (0xE2 :: 0x84 :: 0xAA :: lowered rest) = _
    rw [bitDigits, if_neg (by decide), ih]
  | case5 b rest digit noLongS noKelvin =>
    have other : ¬(isLetter (lowerByte b) || isDigit (lowerByte b) || isUnderscore (lowerByte b) ||
        lowerByte b = 32) = true := fun holds => digit ((caseless_bitDigit b).symm.trans holds)
    rw [lowered_cons, bitDigits, if_neg other]
    · intro _ first starts
      obtain ⟨others, rfl, _⟩ := exists_of_lowered_eq_cons rfl starts
      exact noLongS _ ((lowerByte_eq_iff rfl).mp first) rfl
    · intro _ first starts
      obtain ⟨others, rfl, next⟩ := exists_of_lowered_eq_cons rfl starts
      obtain ⟨others, rfl, _⟩ := exists_of_lowered_eq_cons rfl next
      exact noKelvin _ ((lowerByte_eq_iff rfl).mp first) rfl

theorem bitSign_lowered (text : Bytes) : bitSign text.lowered = bitSign text := by
  have caseless : Caseless fun b => b = 117 || b = 85 || b = 115 || b = 83 := caseless_of_letters (by decide)
  have plain (b : UInt8) (rest : Bytes) (noLongS : ∀ others, b = 0xC5 → rest = 0xBF :: others → False) :
      bitSign (lowered (b :: rest)) = if b = 117 || b = 85 || b = 115 || b = 83 then 1 else 0 := by
    have same : (lowerByte b = 117 || lowerByte b = 85 || lowerByte b = 115 || lowerByte b = 83) =
        (b = 117 || b = 85 || b = 115 || b = 83) := caseless b
    rw [lowered_cons, bitSign, same]
    intro _ first starts
    obtain ⟨others, rfl, _⟩ := exists_of_lowered_eq_cons rfl starts
    exact noLongS _ ((lowerByte_eq_iff rfl).mp first) rfl
  fun_cases bitSign text with
  | case1 rest => rfl
  | case2 b rest noLongS sign => rw [plain b rest noLongS, if_pos sign]
  | case3 b rest noLongS sign => rw [plain b rest noLongS, if_neg sign]
  | case4 => rfl

theorem bitString?_lowered (text : Bytes) : bitString? text.lowered = bitString? text := by
  simp only [bitString?, countWhile_lowered caseless_isDigit, ← lowered_drop, bitSign_lowered]
  generalize countWhile isDigit text + bitSign (text.drop (countWhile isDigit text)) = lead
  rcases text.drop lead with _ | ⟨base, _ | ⟨open_, body⟩⟩
  · rfl
  · rfl
  · simp only [lowered_cons, caseless_isBitBase base, caseless_isQuote open_, bitDigits_lowered, ← lowered_drop]
    cases List.drop (bitDigits body) body with
    | nil => rfl
    | cons close rest => simp only [lowered_cons, caseless_isQuote close]

theorem stringEnd?_lowered (text : Bytes) : stringEnd? text.lowered = stringEnd? text := by
  fun_induction stringEnd? text with
  | case1 => rfl
  | case2 b rest newline =>
    rw [lowered_cons, stringEnd?.eq_def]
    simp only [caseless_isNewline b, newline, if_true]
  | case3 b newline quote c rest doubled n closed ih =>
    rw [lowered_cons, lowered_cons, stringEnd?.eq_def]
    simp only [caseless_isNewline b, newline, caseless_isQuote b, quote, caseless_isQuote c, doubled, ih, closed]
    rfl
  | case4 b newline quote c rest doubled unclosed ih =>
    rw [lowered_cons, lowered_cons, stringEnd?.eq_def]
    simp only [caseless_isNewline b, newline, caseless_isQuote b, quote, caseless_isQuote c, doubled, ih, unclosed]
    rfl
  | case5 b newline quote c rest single =>
    rw [lowered_cons, lowered_cons, stringEnd?.eq_def]
    simp only [caseless_isNewline b, newline, caseless_isQuote b, quote, caseless_isQuote c, single]
    rfl
  | case6 b newline quote =>
    rw [lowered_cons, stringEnd?.eq_def]
    simp only [caseless_isNewline b, newline, caseless_isQuote b, quote]
    rfl
  | case7 b rest newline quote ih =>
    rw [lowered_cons, stringEnd?.eq_def]
    simp only [caseless_isNewline b, newline, caseless_isQuote b, quote, ih]
    rfl

theorem string?_lowered (text : Bytes) : string? text.lowered = string? text := by
  cases text with
  | nil => rfl
  | cons b rest => rw [lowered_cons, string?, string?, caseless_isQuote, stringEnd?_lowered]

theorem character?_lowered (text : Bytes) : character? text.lowered = character? text := by
  rcases text with _ | ⟨a, _ | ⟨b, rest⟩⟩
  · rfl
  · rfl
  · have left : (Bytes.step (lowerByte b) (lowered rest)).2 = lowered (Bytes.step b rest).2 := by
      rw [Bytes.step, Bytes.step, Bytes.head_lowered, lowered_drop]
    simp only [lowered_cons, character?, caseless_isApostrophe a, caseless_isNewline b, left, Bytes.length_lowered]
    cases (Bytes.step b rest).2 with
    | nil => rfl
    | cons c others => simp only [lowered_cons, caseless_isApostrophe c]

theorem caseless_isDecimal : Caseless fun b => isDigit b || isUnderscore b := caseless_of_letters (by decide)

theorem basedPart_lowered (text : Bytes) : basedPart text.lowered = basedPart text := by
  rcases text with _ | ⟨b, rest⟩
  · rfl
  by_cases sign : b = 35
  · subst sign
    change basedPart (35 :: lowered rest) = _
    simp only [basedPart, countWhile_lowered caseless_isBasedDigit, ← lowered_drop]
    cases countWhile isBasedDigit rest with
    | zero => rfl
    | succ n =>
      rcases rest.drop (n + 1) with _ | ⟨c, others⟩
      · rfl
      by_cases close : c = 35
      · rw [close]
        rfl
      · have open_ : ¬lowerByte c = 35 := fun same => close ((lowerByte_eq_iff rfl).mp same)
        simp [lowered_cons, close, open_]
  · have other : ¬lowerByte b = 35 := fun same => sign ((lowerByte_eq_iff rfl).mp same)
    simp [lowered_cons, basedPart, sign, other]

theorem fractionPart_lowered (text : Bytes) : fractionPart text.lowered = fractionPart text := by
  rcases text with _ | ⟨b, rest⟩
  · rfl
  by_cases point : b = 46
  · subst point
    change fractionPart (46 :: lowered rest) = _
    simp only [fractionPart, countWhile_lowered caseless_isDecimal]
  · have other : ¬lowerByte b = 46 := fun same => point ((lowerByte_eq_iff rfl).mp same)
    simp [lowered_cons, fractionPart, point, other]

theorem exponentPart_lowered (text : Bytes) : exponentPart text.lowered = exponentPart text := by
  have mark : Caseless fun b => b = 101 || b = 69 := caseless_of_letters (by decide)
  have sign : Caseless fun b => b = 43 || b = 45 := caseless_of_letters (by decide)
  rcases text with _ | ⟨e, rest⟩
  · rfl
  have marks : (lowerByte e = 101 || lowerByte e = 69) = (e = 101 || e = 69) := mark e
  rcases rest with _ | ⟨s, rest⟩
  · simp only [lowered_cons, exponentPart, marks]
    rfl
  · have signs : (lowerByte s = 43 || lowerByte s = 45) = (s = 43 || s = 45) := sign s
    simp only [lowered_cons, exponentPart, marks, signs]
    simp only [← lowered_cons, ← lowered_drop, countWhile_lowered caseless_isDigit]

theorem number?_lowered (text : Bytes) : number? text.lowered = number? text := by
  rcases text with _ | ⟨b, rest⟩
  · rfl
  simp only [lowered_cons, number?, caseless_isDigit b]
  simp only [← lowered_cons, countWhile_lowered caseless_isDecimal, ← lowered_drop, basedPart_lowered,
    fractionPart_lowered, exponentPart_lowered]

theorem identifier?_lowered (text : Bytes) : identifier? text.lowered = identifier? text := by
  have part : Caseless fun b => isLetter b || isDigit b || isUnderscore b := caseless_of_letters (by decide)
  have inside : Caseless fun b => !isBackslash b && !isNewline b := caseless_of_letters (by decide)
  rcases text with _ | ⟨b, rest⟩
  · rfl
  simp only [lowered_cons, identifier?, caseless_isLetter b, caseless_isBackslash b, countWhile_lowered part,
    countWhile_lowered inside, ← lowered_drop]
  cases List.drop (countWhile (fun b => !isBackslash b && !isNewline b) rest) rest with
  | nil => rfl
  | cons c others =>
    cases countWhile (fun b => !isBackslash b && !isNewline b) rest with
    | zero => rfl
    | succ n => simp only [lowered_cons, caseless_isBackslash c]

/-- Signs without letters stand at the start of a text in small letters only if they stand in the text. -/
theorem isPrefixOf_lowered {sign : Bytes} (plain : ∀ b ∈ sign, isLetter b = false) (text : Bytes) :
    sign.isPrefixOf text.lowered = sign.isPrefixOf text := by
  induction sign generalizing text with
  | nil => rfl
  | cons b sign ih =>
    cases text with
    | nil => rfl
    | cons c rest =>
      have first : (b == lowerByte c) = (b == c) := by
        rw [Bool.eq_iff_iff, beq_iff_eq, beq_iff_eq, eq_comm, lowerByte_eq_iff (plain b List.mem_cons_self), eq_comm]
      rw [lowered_cons, List.isPrefixOf_cons_cons, List.isPrefixOf_cons_cons, first,
        ih fun d member => plain d (List.mem_cons_of_mem b member)]

theorem operator?_lowered (text : Bytes) : operator? text.lowered = operator? text := by
  have plain : ∀ sign ∈ operators, ∀ b ∈ sign, isLetter b = false := by decide +kernel
  rw [operator?, operator?]
  generalize operators = signs at plain ⊢
  induction signs with
  | nil => rfl
  | cons sign signs ih =>
    rw [List.find?_cons, List.find?_cons, isPrefixOf_lowered (plain sign List.mem_cons_self)]
    split
    · rfl
    · exact ih fun sign member => plain sign (List.mem_cons_of_mem _ member)

theorem single?_lowered {p : UInt8 → Bool} (caseless : Caseless p) (text : Bytes) :
    single? p text.lowered = single? p text := by
  cases text with
  | nil => rfl
  | cons b rest => rw [lowered_cons, single?, single?, caseless b]

/-- Every rule takes as much of a text in small letters. -/
theorem take?_lowered (rule : Rule) (text : Bytes) : rule.take? text.lowered = rule.take? text := by
  cases rule with
  | comment => exact comment?_lowered text
  | blanks => exact run?_lowered caseless_isBlank text
  | bitString => exact bitString?_lowered text
  | string => exact string?_lowered text
  | character => exact character?_lowered text
  | number => exact number?_lowered text
  | identifier => exact identifier?_lowered text
  | operator => exact operator?_lowered text
  | tick => exact single?_lowered caseless_isApostrophe text
  | punctuation => exact single?_lowered (caseless_of_letters (by decide)) text

theorem first?_lowered (text : Bytes) : Rule.first? text.lowered = Rule.first? text := by
  simp only [Rule.first?, take?_lowered]

end Lexer

/-- The token with its text in small letters. -/
def Token.lowered (t : Token) : Token := { t with text := t.text.lowered }

namespace Lexer

open Bytes (lowered)

theorem lowered_ofText (kind : TokenKind) (text : Bytes) (offset : Nat) :
    Token.ofText kind text.lowered offset = (Token.ofText kind text offset).lowered := by
  rw [Token.ofText, Bytes.lower_lowered]
  rfl

/-- A single byte that is no letter is the same in small letters, and comes from no other text. -/
theorem lowered_eq_singleton {b : UInt8} (plain : isLetter b = false) (text : Bytes) :
    text.lowered = [b] ↔ text = [b] := by
  constructor
  · intro single
    obtain ⟨c, rfl, lowers⟩ := List.map_eq_singleton_iff.mp single
    rw [(lowerByte_eq_iff plain).mp lowers]
  · rintro rfl
    rw [lowered, List.map_singleton, lowerByte_of_not_letter plain]

theorem takesAttribute_lowered (t : Token) : takesAttribute t.lowered = takesAttribute t := by
  have round : t.text.lowered = [41] ↔ t.text = [41] := lowered_eq_singleton rfl t.text
  have square : t.text.lowered = [93] ↔ t.text = [93] := lowered_eq_singleton rfl t.text
  have text_eq : (t.lowered.text = [41] || t.lowered.text = [93]) = (t.text = [41] || t.text = [93]) := by
    exact congr (congrArg or (decide_eq_decide.mpr round)) (decide_eq_decide.mpr square)
  unfold takesAttribute
  rw [text_eq]
  rfl

theorem splitsTick_lowered (last : Option Token) (offset : Nat) :
    splitsTick (last.map Token.lowered) offset = splitsTick last offset := by
  cases last with
  | none => rfl
  | some t =>
    have stop_eq : t.lowered.stop = t.stop := by simp [Token.stop, Token.lowered]
    simp only [Option.map_some, splitsTick, stop_eq, takesAttribute_lowered]

/-- The fault with the text in small letters. -/
def Fault.lowered (fault : Fault) : Fault := ⟨fault.offset, fault.rest.lowered⟩

/-- What a scan in small letters gives. -/
def loweredRun : Except Fault (List Token) → Except Fault (List Token)
  | .ok tokens => .ok (tokens.map Token.lowered)
  | .error fault => .error fault.lowered

theorem loweredRun_cons (t : Token) (run : Except Fault (List Token)) :
    loweredRun (run.map (t :: ·)) = (loweredRun run).map (t.lowered :: ·) := by
  cases run <;> rfl

/-- A scan in small letters runs through the same rules. -/
theorem scan_lowered (offset : Nat) (last : Option Token) (text : Bytes) :
    scan offset (last.map Token.lowered) text.lowered = loweredRun (scan offset last text) := by
  fun_induction scan offset last text with
  | case1 => rw [lowered, List.map_nil, scan]; rfl
  | case2 offset last b rest none_ =>
    have same := (first?_lowered (b :: rest)).trans none_
    rw [lowered_cons] at same ⊢
    rw [scan, same]
    rfl
  | case3 offset last b rest rule n found skipped ih =>
    have same := (first?_lowered (b :: rest)).trans found
    rw [lowered_cons] at same ⊢
    rw [scan, same]
    simp only [skipped, ← ih, lowered_drop]
  | case4 offset last b rest rule n found kind made splits tick ih =>
    have same := (first?_lowered (b :: rest)).trans found
    have tick_eq : Token.ofText .tick [lowerByte b] offset = tick.lowered := lowered_ofText .tick [b] offset
    rw [lowered_cons] at same ⊢
    rw [scan, same]
    simp only [made, splitsTick_lowered, splits, if_true, tick_eq, loweredRun_cons, ← ih, Option.map_some]
  | case5 offset last b rest rule n found kind made splits token ih =>
    have same := (first?_lowered (b :: rest)).trans found
    have token_eq : Token.ofText kind (lowerByte b :: (lowered rest).take (n - 1)) offset = token.lowered := by
      rw [← lowered_take, ← lowered_cons]
      exact lowered_ofText kind _ offset
    rw [lowered_cons] at same ⊢
    rw [scan, same]
    simp only [made, splitsTick_lowered, splits, token_eq, loweredRun_cons, ← ih, Option.map_some, lowered_drop]
    rfl

end Lexer

theorem tokenize_lowered (text : Bytes) : tokenize text.lowered = Lexer.loweredRun (tokenize text) := by
  have scanned : lex text.lowered = Lexer.loweredRun (lex text) := by
    rw [lex_eq_scan, lex_eq_scan]
    exact Lexer.scan_lowered 0 none text
  rw [tokenize, tokenize, scanned, Bytes.length_lowered]
  cases lex text with
  | error fault => rfl
  | ok tokens =>
    simp only [Lexer.loweredRun, Except.map, List.map_append]
    rfl

end DesignLint
