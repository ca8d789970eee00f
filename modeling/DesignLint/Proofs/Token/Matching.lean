import DesignLint.Proofs.Text.Decoding
import DesignLint.Proofs.Token.Pattern

/-! The matchers of the lexical rules, one by one, against their patterns. -/
namespace DesignLint.Lexer

open scoped Computability

variable {p : UInt8 → Bool} {l : Language UInt8} {word text rest : Bytes}

section Comments

theorem nil_mem_unclosed : [] ∈ unclosed := by
  show ¬[42, 47] <:+: ([] ++ [42] : Bytes)
  decide

theorem cons_mem_unclosed {b : UInt8} :
    b :: word ∈ unclosed ↔ ¬(b = 42 ∧ word.head? = some 47) ∧ word ∈ unclosed := by
  change ¬[42, 47] <:+: b :: (word ++ [42]) ↔ _ ∧ ¬[42, 47] <:+: word ++ [42]
  rw [List.infix_cons_iff, not_or, List.cons_prefix_cons]
  have next : [47] <+: word ++ [42] ↔ word.head? = some 47 := by
    cases word with
    | nil => simp
    | cons c word => simp [List.cons_prefix_cons, eq_comm]
  rw [next, eq_comm]

theorem blockEnd?_sound {n : Nat} (taken : blockEnd? text = some n) :
    ∃ body ∈ unclosed, text.take n = body ++ [42, 47] := by
  induction text generalizing n with
  | nil => contradiction
  | cons b rest ih =>
    rw [blockEnd?] at taken
    split at taken
    · rename_i closes
      cases taken
      simp only [Bool.and_eq_true, decide_eq_true_eq] at closes
      obtain ⟨rfl, next⟩ := closes
      cases rest with
      | nil => contradiction
      | cons c rest =>
        cases next
        exact ⟨[], nil_mem_unclosed, by simp⟩
    · rename_i open_
      obtain ⟨m, inner, rfl⟩ := Option.map_eq_some_iff.mp taken
      obtain ⟨body, member, same⟩ := ih inner
      refine ⟨b :: body, cons_mem_unclosed.mpr ⟨?_, member⟩, by rw [List.take_succ_cons, same, List.cons_append]⟩
      rintro ⟨rfl, next⟩
      have head : rest.head? = some 47 := by
        have := congrArg List.head? same
        rw [List.head?_take, List.head?_append, next] at this
        split at this
        · contradiction
        · exact this
      simp [head] at open_

theorem blockEnd?_complete (member : word ∈ unclosed) (rest : Bytes) :
    blockEnd? (word ++ 42 :: 47 :: rest) = some (word.length + 2) := by
  induction word with
  | nil => simp [blockEnd?]
  | cons b word ih =>
    obtain ⟨open_, member⟩ := cons_mem_unclosed.mp member
    rw [List.cons_append, blockEnd?, if_neg, ih member]
    · rfl
    · intro closes
      simp only [Bool.and_eq_true, decide_eq_true_eq] at closes
      obtain ⟨rfl, next⟩ := closes
      refine open_ ⟨rfl, ?_⟩
      cases word with
      | nil => exact absurd next (by simp)
      | cons c word => exact next

theorem comment?_follows : Follows comment? Rule.comment.pattern where
  sound := by
    intro text n taken
    unfold comment? at taken
    split at taken
    · rename_i rest
      cases taken
      refine .inl (Language.mem_mul.mpr ⟨[45, 45], rfl, rest.take (countWhile (!isNewline ·) rest), ?_, ?_⟩)
      · exact mem_star_byte.mpr (mem_take_countWhile _ rest)
      · rw [Nat.add_comm]
        rfl
    · obtain ⟨m, closed, rfl⟩ := Option.map_eq_some_iff.mp taken
      obtain ⟨body, member, same⟩ := blockEnd?_sound closed
      refine .inr (Language.mem_mul.mpr ⟨47 :: 42 :: body, ?_, [42, 47], rfl, ?_⟩)
      · exact Language.mem_mul.mpr ⟨[47, 42], rfl, body, member, rfl⟩
      · rw [List.take_succ_cons, List.take_succ_cons, same]
        rfl
    · contradiction
  longest := by
    intro word rest member
    obtain line | block := member
    · obtain ⟨_, rfl, body, member, rfl⟩ := Language.mem_mul.mp line
      have taken : comment? ([45, 45] ++ body ++ rest) = some (2 + countWhile (!isNewline ·) (body ++ rest)) := rfl
      rw [countWhile_append (mem_star_byte.mp member)] at taken
      exact ⟨_, taken, by simp; omega⟩
    · obtain ⟨_, opened, _, rfl, rfl⟩ := Language.mem_mul.mp block
      obtain ⟨_, rfl, body, member, rfl⟩ := Language.mem_mul.mp opened
      have closed : comment? ([47, 42] ++ body ++ [42, 47] ++ rest) = some (body.length + 2 + 2) := by
        simp [comment?, blockEnd?_complete member rest]
      exact ⟨_, closed, by simp⟩

end Comments

section Strings

theorem isQuote_iff {b : UInt8} : isQuote b = true ↔ b = 34 := by simp [isQuote]

theorem stringEnd?_sound {n : Nat} (taken : stringEnd? text = some n) : text.take n ∈ inString∗ * byte isQuote := by
  have closing {b : UInt8} {rest : Bytes} (quote : isQuote b = true) :
      (b :: rest).take 1 ∈ inString∗ * byte isQuote := mem_star_mul ⟨b, quote, rfl⟩
  fun_induction stringEnd? text generalizing n with
  | case1 => contradiction
  | case2 => contradiction
  | case3 b _ quote c rest quote' m inner ih =>
    cases taken
    cases isQuote_iff.mp quote
    cases isQuote_iff.mp quote'
    exact append_mem_star_mul (.inr rfl) (ih inner)
  | case4 b _ quote | case5 b _ quote | case6 b _ quote =>
    cases taken
    exact closing quote
  | case7 b rest line quote ih =>
    obtain ⟨m, inner, rfl⟩ := Option.map_eq_some_iff.mp taken
    have plain : [b] ∈ inString := .inl ⟨b, by simp [line, quote], rfl⟩
    exact append_mem_star_mul plain (ih inner)

theorem stringEnd?_complete (member : word ∈ inString∗) (rest : Bytes) :
    ∃ n, stringEnd? (word ++ 34 :: rest) = some n ∧ word.length + 1 ≤ n := by
  refine star_induction (motive := fun word => ∃ n, stringEnd? (word ++ 34 :: rest) = some n ∧ word.length + 1 ≤ n)
    ?_ ?_ member
  · have ends : stringEnd? (34 :: rest) ≠ none := by
      rw [stringEnd?.eq_def]
      simp only [show isNewline 34 = false from rfl, show isQuote 34 = true from rfl, Bool.false_eq_true, if_false,
        if_true]
      repeat' split
      all_goals simp
    obtain ⟨n, closed⟩ := Option.ne_none_iff_exists'.mp ends
    exact ⟨n, closed, (stringEnd?_extent closed).1⟩
  · intro first word one ih
    obtain ⟨n, closed, le⟩ := ih
    obtain ⟨b, plain, rfl⟩ | rfl := one
    · simp only [Bool.and_eq_true, Bool.not_eq_true'] at plain
      have taken : stringEnd? ([b] ++ word ++ 34 :: rest) = some (n + 1) := by
        change stringEnd? (b :: (word ++ 34 :: rest)) = _
        rw [stringEnd?.eq_def]
        simp [plain, closed]
      exact ⟨n + 1, taken, by simp; omega⟩
    · have taken : stringEnd? ([34, 34] ++ word ++ 34 :: rest) = some (n + 2) := by
        change stringEnd? (34 :: 34 :: (word ++ 34 :: rest)) = _
        rw [stringEnd?.eq_def]
        simp [isNewline, isQuote, closed]
      exact ⟨n + 2, taken, by simp; omega⟩

theorem string?_follows : Follows string? Rule.string.pattern where
  sound := by
    intro text n taken
    unfold string? at taken
    split at taken
    · split at taken
      · rename_i b rest quote
        obtain ⟨m, inner, rfl⟩ := Option.map_eq_some_iff.mp taken
        rw [List.take_succ_cons, Rule.pattern, mem_byte_mul]
        exact ⟨b, _, quote, stringEnd?_sound inner, rfl⟩
      · contradiction
    · contradiction
  longest := by
    intro word rest member
    rw [Rule.pattern, mem_byte_mul] at member
    obtain ⟨b, _, quote, member, rfl⟩ := member
    obtain ⟨body, repeated, _, ⟨c, quote', rfl⟩, rfl⟩ := Language.mem_mul.mp member
    cases isQuote_iff.mp quote'
    obtain ⟨n, closed, le⟩ := stringEnd?_complete repeated rest
    have taken : string? (b :: (body ++ [34]) ++ rest) = some (n + 1) := by
      simp [string?, quote, closed]
    exact ⟨n + 1, taken, by simp; omega⟩

end Strings

section Characters

theorem isApostrophe_iff {b : UInt8} : isApostrophe b = true ↔ b = 39 := by simp [isApostrophe]

theorem character?_follows : Follows character? Rule.character.pattern where
  sound := by
    intro text n taken
    unfold character? at taken
    split at taken
    · rename_i a b rest
      split at taken
      · rename_i opens
        simp only [Bool.and_eq_true, Bool.not_eq_true'] at opens
        simp only [Bytes.step] at taken
        split at taken
        · rename_i c more left
          split at taken
          · rename_i closes
            cases taken
            generalize size : (Bytes.head b rest).2 = k at left
            have whole := length_of_drop left
            have inside : b :: rest.take k ∈ oneCharacter := by
              refine ⟨b, rest.take k, rfl, opens.2, ?_⟩
              rw [Bytes.step, ← size, Bytes.head_take, size]
              exact List.drop_eq_nil_of_le (List.length_take_le _ _)
            have taken : (a :: b :: rest).take (rest.length - (c :: more).length + 3) = a :: ((b :: rest.take k) ++ [c]) := by
              rw [show rest.length - (c :: more).length + 3 = k + 1 + 1 + 1 by simp only [List.length_cons]; omega]
              rw [List.take_succ_cons, List.take_succ_cons, List.cons_append, List.take_add, left]
              rfl
            rw [left, taken, Rule.pattern, mem_byte_mul]
            exact ⟨a, _, opens.1, Language.mem_mul.mpr ⟨_, inside, [c], ⟨c, closes, rfl⟩, rfl⟩, rfl⟩
          · contradiction
        · contradiction
      · contradiction
    · contradiction
  longest := by
    intro word rest member
    rw [Rule.pattern, mem_byte_mul] at member
    obtain ⟨a, _, opens, member, rfl⟩ := member
    obtain ⟨_, ⟨b, body, rfl, line, single⟩, _, ⟨c, closes, rfl⟩, rfl⟩ := Language.mem_mul.mp member
    cases isApostrophe_iff.mp closes
    have size : (Bytes.head b body).2 = body.length := by
      have bound := List.drop_eq_nil_iff.mp single
      have := Bytes.head_le b body
      omega
    have left : (Bytes.step b (body ++ 39 :: rest)).2 = 39 :: rest := by
      rw [Bytes.step, Bytes.head_append (by decide) size, List.drop_left]
    have taken : character? (a :: (b :: body ++ [39]) ++ rest) = some (body.length + 3) := by
      simp only [List.cons_append, List.append_assoc, List.nil_append, character?, opens, line, left, closes]
      simp
    exact ⟨_, taken, by simp⟩

end Characters

section Identifiers

theorem identifier?_follows : Follows identifier? Rule.identifier.pattern where
  sound := by
    intro text n taken
    unfold identifier? at taken
    split at taken
    · rename_i b rest
      split at taken
      · rename_i letter
        cases taken
        rw [List.take_succ_cons]
        exact .inl (mem_byte_mul.mpr ⟨b, _, letter, mem_star_byte.mpr (mem_take_countWhile _ rest), rfl⟩)
      · split at taken
        · rename_i opens
          simp only at taken
          generalize size : countWhile (fun b => !isBackslash b && !isNewline b) rest = k at taken
          cases left : rest.drop k with
          | nil =>
            rw [left] at taken
            cases k <;> contradiction
          | cons c more =>
            rw [left] at taken
            cases k with
            | zero => contradiction
            | succ k =>
              simp only at taken
              split at taken
              · rename_i closes
                cases taken
                exact .inr (mem_byte_mul.mpr ⟨b, _, opens, take_closed_run_mem size left closes, rfl⟩)
              · contradiction
        · contradiction
    · contradiction
  longest := by
    intro word rest member
    obtain plain | extended := member
    · obtain ⟨b, more, letter, member, rfl⟩ := mem_byte_mul.mp plain
      refine ⟨countWhile (fun b => isLetter b || isDigit b || isUnderscore b) (more ++ rest) + 1, ?_, ?_⟩
      · simp [identifier?, letter]
      · rw [countWhile_append (mem_star_byte.mp member)]
        simp only [List.length_cons]
        omega
    · obtain ⟨b, _, opens, member, rfl⟩ := mem_byte_mul.mp extended
      obtain ⟨body, run, _, ⟨c, closes, rfl⟩, rfl⟩ := Language.mem_mul.mp member
      have size : countWhile (fun b => !isBackslash b && !isNewline b) (body ++ c :: rest) = body.length :=
        countWhile_run run (by simp [closes])
      have letter : isLetter b = false := by
        simp only [isBackslash, decide_eq_true_eq] at opens
        subst opens
        decide
      have taken : identifier? (b :: (body ++ [c]) ++ rest) = some (body.length + 2) := by
        obtain ⟨first, body, rfl⟩ := List.exists_cons_of_ne_nil (mem_bytes.mp run).1
        simp only [List.length_cons, List.cons_append] at size ⊢
        simp [identifier?, letter, opens, size, closes]
      exact ⟨_, taken, by simp⟩

end Identifiers

section Operators

/-- Of two compound delimiters that start alike, the longer one is tried first. -/
theorem operators_ordered : operators.Pairwise fun sign later => sign.isPrefixOf later = false := by decide

theorem operator?_follows : Follows operator? Rule.operator.pattern where
  sound := by
    intro text n taken
    obtain ⟨sign, found, rfl⟩ := Option.map_eq_some_iff.mp taken
    have starts := List.find?_some found
    rw [← List.prefix_iff_eq_take.mp (List.isPrefixOf_iff_prefix.mp starts)]
    exact List.mem_of_find?_eq_some found
  longest := by
    intro word rest member
    have starts : word.isPrefixOf (word ++ rest) = true := List.isPrefixOf_iff_prefix.mpr (List.prefix_append _ _)
    cases found : operators.find? (·.isPrefixOf (word ++ rest)) with
    | none => exact absurd starts (by simpa using List.find?_eq_none.mp found word member)
    | some sign =>
      refine ⟨sign.length, by rw [operator?, found]; rfl, ?_⟩
      obtain ⟨first, before, after, same, unmatched⟩ := List.find?_eq_some_iff_append.mp found
      have ordered := operators_ordered
      change word ∈ operators at member
      rw [same] at ordered member
      obtain _ | rfl | later := by simpa using member
      · rename_i earlier
        exact absurd (unmatched word earlier) (by simp [starts])
      · exact Nat.le_refl _
      · -- The sign found is no start of a later one, so the later one is a start of it.
        have other := (List.pairwise_cons.mp (List.pairwise_append.mp ordered).2.1).1 word later
        obtain shorter | longer := List.prefix_or_prefix_of_prefix (List.isPrefixOf_iff_prefix.mp first)
          (List.prefix_append word rest)
        · rw [List.isPrefixOf_iff_prefix.mpr shorter] at other
          contradiction
        · exact longer.length_le

end Operators

section Numbers

theorem countWhile_measures (p : UInt8 → Bool) : Measures (countWhile p) (byte p)∗ where
  sound text := mem_star_byte.mpr (mem_take_countWhile p text)
  longest := by
    intro word rest member
    rw [countWhile_append (mem_star_byte.mp member)]
    omega

theorem basedPart_exact (member : word ∈ based) (rest : Bytes) : basedPart (word ++ rest) = word.length := by
  obtain ⟨b, _, opens, closed, rfl⟩ := mem_byte_mul.mp member
  obtain ⟨body, run, _, ⟨c, closes, rfl⟩, rfl⟩ := Language.mem_mul.mp closed
  simp only [decide_eq_true_eq] at opens closes
  subst opens closes
  have size : countWhile isBasedDigit (body ++ 35 :: rest) = body.length := countWhile_run run (by decide)
  obtain ⟨first, body, rfl⟩ := List.exists_cons_of_ne_nil (mem_bytes.mp run).1
  simp only [List.length_cons, List.cons_append] at size ⊢
  simp [basedPart, size]

theorem basedPart_measures : Measures basedPart (optional based) where
  sound := by
    intro text
    unfold basedPart
    split
    · rename_i rest
      simp only
      split
      · exact .inl rfl
      · rename_i more left some_
        obtain ⟨n, size⟩ := Nat.exists_eq_succ_of_ne_zero some_
        rw [size] at left ⊢
        exact .inr (mem_byte_mul.mpr ⟨35, _, rfl, take_closed_run_mem size left rfl, rfl⟩)
      · exact .inl rfl
    · exact .inl rfl
  longest := by
    intro word rest member
    obtain rfl | member := member
    · exact Nat.zero_le _
    · exact Nat.le_of_eq (basedPart_exact member rest).symm

theorem fractionPart_measures : Measures fractionPart (optional fraction) where
  sound := by
    intro text
    unfold fractionPart
    split
    · rename_i rest
      split
      · exact .inl rfl
      · rename_i some_
        obtain ⟨n, size⟩ := Nat.exists_eq_succ_of_ne_zero some_
        rw [size]
        exact .inr (mem_byte_mul.mpr ⟨46, _, rfl, take_run_mem size, rfl⟩)
    · exact .inl rfl
  longest := by
    intro word rest member
    obtain rfl | member := member
    · exact Nat.zero_le _
    · obtain ⟨b, body, point, run, rfl⟩ := mem_byte_mul.mp member
      simp only [decide_eq_true_eq] at point
      subst point
      obtain ⟨n, size, le⟩ := le_countWhile run rest
      unfold isWide at size
      simp only [List.cons_append, fractionPart, size]
      simpa using le

/-- The sign of an exponent, if there is one. -/
def signPart : Bytes → Nat
  | s :: _ => if s = 43 || s = 45 then 1 else 0
  | [] => 0

theorem take_signPart_mem (text : Bytes) :
    text.take (signPart text) ∈ optional (byte fun b => b = 43 || b = 45) := by
  unfold signPart
  split
  · split
    · rename_i s _ sign
      exact .inr ⟨s, sign, rfl⟩
    · exact .inl rfl
  · exact .inl rfl

theorem not_sign_of_isDigit {d : UInt8} (digit : isDigit d = true) : ¬(d = 43 || d = 45) = true := by
  intro sign
  simp only [Bool.or_eq_true, decide_eq_true_eq] at sign
  obtain rfl | rfl := sign <;> revert digit <;> decide

theorem exponentPart_cons {e : UInt8} (mark : (e = 101 || e = 69) = true) (rest : Bytes) :
    exponentPart (e :: rest) = match countWhile isDigit (rest.drop (signPart rest)) with
      | 0 => 0
      | n => n + signPart rest + 1 := by
  rw [exponentPart.eq_def]
  exact if_pos mark

theorem exponentPart_measures : Measures exponentPart (optional exponent) where
  sound := by
    intro text
    cases text with
    | nil => exact .inl rfl
    | cons e rest =>
      by_cases mark : (e = 101 || e = 69) = true
      · rw [exponentPart_cons mark]
        split
        · exact .inl rfl
        · rename_i some_
          obtain ⟨n, size⟩ := Nat.exists_eq_succ_of_ne_zero some_
          rw [size, Nat.add_comm (n + 1) (signPart rest), List.take_succ_cons, List.take_add]
          refine .inr (mem_byte_mul.mpr ⟨e, _, mark, Language.mem_mul.mpr ⟨_, ?_, _, take_run_mem size, rfl⟩, rfl⟩)
          exact take_signPart_mem rest
      · rw [exponentPart.eq_def]
        simp only [mark]
        exact .inl rfl
  longest := by
    intro word rest member
    obtain rfl | member := member
    · exact Nat.zero_le _
    · obtain ⟨e, _, mark, signed, rfl⟩ := mem_byte_mul.mp member
      obtain ⟨sign, optional_, digits, run, rfl⟩ := Language.mem_mul.mp signed
      rw [List.cons_append, exponentPart_cons mark]
      have lead : signPart (sign ++ digits ++ rest) = sign.length := by
        obtain rfl | ⟨s, plusMinus, rfl⟩ := optional_
        · obtain ⟨ne, holds⟩ := mem_bytes.mp run
          obtain ⟨d, digits, rfl⟩ := List.exists_cons_of_ne_nil ne
          exact if_neg (not_sign_of_isDigit (holds d (List.mem_cons_self ..)))
        · exact if_pos plusMinus
      obtain ⟨n, size, le⟩ := le_countWhile run rest
      rw [lead, List.append_assoc, List.drop_left, size]
      change _ ≤ n + 1 + sign.length + 1
      simp only [List.length_cons, List.length_append]
      omega

/-- The parts of a number after its first digits start with bytes of their own, so no part takes what belongs to the
next one. -/
theorem numberParts_measure :
    Measures (andThen (countWhile isWide) (andThen basedPart (andThen fractionPart exponentPart)))
      ((byte isWide)∗ * (optional based * (optional fraction * optional exponent))) := by
  have starts₃ : StartsWith (optional exponent) _ := startsWith_optional _ _
  have starts₂ : StartsWith (optional fraction * optional exponent) _ := (startsWith_optional _ _).mul starts₃
  have starts₁ : StartsWith (optional based * (optional fraction * optional exponent)) _ :=
    (startsWith_optional _ _).mul starts₂
  refine .andThen (countWhile_measures isWide) (.andThen basedPart_measures (.andThen fractionPart_measures
    exponentPart_measures ?_) ?_) ?_
  · intro word more rest inFraction inExponent present
    obtain ⟨c, more, rfl, mark⟩ := starts₃ more inExponent present
    simp only [Bool.or_eq_true, decide_eq_true_eq] at mark
    have notWide : isWide c = false := by obtain rfl | rfl := mark <;> decide
    obtain rfl | inFraction := inFraction
    · obtain rfl | rfl := mark <;> rfl
    · obtain ⟨b, body, point, run, rfl⟩ := mem_byte_mul.mp inFraction
      simp only [decide_eq_true_eq] at point
      subst point
      change (match countWhile isWide (body ++ c :: (more ++ rest)) with
        | 0 => 0
        | n => n + 1) = _
      obtain ⟨d, body, rfl⟩ := List.exists_cons_of_ne_nil (mem_bytes.mp run).1
      rw [countWhile_run run notWide]
      rfl
  · intro word more rest inBased inParts present
    obtain rfl | inBased := inBased
    · obtain ⟨c, more, rfl, mark⟩ := starts₂ more inParts present
      simp only [Bool.or_eq_true, decide_eq_true_eq] at mark
      obtain rfl | rfl | rfl := mark <;> rfl
    · exact basedPart_exact inBased _
  · intro word more rest inDigits inParts present
    obtain ⟨c, more, rfl, mark⟩ := starts₁ more inParts present
    have notWide : isWide c = false := by
      simp only [Bool.or_eq_true, decide_eq_true_eq] at mark
      obtain rfl | rfl | rfl | rfl := mark <;> decide
    rw [countWhile_append (mem_star_byte.mp inDigits), List.cons_append, countWhile_eq_zero notWide, Nat.add_zero]

theorem number?_cons {b : UInt8} (digit : isDigit b = true) (rest : Bytes) :
    number? (b :: rest) =
      some (andThen (countWhile isWide) (andThen basedPart (andThen fractionPart exponentPart)) rest + 1) := by
  have taken : number? (b :: rest) =
      some (andThen (countWhile isWide) (andThen basedPart (andThen fractionPart exponentPart)) (b :: rest)) := by
    simp only [number?, digit, if_true, andThen, List.drop_drop, Nat.add_assoc]
    rfl
  have whole : countWhile isWide (b :: rest) = countWhile isWide rest + 1 := by simp [countWhile, isWide, digit]
  rw [taken, andThen, whole, List.drop_succ_cons, Nat.add_right_comm]
  rfl

theorem number?_follows : Follows number? Rule.number.pattern where
  sound := by
    intro text n taken
    cases text with
    | nil => contradiction
    | cons b rest =>
      by_cases digit : isDigit b = true
      · rw [number?_cons digit] at taken
        cases taken
        exact mem_byte_mul.mpr ⟨b, _, digit, numberParts_measure.sound rest, rfl⟩
      · simp [number?, digit] at taken
  longest := by
    intro word rest member
    obtain ⟨b, parts, digit, inParts, rfl⟩ := mem_byte_mul.mp member
    refine ⟨_, number?_cons digit (parts ++ rest), ?_⟩
    have := numberParts_measure.longest rest inParts
    simp only [List.length_cons]
    omega

end Numbers

section BitStrings

theorem take_bitSign_mem (text : Bytes) : text.take (bitSign text) ∈ optional signLetter := by
  unfold bitSign
  split
  · exact .inr (.inr rfl)
  · split
    · rename_i b _ _ letter
      exact .inr (.inl ⟨b, letter, rfl⟩)
    · exact .inl rfl
  · exact .inl rfl

theorem take_bitDigits_mem (text : Bytes) : text.take (bitDigits text) ∈ bitDigit∗ := by
  have more {first word : Bytes} (one : first ∈ bitDigit) (many : word ∈ bitDigit∗) : first ++ word ∈ bitDigit∗ := by
    obtain ⟨words, rfl, each⟩ := Language.mem_kstar.mp many
    exact Language.mem_kstar.mpr ⟨first :: words, rfl, List.forall_mem_cons.mpr ⟨one, each⟩⟩
  fun_induction bitDigits text with
  | case1 => exact Language.nil_mem_kstar _
  | case2 b rest digit ih => exact more (.inl (.inl ⟨b, digit, rfl⟩)) ih
  | case3 rest _ ih => exact more (.inl (.inr rfl)) ih
  | case4 rest _ ih => exact more (.inr rfl) ih
  | case5 => exact Language.nil_mem_kstar _

theorem bitDigits_exact (member : word ∈ bitDigit∗) (rest : Bytes) : bitDigits (word ++ 34 :: rest) = word.length := by
  refine star_induction (motive := fun word => bitDigits (word ++ 34 :: rest) = word.length) ?_ ?_ member
  · rfl
  · intro first word one ih
    obtain (⟨b, digit, rfl⟩ | rfl) | rfl := one
    · change bitDigits (b :: (word ++ 34 :: rest)) = _
      rw [bitDigits.eq_def]
      simp only [digit, if_true, ih]
      simp
    · change bitDigits (word ++ 34 :: rest) + 2 = _
      rw [ih]
      simp
    · change bitDigits (word ++ 34 :: rest) + 3 = _
      rw [ih]
      simp

theorem bitSign_exact {sign : Bytes} {base : UInt8} (member : sign ∈ optional signLetter)
    (letter : isBitBase base = true) (rest : Bytes) : bitSign (sign ++ base :: rest) = sign.length := by
  obtain rfl | ⟨b, upper, rfl⟩ | rfl := member
  · simp only [isBitBase, Bool.or_eq_true, decide_eq_true_eq] at letter
    obtain ((((((rfl | rfl) | rfl) | rfl) | rfl) | rfl) | rfl) | rfl := letter <;> rfl
  · simp only [Bool.or_eq_true, decide_eq_true_eq] at upper
    obtain ((rfl | rfl) | rfl) | rfl := upper <;> rfl
  · rfl

/-- Neither a sign nor a base is a digit, so the width is read exactly. -/
theorem countWhile_width {width sign : Bytes} {base : UInt8} (digits : width ∈ (byte isDigit)∗)
    (member : sign ∈ optional signLetter) (letter : isBitBase base = true) (rest : Bytes) :
    countWhile isDigit (width ++ (sign ++ base :: rest)) = width.length := by
  rw [countWhile_append (mem_star_byte.mp digits)]
  obtain rfl | ⟨b, upper, rfl⟩ | rfl := member
  · simp only [isBitBase, Bool.or_eq_true, decide_eq_true_eq] at letter
    obtain ((((((rfl | rfl) | rfl) | rfl) | rfl) | rfl) | rfl) | rfl := letter <;> rfl
  · simp only [Bool.or_eq_true, decide_eq_true_eq] at upper
    obtain ((rfl | rfl) | rfl) | rfl := upper <;> rfl
  · rfl

theorem bitString?_follows : Follows bitString? Rule.bitString.pattern where
  sound := by
    intro text n taken
    simp only [bitString?] at taken
    generalize width_ : countWhile isDigit text = width at taken
    generalize sign_ : bitSign (text.drop width) = sign at taken
    split at taken
    · rename_i base open_ body left
      split at taken
      · rename_i letters
        simp only [Bool.and_eq_true] at letters
        split at taken
        · rename_i close more closed
          split at taken
          · rename_i closes
            cases taken
            have inner : body.take (bitDigits body + 1) ∈ bitDigit∗ * byte isQuote := by
              refine Language.mem_mul.mpr ⟨_, take_bitDigits_mem body, [close], ⟨close, closes, rfl⟩, ?_⟩
              rw [List.take_add, closed]
              rfl
            have quoted : (base :: open_ :: body).take (bitDigits body + 1 + 1 + 1) ∈
                byte isBitBase * (byte isQuote * (bitDigit∗ * byte isQuote)) :=
              mem_byte_mul.mpr ⟨base, _, letters.1, mem_byte_mul.mpr ⟨open_, _, letters.2, inner, rfl⟩, rfl⟩
            rw [show width + sign + 2 + bitDigits body + 1 = width + (sign + (bitDigits body + 1 + 1 + 1)) by omega,
              List.take_add, List.take_add, List.drop_drop, left]
            refine Language.mem_mul.mpr ⟨_, width_ ▸ mem_star_byte.mpr (mem_take_countWhile isDigit text), _, ?_, rfl⟩
            exact Language.mem_mul.mpr ⟨_, sign_ ▸ take_bitSign_mem _, _, quoted, rfl⟩
          · contradiction
        · contradiction
      · contradiction
    · contradiction
  longest := by
    intro word rest member
    obtain ⟨width, digits, _, signed, rfl⟩ := Language.mem_mul.mp member
    obtain ⟨sign, letter, _, based, rfl⟩ := Language.mem_mul.mp signed
    obtain ⟨base, _, isBase, quoted, rfl⟩ := mem_byte_mul.mp based
    obtain ⟨open_, _, opens, inner, rfl⟩ := mem_byte_mul.mp quoted
    obtain ⟨body, bits, _, ⟨close, closes, rfl⟩, rfl⟩ := Language.mem_mul.mp inner
    cases isQuote_iff.mp closes
    have shape : width ++ (sign ++ base :: open_ :: (body ++ [34])) ++ rest =
        width ++ (sign ++ base :: open_ :: (body ++ 34 :: rest)) := by simp
    have left : (width ++ (sign ++ base :: open_ :: (body ++ 34 :: rest))).drop (width.length + sign.length) =
        base :: open_ :: (body ++ 34 :: rest) := by
      rw [← List.drop_drop, List.drop_left, List.drop_left]
    have taken : bitString? (width ++ (sign ++ base :: open_ :: (body ++ 34 :: rest))) =
        some (width.length + sign.length + 2 + body.length + 1) := by
      simp only [bitString?, countWhile_width digits letter isBase, List.drop_left, bitSign_exact letter isBase, left,
        isBase, opens, Bool.and_self, if_true, bitDigits_exact bits, closes]
    refine ⟨_, by rw [shape]; exact taken, ?_⟩
    simp only [List.length_append, List.length_cons, List.length_nil]
    omega

end BitStrings

theorem take?_follows (rule : Rule) : Follows rule.take? rule.pattern := by
  cases rule with
  | comment => exact comment?_follows
  | blanks => exact run?_follows isBlank
  | bitString => exact bitString?_follows
  | string => exact string?_follows
  | character => exact character?_follows
  | number => exact number?_follows
  | identifier => exact identifier?_follows
  | operator => exact operator?_follows
  | tick => exact single?_follows isApostrophe
  | punctuation => exact single?_follows _

end DesignLint.Lexer
