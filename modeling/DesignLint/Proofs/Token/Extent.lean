import DesignLint.Token.Lexer

/-! How much of a text the lexer takes. A lexical rule takes at least one byte, and never more than there is. The lexer stops at
each tick that it splits off and starts again behind it, with the offsets counted from there; what was read before decides about
the next tick across such a restart. Reading straight on, with the last token carried along, takes the same tokens and ends in the
same fault. -/
namespace DesignLint

namespace Lexer

theorem countWhile_le (p : UInt8 → Bool) (text : Bytes) : countWhile p text ≤ text.length :=
  (List.takeWhile_sublist p).length_le

theorem blockEnd?_extent {text : Bytes} {n : Nat} (taken : blockEnd? text = some n) :
    0 < n ∧ n ≤ text.length := by
  induction text generalizing n with
  | nil => simp [blockEnd?] at taken
  | cons b rest ih =>
    rw [blockEnd?] at taken
    split at taken
    · rename_i closes
      simp only [Bool.and_eq_true] at closes
      cases rest with
      | nil => simp at closes
      | cons c rest => cases taken; simp
    · obtain ⟨m, inner, rfl⟩ := Option.map_eq_some_iff.mp taken
      have := ih inner
      simp only [List.length_cons]
      omega

theorem comment?_extent {text : Bytes} {n : Nat} (taken : comment? text = some n) :
    0 < n ∧ n ≤ text.length := by
  unfold comment? at taken
  split at taken
  · rename_i rest
    cases taken
    have := countWhile_le (!isNewline ·) rest
    simp only [List.length_cons]
    omega
  · obtain ⟨m, inner, rfl⟩ := Option.map_eq_some_iff.mp taken
    have := blockEnd?_extent inner
    simp only [List.length_cons]
    omega
  · contradiction

theorem run?_extent {p : UInt8 → Bool} {text : Bytes} {n : Nat} (taken : run? p text = some n) :
    0 < n ∧ n ≤ text.length := by
  have bound := countWhile_le p text
  unfold run? at taken
  split at taken
  · contradiction
  · rename_i some_
    cases taken
    exact ⟨Nat.pos_of_ne_zero some_, bound⟩

theorem bitDigits_le (text : Bytes) : bitDigits text ≤ text.length := by
  fun_induction bitDigits text with
  | case1 => simp
  | case2 b rest digit ih => simp only [List.length_cons]; omega
  | case3 => simp only [List.length_cons]; omega
  | case4 => simp only [List.length_cons]; omega
  | case5 => exact Nat.zero_le _

theorem bitSign_le (text : Bytes) : bitSign text ≤ text.length := by
  unfold bitSign
  split
  · simp
  · split <;> simp
  · simp

/-- A text of which something is left after `n` bytes has the lengths of both parts. -/
theorem length_of_drop {text rest : Bytes} {b : UInt8} {n : Nat} (left : text.drop n = b :: rest) :
    text.length = n + rest.length + 1 := by
  have := congrArg List.length left
  simp only [List.length_drop, List.length_cons] at this
  omega

theorem bitString?_extent {text : Bytes} {n : Nat} (taken : bitString? text = some n) :
    0 < n ∧ n ≤ text.length := by
  simp only [bitString?] at taken
  split at taken
  · rename_i base open_ body left
    have whole := length_of_drop left
    split at taken
    · split at taken
      · rename_i close rest closed
        have inner := length_of_drop closed
        split at taken
        · cases taken
          simp only [List.length_cons] at whole
          omega
        · contradiction
      · contradiction
    · contradiction
  · contradiction

theorem stringEnd?_extent {text : Bytes} {n : Nat} (taken : stringEnd? text = some n) :
    0 < n ∧ n ≤ text.length := by
  fun_induction stringEnd? text generalizing n with
  | case1 => contradiction
  | case2 => contradiction
  | case3 b _ _ c rest' _ m inner ih =>
    cases taken
    have := ih inner
    simp only [List.length_cons]
    omega
  | case4 => cases taken; simp
  | case5 => cases taken; simp
  | case6 => cases taken; simp
  | case7 b rest _ _ ih =>
    obtain ⟨m, inner, rfl⟩ := Option.map_eq_some_iff.mp taken
    have := ih inner
    simp only [List.length_cons]
    omega

theorem string?_extent {text : Bytes} {n : Nat} (taken : string? text = some n) :
    0 < n ∧ n ≤ text.length := by
  unfold string? at taken
  split at taken
  · split at taken
    · obtain ⟨m, inner, rfl⟩ := Option.map_eq_some_iff.mp taken
      have := stringEnd?_extent inner
      simp only [List.length_cons]
      omega
    · contradiction
  · contradiction

theorem character?_extent {text : Bytes} {n : Nat} (taken : character? text = some n) :
    0 < n ∧ n ≤ text.length := by
  unfold character? at taken
  split at taken
  · rename_i a b rest
    split at taken
    · have shorter := Bytes.step_length_le b rest
      simp only at taken
      split at taken
      · rename_i c rest' left
        split at taken
        · cases taken
          simp only [left, List.length_cons] at shorter ⊢
          omega
        · contradiction
      · contradiction
    · contradiction
  · contradiction

theorem basedPart_le (text : Bytes) : basedPart text ≤ text.length := by
  unfold basedPart
  split
  · rename_i rest
    dsimp only
    split
    · simp
    · rename_i left _
      have := length_of_drop left
      simp only [List.length_cons]
      omega
    · simp
  · simp

theorem fractionPart_le (text : Bytes) : fractionPart text ≤ text.length := by
  unfold fractionPart
  split
  · rename_i rest
    have := countWhile_le (fun b => isDigit b || isUnderscore b) rest
    split
    · simp
    · simp only [List.length_cons]
      omega
  · simp

theorem exponentPart_le (text : Bytes) : exponentPart text ≤ text.length := by
  unfold exponentPart
  split
  · rename_i e rest
    split
    · extract_lets sign
      have fits : sign ≤ rest.length := by
        cases rest with
        | nil => simp [sign]
        | cons s rest => simp only [sign, List.length_cons]; split <;> omega
      have := countWhile_le isDigit (rest.drop sign)
      simp only [List.length_drop] at this
      split
      · simp
      · simp only [List.length_cons]
        omega
    · simp
  · simp

theorem number?_extent {text : Bytes} {n : Nat} (taken : number? text = some n) :
    0 < n ∧ n ≤ text.length := by
  unfold number? at taken
  split at taken
  · rename_i b rest
    split at taken
    · rename_i digit
      have whole := countWhile_le (fun b => isDigit b || isUnderscore b) (b :: rest)
      have first : 0 < countWhile (fun b => isDigit b || isUnderscore b) (b :: rest) := by
        simp [countWhile, digit]
      simp only [Option.some.injEq] at taken
      generalize countWhile (fun b => isDigit b || isUnderscore b) (b :: rest) = w at *
      have based := basedPart_le ((b :: rest).drop w)
      generalize basedPart ((b :: rest).drop w) = x at *
      have fraction := fractionPart_le ((b :: rest).drop (w + x))
      generalize fractionPart ((b :: rest).drop (w + x)) = y at *
      have exponent := exponentPart_le ((b :: rest).drop (w + x + y))
      simp only [List.length_drop] at based fraction exponent
      omega
    · contradiction
  · contradiction

theorem identifier?_extent {text : Bytes} {n : Nat} (taken : identifier? text = some n) :
    0 < n ∧ n ≤ text.length := by
  unfold identifier? at taken
  split at taken
  · rename_i b rest
    split at taken
    · cases taken
      have := countWhile_le (fun b => isLetter b || isDigit b || isUnderscore b) rest
      simp only [List.length_cons]
      omega
    · split at taken
      · simp only at taken
        split at taken
        · contradiction
        · rename_i left _
          have := length_of_drop left
          split at taken
          · cases taken
            simp only [List.length_cons]
            omega
          · contradiction
        · contradiction
      · contradiction
  · contradiction

theorem operator?_extent {text : Bytes} {n : Nat} (taken : operator? text = some n) :
    0 < n ∧ n ≤ text.length := by
  obtain ⟨sign, found, rfl⟩ := Option.map_eq_some_iff.mp taken
  have prefixed := List.find?_some found
  have starts : sign <+: text := List.isPrefixOf_iff_prefix.mp prefixed
  have listed : ∀ sign ∈ operators, 0 < sign.length := by decide
  exact ⟨listed sign (List.mem_of_find?_eq_some found), starts.length_le⟩

theorem single?_extent {p : UInt8 → Bool} {text : Bytes} {n : Nat} (taken : single? p text = some n) :
    0 < n ∧ n ≤ text.length := by
  unfold single? at taken
  split at taken
  · split at taken
    · cases taken
      simp
    · contradiction
  · contradiction

/-- Every rule takes something, and only what is there. -/
theorem take?_extent {rule : Rule} {text : Bytes} {n : Nat} (taken : rule.take? text = some n) :
    0 < n ∧ n ≤ text.length := by
  cases rule with
  | comment => exact comment?_extent taken
  | blanks => exact run?_extent taken
  | bitString => exact bitString?_extent taken
  | string => exact string?_extent taken
  | character => exact character?_extent taken
  | number => exact number?_extent taken
  | identifier => exact identifier?_extent taken
  | operator => exact operator?_extent taken
  | tick => exact single?_extent taken
  | punctuation => exact single?_extent taken

theorem take?_of_first? {rule : Rule} {text : Bytes} {n : Nat} (found : Rule.first? text = some (rule, n)) :
    rule.take? text = some n := by
  obtain ⟨rule', _, taken⟩ := List.exists_of_findSome?_eq_some found
  obtain ⟨m, taken, same⟩ := Option.map_eq_some_iff.mp taken
  cases same
  exact taken

theorem first?_extent {rule : Rule} {text : Bytes} {n : Nat} (found : Rule.first? text = some (rule, n)) :
    0 < n ∧ n ≤ text.length :=
  take?_extent (take?_of_first? found)

/-! ### One pass -/

/-- The significant tokens of a text that stands at `offset`, after the token `last`, read in one pass. -/
def scan (offset : Nat) (last : Option Token) : Bytes → Except Fault (List Token)
  | [] => .ok []
  | b :: rest =>
    match Rule.first? (b :: rest) with
    | none => .error ⟨offset, b :: rest⟩
    | some (rule, n) =>
      match rule.kind? with
      | none => scan (offset + n) last (rest.drop (n - 1))
      | some kind =>
        if kind = .character && splitsTick last offset then
          let tick := Token.ofText .tick [b] offset
          (scan (offset + 1) (some tick) rest).map (tick :: ·)
        else
          let token := Token.ofText kind (b :: rest.take (n - 1)) offset
          (scan (offset + n) (some token) (rest.drop (n - 1))).map (token :: ·)
termination_by text => text.length
decreasing_by all_goals simp <;> omega

/-- The tokens of a single pass, put latest first before those that are done. -/
def onto (done : List Token) (offset : Nat) (text : Bytes) : Except Fault (List Token) :=
  (scan offset done.head? text).map fun tokens => tokens.reverse ++ done

theorem onto_nil (done : List Token) (offset : Nat) : onto done offset [] = .ok done := by
  rw [onto, scan]
  rfl

/-- Reading one token and going on is the same as going on with the token done. -/
theorem onto_cons {done : List Token} {offset next : Nat} {text rest : Bytes} {token : Token}
    (reads : scan offset done.head? text = (scan next (some token) rest).map (token :: ·)) :
    onto done offset text = onto (token :: done) next rest := by
  rw [onto, onto, reads, List.head?_cons]
  cases scan next (some token) rest <;> simp [Except.map]

/-- A run, followed by a single pass from where it starts again, is a single pass. -/
theorem pass_onto (base : Nat) (done : List Token) (pos : Nat) (text : Bytes) :
    onto done (base + pos) text = match pass base done pos text with
      | .error fault => .error fault
      | .ok (done', none) => .ok done'
      | .ok (done', some (next, rest)) => onto done' next rest := by
  fun_induction pass base done pos text with
  | case1 => exact onto_nil _ _
  | case2 done pos b rest unmatched =>
    rw [onto, scan, unmatched]
    rfl
  | case3 done pos b rest rule n found skipped ih =>
    rw [← ih, onto, scan, found]
    simp only [skipped]
    rw [Nat.add_assoc, ← onto]
  | case4 done pos b rest rule n found kind made token splits =>
    apply onto_cons
    rw [scan, found]
    simp only [made]
    exact if_pos splits
  | case5 done pos b rest rule n found kind made token splits ih =>
    rw [← ih]
    apply onto_cons
    rw [scan, found]
    simp only [made]
    rw [← Nat.add_assoc]
    exact if_neg splits

/-- All runs together are a single pass. -/
theorem passes_eq_onto (base : Nat) (done : List Token) (text : Bytes) : passes base done text = onto done base text := by
  fun_induction passes base done text with
  | case1 base done text fault ran | case2 base done text done' ran =>
    have first := pass_onto base done 0 text
    rw [ran] at first
    exact first.symm
  | case3 base done text done' next rest ran ih =>
    have first := pass_onto base done 0 text
    rw [ran] at first
    rw [ih]
    exact first.symm

end Lexer

/-- The tokens of a text are those of a single pass. -/
theorem lex_eq_scan (text : Bytes) : lex text = Lexer.scan 0 none text := by
  rw [lex, Lexer.passes_eq_onto, Lexer.onto, List.head?_nil]
  cases Lexer.scan 0 none text <;> simp [Except.map]

end DesignLint
