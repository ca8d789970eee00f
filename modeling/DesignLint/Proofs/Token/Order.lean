import DesignLint.Proofs.Token.Matching

/-! The tokens of a text stand in it one after the other, and the end of the text closes them. The word of a token
follows from its text. -/
namespace DesignLint

/-- The tokens of a text, up to and including its end. -/
structure TokensOf (text : Bytes) (tokens : List Token) : Prop where
  lexed : tokenize text = .ok tokens
  closed : ∃ significant, tokens = significant ++ [Token.endOfText text.length] ∧
    ∀ t ∈ significant, t.kind ≠ .endOfText
  inside : ∀ t ∈ tokens, t.stop ≤ text.length
  ordered : tokens.Pairwise fun a b => a.stop ≤ b.offset
  worded : ∀ t ∈ tokens, t.word = t.text.lower
  named : ∀ t ∈ tokens, t.isName → t.text ≠ []
  solid : ∀ t ∈ tokens, t.kind ≠ .endOfText → ∃ b, (text.take t.stop).getLast? = some b ∧ isTrimmable b = false

namespace Lexer

/-- Tokens that stand between two offsets, one after the other. -/
structure Between (start stop : Nat) (tokens : List Token) : Prop where
  significant : ∀ t ∈ tokens, t.kind ≠ .endOfText
  start_le : ∀ t ∈ tokens, start ≤ t.offset
  le_stop : ∀ t ∈ tokens, t.stop ≤ stop
  ordered : tokens.Pairwise fun a b => a.stop ≤ b.offset
  worded : ∀ t ∈ tokens, t.word = t.text.lower
  solid : ∀ t ∈ tokens, ∃ b, t.text.getLast? = some b ∧ isTrimmable b = false

theorem Between.nonempty {start stop : Nat} {tokens : List Token} (between : Between start stop tokens) :
    ∀ t ∈ tokens, t.text ≠ [] := by
  intro t member empty
  obtain ⟨b, last, _⟩ := between.solid t member
  rw [empty] at last
  contradiction

theorem Between.nil (start stop : Nat) : Between start stop [] :=
  ⟨by simp, by simp, by simp, .nil, by simp, by simp⟩

theorem Between.weaken {start start' stop : Nat} {tokens : List Token}
    (between : Between start' stop tokens) (le : start ≤ start') : Between start stop tokens :=
  ⟨between.significant, fun t member => Nat.le_trans le (between.start_le t member), between.le_stop,
    between.ordered, between.worded, between.solid⟩

theorem Between.cons {start next stop : Nat} {t : Token} {tokens : List Token}
    (significant : t.kind ≠ .endOfText) (start_le : start ≤ t.offset) (le_next : t.stop ≤ next)
    (next_le : next ≤ stop) (worded : t.word = t.text.lower)
    (solid : ∃ b, t.text.getLast? = some b ∧ isTrimmable b = false)
    (between : Between next stop tokens) : Between start stop (t :: tokens) where
  significant := by simpa [significant] using between.significant
  start_le := by
    have earlier : Between start stop tokens :=
      between.weaken (by simp only [Token.stop] at le_next; omega)
    simpa [start_le] using earlier.start_le
  le_stop := by simpa [Nat.le_trans le_next next_le] using between.le_stop
  ordered := .cons (fun u member => Nat.le_trans le_next (between.start_le u member)) between.ordered
  worded := by simpa [worded] using between.worded
  solid := List.forall_mem_cons.mpr ⟨solid, between.solid⟩

theorem kind?_ne_endOfText {rule : Rule} {kind : TokenKind} (made : rule.kind? = some kind) :
    kind ≠ .endOfText := by
  cases rule <;> cases made <;> decide

theorem kind?_eq_character_iff {rule : Rule} : rule.kind? = some .character ↔ rule = .character := by
  cases rule <;> simp [Rule.kind?]

theorem head_of_mem_character {b : UInt8} {rest : Bytes} {n : Nat}
    (member : (b :: rest).take n ∈ Rule.character.pattern) : b = 39 := by
  obtain ⟨a, more, opens, _, same⟩ := mem_byte_mul.mp member
  cases n with
  | zero => simp at same
  | succ n =>
    rw [List.take_succ_cons] at same
    cases same
    exact isApostrophe_iff.mp opens

theorem scan_between {offset : Nat} {last : Option Token} {text : Bytes} {tokens : List Token}
    (scanned : scan offset last text = .ok tokens) :
    Between offset (offset + text.length) tokens := by
  fun_induction scan offset last text generalizing tokens with
  | case1 =>
    cases scanned
    exact .nil _ _
  | case2 => contradiction
  | case3 offset last b rest rule n found _ ih =>
    obtain ⟨positive, fits⟩ := first?_extent found
    have between := ih scanned
    simp only [List.length_drop, List.length_cons] at between fits ⊢
    rw [show offset + n + (rest.length - (n - 1)) = offset + (rest.length + 1) by omega] at between
    exact between.weaken (by omega)
  | case4 offset last b rest rule n found kind made splits tick =>
    rename_i ih
    cases tail : scan (offset + 1) (some tick) rest with
    | error fault => rw [tail] at scanned; contradiction
    | ok others =>
      rw [tail] at scanned
      cases scanned
      have between := ih tail
      simp only [List.length_cons] at between ⊢
      rw [show offset + 1 + rest.length = offset + (rest.length + 1) by omega] at between
      refine .cons (by simp [tick, Token.ofText]) (by simp [tick, Token.ofText]) ?_ (by omega) rfl ?_ between
      · simp [tick, Token.ofText, Token.stop]
      · -- A literal that is split starts with its tick.
        simp only [Bool.and_eq_true, decide_eq_true_eq] at splits
        obtain ⟨rfl, _⟩ := splits
        cases kind?_eq_character_iff.mp made
        have member := (take?_follows .character).sound (take?_of_first? found)
        exact ⟨b, rfl, by rw [head_of_mem_character member]; decide⟩
  | case5 offset last b rest rule n found kind made splits token =>
    rename_i ih
    obtain ⟨positive, fits⟩ := first?_extent found
    cases tail : scan (offset + n) (some token) (rest.drop (n - 1)) with
    | error fault => rw [tail] at scanned; contradiction
    | ok others =>
      rw [tail] at scanned
      cases scanned
      have between := ih tail
      simp only [List.length_drop, List.length_cons] at between fits ⊢
      rw [show offset + n + (rest.length - (n - 1)) = offset + (rest.length + 1) by omega] at between
      refine .cons (kind?_ne_endOfText made) (by simp [token, Token.ofText]) ?_ (by omega) rfl ?_ between
      · simp only [token, Token.ofText, Token.stop, List.length_cons, List.length_take]
        omega
      · have member := (take?_follows rule).sound (take?_of_first? found)
        obtain ⟨m, rfl⟩ := Nat.exists_eq_succ_of_ne_zero (Nat.ne_of_gt positive)
        rw [List.take_succ_cons] at member
        exact Rule.closed_pattern made _ member

theorem scan_fault_le {offset : Nat} {last : Option Token} {text : Bytes} {fault : Fault}
    (scanned : scan offset last text = .error fault) : fault.offset ≤ offset + text.length := by
  fun_induction scan offset last text with
  | case1 => contradiction
  | case2 offset last b rest => cases scanned; simp
  | case3 offset last b rest rule n found _ ih =>
    obtain ⟨positive, fits⟩ := first?_extent found
    have := ih scanned
    simp only [List.length_drop, List.length_cons] at this fits ⊢
    omega
  | case4 offset last b rest rule n found kind made splits tick =>
    rename_i ih
    cases tail : scan (offset + 1) (some tick) rest with
    | error _ =>
      rw [tail] at scanned
      cases scanned
      have := ih tail
      simp only [List.length_cons]
      omega
    | ok others => rw [tail] at scanned; contradiction
  | case5 offset last b rest rule n found kind made splits token =>
    rename_i ih
    obtain ⟨positive, fits⟩ := first?_extent found
    cases tail : scan (offset + n) (some token) (rest.drop (n - 1)) with
    | error _ =>
      rw [tail] at scanned
      cases scanned
      have := ih tail
      simp only [List.length_drop, List.length_cons] at this fits ⊢
      omega
    | ok others => rw [tail] at scanned; contradiction

end Lexer

theorem tokenize_fault_le {text : Bytes} {fault : Lexer.Fault} (read : tokenize text = .error fault) :
    fault.offset ≤ text.length := by
  cases lexed : lex text with
  | error other =>
    simp only [tokenize, lexed, Except.map, Except.error.injEq] at read
    subst read
    rw [lex_eq_scan] at lexed
    simpa using Lexer.scan_fault_le lexed
  | ok significant => simp [tokenize, lexed, Except.map] at read

end DesignLint
