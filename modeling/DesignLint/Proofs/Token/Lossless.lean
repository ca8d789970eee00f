import DesignLint.Proofs.Token.Matching
import DesignLint.Proofs.Token.Order

/-! What the lexer keeps of a text: everything. Its tokens are pieces of the text in their order, and between them stand
complete comments and runs of blanks. Where it stops instead, no rule describes any start of what is left. Reading is
also described as a relation, on the patterns of the rules alone, that fixes the result of every text. -/
namespace DesignLint

namespace Lexer

namespace Rule

/-- The longest start of the text that the rule describes has `n` bytes. -/
structure Takes (rule : Rule) (text : Bytes) (n : Nat) : Prop where
  le : n ≤ text.length
  mem : text.take n ∈ rule.pattern
  longest : ∀ m ≤ text.length, text.take m ∈ rule.pattern → m ≤ n

/-- The rule describes no start of the text. -/
def Misses (rule : Rule) (text : Bytes) : Prop := ∀ n, text.take n ∉ rule.pattern

/-- The rule is the first one in the order of the rules that describes a start of the text, and takes `n` bytes. -/
def Decides (rule : Rule) (text : Bytes) (n : Nat) : Prop :=
  rule.Takes text n ∧ ∃ before after, all = before ++ rule :: after ∧ ∀ earlier ∈ before, earlier.Misses text

end Rule

open Rule (Takes Misses Decides)

variable {rule : Rule} {text rest : Bytes} {n : Nat}

theorem take?_of_mem (le : n ≤ text.length) (member : text.take n ∈ rule.pattern) :
    ∃ m, rule.take? text = some m ∧ n ≤ m := by
  have taken := (take?_follows rule).longest (text.drop n) member
  rwa [List.take_append_drop, List.length_take, Nat.min_eq_left le] at taken

theorem take?_eq_some_iff : rule.take? text = some n ↔ rule.Takes text n := by
  constructor
  · intro taken
    refine ⟨(take?_extent taken).2, (take?_follows rule).sound taken, ?_⟩
    intro m le member
    obtain ⟨k, taken', le'⟩ := take?_of_mem le member
    rw [taken] at taken'
    cases taken'
    exact le'
  · intro takes
    obtain ⟨m, taken, le⟩ := take?_of_mem takes.le takes.mem
    have := takes.longest m (take?_extent taken).2 ((take?_follows rule).sound taken)
    rw [taken, Nat.le_antisymm le this]

theorem take?_eq_none_iff : rule.take? text = none ↔ rule.Misses text := by
  constructor
  · intro missed n member
    have whole : text.take (min n text.length) ∈ rule.pattern := by rwa [← List.take_eq_take_min]
    obtain ⟨m, taken, _⟩ := take?_of_mem (Nat.min_le_right _ _) whole
    rw [missed] at taken
    contradiction
  · intro misses
    cases taken : rule.take? text with
    | none => rfl
    | some n => exact absurd ((take?_follows rule).sound taken) (misses n)

theorem mem_all (rule : Rule) : rule ∈ Rule.all := by cases rule <;> decide

theorem first?_eq_none_iff : Rule.first? text = none ↔ ∀ rule : Rule, rule.Misses text := by
  rw [Rule.first?, List.findSome?_eq_none_iff]
  simp only [Option.map_eq_none_iff, take?_eq_none_iff]
  exact ⟨fun missed rule => missed rule (mem_all rule), fun misses rule _ => misses rule⟩

theorem first?_eq_some_iff : Rule.first? text = some (rule, n) ↔ rule.Decides text n := by
  rw [Rule.first?, List.findSome?_eq_some_iff]
  constructor
  · rintro ⟨before, other, after, split, taken, missed⟩
    obtain ⟨m, taken, same⟩ := Option.map_eq_some_iff.mp taken
    cases same
    refine ⟨take?_eq_some_iff.mp taken, before, after, split, ?_⟩
    intro earlier member
    exact take?_eq_none_iff.mp (Option.map_eq_none_iff.mp (missed earlier member))
  · rintro ⟨takes, before, after, split, missed⟩
    refine ⟨before, rule, after, split, by rw [take?_eq_some_iff.mpr takes]; rfl, ?_⟩
    intro earlier member
    rw [take?_eq_none_iff.mpr (missed earlier member)]
    rfl

/-- Reading in one pass, from the patterns of the rules: at each place the first rule decides, comments and blanks are
left out, and a character literal right after a token that takes an attribute gives only its tick. -/
inductive Reads : Nat → Option Token → Bytes → Except Fault (List Token) → Prop where
  | done {offset last} : Reads offset last [] (.ok [])
  | stuck {offset last text} (left : text ≠ []) (misses : ∀ rule : Rule, rule.Misses text) :
      Reads offset last text (.error ⟨offset, text⟩)
  | skip {offset last text n result} {rule : Rule} (decides : rule.Decides text n) (silent : rule = .comment ∨ rule = .blanks)
      (reads : Reads (offset + n) last (text.drop n) result) : Reads offset last text result
  | tick {offset last text n result} (decides : Rule.character.Decides text n) (splits : splitsTick last offset = true)
      (reads : Reads (offset + 1) (some (Token.ofText .tick [39] offset)) (text.drop 1) result) :
      Reads offset last text (result.map (Token.ofText .tick [39] offset :: ·))
  | token {offset last text n kind result} {rule : Rule} (decides : rule.Decides text n) (made : rule.kind? = some kind)
      (whole : ¬(rule = .character ∧ splitsTick last offset = true))
      (reads : Reads (offset + n) (some (Token.ofText kind (text.take n) offset)) (text.drop n) result) :
      Reads offset last text (result.map (Token.ofText kind (text.take n) offset :: ·))

theorem kind?_eq_none_iff : rule.kind? = none ↔ rule = .comment ∨ rule = .blanks := by
  cases rule <;> simp [Rule.kind?]

theorem head_of_character (takes : Rule.character.Takes text n) : ∃ rest, text = 39 :: rest := by
  cases text with
  | nil =>
    obtain ⟨_, _, _, _, same⟩ := mem_byte_mul.mp takes.mem
    simp at same
  | cons b rest => exact ⟨rest, by rw [head_of_mem_character takes.mem]⟩

theorem scan_of_misses {offset : Nat} {last : Option Token} (left : text ≠ []) (misses : ∀ rule : Rule, rule.Misses text) :
    scan offset last text = .error ⟨offset, text⟩ := by
  obtain ⟨b, rest, rfl⟩ := List.exists_cons_of_ne_nil left
  rw [scan, first?_eq_none_iff.mpr misses]

/-- One step of the single pass, at a place where a rule decides. -/
theorem scan_of_decides {offset : Nat} {last : Option Token} (decides : rule.Decides text n) :
    scan offset last text = match rule.kind? with
      | none => scan (offset + n) last (text.drop n)
      | some kind =>
        if kind = .character && splitsTick last offset then
          (scan (offset + 1) (some (Token.ofText .tick [39] offset)) (text.drop 1)).map
            (Token.ofText .tick [39] offset :: ·)
        else
          (scan (offset + n) (some (Token.ofText kind (text.take n) offset)) (text.drop n)).map
            (Token.ofText kind (text.take n) offset :: ·) := by
  have found := first?_eq_some_iff.mpr decides
  obtain ⟨positive, fits⟩ := first?_extent found
  obtain ⟨n, rfl⟩ := Nat.exists_eq_succ_of_ne_zero (Nat.pos_iff_ne_zero.mp positive)
  cases text with
  | nil => simp at fits
  | cons b rest =>
    rw [scan, found]
    simp only
    cases made : rule.kind? with
    | none => rfl
    | some kind =>
      simp only
      by_cases splits : (kind = .character && splitsTick last offset) = true
      · have isCharacter : kind = .character := by simp_all
        subst isCharacter
        cases kind?_eq_character_iff.mp made
        obtain ⟨_, same⟩ := head_of_character decides.1
        cases same
        rw [if_pos splits, if_pos splits]
        rfl
      · rw [if_neg splits, if_neg splits]
        rfl

theorem reads_scan (offset : Nat) (last : Option Token) (text : Bytes) : Reads offset last text (scan offset last text) := by
  generalize size : text.length = k
  induction k using Nat.strongRecOn generalizing offset last text with
  | ind k ih =>
    subst size
    by_cases empty : text = []
    · subst empty
      rw [scan]
      exact .done
    cases found : Rule.first? text with
    | none =>
      have misses := first?_eq_none_iff.mp found
      rw [scan_of_misses empty misses]
      exact .stuck empty misses
    | some decision =>
      obtain ⟨rule, n⟩ := decision
      have decides := first?_eq_some_iff.mp found
      obtain ⟨positive, fits⟩ := first?_extent found
      have shorter (m : Nat) (some_ : 0 < m) : (text.drop m).length < text.length := by
        rw [List.length_drop]
        omega
      rw [scan_of_decides decides]
      split
      · rename_i silent
        exact .skip decides (kind?_eq_none_iff.mp silent) (ih _ (shorter n positive) _ _ _ rfl)
      · rename_i kind made
        split
        · rename_i splits
          simp only [Bool.and_eq_true, decide_eq_true_eq] at splits
          obtain ⟨rfl, splits⟩ := splits
          cases kind?_eq_character_iff.mp made
          exact .tick decides splits (ih _ (shorter 1 Nat.one_pos) _ _ _ rfl)
        · rename_i whole
          refine .token decides made ?_ (ih _ (shorter n positive) _ _ _ rfl)
          rintro ⟨rfl, splits⟩
          cases made
          exact whole (by simpa using splits)

theorem Reads.eq_scan {offset : Nat} {last : Option Token} {result : Except Fault (List Token)}
    (reads : Reads offset last text result) : result = scan offset last text := by
  induction reads with
  | done => rw [scan]
  | stuck left misses => rw [scan_of_misses left misses]
  | skip decides silent _ ih => rw [scan_of_decides decides, kind?_eq_none_iff.mpr silent, ih]
  | tick decides splits _ ih =>
    rw [scan_of_decides decides, ih]
    simp [Rule.kind?, splits]
  | token decides made whole _ ih =>
    rw [scan_of_decides decides, made, ih]
    simp only
    rw [if_neg]
    intro splits
    simp only [Bool.and_eq_true, decide_eq_true_eq] at splits
    obtain ⟨rfl, splits⟩ := splits
    exact whole ⟨kind?_eq_character_iff.mp made, splits⟩

/-- The first `n` bytes of the text are complete comments and complete runs of blanks. -/
inductive Filler : Bytes → Nat → Prop where
  | nil {text : Bytes} : Filler text 0
  | cons {text : Bytes} {n m : Nat} {rule : Rule} (silent : rule = .comment ∨ rule = .blanks) (takes : rule.Takes text n)
      (more : Filler (text.drop n) m) : Filler text (n + m)

/-- Tokens that stand in a text from `offset` on, with nothing but comments and blanks around them. -/
inductive Woven : Bytes → Nat → List Token → Prop where
  | done {text : Bytes} {offset : Nat} (gap : Filler text text.length) : Woven text offset []
  | token {text : Bytes} {n offset : Nat} {t : Token} {tokens : List Token} (gap : Filler text n) (offset_eq : t.offset = offset + n)
      (starts : t.text <+: text.drop n) (more : Woven (text.drop (n + t.text.length)) t.stop tokens) :
      Woven text offset (t :: tokens)

theorem Woven.skip {offset : Nat} {tokens : List Token} (silent : rule = .comment ∨ rule = .blanks)
    (takes : rule.Takes text n) (woven : Woven (text.drop n) (offset + n) tokens) : Woven text offset tokens := by
  cases woven with
  | done gap =>
    have whole := Filler.cons silent takes gap
    have le := takes.le
    rw [List.length_drop, show n + (text.length - n) = text.length by omega] at whole
    exact .done whole
  | token gap offset_eq starts more =>
    refine .token (.cons silent takes gap) (by omega) ?_ ?_
    · rwa [← List.drop_drop]
    · rwa [Nat.add_assoc, ← List.drop_drop]

theorem exists_of_map_ok {α β ε : Type} {f : α → β} {x : Except ε α} {b : β} (ok : x.map f = .ok b) :
    ∃ a, x = .ok a ∧ f a = b := by
  cases x with
  | error e => contradiction
  | ok a =>
    cases ok
    exact ⟨a, rfl, rfl⟩

theorem Reads.woven {offset : Nat} {last : Option Token} {result : Except Fault (List Token)}
    (reads : Reads offset last text result) : ∀ tokens, result = .ok tokens → Woven text offset tokens := by
  induction reads with
  | done =>
    rintro _ ⟨⟩
    exact .done .nil
  | stuck => rintro _ ⟨⟩
  | skip decides silent _ ih =>
    intro tokens ok
    exact .skip silent decides.1 (ih tokens ok)
  | tick decides splits _ ih =>
    intro tokens ok
    obtain ⟨more, rfl, rfl⟩ := exists_of_map_ok ok
    obtain ⟨rest, rfl⟩ := head_of_character decides.1
    exact .token .nil rfl (by simp [Token.ofText]) (ih more rfl)
  | token decides made whole _ ih =>
    intro tokens ok
    obtain ⟨more, rfl, rfl⟩ := exists_of_map_ok ok
    have length : (List.take _ _).length = _ := (List.length_take ..).trans (Nat.min_eq_left decides.1.le)
    refine .token .nil rfl (List.take_prefix _ _) ?_
    rw [Token.stop, Token.ofText, Nat.zero_add]
    simp only [length]
    exact ih more rfl

theorem Filler.le (gap : Filler text n) : n ≤ text.length := by
  induction gap with
  | nil => exact Nat.zero_le _
  | cons _ takes _ ih =>
    have := takes.le
    rw [List.length_drop] at ih
    omega

namespace Woven

variable {offset : Nat} {tokens : List Token}

theorem starts_at (woven : Woven text offset tokens) :
    ∀ t ∈ tokens, offset ≤ t.offset ∧ t.text <+: text.drop (t.offset - offset) := by
  induction woven with
  | done => simp
  | @token text n offset t tokens gap offset_eq starts _ ih =>
    intro u member
    obtain rfl | later := List.mem_cons.mp member
    · rw [offset_eq, Nat.add_sub_cancel_left]
      exact ⟨by omega, starts⟩
    · obtain ⟨le, here⟩ := ih u later
      rw [Token.stop] at le here
      rw [List.drop_drop] at here
      refine ⟨by omega, ?_⟩
      rwa [show u.offset - offset = n + t.text.length + (u.offset - (t.offset + t.text.length)) by omega]

/-- Before every token, the end of the text included, stand only comments and blanks back to the token before it. -/
theorem gap_before (woven : Woven text offset tokens) (before : List Token) (t : Token) (after : List Token)
    (split : tokens ++ [Token.endOfText (offset + text.length)] = before ++ t :: after) :
    offset ≤ before.getLast?.elim offset Token.stop ∧
      Filler (text.drop (before.getLast?.elim offset Token.stop - offset))
        (t.offset - before.getLast?.elim offset Token.stop) := by
  induction woven generalizing before with
  | done gap =>
    obtain ⟨rfl, same⟩ | ⟨_, _, other⟩ := List.singleton_eq_append_iff.mp split
    cases same
    simpa [Token.endOfText] using gap
  | @token text n offset u tokens gap offset_eq starts more ih =>
    cases before with
    | nil =>
      cases split
      simpa [offset_eq] using gap
    | cons first before =>
      obtain ⟨rfl, others⟩ := List.cons.inj split
      have fits : n + u.text.length ≤ text.length := by
        have := gap.le
        have := starts.length_le
        rw [List.length_drop] at this
        omega
      have stop_eq : u.stop = offset + (n + u.text.length) := by rw [Token.stop, offset_eq, Nat.add_assoc]
      have ends : u.stop + (text.drop (n + u.text.length)).length = offset + text.length := by
        rw [List.length_drop]
        omega
      have rest := ih before (by rw [ends]; exact others)
      have last : (u :: before).getLast?.elim offset Token.stop = before.getLast?.elim u.stop Token.stop := by
        rw [List.getLast?_cons]
        cases before.getLast? <;> rfl
      rw [last]
      rw [List.drop_drop] at rest
      obtain ⟨le, gap⟩ := rest
      refine ⟨by omega, ?_⟩
      rwa [show before.getLast?.elim u.stop Token.stop - offset =
        n + u.text.length + (before.getLast?.elim u.stop Token.stop - u.stop) by omega]

end Woven

/-- The place where no rule goes on, counted from an earlier place of the text. -/
def StuckAt (offset : Nat) (text : Bytes) (fault : Fault) : Prop :=
  ∃ n < text.length, fault = ⟨offset + n, text.drop n⟩ ∧ ∀ rule : Rule, rule.Misses (text.drop n)

theorem StuckAt.of_drop {offset k : Nat} {fault : Fault} (le : k ≤ text.length)
    (stuck : StuckAt (offset + k) (text.drop k) fault) : StuckAt offset text fault := by
  obtain ⟨n, lt, rfl, misses⟩ := stuck
  rw [List.length_drop] at lt
  rw [List.drop_drop] at misses ⊢
  exact ⟨k + n, by omega, by rw [Nat.add_assoc], misses⟩

theorem head_of_mem_identifier {word : Bytes} (member : word ∈ Rule.identifier.pattern) :
    ∃ b rest, word = b :: rest ∧ (isLetter b || isBackslash b) = true := by
  rcases member with letters | extended
  · obtain ⟨b, rest, letter, _, rfl⟩ := mem_byte_mul.mp letters
    exact ⟨b, rest, rfl, by rw [letter, Bool.true_or]⟩
  · obtain ⟨b, rest, opens, _, rfl⟩ := mem_byte_mul.mp extended
    exact ⟨b, rest, rfl, by rw [opens, Bool.or_true]⟩

theorem kind?_eq_identifier_iff {rule : Rule} : rule.kind? = some .identifier ↔ rule = .identifier := by
  cases rule <;> simp [Rule.kind?]

theorem Reads.identifier_mem {offset : Nat} {last : Option Token} {text : Bytes} {result : Except Fault (List Token)}
    (reads : Reads offset last text result) :
    ∀ tokens, result = .ok tokens → ∀ t ∈ tokens, t.kind = .identifier → t.text ∈ Rule.identifier.pattern := by
  induction reads with
  | done =>
    rintro _ ⟨⟩
    simp
  | stuck => rintro _ ⟨⟩
  | skip _ _ _ ih => exact ih
  | tick _ _ _ ih =>
    intro tokens ok
    obtain ⟨more, rfl, rfl⟩ := exists_of_map_ok ok
    exact List.forall_mem_cons.mpr ⟨fun named => by contradiction, ih more rfl⟩
  | token decides made _ _ ih =>
    intro tokens ok
    obtain ⟨more, rfl, rfl⟩ := exists_of_map_ok ok
    refine List.forall_mem_cons.mpr ⟨fun named => ?_, ih more rfl⟩
    cases named
    cases kind?_eq_identifier_iff.mp made
    exact decides.1.mem

theorem eq_error_of_map {α β ε : Type} {f : α → β} {x : Except ε α} {e : ε} (failed : x.map f = .error e) :
    x = .error e := by
  cases x with
  | error e =>
    cases failed
    rfl
  | ok a => contradiction

theorem Reads.stuckAt {offset : Nat} {last : Option Token} {result : Except Fault (List Token)}
    (reads : Reads offset last text result) : ∀ fault, result = .error fault → StuckAt offset text fault := by
  induction reads with
  | done => rintro _ ⟨⟩
  | stuck left misses =>
    rintro _ ⟨⟩
    exact ⟨0, List.length_pos_iff.mpr left, rfl, misses⟩
  | skip decides _ _ ih =>
    intro fault failed
    exact .of_drop decides.1.le (ih fault failed)
  | tick decides _ _ ih =>
    intro fault failed
    have positive := (take?_extent (take?_eq_some_iff.mpr decides.1)).1
    exact .of_drop (Nat.le_trans positive decides.1.le) (ih fault (eq_error_of_map failed))
  | token decides _ _ _ ih =>
    intro fault failed
    exact .of_drop decides.1.le (ih fault (eq_error_of_map failed))

end Lexer

theorem eq_ok_of_toOption {ε α : Type} {x : Except ε α} {a : α} (known : x.toOption = some a) : x = .ok a := by
  cases x with
  | error e => cases known
  | ok found =>
    cases known
    rfl

/-- What was found out about an outcome by computing it. -/
theorem exists_ok_of_any {ε α : Type} {x : Except ε α} {check : α → Bool} (holds : x.toOption.any check = true) :
    ∃ a, x = .ok a ∧ check a = true := by
  cases x with
  | error e => contradiction
  | ok a => exact ⟨a, rfl, holds⟩

theorem tokenize_tokensOf {text : Bytes} {tokens : List Token} (read : tokenize text = .ok tokens) :
    TokensOf text tokens := by
  obtain ⟨significant, lexed, rfl⟩ := Lexer.exists_of_map_ok read
  rw [lex_eq_scan] at lexed
  have woven := (Lexer.reads_scan 0 none text).woven significant lexed
  have between := Lexer.scan_between lexed
  rw [Nat.zero_add] at between
  refine ⟨read, ⟨significant, rfl, between.significant⟩, ?_, ?_, ?_, ?_, ?_⟩
  · intro t member
    rcases List.mem_append.mp member with member | member
    · exact between.le_stop t member
    · obtain rfl := List.mem_singleton.mp member
      simp [Token.endOfText, Token.stop]
  · refine List.pairwise_append.mpr ⟨between.ordered, List.pairwise_singleton _ _, ?_⟩
    intro t member last isLast
    obtain rfl := List.mem_singleton.mp isLast
    exact between.le_stop t member
  · intro t member
    rcases List.mem_append.mp member with member | member
    · exact between.worded t member
    · obtain rfl := List.mem_singleton.mp member
      exact show "" = Bytes.lower [] by decide +kernel
  · intro t member named
    rcases List.mem_append.mp member with member | member
    · exact between.nonempty t member
    · obtain rfl := List.mem_singleton.mp member
      contradiction
  · intro t member other
    rcases List.mem_append.mp member with member | member
    · -- The text up to the end of a token ends as the token does.
      obtain ⟨b, last, solid⟩ := between.solid t member
      have piece := List.prefix_iff_eq_take.mp (woven.starts_at t member).2
      rw [Nat.sub_zero] at piece
      refine ⟨b, ?_, solid⟩
      rw [Token.stop, List.take_add, List.getLast?_append, ← piece, last, Option.some_or]
    · obtain rfl := List.mem_singleton.mp member
      exact absurd rfl other

/-- The names of a text are identifiers. -/
theorem identifier_of_tokenize {text : Bytes} {tokens : List Token} (read : tokenize text = .ok tokens) {t : Token}
    (member : t ∈ tokens) (named : t.isName = true) : t.text ∈ Lexer.Rule.identifier.pattern := by
  obtain ⟨identifier, _⟩ := Bool.and_eq_true_iff.mp named
  obtain ⟨significant, lexed, rfl⟩ := Lexer.exists_of_map_ok read
  rw [lex_eq_scan] at lexed
  rcases List.mem_append.mp member with member | member
  · exact (Lexer.reads_scan 0 none text).identifier_mem significant lexed t member (of_decide_eq_true identifier)
  · obtain rfl := List.mem_singleton.mp member
    contradiction

/-- Tokens that keep a text: pieces of it that follow one another, closed by its end, with nothing but complete comments
and complete runs of blanks before each of them. -/
structure Lossless (text : Bytes) (tokens : List Token) : Prop where
  increasing : tokens.Pairwise fun a b => a.offset < b.offset
  disjoint : tokens.Pairwise fun a b => a.stop ≤ b.offset
  pieces : ∃ significant, tokens = significant ++ [Token.endOfText text.length] ∧
    ∀ t ∈ significant, t.kind ≠ .endOfText ∧ t.text ≠ [] ∧ t.text = (text.drop t.offset).take t.text.length
  gaps : ∀ before t after, tokens = before ++ t :: after →
    Lexer.Filler (text.drop (before.getLast?.elim 0 Token.stop)) (t.offset - before.getLast?.elim 0 Token.stop)

theorem lossless_of_tokenize {text : Bytes} {tokens : List Token} (read : tokenize text = .ok tokens) :
    Lossless text tokens := by
  obtain ⟨significant, lexed, rfl⟩ := Lexer.exists_of_map_ok read
  rw [lex_eq_scan] at lexed
  have woven := (Lexer.reads_scan 0 none text).woven significant lexed
  have between := Lexer.scan_between lexed
  have ordered := (tokenize_tokensOf read).ordered
  constructor
  · -- A token is followed by another one only if it is not the end of the text, and then it is not empty.
    have nonempty : ∀ a ∈ significant, a.offset < a.stop := fun a member =>
      Nat.lt_add_of_pos_right (List.length_pos_iff.mpr (between.nonempty a member))
    obtain ⟨first, _, last⟩ := List.pairwise_append.mp ordered
    refine List.pairwise_append.mpr ⟨?_, List.pairwise_singleton _ _, ?_⟩
    · exact first.imp_of_mem fun member _ le => Nat.lt_of_lt_of_le (nonempty _ member) le
    · exact fun a member b isLast => Nat.lt_of_lt_of_le (nonempty a member) (last a member b isLast)
  · exact ordered
  · refine ⟨significant, rfl, fun t member => ⟨between.significant t member, between.nonempty t member, ?_⟩⟩
    exact List.prefix_iff_eq_take.mp (woven.starts_at t member).2
  · intro before t after split
    have gap := (woven.gap_before before t after (by rw [Nat.zero_add]; exact split)).2
    rwa [Nat.sub_zero] at gap

/-- Every text is read without loss, or reading stops where no lexical rule describes any start of what is left; and the
result is that of a single pass in which the first rule decides at every place. -/
theorem tokenize_lossless (text : Bytes) :
    (match tokenize text with
      | .ok tokens => Lossless text tokens
      | .error fault => fault.offset < text.length ∧ fault.rest = text.drop fault.offset ∧
          ∀ (rule : Lexer.Rule) (n : Nat), (text.drop fault.offset).take n ∉ rule.pattern) ∧
    ∃ result, Lexer.Reads 0 none text result ∧ (∀ other, Lexer.Reads 0 none text other → other = result) ∧
      tokenize text = result.map (· ++ [Token.endOfText text.length]) := by
  constructor
  · split
    · rename_i tokens read
      exact lossless_of_tokenize read
    · rename_i fault failed
      have lexed := Lexer.eq_error_of_map failed
      rw [lex_eq_scan] at lexed
      obtain ⟨n, lt, rfl, misses⟩ := (Lexer.reads_scan 0 none text).stuckAt fault lexed
      rw [Nat.zero_add]
      exact ⟨lt, rfl, misses⟩
  · refine ⟨Lexer.scan 0 none text, Lexer.reads_scan 0 none text, fun other reads => reads.eq_scan, ?_⟩
    rw [tokenize, lex_eq_scan]

end DesignLint
