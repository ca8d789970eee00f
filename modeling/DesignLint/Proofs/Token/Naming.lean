import DesignLint.Proofs.Token.Lossless
import DesignLint.Proofs.Text.Lowered

/-! How messages name tokens. A message that ends in `found` and the name of a token tells which name that is: a quoted text
is escaped, so that behind a blank it can begin at one place only, and the end of the file is not quoted. -/
namespace DesignLint

namespace Quoted

/-- Every quote stands behind a backslash. -/
def Escaped (cs : List Char) : Prop := ∀ front back, cs = front ++ '"' :: back → front.getLast? = some '\\'

theorem Escaped.of_not_mem {cs : List Char} (free : '"' ∉ cs) : Escaped cs := by
  rintro front back rfl
  exact absurd (List.mem_append_right _ List.mem_cons_self) free

theorem Escaped.append {cs ds : List Char} (first : Escaped cs) (second : Escaped ds) : Escaped (cs ++ ds) := by
  intro front back same
  rcases List.append_eq_append_iff.mp same with ⟨more, rfl, split⟩ | ⟨more, rfl, split⟩
  · rw [List.getLast?_append, second more back split, Option.some_or]
  · cases more with
    | nil =>
      have here := second [] back split.symm
      contradiction
    | cons c more =>
      obtain ⟨rfl, _⟩ := List.cons.inj split
      exact first front more rfl

theorem Escaped.flatMap {α : Type} {f : α → List Char} (each : ∀ a, Escaped (f a)) (as : List α) :
    Escaped (as.flatMap f) := by
  induction as with
  | nil => exact .of_not_mem (by simp)
  | cons a as ih => exact (each a).append ih

theorem mem_toDigits_sixteen {n : Nat} {c : Char} (member : c ∈ Nat.toDigits 16 n) : ∃ k < 16, c = Nat.digitChar k := by
  induction n using Nat.strongRecOn with
  | ind n ih =>
    rw [Nat.toDigits_eq_if (by decide)] at member
    split at member
    · rename_i small
      exact ⟨n, small, List.mem_singleton.mp member⟩
    · rcases List.mem_append.mp member with earlier | last
      · exact ih (n / 16) (by omega) earlier
      · exact ⟨n % 16, Nat.mod_lt _ (by decide), List.mem_singleton.mp last⟩

theorem quote_not_mem_hex (width n : Nat) : '"' ∉ hex width n := by
  intro member
  rcases List.mem_append.mp member with zero | digit
  · have same := List.eq_of_mem_replicate zero
    contradiction
  · obtain ⟨k, small, same⟩ := mem_toDigits_sixteen digit
    revert same
    exact (by decide : ∀ k < 16, '"' ≠ Nat.digitChar k) k small

theorem escapeChar_escaped (c : Char) : Escaped (escapeChar c) := by
  rw [escapeChar]
  split
  · rename_i special
    rintro front back same
    rcases front with _ | ⟨first, front⟩
    · cases same
    obtain ⟨rfl, rest⟩ := List.cons.inj same
    rcases front with _ | ⟨second, front⟩
    · rfl
    · simp at rest
  · rename_i plain
    have other : c ≠ '"' := by
      rintro rfl
      exact plain rfl
    split
    · exact .of_not_mem (by simpa using other.symm)
    · have escape (width n : Nat) (kind : Char) (known : kind ≠ '"') : Escaped ('\\' :: kind :: hex width n) :=
        .of_not_mem (by simp [known.symm, quote_not_mem_hex])
      split <;> try exact .of_not_mem (by decide)
      split
      · exact escape 2 _ _ (by decide)
      split
      · exact escape 4 _ _ (by decide)
      · exact escape 8 _ _ (by decide)

theorem escapeUnit_escaped (unit : Char × Bytes) : Escaped (escapeUnit unit) := by
  rw [escapeUnit]
  split
  · exact .of_not_mem (by simp [quote_not_mem_hex])
  · exact escapeChar_escaped _

/-- Behind a blank a quoted text begins at one place only. -/
theorem quoted_unique {front front' inner inner' : List Char} (escaped : Escaped inner) (escaped' : Escaped inner')
    (same : front ++ (' ' :: '"' :: inner ++ ['"']) = front' ++ (' ' :: '"' :: inner' ++ ['"'])) :
    front = front' ∧ inner = inner' := by
  -- the quote that opens the shorter text would stand behind a blank in the longer one
  have apart {inner inner' more : List Char} (escaped : Escaped inner)
      (split : ' ' :: '"' :: inner = more ++ ' ' :: '"' :: inner') : more = [] ∧ inner = inner' := by
    rcases more with _ | ⟨c, _ | ⟨d, more⟩⟩
    · simpa using split
    · simp at split
    · simp only [List.cons_append, List.cons.injEq] at split
      have last := escaped (more ++ [' ']) inner' (by simpa using split.2.2)
      simp at last
  have cut : front ++ ' ' :: '"' :: inner = front' ++ ' ' :: '"' :: inner' := by
    have closed : (front ++ ' ' :: '"' :: inner) ++ ['"'] = (front' ++ ' ' :: '"' :: inner') ++ ['"'] := by simpa using same
    exact List.append_cancel_right closed
  rcases List.append_eq_append_iff.mp cut with ⟨more, rfl, split⟩ | ⟨more, rfl, split⟩
  · obtain ⟨rfl, rfl⟩ := apart escaped split
    exact ⟨(List.append_nil _).symm, rfl⟩
  · obtain ⟨rfl, rfl⟩ := apart escaped' split
    exact ⟨List.append_nil _, rfl⟩

theorem getLast?_quoted (inner : List Char) : ('"' :: (inner ++ ['"'])).getLast? = some '"' := by
  rw [← List.cons_append, List.getLast?_append, List.getLast?_singleton, Option.some_or]

theorem quote_toList (text : Bytes) : ∃ inner, Escaped inner ∧ (quote text).toList = '"' :: inner ++ ['"'] :=
  ⟨_, .flatMap escapeUnit_escaped text.units, by rw [quote, String.toList_ofList]⟩

theorem quoteString_toList (s : String) : ∃ inner, Escaped inner ∧ (quoteString s).toList = '"' :: inner ++ ['"'] :=
  ⟨_, .flatMap escapeChar_escaped s.toList, by rw [quoteString, String.toList_ofList]⟩

end Quoted

namespace Token

open Quoted

/-- What a message says about a token that it found. -/
def found (t : Token) : Bytes := Bytes.ofString ("found " ++ t.describe)

theorem describe_cases (t : Token) : t.kind = .endOfText ∧ t.describe = "end of file" ∨
    t.kind ≠ .endOfText ∧ ∃ inner, Escaped inner ∧ t.describe.toList = '"' :: inner ++ ['"'] := by
  rw [describe]
  split
  · rename_i last
    exact .inl ⟨last, rfl⟩
  · rename_i other
    exact .inr ⟨other, quote_toList t.text⟩

/-- The message that the token is not what is expected. -/
def unlike (t : Token) (what : String) : Bytes := Bytes.ofString ("expected " ++ what ++ ", found " ++ t.describe)

variable {t u : Token} {lead lead' : Bytes}

theorem unlike_eq (t : Token) (what : String) :
    t.unlike what = Bytes.ofString ("expected " ++ what ++ ", ") ++ t.found := by
  simp only [unlike, found, Bytes.ofString_eq, String.toList_append, List.flatMap_append, List.append_assoc]
  rfl

theorem chars_found (lead : Bytes) (t : Token) :
    (lead ++ t.found).chars = lead.chars ++ "found".toList ++ ' ' :: t.describe.toList := by
  have starts : t.found = 102 :: Bytes.ofString ("ound " ++ t.describe) := by
    simp only [found, Bytes.ofString_eq, String.toList_append, List.flatMap_append]
    rfl
  rw [starts, Bytes.chars_append (by decide), Bytes.chars_ofString, String.toList_append]
  simp

/-- The end of a message tells which token it names. -/
theorem found_unique (same : lead ++ t.found = lead' ++ u.found) : t.describe = u.describe := by
  have written := congrArg Bytes.chars same
  rw [chars_found, chars_found] at written
  rcases t.describe_cases with ⟨_, plain⟩ | ⟨_, inner, escaped, quoted⟩ <;>
    rcases u.describe_cases with ⟨_, plain'⟩ | ⟨_, inner', escaped', quoted'⟩
  · rw [plain, plain']
  · have last := congrArg List.getLast? written
    simp [plain, quoted', getLast?_quoted] at last
  · have last := congrArg List.getLast? written
    simp [plain', quoted, getLast?_quoted] at last
  · rw [quoted, quoted'] at written
    rw [← String.toList_inj, quoted, quoted', (quoted_unique escaped escaped' written).2]

/-- The message of the lexer names no token. -/
theorem message_ne_found (fault : Lexer.Fault) : Bytes.ofString fault.message ≠ lead ++ t.found := by
  intro same
  obtain ⟨sample, message_eq⟩ : ∃ sample, fault.message = "invalid input text " ++ quoteString sample := ⟨_, rfl⟩
  obtain ⟨inner, escaped, quoted⟩ := quoteString_toList sample
  have written := congrArg Bytes.chars same
  rw [chars_found, Bytes.chars_ofString, message_eq, String.toList_append, quoted] at written
  rcases t.describe_cases with ⟨_, plain⟩ | ⟨_, inner', escaped', quoted'⟩
  · have last := congrArg List.getLast? written
    simp [plain, getLast?_quoted] at last
  · rw [quoted'] at written
    have split : "invalid input text".toList ++ (' ' :: '"' :: inner ++ ['"']) =
        lead.chars ++ "found".toList ++ (' ' :: '"' :: inner' ++ ['"']) := by simpa using written
    have last := congrArg List.getLast? (quoted_unique escaped escaped' split).1
    simp at last

theorem endOfText_of_describe (same : t.describe = u.describe) (last : u.kind = .endOfText) : t.kind = .endOfText := by
  rcases t.describe_cases with ⟨ends, _⟩ | ⟨_, inner, _, quoted⟩
  · exact ends
  · rw [same, describe, if_pos last] at quoted
    have first := congrArg List.head? quoted
    simp at first

theorem found_cases (t : Token) : t.found = Bytes.ofString "found end of file" ∨ t.found.getLast? = some 34 := by
  rcases t.describe_cases with ⟨_, plain⟩ | ⟨_, inner, _, quoted⟩
  · exact .inl (by rw [found, plain]; rfl)
  · refine .inr ?_
    rw [found, Bytes.ofString_eq, String.toList_append, quoted, List.flatMap_append, List.flatMap_append,
      ← List.append_assoc, List.getLast?_append]
    rfl

end Token

/-- A message that does not end in the name of a token that was found. -/
def Bytes.NamesNothing (message : Bytes) : Prop := ∀ (lead : Bytes) (t : Token), message ≠ lead ++ t.found

/-- Whether the last bytes of a message show that it names no token. -/
def Bytes.endsPlainly (message : Bytes) : Bool :=
  message.getLast? != some 34 && !(Bytes.ofString "found end of file").isSuffixOf message

theorem Bytes.namesNothing_of_endsPlainly {message : Bytes} (plain : message.endsPlainly = true) :
    message.NamesNothing := by
  rintro lead t rfl
  simp only [endsPlainly, Bool.and_eq_true, bne_iff_ne, Bool.not_eq_true', Bool.eq_false_iff] at plain
  rcases t.found_cases with ends | quoted
  · exact plain.2 (List.isSuffixOf_iff_suffix.mpr (ends ▸ List.suffix_append _ _))
  · exact plain.1 (by rw [List.getLast?_append, quoted, Option.some_or])

theorem Lexer.Fault.namesNothing (fault : Lexer.Fault) : (Bytes.ofString fault.message).NamesNothing :=
  fun _ _ => Token.message_ne_found fault

/-- An identifier ends in a backslash, or it holds no blanks and no quotes. -/
theorem Lexer.identifier_cases {word : Bytes} (member : word ∈ Rule.identifier.pattern) :
    word.getLast? = some 92 ∨ word ≠ [] ∧ 32 ∉ word ∧ 34 ∉ word := by
  rcases member with letters | extended
  · obtain ⟨b, rest, letter, more, rfl⟩ := mem_byte_mul.mp letters
    have each : ∀ c ∈ b :: rest, (isLetter c || isDigit c || isUnderscore c) = true :=
      List.forall_mem_cons.mpr ⟨by rw [letter, Bool.true_or, Bool.true_or], mem_star_byte.mp more⟩
    exact .inr ⟨List.cons_ne_nil _ _, fun blank => absurd (each 32 blank) (by decide),
      fun quote => absurd (each 34 quote) (by decide)⟩
  · obtain ⟨b, _, opens, inside, rfl⟩ := mem_byte_mul.mp extended
    obtain ⟨body, _, _, ⟨c, closes, rfl⟩, rfl⟩ := Language.mem_mul.mp inside
    refine .inl ?_
    rw [← List.cons_append, List.getLast?_append, List.getLast?_singleton, Option.some_or, of_decide_eq_true closes]

/-- The last blank of a text splits it at one place only. -/
theorem append_blank_inj {front back front' back' : Bytes} (free : 32 ∉ back) (free' : 32 ∉ back')
    (same : front ++ 32 :: back = front' ++ 32 :: back') : front = front' ∧ back = back' := by
  have apart {back back' more : Bytes} (free : 32 ∉ back) (split : 32 :: back = more ++ 32 :: back') :
      more = [] ∧ back = back' := by
    rcases more with _ | ⟨c, more⟩
    · simpa using split
    · obtain ⟨_, rfl⟩ := List.cons.inj split
      simp at free
  rcases List.append_eq_append_iff.mp same with ⟨more, rfl, split⟩ | ⟨more, rfl, split⟩
  · obtain ⟨rfl, rfl⟩ := apart free split
    exact ⟨(List.append_nil _).symm, rfl⟩
  · obtain ⟨rfl, rfl⟩ := apart free' split
    exact ⟨List.append_nil _, rfl⟩

/-- A message that ends in a blank and an identifier names no token, unless it goes like the end of the file. -/
theorem Bytes.namesNothing_of_identifier {front word : Bytes} (other : front.getLast? ≠ some 102)
    (member : word ∈ Lexer.Rule.identifier.pattern) : (front ++ 32 :: word).NamesNothing := by
  intro lead t same
  have last := congrArg List.getLast? same
  rw [List.getLast?_append, List.getLast?_append] at last
  rcases Lexer.identifier_cases member with extended | ⟨filled, blank, quote⟩
  · rw [List.getLast?_cons, extended] at last
    rcases t.found_cases with ends | quoted
    · have here : (Bytes.ofString "found end of file").getLast? = some 101 := by decide
      simp [ends, here] at last
    · simp [quoted] at last
  · rcases t.found_cases with ends | quoted
    · have split : Bytes.ofString "found end of file" = Bytes.ofString "found end of" ++ 32 :: Bytes.ofString "file" := by
        decide
      rw [ends, split, ← List.append_assoc] at same
      obtain ⟨rfl, _⟩ := append_blank_inj blank (by decide) same
      have here : (Bytes.ofString "found end of").getLast? = some 102 := by decide
      exact other (by rw [List.getLast?_append, here, Option.some_or])
    · obtain ⟨b, known⟩ := Option.ne_none_iff_exists'.mp (mt List.getLast?_eq_none_iff.mp filled)
      rw [List.getLast?_cons, known, quoted] at last
      obtain rfl : b = 34 := by simpa using last
      exact quote (List.mem_of_getLast? known)

end DesignLint
