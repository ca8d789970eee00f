import DesignLint.Json.Reader
import DesignLint.Proofs.Json.Writing

/-! What is written is read back: objects of texts and zeros on one line, such as events, and all values over several
lines, such as configurations. A string ends at its first quote that is not escaped, and each escape and each encoded
character on the way reads as the character it was written for. A value ends where a comma or a line break follows, and
the blanks of a line break are passed over. -/
namespace DesignLint.Json

/-- The bytes of characters. -/
abbrev encoded (cs : List Char) : Bytes := cs.flatMap String.utf8EncodeChar

/-- How the escape of a character reads. -/
def readsAs (n : Nat) : Bytes → Bool
  | [92, e] => e != 117 && simpleEscape? e == some (Char.ofNat n)
  | [92, 117, a, b, c, d] => unit16? [a, b, c, d] == some (n, []) && !(0xD800 ≤ n && n ≤ 0xDFFF)
  | _ => false

theorem escape_readsAs : ∀ n ∈ escapedCodes, readsAs n (encoded (escapeChar (Char.ofNat n))) = true := by
  decide

theorem unit16?_append {a b c d : UInt8} {n : Nat} (read : unit16? [a, b, c, d] = some (n, [])) (rest : Bytes) :
    unit16? (a :: b :: c :: d :: rest) = some (n, rest) := by
  simp only [unit16?, Option.bind_eq_bind, Option.bind_eq_some_iff, Option.pure_def, Option.some.injEq,
    Prod.mk.injEq, and_true] at read ⊢
  exact read

theorem stringBody?_escaped {c : Char} (escaped : isEscaped c = true) (fuel : Nat) (taken : List Char) (rest : Bytes) :
    stringBody? (fuel + 1) taken (encoded (escapeChar c) ++ rest) = stringBody? fuel (c :: taken) rest := by
  have reads := escape_readsAs c.toNat (mem_escapedCodes escaped)
  rw [Char.ofNat_toNat] at reads
  generalize encoded (escapeChar c) = text at reads ⊢
  have quote : (92 : UInt8) = 34 ↔ False := by decide
  have printed : (92 : UInt8) < 32 ↔ False := by decide
  rw [readsAs.eq_def] at reads
  split at reads
  · rw [Bool.and_eq_true, bne_iff_ne, beq_iff_eq, Char.ofNat_toNat] at reads
    obtain ⟨simple, char⟩ := reads
    rw [List.cons_append, List.cons_append, List.nil_append, stringBody?]
    · simp only [quote, printed, if_false, if_true, char]
      rfl
    · exact simple
  · rw [Bool.and_eq_true, beq_iff_eq, Bool.not_eq_true'] at reads
    obtain ⟨unit, single⟩ := reads
    simp only [List.cons_append, List.nil_append, stringBody?, quote, printed, if_false, if_true]
    rw [unicodeEscape?, unit16?_append unit]
    simp only [Option.bind_eq_bind, Option.bind_some, single, Bool.false_eq_true, if_false, Option.pure_def,
      Char.ofNat_toNat]
  · cases reads

theorem stringBody?_plain {c : Char} (plain : isEscaped c = false) (fuel : Nat) (taken : List Char) (rest : Bytes) :
    stringBody? (fuel + 1) taken (String.utf8EncodeChar c ++ rest) = stringBody? fuel (c :: taken) rest := by
  obtain ⟨b, more, encoding, read, value⟩ := Bytes.head_encode c rest
  simp only [isEscaped, Bool.or_eq_false_iff, decide_eq_false_iff_not] at plain
  obtain ⟨⟨⟨⟨⟨⟨⟨control, quote⟩, backslash⟩, _⟩, _⟩, _⟩, _⟩, _⟩ := plain
  have other {d : Char} (ascii : d.toNat < 128) (apart : c ≠ d) : b.toNat ≠ d.toNat := by
    rcases value with same | large
    · rw [same]
      exact fun codes => apart (Char.toNat_inj.mp codes)
    · omega
  have noQuote : b ≠ 34 := fun same => other (d := '"') (by decide) quote (congrArg UInt8.toNat same)
  have noBackslash : b ≠ 92 := fun same => other (d := '\\') (by decide) backslash (congrArg UInt8.toNat same)
  have noControl : ¬b < 32 := by
    rw [UInt8.lt_iff_toNat_lt]
    have limit : (32 : UInt8).toNat = 32 := rfl
    omega
  rw [encoding, List.cons_append, stringBody?.eq_def]
  simp only [if_neg noQuote, if_neg noControl, if_neg noBackslash, Bytes.step, read, List.drop_left]

/-- The characters of a string and what follows its closing quote. -/
theorem stringBody?_written (cs : List Char) {fuel : Nat} (enough : cs.length < fuel) (taken : List Char) (rest : Bytes) :
    stringBody? fuel taken (encoded (cs.flatMap escapeChar) ++ 34 :: rest) = some (taken.reverse ++ cs, rest) := by
  induction cs generalizing fuel taken with
  | nil =>
    obtain ⟨fuel, rfl⟩ := Nat.exists_eq_succ_of_ne_zero (Nat.ne_of_gt enough)
    rw [List.flatMap_nil, List.append_nil]
    rfl
  | cons c cs ih =>
    obtain ⟨fuel, rfl⟩ := Nat.exists_eq_succ_of_ne_zero (Nat.ne_of_gt (Nat.zero_lt_of_lt enough))
    have rest_eq := ih (Nat.lt_of_succ_lt_succ enough) (c :: taken)
    rw [List.reverse_cons, List.append_assoc, List.singleton_append] at rest_eq
    rw [List.flatMap_cons, encoded, List.flatMap_append, List.append_assoc, ← rest_eq]
    cases escaped : isEscaped c with
    | true => exact stringBody?_escaped escaped ..
    | false =>
      rw [escapeChar_of_plain escaped, List.flatMap_singleton]
      exact stringBody?_plain escaped ..

theorem length_le_written (cs : List Char) : cs.length ≤ (encoded (cs.flatMap escapeChar)).length := by
  induction cs with
  | nil => exact Nat.le_refl 0
  | cons c cs ih =>
    obtain ⟨first, more, escape, _⟩ := escapeChar_eq_cons c
    obtain ⟨b, bytes, encoding, _⟩ := Bytes.head_encode first []
    rw [List.flatMap_cons, escape, List.cons_append, encoded, List.flatMap_cons, encoding, List.flatMap_append]
    simp only [List.length_cons, List.length_append, List.cons_append]
    simp only [encoded] at ih
    omega

theorem stringAfterQuote?_written (cs : List Char) (rest : Bytes) :
    stringAfterQuote? (encoded (cs.flatMap escapeChar) ++ 34 :: rest) = some (cs, rest) := by
  have shorter := length_le_written cs
  refine stringBody?_written cs ?_ [] rest
  rw [List.length_append]
  omega

theorem encoded_quoteName (s : String) (rest : Bytes) :
    encoded (quoteName s).toList ++ rest = 34 :: (encoded (s.toList.flatMap escapeChar) ++ 34 :: rest) := by
  rw [quoteName, String.toList_ofList, encoded, List.cons_append, List.flatMap_cons, List.flatMap_append,
    List.append_assoc, List.append_assoc]
  rfl

/-- The values of the members of events. -/
inductive Flat : Json → Prop
  | text (s : String) : Flat (.ofString s)
  | zero : Flat (.ofNat 0)

/-- What follows a member of an object. -/
def Follows (b : UInt8) : Prop := b = 44 ∨ b = 125

theorem Flat.readValue?_written {value : Json} (flat : value.Flat) (fuel : Nat) {b : UInt8} (follows : Follows b)
    (rest : Bytes) :
    readValue? (fuel + 1) (encoded value.compact.toList ++ b :: rest) = some (value, b :: rest) := by
  cases flat with
  | text s =>
    rw [compact_ofString, encoded_quoteName, readValue?_string, stringAfterQuote?_written, Option.map_some, Bytes.ofChars,
      ← Bytes.ofString_eq]
    rfl
  | zero =>
    have literal : (ofNat 0).compact = "0" := rfl
    have digit : Bytes.decode [48] = "0" := by
      have bytes : Bytes.ofString "0" = [48] := by decide
      rw [← bytes, Bytes.decode, Bytes.chars_ofString, String.ofList_toList]
    have number : numberLiteral? (48 :: b :: rest) = some (Bytes.decode [48], b :: rest) := by
      rcases follows with rfl | rfl <;> rfl
    have step : readValue? (fuel + 1) (48 :: b :: rest) =
        (numberLiteral? (48 :: b :: rest)).map fun found => (.number found.1, found.2) := rfl
    rw [literal]
    change readValue? (fuel + 1) (48 :: b :: rest) = _
    rw [step, number, digit]
    rfl

theorem readMembers?_first {m : String × Json} (flat : m.2.Flat) (fuel : Nat) (taken : List (String × Json)) {b : UInt8}
    (follows : Follows b) (rest : Bytes) :
    readMembers? (fuel + 2) taken (encoded (writtenMember m) ++ b :: rest) =
      if b = 44 then readMembers? (fuel + 1) (m :: taken) rest else some (.object (m :: taken).reverse, rest) := by
  have written : encoded (writtenMember m) ++ b :: rest = 34 :: (encoded (m.1.toList.flatMap escapeChar) ++
      34 :: 58 :: (encoded m.2.compact.toList ++ b :: rest)) := by
    rw [writtenMember, encoded, List.flatMap_append, List.append_assoc, List.flatMap_cons]
    exact encoded_quoteName ..
  rw [written, readMembers?_succ rfl (stringAfterQuote?_written ..) rfl (flat.readValue?_written fuel follows rest)]
  rcases follows with rfl | rfl
  · rfl
  · rfl

theorem readMembers?_written {m : String × Json} {others : List (String × Json)}
    (flat : ∀ m' ∈ m :: others, m'.2.Flat) (fuel : Nat) (enough : others.length + 2 ≤ fuel)
    (taken : List (String × Json)) (rest : Bytes) :
    readMembers? fuel taken
      (encoded ([','].intercalate ((m :: others).map writtenMember) ++ ['\x7d']) ++ rest) =
        some (.object (taken.reverse ++ m :: others), rest) := by
  induction others generalizing m fuel taken with
  | nil =>
    obtain ⟨fuel, rfl⟩ := Nat.exists_eq_add_of_le' enough
    rw [intercalate_cons_append, afterPart, encoded, List.flatMap_append, List.append_assoc]
    have first := readMembers?_first (flat m List.mem_cons_self) fuel taken (.inr rfl) rest
    rw [if_neg (by decide), List.reverse_cons] at first
    exact first
  | cons next others ih =>
    obtain ⟨fuel, rfl⟩ := Nat.exists_eq_add_of_le' enough
    have later := ih (fun m' member => flat m' (List.mem_cons_of_mem _ member)) (fuel + (others.length + 2))
      (Nat.le_add_left ..) (m :: taken)
    rw [List.reverse_cons, List.append_assoc, List.singleton_append] at later
    have first := readMembers?_first (flat m List.mem_cons_self) (fuel + (others.length + 1)) taken (.inl rfl)
      (encoded ([','].intercalate ((next :: others).map writtenMember) ++ ['\x7d']) ++ rest)
    rw [if_pos rfl] at first
    rw [intercalate_cons_append, afterPart, encoded, List.flatMap_append, List.append_assoc, ← later]
    exact first

theorem length_lt_members (m : String × Json) (others : List (String × Json)) :
    others.length < (encoded ([','].intercalate ((m :: others).map writtenMember) ++ ['\x7d'])).length := by
  induction others generalizing m with
  | nil =>
    rw [encoded, List.flatMap_append, List.length_append]
    exact Nat.lt_add_left _ (by decide)
  | cons next others ih =>
    have later := ih next
    rw [intercalate_cons_append, afterPart, encoded, List.flatMap_append, List.flatMap_cons]
    simp only [encoded, List.length_append, List.length_cons] at later ⊢
    have comma : (String.utf8EncodeChar ',').length = 1 := rfl
    omega

theorem readValue?_open (fuel : Nat) (text : Bytes) :
    readValue? (fuel + 1) (123 :: 34 :: text) = readMembers? fuel [] (34 :: text) := rfl

/-- What a text reads as that starts with an object. -/
theorem parse?_object {members : List (String × Json)} (some_ : members ≠ []) (flat : ∀ m ∈ members, m.2.Flat)
    {rest : Bytes} {value : Json} (read : parse? (encoded (object members).compact.toList ++ rest) = some value) :
    value = .object members := by
  obtain ⟨m, others, rfl⟩ := List.exists_cons_of_ne_nil some_
  have longer := length_lt_members m others
  have members (fuel : Nat) (enough : others.length + 2 ≤ fuel) := readMembers?_written flat fuel enough [] rest
  have opening : encoded (object (m :: others)).compact.toList =
      123 :: encoded ([','].intercalate ((m :: others).map writtenMember) ++ ['\x7d']) := by
    rw [compact_object]
    rfl
  have quoted : ∃ text, encoded ([','].intercalate ((m :: others).map writtenMember) ++ ['\x7d']) ++ rest = 34 :: text := by
    rw [intercalate_cons_append, writtenMember, encoded, List.append_assoc, List.flatMap_append, List.append_assoc]
    exact ⟨_, encoded_quoteName ..⟩
  rw [opening, List.cons_append, parse?] at read
  generalize encoded ([','].intercalate ((m :: others).map writtenMember) ++ ['\x7d']) = text at *
  have enough : others.length + 2 ≤ 2 * (123 :: (text ++ rest)).length + 1 := by
    rw [List.length_cons, List.length_append]
    omega
  have inside := members _ enough
  rw [List.reverse_nil, List.nil_append] at inside
  obtain ⟨more, start⟩ := quoted
  rw [start] at read inside
  rw [readValue?_open, inside] at read
  simp only [Option.ite_none_right_eq_some, Option.some.injEq] at read
  exact read.2.symm

/-! ### Values over several lines -/

/-- White space between the parts of a value. -/
def isSpace (b : UInt8) : Bool := b = 32 || b = 9 || b = 10 || b = 13

theorem skipBlanks_append {front : Bytes} (blank : ∀ b ∈ front, isSpace b = true) (text : Bytes) :
    skipBlanks (front ++ text) = skipBlanks text := List.dropWhile_append_of_pos blank

theorem skipBlanks_cons {b : UInt8} (solid : isSpace b = false) (text : Bytes) : skipBlanks (b :: text) = b :: text :=
  List.dropWhile_cons_of_neg (Bool.eq_false_iff.mp solid)

theorem readValue?_append {front : Bytes} (blank : ∀ b ∈ front, isSpace b = true) (fuel : Nat) (text : Bytes) :
    readValue? fuel (front ++ text) = readValue? fuel text := readValue?_congr (skipBlanks_append blank text) fuel

/-- The bytes of a line break. -/
abbrev breakBytes (depth : Nat) : Bytes := encoded (lineBreak depth).toList

theorem isSpace_of_mem_break (depth : Nat) : ∀ b ∈ breakBytes depth, isSpace b = true := by
  intro b member
  have each : ∀ c ∈ (lineBreak depth).toList, c = '\n' ∨ c = ' ' := by
    intro c inside
    simp only [lineBreak, String.toList_append, String.toList_ofList, List.mem_append, List.mem_replicate] at inside
    rcases inside with first | ⟨_, rfl⟩
    · exact .inl (by simpa using first)
    · exact .inr rfl
  obtain ⟨c, inside, encoding⟩ := List.mem_flatMap.mp member
  rcases each c inside with rfl | rfl
  · rw [List.mem_singleton.mp (show b ∈ [10] from encoding)]
    rfl
  · rw [List.mem_singleton.mp (show b ∈ [32] from encoding)]
    rfl

theorem breakBytes_eq_cons (depth : Nat) : ∃ more, breakBytes depth = 10 :: more := by
  have blanks : (String.ofList (List.replicate (2 * depth) ' ')).toList = List.replicate (2 * depth) ' ' :=
    String.toList_ofList
  refine ⟨encoded (List.replicate (2 * depth) ' '), ?_⟩
  rw [breakBytes, lineBreak, String.toList_append, blanks]
  rfl

/-- What follows a value: a comma, a line break, or nothing. -/
def Stops (rest : Bytes) : Prop := ∀ b ∈ rest.head?, b = 44 ∨ b = 10

theorem stops_break (depth : Nat) (rest : Bytes) : Stops (breakBytes depth ++ rest) := by
  obtain ⟨more, starts⟩ := breakBytes_eq_cons depth
  rw [starts]
  intro b member
  exact .inr (Option.some.inj member).symm

theorem stops_comma (rest : Bytes) : Stops (44 :: rest) := fun _ member => .inl (Option.some.inj member).symm

theorem toList_intercalate_cons (separator line : String) (lines : List String) :
    (separator.intercalate (line :: lines)).toList = line.toList ++ lines.flatMap fun l => separator.toList ++ l.toList := by
  rw [String.toList_intercalate, List.map_cons]
  induction lines generalizing line with
  | nil => simp
  | cons next lines ih => rw [List.map_cons, List.intercalate_cons_cons, ih]; simp

/-- The lines of a list that follow the first: each after a comma and a line break. -/
def laterLines (depth : Nat) (lines : List String) : Bytes :=
  lines.flatMap fun line => 44 :: (breakBytes depth ++ encoded line.toList)

theorem laterLines_cons (depth : Nat) (line : String) (lines : List String) :
    laterLines depth (line :: lines) = 44 :: (breakBytes depth ++ (encoded line.toList ++ laterLines depth lines)) := by
  simp only [laterLines, List.flatMap_cons, List.cons_append, List.append_assoc]

theorem encoded_bracketed (depth : Nat) (opening closing line : String) (lines : List String) :
    encoded (bracketed depth opening closing (line :: lines)).toList =
      encoded opening.toList ++ (breakBytes (depth + 1) ++ (encoded line.toList ++ (laterLines (depth + 1) lines ++
        (breakBytes depth ++ encoded closing.toList)))) := by
  have nonempty : (line :: lines).isEmpty = false := rfl
  have later : encoded (lines.flatMap fun l => ("," ++ lineBreak (depth + 1)).toList ++ l.toList) =
      laterLines (depth + 1) lines := by
    have comma : ",".toList.flatMap String.utf8EncodeChar = [44] := rfl
    simp only [laterLines, encoded, List.flatMap_assoc, List.flatMap_append, String.toList_append, comma, List.append_assoc,
      List.cons_append, List.nil_append]
  rw [bracketed, nonempty, if_neg (by decide)]
  simp only [String.toList_append, toList_intercalate_cons, encoded, List.flatMap_append, List.append_assoc] at later ⊢
  rw [later]

/-! ### Numbers -/

/-- A digit of a decimal number. -/
def isDigitByte (b : UInt8) : Bool := 48 ≤ b && b ≤ 57

theorem solid_of_isDigitByte {b : UInt8} (digit : isDigitByte b = true) : isSpace b = false := by
  rw [Bool.eq_false_iff]
  intro blank
  simp only [isSpace, Bool.or_eq_true, decide_eq_true_eq] at blank
  rcases blank with ((rfl | rfl) | rfl) | rfl <;> exact absurd digit (by decide)

theorem digitRun_append {digits rest : Bytes} (all : ∀ b ∈ digits, isDigitByte b = true)
    (stops : ∀ b ∈ rest.head?, isDigitByte b = false) : digitRun (digits ++ rest) = (digits, rest) := by
  have taken : rest.takeWhile isDigitByte = [] ∧ rest.dropWhile isDigitByte = rest := by
    cases rest with
    | nil => exact ⟨rfl, rfl⟩
    | cons b rest =>
      have other := Bool.eq_false_iff.mp (stops b rfl)
      exact ⟨List.takeWhile_cons_of_neg other, List.dropWhile_cons_of_neg other⟩
  change ((digits ++ rest).takeWhile isDigitByte, (digits ++ rest).dropWhile isDigitByte) = _
  rw [List.takeWhile_append_of_pos all, List.dropWhile_append_of_pos all, taken.1, taken.2, List.append_nil]

/-- A number that is not zero does not start with a zero. -/
theorem head_toDigits {n : Nat} (positive : n ≠ 0) : ∃ c more, Nat.toDigits 10 n = c :: more ∧ c ≠ '0' := by
  induction n using Nat.strongRecOn with
  | ind n ih =>
    rw [Nat.toDigits_eq_if (by decide)]
    split
    · exact ⟨_, [], rfl, Nat.digitChar_eq_zero.not.mpr positive⟩
    · obtain ⟨c, more, digits, other⟩ := ih (n / 10) (by omega) (by omega)
      exact ⟨c, more ++ [(n % 10).digitChar], by rw [digits, List.cons_append], other⟩

theorem isDigitByte_of_mem {n : Nat} : ∀ b ∈ encoded (Nat.toDigits 10 n), isDigitByte b = true := by
  intro b member
  obtain ⟨c, inside, encoding⟩ := List.mem_flatMap.mp member
  have digit : c.isDigit = true := Nat.isDigit_of_mem_toDigits (by decide) (by decide) inside
  have code : 48 ≤ c.toNat ∧ c.toNat ≤ 57 := by
    simpa [Char.isDigit, UInt32.le_iff_toNat_le] using digit
  rw [Bytes.encode_of_ascii (by omega), List.mem_singleton] at encoding
  rw [encoding, isDigitByte, Bytes.between_ofNat (by omega)]
  exact decide_eq_true code

theorem wholePart?_digits (n : Nat) {rest : Bytes} (stops : ∀ b ∈ rest.head?, isDigitByte b = false) :
    wholePart? (encoded (Nat.toDigits 10 n) ++ rest) = some (encoded (Nat.toDigits 10 n), rest) := by
  have run := digitRun_append (isDigitByte_of_mem (n := n)) stops
  by_cases zero : n = 0
  · subst zero
    rfl
  · obtain ⟨c, more, digits, other⟩ := head_toDigits zero
    obtain ⟨b, bytes, encoding, read, value⟩ := Bytes.head_encode c []
    rw [digits, encoded, List.flatMap_cons, encoding] at run ⊢
    have nonzero : b ≠ 48 := by
      rintro rfl
      rcases value with same | large
      · exact other (Char.toNat_inj.mp same.symm)
      · exact absurd large (by decide)
    rw [List.cons_append, List.cons_append, wholePart?]
    · simp only [List.cons_append] at run
      rw [run]
    · exact fun _ same => nonzero (List.cons.inj same).1

theorem numberFraction?_stops {rest : Bytes} (stops : Stops rest) : numberFraction? rest = some ([], rest) := by
  cases rest with
  | nil => rfl
  | cons b rest => rcases stops b rfl with rfl | rfl <;> rfl

theorem numberExponent?_stops {rest : Bytes} (stops : Stops rest) : numberExponent? rest = some ([], rest) := by
  cases rest with
  | nil => rfl
  | cons b rest => rcases stops b rfl with rfl | rfl <;> rfl

theorem numberLiteral?_written (n : Int) {rest : Bytes} (stops : Stops rest) :
    numberLiteral? (encoded (toString n).toList ++ rest) = some (toString n, rest) := by
  have literal : Bytes.decode (encoded (toString n).toList) = toString n := by
    rw [encoded, ← Bytes.ofString_eq, Bytes.decode_ofString]
  have noDigit : ∀ b ∈ rest.head?, isDigitByte b = false := by
    intro b member
    rcases stops b member with rfl | rfl <;> rfl
  cases n with
  | ofNat m =>
    have digits : (toString (Int.ofNat m)).toList = Nat.toDigits 10 m := Nat.toList_repr
    have whole := wholePart?_digits m noDigit
    rw [digits] at literal ⊢
    have unsigned : ∀ more, encoded (Nat.toDigits 10 m) ++ rest ≠ 45 :: more := by
      intro more same
      cases run : encoded (Nat.toDigits 10 m) with
      | nil =>
        rw [run, List.nil_append] at same
        rcases stops 45 (by rw [same]; rfl) with wrong | wrong <;> exact absurd wrong (by decide)
      | cons b bytes =>
        rw [run] at same
        have digit := isDigitByte_of_mem (n := m) b (by rw [run]; exact List.mem_cons_self)
        rw [(List.cons.inj same).1] at digit
        exact absurd digit (by decide)
    rw [numberLiteral?]
    · simp only [whole, numberFraction?_stops stops, numberExponent?_stops stops, Option.bind_eq_bind, Option.bind_some,
        List.append_nil, List.nil_append, literal, Option.pure_def]
    · exact unsigned
  | negSucc m =>
    have digits : (toString (Int.negSucc m)).toList = '-' :: Nat.toDigits 10 (m + 1) := by
      change ("-" ++ (m + 1).repr).toList = _
      rw [String.toList_append, Nat.toList_repr]
      rfl
    have whole := wholePart?_digits (m + 1) noDigit
    have signed : encoded ('-' :: Nat.toDigits 10 (m + 1)) = 45 :: encoded (Nat.toDigits 10 (m + 1)) := rfl
    rw [digits, signed] at literal ⊢
    rw [List.cons_append, numberLiteral?]
    simp only [whole, numberFraction?_stops stops, numberExponent?_stops stops, Option.bind_eq_bind, Option.bind_some,
      List.append_nil, List.cons_append, List.nil_append, literal, Option.pure_def]

/-! ### Lists and objects -/

/-- A member over several lines. -/
def memberLine (depth : Nat) (m : String × Json) : String := quoteName m.1 ++ ": " ++ m.2.indented depth

theorem encoded_memberLine (depth : Nat) (m : String × Json) (tail : Bytes) :
    encoded (memberLine depth m).toList ++ tail = 34 :: (encoded (m.1.toList.flatMap escapeChar) ++
      34 :: 58 :: 32 :: (encoded (m.2.indented depth).toList ++ tail)) := by
  have colon : ": ".toList = [':', ' '] := rfl
  rw [memberLine, String.toList_append, String.toList_append, encoded, List.flatMap_append, List.flatMap_append,
    List.append_assoc, List.append_assoc, colon]
  exact encoded_quoteName ..

theorem indented_array (depth : Nat) (items : List Json) :
    (array items).indented depth = bracketed depth "[" "]" (items.map (indented (depth + 1))) := by
  have each : indentedItems (depth + 1) items = items.map (indented (depth + 1)) := by
    induction items with
    | nil => simp only [indentedItems, List.map_nil]
    | cons item rest ih => simp only [indentedItems, List.map_cons, ih]
  rw [← each]
  rfl

theorem indented_object (depth : Nat) (members : List (String × Json)) :
    (object members).indented depth = bracketed depth "\x7b" "\x7d" (members.map (memberLine (depth + 1))) := by
  have each : indentedMembers (depth + 1) members = members.map (memberLine (depth + 1)) := by
    induction members with
    | nil => simp only [indentedMembers, List.map_nil]
    | cons m rest ih =>
      obtain ⟨name, value⟩ := m
      simp only [indentedMembers, List.map_cons, ih]
      rfl
  rw [← each]
  rfl

/-- What a reader of values does with a value over several lines. -/
def Reads (j : Json) : Prop := ∀ (depth fuel : Nat) (rest : Bytes), Stops rest →
  (encoded (j.indented depth).toList).length ≤ fuel →
    readValue? fuel (encoded (j.indented depth).toList ++ rest) = some (j, rest)

theorem skipBlanks_break (depth : Nat) (text : Bytes) : skipBlanks (breakBytes depth ++ text) = skipBlanks text :=
  skipBlanks_append (isSpace_of_mem_break depth) text

section

variable (depth fuel : Nat) {front tail : Bytes} (blank : ∀ b ∈ front, isSpace b = true) (stops : Stops tail)
include blank stops

theorem readItems?_first {item : Json} (reads : item.Reads) (taken : List Json)
    (enough : (encoded (item.indented depth).toList).length ≤ fuel) :
    readItems? (fuel + 1) taken (front ++ (encoded (item.indented depth).toList ++ tail)) =
      match skipBlanks tail with
      | 44 :: rest => readItems? fuel (item :: taken) rest
      | 93 :: rest => some (.array (item :: taken).reverse, rest)
      | _ => none := by
  refine readItems?_succ ?_ taken
  rw [readValue?_append blank, reads depth fuel tail stops enough]

theorem readMembers?_line {m : String × Json} (reads : m.2.Reads) (taken : List (String × Json))
    (enough : (encoded (memberLine depth m).toList).length ≤ fuel) :
    readMembers? (fuel + 1) taken (front ++ (encoded (memberLine depth m).toList ++ tail)) =
      match skipBlanks tail with
      | 44 :: rest => readMembers? fuel (m :: taken) rest
      | 125 :: rest => some (.object (m :: taken).reverse, rest)
      | _ => none := by
  have shorter : (encoded (m.2.indented depth).toList).length ≤ fuel := by
    have lengths := congrArg List.length (encoded_memberLine depth m [])
    simp only [List.length_append, List.length_cons, List.append_nil] at lengths
    omega
  have value := reads depth fuel tail stops shorter
  have space : readValue? fuel (32 :: (encoded (m.2.indented depth).toList ++ tail)) = some (m.2, tail) :=
    (readValue?_append (List.forall_mem_singleton.mpr rfl : ∀ b ∈ [32], isSpace b = true) fuel _).trans value
  rw [encoded_memberLine]
  exact readMembers?_succ (skipBlanks_append blank _) (stringAfterQuote?_written ..) rfl space taken

end

theorem readItems?_lines (depth : Nat) {item : Json} {others : List Json} (reads : ∀ j ∈ item :: others, j.Reads)
    {front : Bytes} (blank : ∀ b ∈ front, isSpace b = true) {fuel : Nat} (taken : List Json) (rest : Bytes)
    (enough : (encoded (item.indented (depth + 1)).toList).length +
      (laterLines (depth + 1) (others.map (indented (depth + 1)))).length < fuel) :
    readItems? fuel taken (front ++ (encoded (item.indented (depth + 1)).toList ++
      (laterLines (depth + 1) (others.map (indented (depth + 1))) ++ (breakBytes depth ++ 93 :: rest)))) =
        some (.array (taken.reverse ++ item :: others), rest) := by
  induction others generalizing item fuel taken front with
  | nil =>
    obtain ⟨fuel, rfl⟩ := Nat.exists_eq_succ_of_ne_zero (Nat.ne_of_gt (Nat.zero_lt_of_lt enough))
    have first := readItems?_first (depth + 1) fuel blank (stops_break depth (93 :: rest))
      (reads item List.mem_cons_self) taken (by omega)
    rw [skipBlanks_break, skipBlanks_cons rfl] at first
    rw [List.map_nil, laterLines, List.flatMap_nil, List.nil_append, first, List.reverse_cons]
    rfl
  | cons next others ih =>
    obtain ⟨fuel, rfl⟩ := Nat.exists_eq_succ_of_ne_zero (Nat.ne_of_gt (Nat.zero_lt_of_lt enough))
    simp only [List.map_cons, laterLines_cons, List.length_append, List.length_cons, List.cons_append,
      List.append_assoc] at enough ⊢
    have later := ih (fun j member => reads j (List.mem_cons_of_mem _ member)) (isSpace_of_mem_break (depth + 1))
      (item :: taken) (show _ < fuel by omega)
    rw [readItems?_first (depth + 1) fuel blank (stops_comma _) (reads item List.mem_cons_self) taken (by omega),
      skipBlanks_cons rfl]
    rw [List.reverse_cons, List.append_assoc, List.singleton_append] at later
    exact later

theorem readMembers?_lines (depth : Nat) {m : String × Json} {others : List (String × Json)}
    (reads : ∀ m' ∈ m :: others, m'.2.Reads) {front : Bytes} (blank : ∀ b ∈ front, isSpace b = true) {fuel : Nat}
    (taken : List (String × Json)) (rest : Bytes) (enough : (encoded (memberLine (depth + 1) m).toList).length +
      (laterLines (depth + 1) (others.map (memberLine (depth + 1)))).length < fuel) :
    readMembers? fuel taken (front ++ (encoded (memberLine (depth + 1) m).toList ++
      (laterLines (depth + 1) (others.map (memberLine (depth + 1))) ++ (breakBytes depth ++ 125 :: rest)))) =
        some (.object (taken.reverse ++ m :: others), rest) := by
  induction others generalizing m fuel taken front with
  | nil =>
    obtain ⟨fuel, rfl⟩ := Nat.exists_eq_succ_of_ne_zero (Nat.ne_of_gt (Nat.zero_lt_of_lt enough))
    have first := readMembers?_line (depth + 1) fuel blank (stops_break depth (125 :: rest))
      (reads m List.mem_cons_self) taken (by omega)
    rw [skipBlanks_break, skipBlanks_cons rfl] at first
    rw [List.map_nil, laterLines, List.flatMap_nil, List.nil_append, first, List.reverse_cons]
    rfl
  | cons next others ih =>
    obtain ⟨fuel, rfl⟩ := Nat.exists_eq_succ_of_ne_zero (Nat.ne_of_gt (Nat.zero_lt_of_lt enough))
    simp only [List.map_cons, laterLines_cons, List.length_append, List.length_cons, List.cons_append,
      List.append_assoc] at enough ⊢
    have later := ih (fun j member => reads j (List.mem_cons_of_mem _ member)) (isSpace_of_mem_break (depth + 1))
      (m :: taken) (show _ < fuel by omega)
    rw [readMembers?_line (depth + 1) fuel blank (stops_comma _) (reads m List.mem_cons_self) taken (by omega),
      skipBlanks_cons rfl]
    rw [List.reverse_cons, List.append_assoc, List.singleton_append] at later
    exact later

theorem indented_ofInt (depth : Nat) (n : Int) : (ofInt n).indented depth = toString n := rfl

theorem indented_ofString (depth : Nat) (s : String) : (ofString s).indented depth = quoteName s :=
  quoteText_ofString s

theorem encoded_null (depth : Nat) : encoded (null.indented depth).toList = [110, 117, 108, 108] := by
  change encoded "null".toList = _
  rfl

theorem encoded_true (depth : Nat) : encoded ((bool true).indented depth).toList = [116, 114, 117, 101] := by
  change encoded "true".toList = _
  rfl

theorem encoded_false (depth : Nat) : encoded ((bool false).indented depth).toList = [102, 97, 108, 115, 101] := by
  change encoded "false".toList = _
  rfl

theorem encoded_empty (depth : Nat) {opening closing : String} {bytes : Bytes}
    (both : encoded (opening ++ closing).toList = bytes) : encoded (bracketed depth opening closing []).toList = bytes := by
  rw [bracketed, if_pos (by decide), both]

/-- What a value starts with. -/
def isOpening (b : UInt8) : Bool := isDigitByte b || [34, 45, 91, 102, 110, 116, 123].contains b

theorem solid_of_isOpening {b : UInt8} (opening : isOpening b = true) : isSpace b = false ∧ b ≠ 93 := by
  rw [isOpening, Bool.or_eq_true, List.contains_iff_mem] at opening
  rcases opening with digit | listed
  · refine ⟨solid_of_isDigitByte digit, ?_⟩
    rintro rfl
    exact absurd digit (by decide)
  · have each : ([34, 45, 91, 102, 110, 116, 123] : List UInt8).all (fun b => !isSpace b && b != 93) = true := by decide
    simpa using List.all_eq_true.mp each b listed

theorem exists_head_number (n : Int) :
    ∃ b more, encoded (toString n).toList = b :: more ∧ (isDigitByte b = true ∨ b = 45) := by
  cases n with
  | ofNat m =>
    have digits : (toString (Int.ofNat m)).toList = Nat.toDigits 10 m := Nat.toList_repr
    obtain ⟨c, more, written⟩ := List.exists_cons_of_ne_nil (Nat.toDigits_ne_nil (b := 10) (n := m))
    obtain ⟨b, bytes, encoding, _⟩ := Bytes.head_encode c []
    have starts : encoded (Nat.toDigits 10 m) = b :: (bytes ++ encoded more) := by
      rw [written, encoded, List.flatMap_cons, encoding, List.cons_append]
    exact ⟨b, _, by rw [digits, starts], .inl (isDigitByte_of_mem b (by rw [starts]; exact List.mem_cons_self))⟩
  | negSucc m =>
    refine ⟨45, encoded (Nat.toDigits 10 (m + 1)), ?_, .inr rfl⟩
    change encoded ("-" ++ (m + 1).repr).toList = _
    rw [String.toList_append, Nat.toList_repr]
    rfl

theorem Plain.exists_opening {j : Json} (plain : j.Plain) (depth : Nat) :
    ∃ b more, encoded (j.indented depth).toList = b :: more ∧ isOpening b = true := by
  cases plain with
  | null => exact ⟨110, _, encoded_null depth, rfl⟩
  | bool value =>
    cases value with
    | true => exact ⟨116, _, encoded_true depth, rfl⟩
    | false => exact ⟨102, _, encoded_false depth, rfl⟩
  | int n =>
    obtain ⟨b, more, starts, number⟩ := exists_head_number n
    refine ⟨b, more, by rw [indented_ofInt, starts], ?_⟩
    rcases number with digit | rfl
    · rw [isOpening, digit, Bool.true_or]
    · rfl
  | text s =>
    have quoted := encoded_quoteName s []
    rw [List.append_nil] at quoted
    exact ⟨34, _, by rw [indented_ofString, quoted], rfl⟩
  | @array items each =>
    rw [indented_array]
    cases items with
    | nil => exact ⟨91, [93], encoded_empty depth rfl, rfl⟩
    | cons item others =>
      rw [List.map_cons, encoded_bracketed]
      exact ⟨91, _, rfl, rfl⟩
  | @object members each =>
    rw [indented_object]
    cases members with
    | nil => exact ⟨123, [125], encoded_empty depth rfl, rfl⟩
    | cons m others =>
      rw [List.map_cons, encoded_bracketed]
      exact ⟨123, _, rfl, rfl⟩

theorem readValue?_number {b : UInt8} (number : isDigitByte b = true ∨ b = 45) (fuel : Nat) (text : Bytes) :
    readValue? (fuel + 1) (b :: text) = (numberLiteral? (b :: text)).map fun found => (.number found.1, found.2) := by
  have signs : ([34, 91, 102, 110, 116, 123] : List UInt8).all (fun b => !isDigitByte b && b != 45) = true := by decide
  have other : isSpace b = false ∧ b ∉ ([34, 91, 102, 110, 116, 123] : List UInt8) := by
    rcases number with digit | rfl
    · exact ⟨solid_of_isDigitByte digit, fun listed => by simpa [digit] using List.all_eq_true.mp signs b listed⟩
    · exact ⟨rfl, by decide⟩
  rw [readValue?.eq_def]
  simp only [skipBlanks_cons other.1]
  split <;> first | rfl | (rename_i same; rw [(List.cons.inj same).1] at other; exact absurd other.2 (by decide))

theorem Plain.reads_of_succ {j : Json} (plain : j.Plain) (read : ∀ (depth fuel : Nat) (rest : Bytes), Stops rest →
    (encoded (j.indented depth).toList).length ≤ fuel + 1 →
      readValue? (fuel + 1) (encoded (j.indented depth).toList ++ rest) = some (j, rest)) : j.Reads := by
  intro depth fuel rest stops enough
  obtain ⟨b, more, starts, _⟩ := plain.exists_opening depth
  have positive : 0 < fuel := by
    rw [starts, List.length_cons] at enough
    omega
  obtain ⟨fuel, rfl⟩ := Nat.exists_eq_succ_of_ne_zero (Nat.ne_of_gt positive)
  exact read depth fuel rest stops enough

/-- What is written over several lines is read back. -/
theorem Plain.reads {j : Json} (plain : j.Plain) : j.Reads := by
  induction plain with
  | null =>
    refine Plain.null.reads_of_succ fun depth fuel rest stops enough => ?_
    rw [encoded_null]
    rfl
  | bool value =>
    refine (Plain.bool value).reads_of_succ fun depth fuel rest stops enough => ?_
    cases value with
    | true =>
      rw [encoded_true]
      rfl
    | false =>
      rw [encoded_false]
      rfl
  | int n =>
    refine (Plain.int n).reads_of_succ fun depth fuel rest stops enough => ?_
    obtain ⟨b, more, starts, number⟩ := exists_head_number n
    have literal := numberLiteral?_written n stops
    rw [indented_ofInt]
    rw [starts] at literal ⊢
    rw [List.cons_append, readValue?_number number, ← List.cons_append, literal]
    rfl
  | text s =>
    refine (Plain.text s).reads_of_succ fun depth fuel rest stops enough => ?_
    rw [indented_ofString, encoded_quoteName, readValue?_string, stringAfterQuote?_written, Option.map_some, Bytes.ofChars,
      ← Bytes.ofString_eq]
    rfl
  | @array items each ih =>
    refine (Plain.array each).reads_of_succ fun depth fuel rest stops enough => ?_
    rw [indented_array] at enough ⊢
    cases items with
    | nil =>
      have empty : encoded (bracketed depth "[" "]" []).toList = [91, 93] := encoded_empty depth rfl
      rw [List.map_nil, empty, List.cons_append, readValue?_array]
      rfl
    | cons item others =>
      have brackets : encoded "[".toList = [91] ∧ encoded "]".toList = [93] := ⟨rfl, rfl⟩
      rw [List.map_cons, encoded_bracketed, brackets.1, brackets.2] at enough ⊢
      obtain ⟨first, more, starts, opening⟩ := (each item List.mem_cons_self).exists_opening (depth + 1)
      have solid := solid_of_isOpening opening
      simp only [List.length_append, List.length_cons, List.length_nil] at enough
      have lines := readItems?_lines depth ih (List.forall_mem_nil fun b => isSpace b = true) [] rest
        (show _ < fuel by omega)
      simp only [List.append_assoc, List.cons_append, List.nil_append, readValue?_array,
        skipBlanks_append (isSpace_of_mem_break (depth + 1))]
      rw [starts, List.cons_append, List.nil_append] at lines
      rw [starts, List.cons_append, skipBlanks_cons solid.1]
      split
      · rename_i same
        exact absurd (List.cons.inj same).1 solid.2
      · exact lines
  | @object members each ih =>
    refine (Plain.object each).reads_of_succ fun depth fuel rest stops enough => ?_
    rw [indented_object] at enough ⊢
    cases members with
    | nil =>
      have empty : encoded (bracketed depth "\x7b" "\x7d" []).toList = [123, 125] :=
        encoded_empty depth rfl
      rw [List.map_nil, empty, List.cons_append, readValue?_object]
      rfl
    | cons m others =>
      have brackets : encoded "\x7b".toList = [123] ∧ encoded "\x7d".toList = [125] := ⟨rfl, rfl⟩
      rw [List.map_cons, encoded_bracketed, brackets.1, brackets.2] at enough ⊢
      simp only [List.length_append, List.length_cons, List.length_nil] at enough
      have lines := readMembers?_lines depth ih (List.forall_mem_nil fun b => isSpace b = true) [] rest
        (show _ < fuel by omega)
      simp only [List.append_assoc, List.cons_append, List.nil_append, readValue?_object,
        skipBlanks_append (isSpace_of_mem_break (depth + 1))]
      rw [encoded_memberLine, List.nil_append] at lines
      rw [encoded_memberLine, skipBlanks_cons rfl]
      exact lines

/-- The text of a value over several lines reads as the value. -/
theorem parse?_pretty {j : Json} (plain : j.Plain) (shallow : j.nestsWithin maxNesting = true) :
    parse? (Bytes.ofString j.pretty) = some j := by
  have stops : Stops [] := fun _ member => nomatch member
  have read := plain.reads 0 (2 * (Bytes.ofString j.pretty).length + 2) [] stops (by
    rw [encoded, ← Bytes.ofString_eq, ← pretty]
    omega)
  rw [List.append_nil, encoded, ← Bytes.ofString_eq, ← pretty] at read
  rw [parse?, read]
  simp only [shallow, Bool.and_true]
  rfl

/-! ### Depth -/

section Depth

variable {limit : Nat}

theorem nestsWithin_array {items : List Json} :
    (array items).nestsWithin (limit + 1) = true ↔ ∀ item ∈ items, item.nestsWithin limit = true := by
  have each : itemsNestWithin limit items = items.all (nestsWithin limit) := by
    induction items with
    | nil => rfl
    | cons item items ih => exact congrArg (item.nestsWithin limit && ·) ih
  change (decide (0 < limit + 1) && itemsNestWithin limit items) = true ↔ _
  rw [each, Bool.and_eq_true, List.all_eq_true]
  exact and_iff_right (decide_eq_true (Nat.succ_pos limit))

theorem nestsWithin_object {members : List (String × Json)} :
    (object members).nestsWithin (limit + 1) = true ↔ ∀ m ∈ members, m.2.nestsWithin limit = true := by
  have each : membersNestWithin limit members = members.all fun m => m.2.nestsWithin limit := by
    induction members with
    | nil => rfl
    | cons m members ih => exact congrArg (m.2.nestsWithin limit && ·) ih
  change (decide (0 < limit + 1) && membersNestWithin limit members) = true ↔ _
  rw [each, Bool.and_eq_true, List.all_eq_true]
  exact and_iff_right (decide_eq_true (Nat.succ_pos limit))

theorem nestsWithin_ofString (s : String) : (ofString s).nestsWithin limit = true := rfl

theorem nestsWithin_ofInt (n : Int) : (ofInt n).nestsWithin limit = true := rfl

theorem nestsWithin_bool (b : Bool) : (bool b).nestsWithin limit = true := rfl

theorem nestsWithin_ofStrings (texts : List String) : (ofStrings texts).nestsWithin (limit + 1) = true := by
  refine nestsWithin_array.2 fun item member => ?_
  obtain ⟨s, _, rfl⟩ := List.mem_map.mp member
  exact nestsWithin_ofString s


end Depth

end DesignLint.Json
