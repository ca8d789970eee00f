import DesignLint.Proofs.Text.Lowered

/-! Strings read back from their bytes. The encoding of a character reads as that character, so the units of an encoded
string are its characters with their encodings, and different strings have different bytes. In any text, how many bytes
a character takes depends on those bytes alone. -/
namespace DesignLint.Bytes

theorem toNat_ofNat {n : Nat} (byte : n < 256) : (UInt8.ofNat n).toNat = n := UInt8.toNat_ofNat_of_lt' byte

theorem not_ascii {n : Nat} (high : 128 ≤ n) (byte : n < 256) : ¬UInt8.ofNat n < 0x80 := by
  rw [UInt8.lt_iff_toNat_lt, toNat_ofNat byte]
  exact Nat.not_lt.mpr high

theorem bits_ofNat {mask : UInt8} (k : Nat) (ones : mask.toNat = 2 ^ k - 1) {n : Nat} (byte : n < 256) :
    bits (UInt8.ofNat n) mask = n % 2 ^ k := by
  rw [bits_eq_mod k ones, toNat_ofNat byte]

theorem between_ofNat {low high : UInt8} {n : Nat} (byte : n < 256) :
    (low ≤ UInt8.ofNat n && UInt8.ofNat n ≤ high) = decide (low.toNat ≤ n ∧ n ≤ high.toNat) := by
  rw [Bool.eq_iff_iff, byte_between, decide_eq_true_iff, toNat_ofNat byte]

/-- What the first of two bytes asks of the second. -/
theorem ne_or_ofNat {first low : UInt8} {n m : Nat} (byte : n < 256) (byte' : m < 256) :
    (UInt8.ofNat n != first || low ≤ UInt8.ofNat m) = true ↔ n ≠ first.toNat ∨ low.toNat ≤ m := by
  rw [Bool.or_eq_true, bne_iff_ne, decide_eq_true_iff, UInt8.le_iff_toNat_le, toNat_ofNat byte', Ne, ← UInt8.toNat_inj,
    toNat_ofNat byte]

theorem ne_or_ofNat_le {first high : UInt8} {n m : Nat} (byte : n < 256) (byte' : m < 256) :
    (UInt8.ofNat n != first || UInt8.ofNat m ≤ high) = true ↔ n ≠ first.toNat ∨ m ≤ high.toNat := by
  rw [Bool.or_eq_true, bne_iff_ne, decide_eq_true_iff, UInt8.le_iff_toNat_le, toNat_ofNat byte', Ne, ← UInt8.toNat_inj,
    toNat_ofNat byte]

theorem bits_continuation {x : Nat} (lt : x < 64) : bits (UInt8.ofNat (x + 128)) 0x3F = x := by
  rw [bits_ofNat 6 rfl (by omega)]
  omega

theorem continues_continuation {x : Nat} (lt : x < 64) : continues (UInt8.ofNat (x + 128)) = true := by
  rw [continues_iff, toNat_ofNat (by omega)]
  omega

/-- A character of two bytes. -/
theorem head_two {v : Nat} (low : 128 ≤ v) (high : v ≤ 2047) (rest : Bytes) :
    head (UInt8.ofNat (v / 64 % 32 + 192)) (UInt8.ofNat (v % 64 + 128) :: rest) = (Char.ofNat v, 1) := by
  have whole : v / 64 % 32 * 64 + v % 64 = v := by omega
  have digit : v / 64 % 32 < 32 := Nat.mod_lt _ (by decide)
  have inside : v % 64 < 64 := Nat.mod_lt _ (by decide)
  generalize v / 64 % 32 = x, v % 64 = y at *
  subst whole
  have byte : x + 192 < 256 := Nat.lt_trans (Nat.add_lt_add_right digit 192) (by decide)
  have two : (0xC2 ≤ UInt8.ofNat (x + 192) && UInt8.ofNat (x + 192) ≤ 0xDF) = true :=
    (between_ofNat byte).trans (decide_eq_true (show 0xC2 ≤ x + 192 ∧ x + 192 ≤ 0xDF by omega))
  have value : bits (UInt8.ofNat (x + 192)) 0x1F = x :=
    (bits_ofNat 5 rfl byte).trans ((Nat.add_mul_mod_self_left x 32 6).trans (Nat.mod_eq_of_lt digit))
  simp only [head, if_neg (not_ascii (Nat.le_add_left_of_le (by decide)) byte), two, continues_continuation inside,
    Bool.and_self, if_true, value, bits_continuation inside]

/-- A character of three bytes, from what each of them holds. The values of surrogates are no characters. -/
theorem head_three_of {x y z : Nat} (inside : y < 64) (inside' : z < 64) (low : 2048 ≤ (x * 64 + y) * 64 + z)
    (high : (x * 64 + y) * 64 + z ≤ 65535) (valid : (x * 64 + y) * 64 + z < 0xD800 ∨ 0xDFFF < (x * 64 + y) * 64 + z)
    (rest : Bytes) :
    head (UInt8.ofNat (x + 224)) (UInt8.ofNat (y + 128) :: UInt8.ofNat (z + 128) :: rest) =
      (Char.ofNat ((x * 64 + y) * 64 + z), 2) := by
  have digit : x < 16 := by omega
  have lead : x + 224 ≤ 239 := Nat.add_le_add_right (Nat.le_of_lt_succ digit) 224
  have byte : x + 224 < 256 := Nat.lt_of_le_of_lt lead (by decide)
  have byte' : y + 128 < 256 := Nat.lt_trans (Nat.add_lt_add_right inside 128) (by decide)
  have two : (0xC2 ≤ UInt8.ofNat (x + 224) && UInt8.ofNat (x + 224) ≤ 0xDF) = false :=
    (between_ofNat byte).trans (decide_eq_false fun range => absurd range.2 (Nat.not_le.mpr (Nat.le_add_left 224 x)))
  have three : (0xE0 ≤ UInt8.ofNat (x + 224) && UInt8.ofNat (x + 224) ≤ 0xEF) = true :=
    (between_ofNat byte).trans (decide_eq_true ⟨Nat.le_add_left 224 x, lead⟩)
  have least : (UInt8.ofNat (x + 224) != 0xE0 || 0xA0 ≤ UInt8.ofNat (y + 128)) = true :=
    (ne_or_ofNat byte byte').mpr (show x + 224 ≠ 0xE0 ∨ 0xA0 ≤ y + 128 by omega)
  have greatest : (UInt8.ofNat (x + 224) != 0xED || UInt8.ofNat (y + 128) ≤ 0x9F) = true :=
    (ne_or_ofNat_le byte byte').mpr (show x + 224 ≠ 0xED ∨ y + 128 ≤ 0x9F by omega)
  have value : bits (UInt8.ofNat (x + 224)) 0x0F = x :=
    (bits_ofNat 4 rfl byte).trans ((Nat.add_mul_mod_self_left x 16 14).trans (Nat.mod_eq_of_lt digit))
  simp only [head, if_neg (not_ascii (Nat.le_add_left_of_le (by decide)) byte), two, three,
    continues_continuation inside, continues_continuation inside', Bool.and_self, Bool.false_and, Bool.false_eq_true,
    if_false, if_true, least, greatest, value, bits_continuation inside, bits_continuation inside']

theorem head_three {v : Nat} (low : 2048 ≤ v) (high : v ≤ 65535) (valid : v < 0xD800 ∨ 0xDFFF < v) (rest : Bytes) :
    head (UInt8.ofNat (v / 4096 % 16 + 224))
      (UInt8.ofNat (v / 64 % 64 + 128) :: UInt8.ofNat (v % 64 + 128) :: rest) = (Char.ofNat v, 2) := by
  have whole : (v / 4096 % 16 * 64 + v / 64 % 64) * 64 + v % 64 = v := by omega
  have inside : v / 64 % 64 < 64 := Nat.mod_lt _ (by decide)
  have inside' : v % 64 < 64 := Nat.mod_lt _ (by decide)
  generalize v / 4096 % 16 = x, v / 64 % 64 = y, v % 64 = z at *
  subst whole
  exact head_three_of inside inside' low high valid rest

/-- A character of four bytes, from what each of them holds. -/
theorem head_four_of {x y z u : Nat} (inside : y < 64) (inside' : z < 64) (inside'' : u < 64)
    (low : 65536 ≤ ((x * 64 + y) * 64 + z) * 64 + u) (high : ((x * 64 + y) * 64 + z) * 64 + u < 0x110000)
    (rest : Bytes) :
    head (UInt8.ofNat (x + 240)) (UInt8.ofNat (y + 128) :: UInt8.ofNat (z + 128) :: UInt8.ofNat (u + 128) :: rest) =
      (Char.ofNat (((x * 64 + y) * 64 + z) * 64 + u), 3) := by
  have digit : x ≤ 4 := by omega
  have lead : x + 240 ≤ 244 := Nat.add_le_add_right digit 240
  have byte : x + 240 < 256 := Nat.lt_of_le_of_lt lead (by decide)
  have byte' : y + 128 < 256 := Nat.lt_trans (Nat.add_lt_add_right inside 128) (by decide)
  have two : (0xC2 ≤ UInt8.ofNat (x + 240) && UInt8.ofNat (x + 240) ≤ 0xDF) = false :=
    (between_ofNat byte).trans (decide_eq_false fun range =>
      absurd (Nat.le_trans (Nat.le_add_left 240 x) range.2) (by decide))
  have three : (0xE0 ≤ UInt8.ofNat (x + 240) && UInt8.ofNat (x + 240) ≤ 0xEF) = false :=
    (between_ofNat byte).trans (decide_eq_false fun range => absurd range.2 (Nat.not_le.mpr (Nat.le_add_left 240 x)))
  have four : (0xF0 ≤ UInt8.ofNat (x + 240) && UInt8.ofNat (x + 240) ≤ 0xF4) = true :=
    (between_ofNat byte).trans (decide_eq_true ⟨Nat.le_add_left 240 x, lead⟩)
  have least : (UInt8.ofNat (x + 240) != 0xF0 || 0x90 ≤ UInt8.ofNat (y + 128)) = true :=
    (ne_or_ofNat byte byte').mpr (show x + 240 ≠ 0xF0 ∨ 0x90 ≤ y + 128 by omega)
  have greatest : (UInt8.ofNat (x + 240) != 0xF4 || UInt8.ofNat (y + 128) ≤ 0x8F) = true :=
    (ne_or_ofNat_le byte byte').mpr (show x + 240 ≠ 0xF4 ∨ y + 128 ≤ 0x8F by omega)
  have value : bits (UInt8.ofNat (x + 240)) 0x07 = x :=
    (bits_ofNat 3 rfl byte).trans
      ((Nat.add_mul_mod_self_left x 8 30).trans (Nat.mod_eq_of_lt (Nat.lt_of_le_of_lt digit (by decide))))
  simp only [head, if_neg (not_ascii (Nat.le_add_left_of_le (by decide)) byte), two, three, four,
    continues_continuation inside, continues_continuation inside', continues_continuation inside'', Bool.and_self,
    Bool.false_and, Bool.false_eq_true, if_false, if_true, least, greatest, value, bits_continuation inside,
    bits_continuation inside', bits_continuation inside'']

theorem head_four {v : Nat} (low : 65536 ≤ v) (high : v < 0x110000) (rest : Bytes) :
    head (UInt8.ofNat (v / 262144 % 8 + 240)) (UInt8.ofNat (v / 4096 % 64 + 128) ::
      UInt8.ofNat (v / 64 % 64 + 128) :: UInt8.ofNat (v % 64 + 128) :: rest) = (Char.ofNat v, 3) := by
  have whole : ((v / 262144 % 8 * 64 + v / 4096 % 64) * 64 + v / 64 % 64) * 64 + v % 64 = v := by omega
  have inside : v / 4096 % 64 < 64 := Nat.mod_lt _ (by decide)
  have inside' : v / 64 % 64 < 64 := Nat.mod_lt _ (by decide)
  have inside'' : v % 64 < 64 := Nat.mod_lt _ (by decide)
  generalize v / 262144 % 8 = x, v / 4096 % 64 = y, v / 64 % 64 = z, v % 64 = u at *
  subst whole
  exact head_four_of inside inside' inside'' low high rest

/-- The first byte of an encoding leads to its character, whatever follows. It is the code of the character, or
greater than the codes of all characters of one byte. -/
theorem head_encode (c : Char) (rest : Bytes) : ∃ b more, String.utf8EncodeChar c = b :: more ∧
    head b (more ++ rest) = (c, more.length) ∧ (b.toNat = c.toNat ∨ 128 ≤ b.toNat) := by
  have char_eq : Char.ofNat c.val.toNat = c := Char.ofNat_toNat c
  have valid : c.val.toNat < 0xD800 ∨ 0xDFFF < c.val.toNat ∧ c.val.toNat < 0x110000 := c.valid
  have lead {n : Nat} (low : 128 ≤ n) (high : n < 256) : 128 ≤ (UInt8.ofNat n).toNat := by
    rwa [UInt8.toNat_ofNat_of_lt' high]
  rw [String.utf8EncodeChar]
  split
  · rename_i small
    have value : (UInt8.ofNat c.val.toNat).toNat = c.val.toNat :=
      UInt8.toNat_ofNat_of_lt' (Nat.lt_of_le_of_lt small (by decide))
    have ascii : UInt8.ofNat c.val.toNat < 0x80 :=
      UInt8.lt_iff_toNat_lt.mpr (by rw [value]; exact Nat.lt_succ_of_le small)
    exact ⟨_, [], rfl, by simp only [head, if_pos ascii, value, char_eq, List.length_nil], .inl value⟩
  split
  · have read := head_two (v := c.val.toNat) (by omega) (by omega) rest
    rw [char_eq] at read
    exact ⟨_, _, rfl, read, .inr (lead (by omega) (by omega))⟩
  split
  · have read := head_three (v := c.val.toNat) (by omega) (by omega) (by omega) rest
    rw [char_eq] at read
    exact ⟨_, _, rfl, read, .inr (lead (by omega) (by omega))⟩
  · have read := head_four (v := c.val.toNat) (by omega) (by omega) rest
    rw [char_eq] at read
    exact ⟨_, _, rfl, read, .inr (lead (by omega) (by omega))⟩

theorem units_encode (c : Char) (rest : Bytes) :
    units (String.utf8EncodeChar c ++ rest) = (c, String.utf8EncodeChar c) :: units rest := by
  obtain ⟨b, more, encoded, read, _⟩ := head_encode c rest
  rw [encoded, List.cons_append, units, read]
  simp only [List.take_left, List.drop_left]

/-- The bytes of a text that is written out, one character after the other. -/
theorem ofString_ofList (cs : List Char) : ofString (String.ofList cs) = ofChars cs := by
  rw [ofString, String.toUTF8, String.toByteArray_ofList, List.utf8Encode, List.toList_data_toByteArray, ofChars]

theorem ofString_eq (s : String) : ofString s = s.toList.flatMap String.utf8EncodeChar := by
  rw [← ofChars, ← ofString_ofList, String.ofList_toList]

theorem ofString_append (s s' : String) : ofString (s ++ s') = ofString s ++ ofString s' := by
  rw [ofString_eq, ofString_eq, ofString_eq, String.toList_append, List.flatMap_append]

/-- The units of an encoded string. -/
theorem units_ofString (s : String) : (ofString s).units = s.toList.map fun c => (c, String.utf8EncodeChar c) := by
  rw [ofString_eq]
  induction s.toList with
  | nil => simp [units]
  | cons c cs ih => rw [List.flatMap_cons, units_encode, ih, List.map_cons]

theorem chars_ofString (s : String) : (ofString s).chars = s.toList := by
  rw [chars, units_ofString, List.map_map]
  exact List.map_id _

theorem lower_ofString (s : String) : (ofString s).lower = lowerString s := by
  rw [lower, chars_ofString, lowerString]

theorem invalidByte?_encode (c : Char) : invalidByte? (c, String.utf8EncodeChar c) = none := by
  rw [String.utf8EncodeChar]
  split
  · rename_i small
    have other : (c == replacement) = false := by
      rw [beq_eq_false_iff_ne]
      rintro rfl
      exact absurd small (by decide)
    rw [invalidByte?, other]
    rfl
  split
  · rfl
  split <;> rfl

theorem isWellFormed_ofString (s : String) : (ofString s).isWellFormed = true := by
  rw [isWellFormed, units_ofString, List.all_map, List.all_eq_true]
  intro c _
  rw [Function.comp_apply, invalidByte?_encode]
  rfl

theorem decode_ofString (s : String) : (ofString s).decode = s := by
  rw [decode, chars_ofString, String.ofList_toList]

/-- A text that is not empty reads as one that is not. -/
theorem decode_ne_empty {text : Bytes} (filled : text ≠ []) : text.decode ≠ "" := by
  intro empty
  obtain ⟨b, rest, rfl⟩ := List.exists_cons_of_ne_nil filled
  have none_ : (chars (b :: rest)) = [] := by
    rw [← String.toList_ofList (l := chars (b :: rest)), show String.ofList _ = "" from empty]
    rfl
  simp [chars, units] at none_

theorem ofString_injective : Function.Injective ofString := by
  intro s s' same
  have chars_eq : s.toList = s'.toList := by rw [← chars_ofString, same, chars_ofString]
  exact String.toList_inj.mp chars_eq

theorem head_le (b : UInt8) (rest : Bytes) : (head b rest).2 ≤ rest.length := by
  unfold head
  repeat' split
  all_goals simp

/-- The bytes of a character are read the same alone and before a byte that does not go on with it. -/
theorem head_append {b c : UInt8} (outside : continues c = false) {word : Bytes}
    (whole : (head b word).2 = word.length) (rest : Bytes) : (head b (word ++ c :: rest)).2 = word.length := by
  by_cases low : b < 0x80
  · simp only [head, if_pos low] at whole ⊢
    exact whole
  rcases word with _ | ⟨d, _ | ⟨e, _ | ⟨f, word⟩⟩⟩
  · exact congrArg Prod.snd (head_of_not_continues low outside rest)
  all_goals
    simp only [head, if_neg low, List.nil_append, List.cons_append] at whole ⊢
    split at whole
    · rename_i two
      rw [if_pos two]
      exact whole
    rename_i two
    rw [if_neg two]
  · contradiction
  all_goals
    split at whole
    · rename_i three
      rw [if_pos three]
      exact whole
    rename_i three
    rw [if_neg three]
  · contradiction
  · split at whole
    · rename_i four
      rw [if_pos four]
      exact whole
    · contradiction

/-- Before a byte that does not go on with it, a character is read as it is read alone. -/
theorem head_append_of_not_continues {b c : UInt8} (outside : continues c = false) (word rest : Bytes) :
    head b (word ++ c :: rest) = head b word := by
  by_cases low : b < 0x80
  · simp only [head, if_pos low]
  rcases word with _ | ⟨d, _ | ⟨e, _ | ⟨f, word⟩⟩⟩
  all_goals
    simp only [head, if_neg low, List.nil_append, List.cons_append, outside, Bool.and_false, Bool.false_and,
      Bool.false_eq_true, if_false]
  · cases rest with
    | nil => rfl
    | cons d rest => cases rest <;> rfl
  · cases rest <;> rfl

theorem units_append {c : UInt8} (outside : continues c = false) (text rest : Bytes) :
    units (text ++ c :: rest) = units text ++ units (c :: rest) := by
  fun_induction units text with
  | case1 => rfl
  | case2 b word k taken read ih =>
    rw [List.cons_append, units, head_append_of_not_continues outside, read]
    have le : taken ≤ word.length := by simpa [read] using head_le b word
    simp only [List.take_append_of_le_length le, List.drop_append_of_le_length le, ih, List.cons_append]

theorem continues_of_ascii {c : UInt8} (ascii : c < 0x80) : continues c = false := by
  have small : c.toNat < 128 := UInt8.lt_iff_toNat_lt.mp ascii
  exact Bool.eq_false_iff.mpr fun inside => absurd (continues_iff.mp inside).1 (by omega)

/-- An ASCII byte stands for itself, and a text is read apart from what comes before and after it. -/
theorem chars_append {c : UInt8} (ascii : c < 0x80) (text rest : Bytes) :
    chars (text ++ c :: rest) = chars text ++ Char.ofNat c.toNat :: chars rest := by
  have outside : continues c = false := continues_of_ascii ascii
  have itself : head c rest = (Char.ofNat c.toNat, 0) := by simp only [head, if_pos ascii]
  rw [chars, units_append outside, units, itself, List.map_append]
  rfl

theorem byte_ofNat (b : UInt8) : UInt8.ofNat (Char.ofNat b.toNat).toNat = b := by
  rw [toNat_ofByte, UInt8.ofNat_toNat]

/-- What is no code of a character stands for zero. -/
theorem le_toNat_ofNat {n : Nat} (large : 128 ≤ n) (nonzero : Char.ofNat n ≠ Char.ofNat 0) :
    128 ≤ (Char.ofNat n).toNat := by
  by_cases valid : n.isValidChar
  · rw [Char.ofNat, dif_pos valid]
    exact large
  · refine absurd ?_ nonzero
    rw [Char.ofNat, dif_neg valid]
    rfl

/-- Where an ASCII character is read, other than zero, there is its byte. -/
theorem mem_of_mem_chars {c : Char} (ascii : c.toNat < 128) (nonzero : c ≠ Char.ofNat 0) {text : Bytes}
    (member : c ∈ chars text) : UInt8.ofNat c.toNat ∈ text := by
  rw [chars] at member
  fun_induction units text with
  | case1 => contradiction
  | case2 b rest d taken read ih =>
    rcases List.mem_cons.mp member with same | later
    · have first : (head b rest).1 = c := by rw [read]; exact same.symm
      by_cases low : b < 0x80
      · have itself : Char.ofNat b.toNat = c := by simpa only [head, if_pos low] using first
        rw [← itself, byte_ofNat]
        exact List.mem_cons_self
      · obtain ⟨n, large, code⟩ := head_high low rest
        rw [first] at code
        exact absurd ascii (Nat.not_lt.mpr (code ▸ le_toNat_ofNat large (code ▸ nonzero)))
    · exact List.mem_cons_of_mem _ (List.mem_of_mem_drop (ih later))

/-- A character is read from its own bytes alone. -/
theorem head_take (b : UInt8) (rest : Bytes) : (head b (rest.take (head b rest).2)).2 = (head b rest).2 := by
  have alone : (head b []).2 = 0 := by
    unfold head
    split <;> rfl
  by_cases low : b < 0x80
  · simp only [head, if_pos low]
  rcases rest with _ | ⟨d, rest⟩
  · rw [alone, List.take_nil, alone]
  by_cases two : (0xC2 ≤ b && b ≤ 0xDF && continues d) = true
  · simp only [head, if_neg low, if_pos two, List.take_succ_cons, List.take_zero]
  rcases rest with _ | ⟨e, rest⟩
  · simp only [head, if_neg low, if_neg two, List.take_zero]
  by_cases three : (0xE0 ≤ b && b ≤ 0xEF && continues d && continues e && (b != 0xE0 || 0xA0 ≤ d) &&
      (b != 0xED || d ≤ 0x9F)) = true
  · simp only [head, if_neg low, if_neg two, if_pos three, List.take_succ_cons, List.take_zero]
  rcases rest with _ | ⟨f, rest⟩
  · simp only [head, if_neg low, if_neg two, if_neg three, List.take_zero]
  by_cases four : (0xF0 ≤ b && b ≤ 0xF4 && continues d && continues e && continues f && (b != 0xF0 || 0x90 ≤ d) &&
      (b != 0xF4 || d ≤ 0x8F)) = true
  · simp only [head, if_neg low, if_neg two, if_neg three, if_pos four, List.take_succ_cons, List.take_zero]
  · simp only [head, if_neg low, if_neg two, if_neg three, if_neg four, List.take_zero]

/-! ### Characters of ASCII -/

section

variable {c : Char} {cs more : List Char} {text : Bytes}

/-- The bytes of characters of ASCII. -/
def ofAscii (cs : List Char) : Bytes := cs.map fun c => UInt8.ofNat c.toNat

theorem ofAscii_append (cs ds : List Char) : ofAscii (cs ++ ds) = ofAscii cs ++ ofAscii ds := List.map_append

theorem chars_append_byte (ascii : c.toNat < 128) (text rest : Bytes) :
    chars (text ++ UInt8.ofNat c.toNat :: rest) = chars text ++ c :: chars rest := by
  have value : (UInt8.ofNat c.toNat).toNat = c.toNat := toNat_ofNat (by omega)
  have byte : UInt8.ofNat c.toNat < 0x80 := UInt8.lt_iff_toNat_lt.mpr (by rw [value]; exact ascii)
  rw [chars_append byte, value, Char.ofNat_toNat]

theorem chars_cons_byte (ascii : c.toNat < 128) (rest : Bytes) : chars (UInt8.ofNat c.toNat :: rest) = c :: chars rest := by
  have none_ : chars [] = [] := by simp [chars, units]
  have alone := chars_append_byte ascii [] rest
  rwa [none_, List.nil_append, List.nil_append] at alone

theorem eq_of_chars_cons (ascii : c.toNat < 128) (nonzero : c ≠ Char.ofNat 0) (read : chars text = c :: more) :
    ∃ rest, text = UInt8.ofNat c.toNat :: rest ∧ chars rest = more := by
  cases text with
  | nil => simp [chars, units] at read
  | cons b text =>
    have first : (head b text).1 = c := by
      rw [chars, units] at read
      exact (List.cons.inj read).1
    by_cases low : b < 0x80
    · have same : Char.ofNat b.toNat = c := by simpa only [head, if_pos low] using first
      have byte : UInt8.ofNat c.toNat = b := by rw [← same, byte_ofNat]
      rw [← byte, chars_cons_byte ascii] at read
      exact ⟨text, by rw [byte], (List.cons.inj read).2⟩
    · obtain ⟨n, large, code⟩ := head_high low text
      rw [first] at code
      exact absurd ascii (Nat.not_lt.mpr (code ▸ le_toNat_ofNat large (code ▸ nonzero)))

/-- Characters of ASCII that are read at the start of a text are its first bytes. -/
theorem chars_eq_append (ascii : ∀ c ∈ cs, c.toNat < 128 ∧ c ≠ Char.ofNat 0) :
    chars text = cs ++ more ↔ ∃ rest, text = ofAscii cs ++ rest ∧ chars rest = more := by
  induction cs generalizing text with
  | nil => simp [ofAscii]
  | cons c cs ih =>
    obtain ⟨⟨low, nonzero⟩, ascii⟩ := List.forall_mem_cons.mp ascii
    constructor
    · intro read
      obtain ⟨behind, rfl, behind_eq⟩ := eq_of_chars_cons low nonzero read
      obtain ⟨rest, rfl, rest_eq⟩ := (ih ascii).mp behind_eq
      exact ⟨rest, rfl, rest_eq⟩
    · rintro ⟨rest, rfl, rfl⟩
      exact (chars_cons_byte low _).trans (congrArg _ ((ih ascii).mpr ⟨rest, rfl, rfl⟩))

theorem lowered_ofAscii (ascii : ∀ c ∈ cs, c.toNat < 128) : lowered (ofAscii cs) = ofAscii (cs.map Char.toLower) := by
  rw [lowered, ofAscii, ofAscii, List.map_map, List.map_map]
  refine List.map_congr_left fun c member => ?_
  have value : (UInt8.ofNat c.toNat).toNat = c.toNat := toNat_ofNat (Nat.lt_trans (ascii c member) (by decide))
  have small := toLower_ofByte (UInt8.ofNat c.toNat)
  rw [value, Char.ofNat_toNat] at small
  rw [Function.comp_apply, Function.comp_apply, ← small, byte_ofNat]

theorem encode_of_ascii {c : Char} (ascii : c.toNat < 128) : String.utf8EncodeChar c = [UInt8.ofNat c.toNat] := by
  have code : c.val.toNat = c.toNat := rfl
  rw [String.utf8EncodeChar, if_pos (by omega), code]

theorem ofString_of_ascii {s : String} (ascii : ∀ c ∈ s.toList, c.toNat < 128) : ofString s = ofAscii s.toList := by
  rw [ofString_eq]
  generalize s.toList = cs at ascii
  induction cs with
  | nil => rfl
  | cons c cs ih =>
    obtain ⟨low, ascii⟩ := List.forall_mem_cons.mp ascii
    rw [List.flatMap_cons, encode_of_ascii low, ih ascii]
    rfl

theorem exists_ofAscii (text : Bytes) : ∃ cs, text = ofAscii cs ∧ cs = text.map fun b => Char.ofNat b.toNat := by
  refine ⟨_, ?_, rfl⟩
  rw [ofAscii, List.map_map]
  exact (List.map_id'' byte_ofNat text).symm

theorem chars_append_ofAscii (ascii : ∀ d ∈ c :: cs, d.toNat < 128 ∧ d ≠ Char.ofNat 0)
    (text rest : Bytes) : chars (text ++ (ofAscii (c :: cs) ++ rest)) = chars text ++ (c :: cs ++ chars rest) := by
  obtain ⟨⟨low, _⟩, ascii⟩ := List.forall_mem_cons.mp ascii
  have first : ofAscii (c :: cs) ++ rest = UInt8.ofNat c.toNat :: (ofAscii cs ++ rest) := rfl
  rw [first, chars_append_byte low, (chars_eq_append ascii).mpr ⟨rest, rfl, rfl⟩]
  rfl

theorem occursIn_append (front part behind : Bytes) : occursIn part (front ++ (part ++ behind)) = true := by
  induction front with
  | nil =>
    rw [List.nil_append]
    cases found : part ++ behind with
    | nil =>
      rw [(List.append_eq_nil_iff.mp found).1]
      rfl
    | cons b rest =>
      rw [occursIn, ← found, List.isPrefixOf_iff_prefix.mpr (List.prefix_append _ _), Bool.true_or]
  | cons b front ih => rw [List.cons_append, occursIn, ih, Bool.or_true]

end
end DesignLint.Bytes
