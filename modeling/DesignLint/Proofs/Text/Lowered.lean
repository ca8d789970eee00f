import Mathlib.Algebra.Group.Nat.Defs
import DesignLint.Text.Case

/-! Texts without regard to the case of ASCII letters. Turning the capitals among the bytes of a text into small
letters does the same to its characters, one by one, so it changes neither the folded text nor the text in lower
case. -/
namespace DesignLint

/-- A byte, with a small letter for a capital of ASCII. -/
def lowerByte (b : UInt8) : UInt8 := if 65 ≤ b && b ≤ 90 then b + 32 else b

/-- What is checked for every number of a byte holds for every byte. -/
theorem forall_byte {p : UInt8 → Prop} (all : ∀ n < 256, p (UInt8.ofNat n)) (b : UInt8) : p b := by
  have here := all b.toNat b.toNat_lt
  rwa [UInt8.ofNat_toNat] at here

/-- Ranges of bytes are ranges of numbers. -/
theorem byte_between {low high b : UInt8} :
    (low ≤ b && b ≤ high) = true ↔ low.toNat ≤ b.toNat ∧ b.toNat ≤ high.toNat := by
  rw [Bool.and_eq_true, decide_eq_true_iff, decide_eq_true_iff, UInt8.le_iff_toNat_le, UInt8.le_iff_toNat_le]

theorem toNat_lowerByte (b : UInt8) :
    (lowerByte b).toNat = if 65 ≤ b.toNat ∧ b.toNat ≤ 90 then b.toNat + 32 else b.toNat := by
  have capital : (65 ≤ b && b ≤ 90) = true ↔ 65 ≤ b.toNat ∧ b.toNat ≤ 90 := byte_between
  rw [lowerByte]
  by_cases here : 65 ≤ b.toNat ∧ b.toNat ≤ 90
  · rw [if_pos (capital.mpr here), if_pos here, UInt8.toNat_add]
    exact Nat.mod_eq_of_lt (by change b.toNat + 32 < 256; omega)
  · rw [if_neg fun inside => here (capital.mp inside), if_neg here]

theorem lowerByte_lowerByte (b : UInt8) : lowerByte (lowerByte b) = lowerByte b := by
  rw [← UInt8.toNat_inj, toNat_lowerByte (lowerByte b), if_neg]
  rw [toNat_lowerByte]
  split <;> omega

theorem lowerByte_of_le {b : UInt8} (high : 0x80 ≤ b) : lowerByte b = b := by
  have number : 128 ≤ b.toNat := UInt8.le_iff_toNat_le.mp high
  rw [← UInt8.toNat_inj, toNat_lowerByte, if_neg (by omega)]

theorem lowerByte_lt_iff (b : UInt8) : lowerByte b < 0x80 ↔ b < 0x80 := by
  rw [UInt8.lt_iff_toNat_lt, UInt8.lt_iff_toNat_lt, toNat_lowerByte]
  change _ < 128 ↔ _ < 128
  split <;> omega

/-- What is the same for a capital and its small letter is not changed by small letters. -/
theorem eq_of_letters {α : Type} {p : UInt8 → α}
    (letters : ∀ n < 26, p (UInt8.ofNat (n + 97)) = p (UInt8.ofNat (n + 65))) (b : UInt8) : p (lowerByte b) = p b := by
  by_cases capital : 65 ≤ b.toNat ∧ b.toNat ≤ 90
  · have small : lowerByte b = UInt8.ofNat (b.toNat - 65 + 97) := by
      rw [← UInt8.toNat_inj, toNat_lowerByte, if_pos capital, UInt8.toNat_ofNat_of_lt' (by change _ < 256; omega)]
      omega
    rw [small, letters _ (by omega), Nat.sub_add_cancel capital.1, UInt8.ofNat_toNat]
  · have same : lowerByte b = b := by rw [← UInt8.toNat_inj, toNat_lowerByte, if_neg capital]
    rw [same]

/-- What is checked for every number below 128 holds for every ASCII character. -/
theorem forall_ascii {p : Char → Prop} (all : ∀ n < 128, p (Char.ofNat n)) {c : Char} (ascii : c.toNat < 128) :
    p c := by
  have here := all c.toNat ascii
  rwa [Char.ofNat_toNat] at here

theorem toNat_ofByte (b : UInt8) : (Char.ofNat b.toNat).toNat = b.toNat := by
  have valid : b.toNat.isValidChar := .inl (Nat.lt_trans b.toNat_lt (by decide))
  rw [Char.ofNat, dif_pos valid]
  rfl

theorem toLower_of_capital : ∀ n < 26, (Char.ofNat (n + 65)).toLower = Char.ofNat (n + 97) := by decide

theorem toLower_of_not_capital {c : Char} (other : ¬(65 ≤ c.toNat ∧ c.toNat ≤ 90)) : c.toLower = c := dif_neg other

theorem toLower_cases (c : Char) :
    c.toLower = c ∨ ∃ n < 26, c = Char.ofNat (n + 65) ∧ c.toLower = Char.ofNat (n + 97) := by
  by_cases capital : 65 ≤ c.toNat ∧ c.toNat ≤ 90
  · obtain ⟨n, code⟩ : ∃ n, n + 65 = c.toNat := ⟨_, Nat.sub_add_cancel capital.1⟩
    have self : c = Char.ofNat (n + 65) := by rw [code, Char.ofNat_toNat]
    exact .inr ⟨n, by omega, self, self ▸ toLower_of_capital n (by omega)⟩
  · exact .inl (toLower_of_not_capital capital)

/-- What is the same for a capital and its small letter is the same for a character and its lower case. -/
theorem apply_toLower {α : Type} {f : Char → α}
    (letters : ∀ n < 26, f (Char.ofNat (n + 97)) = f (Char.ofNat (n + 65))) (c : Char) : f c.toLower = f c := by
  rcases toLower_cases c with same | ⟨n, letter, capital, small⟩
  · rw [same]
  · rw [small, letters n letter, ← capital]

/-- Only a sign itself is turned into it, unless it is a small letter. -/
theorem eq_of_toLower_eq {c sign : Char} (other : ∀ n < 26, Char.ofNat (n + 97) ≠ sign) (low : c.toLower = sign) :
    c = sign := by
  rcases toLower_cases c with same | ⟨n, letter, _, small⟩
  · rw [← same, low]
  · exact absurd (small.symm.trans low) (other n letter)

theorem toLower_ofByte (b : UInt8) : Char.ofNat (lowerByte b).toNat = (Char.ofNat b.toNat).toLower := by
  rw [toNat_lowerByte]
  by_cases capital : 65 ≤ b.toNat ∧ b.toNat ≤ 90
  · obtain ⟨n, code⟩ : ∃ n, n + 65 = b.toNat := ⟨_, Nat.sub_add_cancel capital.1⟩
    rw [if_pos capital, ← code, toLower_of_capital n (by omega)]
  · rw [if_neg capital, toLower_of_not_capital (by rwa [toNat_ofByte])]

theorem toLower_of_le {c : Char} (high : 128 ≤ c.toNat) : c.toLower = c := toLower_of_not_capital (by omega)

theorem toLower_ofNat {n : Nat} (high : 128 ≤ n) : (Char.ofNat n).toLower = Char.ofNat n := by
  by_cases valid : n.isValidChar
  · refine toLower_of_le ?_
    rw [Char.ofNat, dif_pos valid]
    exact high
  · rw [Char.ofNat, dif_neg valid]
    rfl

/-- A run moves a code point that it holds by its distance. -/
theorem CaseTable.Run.of_image? {run : CaseTable.Run} {code image : Nat} (found : run.image? code = some image) :
    run.first ≤ code ∧ code ≤ run.last ∧ image = Int.toNat (code + run.shift) := by
  rw [image?] at found
  split at found
  · rename_i inside
    simp only [Bool.and_eq_true, decide_eq_true_eq] at inside
    exact ⟨inside.1.1, inside.1.2, (Option.some.inj found).symm⟩
  · contradiction

namespace Bytes

/-- The text with small letters for the capitals of ASCII. -/
def lowered (text : Bytes) : Bytes := text.map lowerByte

@[simp] theorem lowered_lowered (text : Bytes) : text.lowered.lowered = text.lowered := by
  simp [lowered, lowerByte_lowerByte]

@[simp] theorem length_lowered (text : Bytes) : text.lowered.length = text.length := List.length_map _

@[simp] theorem lowered_append (a b : Bytes) : lowered (a ++ b) = a.lowered ++ b.lowered := List.map_append

theorem continues_iff {b : UInt8} : continues b = true ↔ 0x80 ≤ b.toNat ∧ b.toNat ≤ 0xBF := byte_between

theorem continues_lowerByte (b : UInt8) : continues (lowerByte b) = continues b := by
  rw [Bool.eq_iff_iff, continues_iff, continues_iff, toNat_lowerByte]
  split <;> omega

theorem lowerByte_of_continues {b : UInt8} (inside : continues b = true) : lowerByte b = b :=
  lowerByte_of_le (UInt8.le_iff_toNat_le.mpr (continues_iff.1 inside).1)

/-- A mask of ones keeps the number up to a power of two. -/
theorem bits_eq_mod {mask : UInt8} (k : Nat) (ones : mask.toNat = 2 ^ k - 1) (b : UInt8) :
    bits b mask = b.toNat % 2 ^ k := by
  rw [bits, UInt8.toNat_and, ones, Nat.and_two_pow_sub_one_eq_mod]

theorem le_bits_two {b : UInt8} (lead : (0xC2 ≤ b && b ≤ 0xDF) = true) : 2 ≤ bits b 0x1F := by
  have between : 0xC2 ≤ b.toNat ∧ b.toNat ≤ 0xDF := byte_between.mp lead
  rw [bits_eq_mod 5 rfl]
  omega

/-- Either the lead byte of three carries something, or the byte after it does. -/
theorem le_bits_three {b c : UInt8} (lead : (0xE0 ≤ b && b ≤ 0xEF) = true) (inside : continues c = true)
    (long : (b != 0xE0 || 0xA0 ≤ c) = true) : 1 ≤ bits b 0x0F ∨ 32 ≤ bits c 0x3F := by
  have between : 0xE0 ≤ b.toNat ∧ b.toNat ≤ 0xEF := byte_between.mp lead
  have second := continues_iff.1 inside
  have least : b.toNat ≠ 0xE0 ∨ 0xA0 ≤ c.toNat := by
    simpa [← UInt8.toNat_inj, UInt8.le_iff_toNat_le] using long
  rw [bits_eq_mod 4 rfl, bits_eq_mod 6 rfl]
  omega

/-- Either the lead byte of four carries something, or the byte after it does. -/
theorem le_bits_four {b c : UInt8} (lead : (0xF0 ≤ b && b ≤ 0xF4) = true) (inside : continues c = true)
    (long : (b != 0xF0 || 0x90 ≤ c) = true) : 1 ≤ bits b 0x07 ∨ 16 ≤ bits c 0x3F := by
  have between : 0xF0 ≤ b.toNat ∧ b.toNat ≤ 0xF4 := byte_between.mp lead
  have second := continues_iff.1 inside
  have least : b.toNat ≠ 0xF0 ∨ 0x90 ≤ c.toNat := by
    simpa [← UInt8.toNat_inj, UInt8.le_iff_toNat_le] using long
  rw [bits_eq_mod 3 rfl, bits_eq_mod 6 rfl]
  omega

/-- The codes of characters of more than one byte are beyond ASCII. -/
theorem head_high {b : UInt8} (high : ¬b < 0x80) (rest : Bytes) : ∃ n, 128 ≤ n ∧ (head b rest).1 = Char.ofNat n := by
  have invalid : ∃ n, 128 ≤ n ∧ replacement = Char.ofNat n := ⟨0xFFFD, by decide, rfl⟩
  simp only [head, if_neg high]
  split
  · exact invalid
  rename_i c rest
  split
  · rename_i two
    have large := le_bits_two (Bool.and_eq_true_iff.mp two).1
    exact ⟨_, by omega, rfl⟩
  split
  · exact invalid
  rename_i d rest
  split
  · rename_i three
    simp only [Bool.and_eq_true_iff] at three
    have large := le_bits_three (Bool.and_eq_true_iff.mpr three.1.1.1.1) three.1.1.1.2 three.1.2
    exact ⟨_, by omega, rfl⟩
  split
  · exact invalid
  split
  · rename_i four
    simp only [Bool.and_eq_true_iff] at four
    have large := le_bits_four (Bool.and_eq_true_iff.mpr four.1.1.1.1.1) four.1.1.1.1.2 four.1.2
    exact ⟨_, by omega, rfl⟩
  · exact invalid

/-- The characters of more than one byte have no ASCII letter among them. -/
theorem toLower_head {b : UInt8} (high : ¬b < 0x80) (rest : Bytes) : (head b rest).1.toLower = (head b rest).1 := by
  obtain ⟨n, large, read⟩ := head_high high rest
  rw [read, toLower_ofNat large]

theorem head_of_not_continues {b c : UInt8} (high : ¬b < 0x80) (outside : continues c = false) (rest : Bytes) :
    head b (c :: rest) = (replacement, 0) := by
  simp only [head, if_neg high, outside, Bool.and_false, Bool.false_and, Bool.false_eq_true, if_false]
  split
  · rfl
  split <;> rfl

theorem head_of_not_continues_second {b c d : UInt8} (high : ¬b < 0x80) (outside : continues d = false)
    (rest : Bytes) : head b (c :: d :: rest) = head b [c] := by
  simp only [head, if_neg high, outside, Bool.and_false, Bool.false_and, Bool.false_eq_true, if_false]
  split
  · rfl
  split <;> rfl

/-- Bytes that go on with a character are no letters, and no others are looked at. -/
theorem head_lowered_of_high {b : UInt8} (high : ¬b < 0x80) (rest : Bytes) : head b rest.lowered = head b rest := by
  rcases rest with _ | ⟨c, rest⟩
  · rfl
  cases inside : continues c with
  | false =>
    rw [head_of_not_continues high inside]
    exact head_of_not_continues high ((continues_lowerByte c).trans inside) _
  | true =>
    rcases rest with _ | ⟨d, rest⟩
    · simp only [lowered, List.map_cons, List.map_nil, lowerByte_of_continues inside]
    cases inside' : continues d with
    | false =>
      rw [head_of_not_continues_second high inside']
      simp only [lowered, List.map_cons, lowerByte_of_continues inside]
      exact head_of_not_continues_second high ((continues_lowerByte d).trans inside') _
    | true =>
      rcases rest with _ | ⟨e, rest⟩
      · simp only [lowered, List.map_cons, List.map_nil, lowerByte_of_continues inside, lowerByte_of_continues inside']
      cases last : continues e with
      | false =>
        simp only [head, lowered, List.map_cons, lowerByte_of_continues inside, lowerByte_of_continues inside',
          continues_lowerByte, last, Bool.and_false, Bool.false_and, Bool.false_eq_true, if_false]
      | true =>
        simp only [head, lowered, List.map_cons, lowerByte_of_continues inside, lowerByte_of_continues inside',
          lowerByte_of_continues last]

theorem head_lowered (b : UInt8) (rest : Bytes) :
    head (lowerByte b) rest.lowered = ((head b rest).1.toLower, (head b rest).2) := by
  by_cases ascii : b < 0x80
  · simp only [head, (lowerByte_lt_iff b).mpr ascii, ascii, if_true, toLower_ofByte b]
  · rw [lowerByte_of_le (UInt8.not_lt.mp ascii), head_lowered_of_high ascii, toLower_head ascii]

theorem units_lowered (text : Bytes) :
    text.lowered.units = text.units.map fun (c, bytes) => (c.toLower, bytes.lowered) := by
  fun_induction units text with
  | case1 => simp [lowered, units]
  | case2 b rest c taken found ih =>
    have same := head_lowered b rest
    rw [found] at same
    have first : lowered (b :: rest) = lowerByte b :: lowered rest := rfl
    rw [first, units, same]
    simp only [List.map_cons, ← ih]
    simp only [lowered, List.map_cons, List.map_take, List.map_drop]

@[simp] theorem chars_lowered (text : Bytes) : text.lowered.chars = text.chars.map Char.toLower := by
  simp [chars, units_lowered, Function.comp_def]

end Bytes

theorem lowerChar_toLower (c : Char) : lowerChar c.toLower = lowerChar c := apply_toLower (by decide) c

theorem foldChar_toLower (c : Char) : foldChar c.toLower = foldChar c := apply_toLower (by decide) c

@[simp] theorem Bytes.lower_lowered (text : Bytes) : text.lowered.lower = text.lower := by
  simp [lower, Function.comp_def, lowerChar_toLower]

@[simp] theorem Bytes.folded_lowered (text : Bytes) : text.lowered.folded = text.folded := by
  simp [folded, Function.comp_def, foldChar_toLower]

end DesignLint
