import DesignLint.Source.Coordinate
import Mathlib.Data.List.Basic
import Mathlib.Data.List.TakeWhile
import Mathlib.Data.Set.Function
import Mathlib.Order.Interval.Set.Defs

/-! Coordinates and back. The coordinate of an offset counts the line breaks before it and the bytes behind the last of
them; looking for that line and going as many bytes into it leads to the offset again. Both directions are followed
line by line: a text is one line, or a first line with a break and the lines of another text behind it. -/
namespace DesignLint

theorem Bytes.splitOn_eq (sep : UInt8) (text : Bytes) : splitOn sep text = List.splitOn sep text := by
  induction text with
  | nil => rfl
  | cons b rest ih =>
    rw [splitOn, ih, List.splitOn_cons_eq_if_modifyHead]
    cases split : List.splitOn sep rest with
    | nil => simp at split
    | cons piece pieces => by_cases same : b = sep <;> simp [same]

namespace Coordinate

variable {text line rest : Bytes} {offset : Nat} {c : Coordinate}

/-! ### Lines -/

/-- The bytes of a line of a text, without its break. -/
def lineText (text : Bytes) (number : Nat) : Bytes := (Bytes.splitOn newline text).getD number []

/-- A text consists of its first line or of its first line, a break and another text. -/
theorem byLines {motive : Bytes → Prop} (last : ∀ line, newline ∉ line → motive line)
    (more : ∀ line rest, newline ∉ line → motive rest → motive (line ++ newline :: rest)) (text : Bytes) : motive text := by
  -- The bytes of the first line that were passed already stand before the rest of the text.
  suffices ∀ passed : Bytes, newline ∉ passed → motive (passed ++ text) from this [] List.not_mem_nil
  induction text with
  | nil =>
    intro passed unbroken
    rw [List.append_nil]
    exact last passed unbroken
  | cons b text ih =>
    intro passed unbroken
    by_cases breaks : b = newline
    · subst breaks
      exact more passed text unbroken (ih [] List.not_mem_nil)
    · rw [List.append_cons]
      exact ih _ (by simp [unbroken, Ne.symm breaks])

theorem lineText_zero_last (unbroken : newline ∉ line) : lineText line 0 = line := by
  rw [lineText, Bytes.splitOn_eq, List.splitOn_eq_singleton unbroken, List.getD_cons_zero]

theorem lineText_zero_more (unbroken : newline ∉ line) (rest : Bytes) : lineText (line ++ newline :: rest) 0 = line := by
  rw [lineText, Bytes.splitOn_eq, List.splitOn_append_cons_self, List.splitOn_eq_singleton unbroken]
  rfl

theorem lineText_succ (unbroken : newline ∉ line) (rest : Bytes) (number : Nat) :
    lineText (line ++ newline :: rest) (number + 1) = lineText rest number := by
  simp only [lineText, Bytes.splitOn_eq, List.splitOn_append_cons_self, List.splitOn_eq_singleton unbroken]
  rfl

theorem count_more (unbroken : newline ∉ line) (rest : Bytes) :
    (line ++ newline :: rest).count newline = rest.count newline + 1 := by
  rw [List.count_append, List.count_eq_zero.mpr unbroken, List.count_cons_self, Nat.zero_add]

/-! ### From offsets to coordinates -/

theorem advance_unbroken (unbroken : newline ∉ line) (number character : Nat) :
    advance number character line = (number, character + line.length) := by
  induction line generalizing character with
  | nil => rfl
  | cons b line ih =>
    obtain ⟨other, unbroken⟩ := not_or.mp (List.mem_cons.not.mp unbroken)
    rw [advance, if_neg (Ne.symm other), ih unbroken, List.length_cons, Nat.add_right_comm, Nat.add_assoc]

/-- The lines that were counted before are added to those of the text. -/
theorem advance_succ_line (number character : Nat) (text : Bytes) :
    advance (number + 1) character text =
      ((advance number character text).1 + 1, (advance number character text).2) := by
  fun_induction advance number character text with
  | case1 => rfl
  | case2 number character rest ih => rw [advance, if_pos rfl, ih]
  | case3 number character b rest other ih => rw [advance, if_neg other, ih]

theorem ofOffset_first (unbroken : newline ∉ line) (inside : offset ≤ line.length) (behind : Bytes) :
    ofOffset (line ++ behind) offset = ⟨0, offset⟩ := by
  have passed : newline ∉ line.take offset := fun member => unbroken (List.mem_of_mem_take member)
  rw [ofOffset, List.take_append_of_le_length inside, advance_unbroken passed, List.length_take_of_le inside, Nat.zero_add]
  rfl

theorem ofOffset_last (unbroken : newline ∉ line) (inside : offset ≤ line.length) : ofOffset line offset = ⟨0, offset⟩ := by
  rw [← ofOffset_first unbroken inside [], List.append_nil]

theorem ofOffset_more (unbroken : newline ∉ line) (rest : Bytes) (offset : Nat) :
    ofOffset (line ++ newline :: rest) (line.length + 1 + offset) =
      ⟨(ofOffset rest offset).line + 1, (ofOffset rest offset).character⟩ := by
  have passed : (line ++ newline :: rest).take (line.length + 1 + offset) = line ++ newline :: rest.take offset := by
    rw [Nat.add_assoc, List.take_length_add_append, Nat.add_comm 1, List.take_succ_cons]
  rw [ofOffset, ofOffset, passed, advance_append, advance_unbroken unbroken, advance, if_pos rfl, advance_succ_line]
  rfl

/-! ### From coordinates to offsets -/

theorem other_of_mem (unbroken : newline ∉ line) : ∀ b ∈ line, decide (b ≠ newline) = true :=
  fun _ member => decide_eq_true (ne_of_mem_of_not_mem member unbroken)

theorem lineLength_last (unbroken : newline ∉ line) : lineLength line = line.length := by
  rw [lineLength, List.takeWhile_eq_self_iff.mpr (other_of_mem unbroken)]

theorem lineLength_more (unbroken : newline ∉ line) (rest : Bytes) : lineLength (line ++ newline :: rest) = line.length := by
  rw [lineLength, List.takeWhile_append_of_pos (other_of_mem unbroken), List.takeWhile_cons_of_neg (by simp), List.append_nil]

theorem fromLine?_last (unbroken : newline ∉ line) (number : Nat) : fromLine? line (number + 1) = none := by
  rw [fromLine?, List.dropWhile_eq_nil_iff.mpr (other_of_mem unbroken)]

theorem fromLine?_more (unbroken : newline ∉ line) (rest : Bytes) (number : Nat) :
    fromLine? (line ++ newline :: rest) (number + 1) = fromLine? rest number := by
  rw [fromLine?, List.dropWhile_append_of_pos (other_of_mem unbroken), List.dropWhile_cons_of_neg (by simp)]

theorem toOffset_first_last (unbroken : newline ∉ line) (first : c.line ≤ 0) :
    toOffset line c = min c.character.toNat line.length := by
  simp only [toOffset, Int.toNat_of_nonpos first, fromLine?, lineLength_last unbroken, Nat.sub_self, Nat.zero_add]

theorem toOffset_first_more (unbroken : newline ∉ line) (rest : Bytes) (first : c.line ≤ 0) :
    toOffset (line ++ newline :: rest) c = min c.character.toNat line.length := by
  simp only [toOffset, Int.toNat_of_nonpos first, fromLine?, lineLength_more unbroken, Nat.sub_self, Nat.zero_add]

theorem toOffset_past_last (unbroken : newline ∉ line) (past : 0 < c.line) : toOffset line c = line.length := by
  obtain ⟨number, counted⟩ := Nat.exists_eq_add_one.mpr (Int.pos_iff_toNat_pos.mp past)
  rw [toOffset, counted, fromLine?_last unbroken]

theorem toOffset_more (unbroken : newline ∉ line) (rest : Bytes) (later : 0 < c.line) :
    toOffset (line ++ newline :: rest) c = line.length + 1 + toOffset rest ⟨c.line - 1, c.character⟩ := by
  obtain ⟨number, counted⟩ := Nat.exists_eq_add_one.mpr (Int.pos_iff_toNat_pos.mp later)
  have before : (c.line - 1).toNat = number := by omega
  rw [toOffset, toOffset, counted, before, fromLine?_more unbroken, List.length_append, List.length_cons]
  cases found : fromLine? rest number with
  | none =>
    simp only
    omega
  | some left =>
    have := length_le_of_fromLine? found
    simp only
    omega

/-! ### The coordinates of a text -/

/-- A line of a text, and a place in it or at its end. -/
structure Inside (text : Bytes) (c : Coordinate) : Prop where
  line_nonneg : 0 ≤ c.line
  line_le : c.line ≤ text.count newline
  character_nonneg : 0 ≤ c.character
  character_le : c.character ≤ (lineText text c.line.toNat).length

/-- In an earlier line, or further to the front in the same line. -/
def Before (a b : Coordinate) : Prop := a.line < b.line ∨ a.line = b.line ∧ a.character < b.character

theorem inside_last (unbroken : newline ∉ line) :
    c.Inside line ↔ c.line = 0 ∧ 0 ≤ c.character ∧ c.character ≤ line.length := by
  constructor
  · rintro ⟨nonneg, le, character_nonneg, character_le⟩
    rw [List.count_eq_zero.mpr unbroken] at le
    obtain first : c.line = 0 := by omega
    rw [first, Int.toNat_zero, lineText_zero_last unbroken] at character_le
    exact ⟨first, character_nonneg, character_le⟩
  · rintro ⟨first, character_nonneg, character_le⟩
    refine ⟨by omega, by omega, character_nonneg, ?_⟩
    rwa [first, Int.toNat_zero, lineText_zero_last unbroken]

theorem inside_more (unbroken : newline ∉ line) (rest : Bytes) :
    c.Inside (line ++ newline :: rest) ↔
      c.line = 0 ∧ 0 ≤ c.character ∧ c.character ≤ line.length ∨ 0 < c.line ∧ Inside rest ⟨c.line - 1, c.character⟩ := by
  have shorter := count_more unbroken rest
  by_cases first : c.line = 0
  · constructor
    · rintro ⟨_, _, character_nonneg, character_le⟩
      rw [first, Int.toNat_zero, lineText_zero_more unbroken] at character_le
      exact .inl ⟨first, character_nonneg, character_le⟩
    · rintro (⟨_, character_nonneg, character_le⟩ | ⟨later, _⟩)
      · refine ⟨by omega, by omega, character_nonneg, ?_⟩
        rwa [first, Int.toNat_zero, lineText_zero_more unbroken]
      · omega
  · constructor
    · rintro ⟨nonneg, le, character_nonneg, character_le⟩
      have next : c.line.toNat = (c.line - 1).toNat + 1 := by omega
      rw [next, lineText_succ unbroken] at character_le
      have nonneg' : 0 ≤ c.line - 1 := by omega
      have le' : c.line - 1 ≤ rest.count newline := by omega
      exact .inr ⟨by omega, nonneg', le', character_nonneg, character_le⟩
    · rintro (⟨line_eq, _⟩ | ⟨later, ⟨_, le, character_nonneg, character_le⟩⟩)
      · exact absurd line_eq first
      · have next : c.line.toNat = (c.line - 1).toNat + 1 := by omega
        simp only at le character_nonneg
        refine ⟨by omega, by omega, by omega, ?_⟩
        rwa [next, lineText_succ unbroken]

/-- An offset lies in the first line, at its end included, or in one of the lines behind its break. -/
theorem le_or_exists_add (line : Bytes) (offset : Nat) : offset ≤ line.length ∨ ∃ more, offset = line.length + 1 + more := by
  rcases Nat.lt_or_ge line.length offset with past | inside
  · exact .inr ⟨offset - (line.length + 1), by omega⟩
  · exact .inl inside

theorem inside_ofOffset (inside : offset ≤ text.length) : (ofOffset text offset).Inside text := by
  induction text using byLines generalizing offset with
  | last line unbroken =>
    rw [ofOffset_last unbroken inside, inside_last unbroken]
    exact ⟨rfl, by simp, by simpa using inside⟩
  | more line rest unbroken ih =>
    rw [inside_more unbroken]
    rcases le_or_exists_add line offset with early | ⟨offset, rfl⟩
    · rw [ofOffset_first unbroken early]
      exact .inl ⟨rfl, by simp, by simpa using early⟩
    · rw [List.length_append, List.length_cons] at inside
      have behind : (ofOffset rest offset).Inside rest := ih (by omega)
      rw [ofOffset_more unbroken]
      refine .inr ⟨Int.lt_add_one_of_le behind.line_nonneg, ?_⟩
      simpa using behind

/-- The coordinate of an offset of a text leads back to the offset. -/
theorem toOffset_ofOffset (inside : offset ≤ text.length) : toOffset text (ofOffset text offset) = offset := by
  induction text using byLines generalizing offset with
  | last line unbroken =>
    rw [ofOffset_last unbroken inside, toOffset_first_last unbroken (Int.le_refl 0)]
    simpa using inside
  | more line rest unbroken ih =>
    rcases le_or_exists_add line offset with early | ⟨offset, rfl⟩
    · rw [ofOffset_first unbroken early, toOffset_first_more unbroken _ (Int.le_refl 0)]
      simpa using early
    · rw [List.length_append, List.length_cons] at inside
      have behind : offset ≤ rest.length := by omega
      have later := Int.lt_add_one_of_le (inside_ofOffset behind).line_nonneg
      rw [ofOffset_more unbroken, toOffset_more unbroken _ later, Int.add_sub_cancel, ih behind]

/-- The offset of a coordinate of a text leads back to the coordinate. -/
theorem ofOffset_toOffset (inside : c.Inside text) : ofOffset text (toOffset text c) = c := by
  induction text using byLines generalizing c with
  | last line unbroken =>
    obtain ⟨first, nonneg, le⟩ := (inside_last unbroken).mp inside
    rw [toOffset_first_last unbroken (Int.le_of_eq first), Nat.min_eq_left (by omega), ofOffset_last unbroken (by omega),
      Int.toNat_of_nonneg nonneg, ← first]
  | more line rest unbroken ih =>
    rcases (inside_more unbroken rest).mp inside with ⟨first, nonneg, le⟩ | ⟨later, behind⟩
    · rw [toOffset_first_more unbroken _ (Int.le_of_eq first), Nat.min_eq_left (by omega),
        ofOffset_first unbroken (by omega), Int.toNat_of_nonneg nonneg, ← first]
    · rw [toOffset_more unbroken _ later, ofOffset_more unbroken, ih behind, Int.sub_add_cancel]

theorem before_ofOffset {a b : Nat} (before : a < b) (inside : b ≤ text.length) :
    (ofOffset text a).Before (ofOffset text b) := by
  induction text using byLines generalizing a b with
  | last line unbroken =>
    rw [ofOffset_last unbroken (by omega), ofOffset_last unbroken inside]
    exact .inr ⟨rfl, by simpa using before⟩
  | more line rest unbroken ih =>
    rcases le_or_exists_add line b with early | ⟨b, rfl⟩
    · rw [ofOffset_first unbroken (by omega), ofOffset_first unbroken early]
      exact .inr ⟨rfl, by simpa using before⟩
    · rw [List.length_append, List.length_cons] at inside
      rw [ofOffset_more unbroken]
      rcases le_or_exists_add line a with early | ⟨a, rfl⟩
      · rw [ofOffset_first unbroken early]
        exact .inl (Int.lt_add_one_of_le (inside_ofOffset (by omega)).line_nonneg)
      · rw [ofOffset_more unbroken]
        rcases ih (a := a) (b := b) (by omega) (by omega) with earlier | ⟨same, earlier⟩
        · exact .inl (Int.add_lt_add_right earlier 1)
        · exact .inr ⟨by simpa using same, earlier⟩

/-! ### Other coordinates -/

/-- A line past the last one gives the end of the text. -/
theorem toOffset_past (past : text.count newline < c.line) : toOffset text c = text.length := by
  induction text using byLines generalizing c with
  | last line unbroken => exact toOffset_past_last unbroken (by omega)
  | more line rest unbroken ih =>
    rw [count_more unbroken] at past
    have later : 0 < c.line := by omega
    rw [toOffset_more unbroken _ later, ih (show (rest.count newline : Int) < c.line - 1 by omega), List.length_append,
      List.length_cons]
    omega

theorem lineLength_eq {number : Nat} (found : fromLine? text number = some rest) :
    lineLength rest = (lineText text number).length := by
  induction text using byLines generalizing number with
  | last line unbroken =>
    cases number with
    | zero =>
      cases found
      rw [lineLength_last unbroken, lineText_zero_last unbroken]
    | succ number =>
      rw [fromLine?_last unbroken] at found
      contradiction
  | more line behind unbroken ih =>
    cases number with
    | zero =>
      cases found
      rw [lineLength_more unbroken, lineText_zero_more unbroken]
    | succ number =>
      rw [fromLine?_more unbroken] at found
      rw [ih found, lineText_succ unbroken]

/-- A character outside its line is read as the nearer end of the line. -/
theorem toOffset_character (text : Bytes) (c : Coordinate) :
    toOffset text c = toOffset text ⟨c.line, min (max c.character 0) (lineText text c.line.toNat).length⟩ := by
  rw [toOffset, toOffset]
  cases found : fromLine? text c.line.toNat with
  | none => rfl
  | some rest =>
    simp only [lineLength_eq found]
    omega

/-- A line before the first one is read as the first. -/
theorem toOffset_line (text : Bytes) (c : Coordinate) : toOffset text c = toOffset text ⟨max c.line 0, c.character⟩ := by
  have same : (max c.line 0).toNat = c.line.toNat := by omega
  rw [toOffset, toOffset, same]

/-! ### Lines by offsets -/

/-- The bytes whose offsets have coordinates in a line, without the line break. -/
def lineAt (text : Bytes) (number : Int) : Bytes :=
  text.zipIdx.filterMap fun (b, offset) => if (ofOffset text offset).line = number ∧ b ≠ newline then some b else none

theorem lineAt_first (unbroken : newline ∉ line) (behind : Bytes) (number : Int) :
    line.zipIdx.filterMap (fun (b, offset) =>
        if (ofOffset (line ++ behind) offset).line = number ∧ b ≠ newline then some b else none) =
      if number = 0 then line else [] := by
  have each : ∀ p ∈ line.zipIdx, (ofOffset (line ++ behind) p.2).line = 0 ∧ p.1 ≠ newline := by
    rintro ⟨b, offset⟩ member
    have inside : offset < line.length := by simpa using List.snd_lt_of_mem_zipIdx member
    rw [ofOffset_first unbroken (Nat.le_of_lt inside)]
    exact ⟨rfl, ne_of_mem_of_not_mem (List.fst_mem_of_mem_zipIdx member) unbroken⟩
  split
  · rename_i first
    have taken : line.zipIdx.filterMap (fun (b, offset) =>
        if (ofOffset (line ++ behind) offset).line = number ∧ b ≠ newline then some b else none) =
        line.zipIdx.filterMap fun p => some p.1 :=
      List.filterMap_congr fun p member => if_pos ⟨(each p member).1.trans first.symm, (each p member).2⟩
    rw [taken, List.filterMap_eq_map', List.zipIdx_map_fst]
  · rename_i other
    exact List.filterMap_eq_nil_iff.mpr fun p member =>
      if_neg fun here => other ((here.1.symm.trans (each p member).1))

theorem lineAt_last (unbroken : newline ∉ line) (number : Int) : lineAt line number = if number = 0 then line else [] := by
  have first := lineAt_first unbroken [] number
  rwa [List.append_nil] at first

theorem lineAt_more (unbroken : newline ∉ line) (rest : Bytes) (number : Int) :
    lineAt (line ++ newline :: rest) number = (if number = 0 then line else []) ++ lineAt rest (number - 1) := by
  have behind (offset : Nat) : (ofOffset (line ++ newline :: rest) (line.length + 1 + offset)).line = number ↔
      (ofOffset rest offset).line = number - 1 := by
    rw [ofOffset_more unbroken]
    simp only
    omega
  rw [lineAt, List.zipIdx_append, List.filterMap_append, lineAt_first unbroken, List.zipIdx_cons,
    List.filterMap_cons_none (by simp), List.zipIdx_eq_map_add, List.filterMap_map, lineAt]
  simp only [Function.comp_def, Nat.zero_add, behind]

theorem lineText_succ_last (unbroken : newline ∉ line) (number : Nat) : lineText line (number + 1) = [] := by
  rw [lineText, Bytes.splitOn_eq, List.splitOn_eq_singleton unbroken]
  rfl

/-- Splitting a text at its line breaks gives the lines of its coordinates. -/
theorem lineAt_eq (text : Bytes) (number : Int) :
    lineAt text number = if number < 0 then [] else lineText text number.toNat := by
  induction text using byLines generalizing number with
  | last line unbroken =>
    rw [lineAt_last unbroken]
    rcases lt_trichotomy number 0 with negative | rfl | positive
    · rw [if_neg (by omega), if_pos negative]
    · rw [if_pos rfl, if_neg (by omega), Int.toNat_zero, lineText_zero_last unbroken]
    · obtain ⟨k, count⟩ := Nat.exists_eq_add_one.mpr (Int.pos_iff_toNat_pos.mp positive)
      rw [if_neg (by omega), if_neg (by omega), count, lineText_succ_last unbroken]
  | more line rest unbroken ih =>
    rw [lineAt_more unbroken, ih]
    rcases lt_trichotomy number 0 with negative | rfl | positive
    · rw [if_neg (by omega), if_pos (by omega), if_pos negative, List.append_nil]
    · rw [if_pos rfl, if_pos (by omega), if_neg (by omega), Int.toNat_zero, lineText_zero_more unbroken, List.append_nil]
    · have next : number.toNat = (number - 1).toNat + 1 := by omega
      rw [if_neg (by omega), if_neg (by omega), if_neg (by omega), next, lineText_succ unbroken, List.nil_append]

/-- Whether some offset of a text, its end included, has a coordinate in a line. -/
def HasLine (text : Bytes) (number : Int) : Prop := ∃ offset ≤ text.length, (ofOffset text offset).line = number

theorem length_splitOn (text : Bytes) : (Bytes.splitOn newline text).length = text.count newline + 1 := by
  induction text using byLines with
  | last line unbroken => rw [Bytes.splitOn_eq, List.splitOn_eq_singleton unbroken, List.count_eq_zero.mpr unbroken]; rfl
  | more line rest unbroken ih =>
    rw [count_more unbroken, ← ih, Bytes.splitOn_eq, Bytes.splitOn_eq, List.splitOn_append_cons_self,
      List.splitOn_eq_singleton unbroken, List.length_append]
    exact Nat.add_comm _ _

theorem hasLine_iff {number : Int} :
    HasLine text number ↔ 0 ≤ number ∧ number.toNat < (Bytes.splitOn newline text).length := by
  rw [length_splitOn]
  constructor
  · rintro ⟨offset, inside, rfl⟩
    obtain ⟨nonneg, le, _, _⟩ := inside_ofOffset inside
    exact ⟨nonneg, by omega⟩
  · rintro ⟨nonneg, lt⟩
    have inside : Inside text ⟨number, 0⟩ := ⟨nonneg, by simp only; omega, Int.le_refl 0, Int.natCast_nonneg _⟩
    exact ⟨toOffset text ⟨number, 0⟩, toOffset_le text _, by rw [ofOffset_toOffset inside]⟩

theorem lineAt_natCast (text : Bytes) (k : Nat) : lineAt text k = (Bytes.splitOn newline text).getD k [] := by
  rw [lineAt_eq, if_neg (by omega), Int.toNat_natCast, lineText]

theorem infix_of_mem_splitOn (member : line ∈ Bytes.splitOn newline text) : line <:+: text := by
  induction text using byLines with
  | last whole unbroken =>
    rw [Bytes.splitOn_eq, List.splitOn_eq_singleton unbroken, List.mem_singleton] at member
    exact member ▸ List.infix_refl _
  | more first rest unbroken ih =>
    rw [Bytes.splitOn_eq, List.splitOn_append_cons_self, List.splitOn_eq_singleton unbroken, ← Bytes.splitOn_eq] at member
    rcases List.mem_cons.mp member with rfl | later
    · exact (List.prefix_append _ _).isInfix
    · exact (ih later).trans ((List.suffix_cons _ _).trans (List.suffix_append _ _)).isInfix

/-! ### Offsets and coordinates -/

/-- Offsets and coordinates of a text are two views of the same places: each offset up to the end has a coordinate of its own,
in the order of the offsets, every place in a line or at its end is the coordinate of an offset, and either leads back to
the other. Any other coordinate is read as a place of the text too. -/
theorem offsets_bijOn_coordinates (text : Bytes) :
    (∀ offset : Nat, offset ≤ text.length → ofOffset? text offset = .ok (ofOffset text offset)) ∧
      Set.BijOn (ofOffset text) (Set.Iic text.length) {c | c.Inside text} ∧
      (∀ a b : Nat, a < b → b ≤ text.length → (ofOffset text a).Before (ofOffset text b)) ∧
      Set.InvOn (toOffset text) (ofOffset text) (Set.Iic text.length) {c | c.Inside text} ∧
      ∀ c : Coordinate, toOffset text c ≤ text.length ∧
        (text.count newline < c.line → toOffset text c = text.length) ∧
        ((lineText text c.line.toNat).length < c.character →
          toOffset text c = toOffset text ⟨c.line, (lineText text c.line.toNat).length⟩) ∧
        (c.character < 0 → toOffset text c = toOffset text ⟨c.line, 0⟩) ∧
        (c.line < 0 → toOffset text c = toOffset text ⟨0, c.character⟩) := by
  have inverse : Set.InvOn (toOffset text) (ofOffset text) (Set.Iic text.length) {c | c.Inside text} :=
    ⟨fun _ => toOffset_ofOffset, fun _ => ofOffset_toOffset⟩
  have maps : Set.MapsTo (ofOffset text) (Set.Iic text.length) {c | c.Inside text} := fun _ => inside_ofOffset
  refine ⟨fun offset inside => ?_, inverse.bijOn maps fun c _ => toOffset_le text c, fun _ _ => before_ofOffset, inverse,
    fun c => ⟨toOffset_le text c, toOffset_past, fun past => ?_, fun negative => ?_, fun negative => ?_⟩⟩
  · rw [ofOffset?, if_neg (by simpa using inside), Int.toNat_natCast]
  · rw [toOffset_character, Int.max_eq_left (by omega), Int.min_eq_right (by omega)]
  · rw [toOffset_character, Int.max_eq_right (by omega), Int.min_eq_left (by omega)]
  · rw [toOffset_line, Int.max_eq_right (by omega)]

end Coordinate
end DesignLint
