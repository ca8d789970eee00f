import DesignLint.Json.Writer
import DesignLint.Proofs.Text.Decoding
import Mathlib.Data.List.Basic

/-! What is written tells what it was written from: two values of strings, whole numbers and flags that are written
alike are the same value. Read from the left, the written text of a value shows by its first character what kind of
value it is, and ends where a comma, a closing bracket or the end of the text stands. -/
namespace DesignLint.Json

/-- The characters that are not written as themselves. -/
def isEscaped (c : Char) : Bool :=
  c.toNat < 32 || c = '"' || c = '\\' || c = '<' || c = '>' || c = '&' || c.toNat = 0x2028 || c.toNat = 0x2029

theorem escapeChar_of_plain {c : Char} (plain : isEscaped c = false) : escapeChar c = [c] := by
  simp only [isEscaped, Bool.or_eq_false_iff, decide_eq_false_iff_not] at plain
  obtain ⟨⟨⟨⟨⟨⟨⟨control, quote⟩, backslash⟩, less⟩, greater⟩, ampersand⟩, line⟩, paragraph⟩ := plain
  rw [escapeChar]
  · simp only [control, less, greater, ampersand, line, paragraph, decide_false, Bool.or_self, Bool.false_eq_true, if_false]
    rw [if_neg (by omega), if_neg (by omega)]
  · exact quote
  · exact backslash
  all_goals
    rintro rfl
    exact control (by decide)

/-- The codes of the characters that are not written as themselves. -/
def escapedCodes : List Nat := List.range 32 ++ [34, 38, 60, 62, 92, 0x2028, 0x2029]

theorem mem_escapedCodes {c : Char} (escaped : isEscaped c = true) : c.toNat ∈ escapedCodes := by
  simp only [isEscaped, Bool.or_eq_true, decide_eq_true_eq] at escaped
  rcases escaped with ((((((control | rfl) | rfl) | rfl) | rfl) | rfl) | line) | paragraph
  · exact List.mem_append_left _ (List.mem_range.mpr control)
  all_goals first | decide | (rw [escapedCodes]; simp [line]) | (rw [escapedCodes]; simp [paragraph])

/-- What is checked for the codes of all characters that are not written as themselves. -/
theorem forall_escaped {p : Char → Prop} (all : ∀ n ∈ escapedCodes, p (Char.ofNat n)) {c : Char}
    (escaped : isEscaped c = true) : p c := by
  have here := all c.toNat (mem_escapedCodes escaped)
  rwa [Char.ofNat_toNat] at here

theorem head_escapeChar {c : Char} (escaped : isEscaped c = true) : (escapeChar c).head? = some '\\' :=
  forall_escaped (p := fun c => (escapeChar c).head? = some '\\') (by decide) escaped

theorem escapeChar_eq_cons (c : Char) : ∃ first more, escapeChar c = first :: more ∧ first ≠ '"' := by
  cases escaped : isEscaped c with
  | false =>
    refine ⟨c, [], escapeChar_of_plain escaped, ?_⟩
    rintro rfl
    contradiction
  | true =>
    obtain ⟨more, written⟩ := List.head?_eq_some_iff.mp (head_escapeChar escaped)
    exact ⟨_, more, written, by decide⟩

/-- No character is written as the start of another. -/
theorem eq_of_escapeChar_starts {c d : Char} (starts : escapeChar c <+: escapeChar d) : c = d := by
  cases escaped : isEscaped c with
  | false =>
    rw [escapeChar_of_plain escaped] at starts
    cases escaped' : isEscaped d with
    | false =>
      rw [escapeChar_of_plain escaped'] at starts
      simpa using starts
    | true =>
      obtain ⟨more, written⟩ := List.head?_eq_some_iff.mp (head_escapeChar escaped')
      rw [written] at starts
      obtain ⟨rfl, _⟩ := List.cons_prefix_cons.mp starts
      contradiction
  | true =>
    cases escaped' : isEscaped d with
    | false =>
      obtain ⟨more, written⟩ := List.head?_eq_some_iff.mp (head_escapeChar escaped)
      rw [written, escapeChar_of_plain escaped'] at starts
      obtain ⟨rfl, _⟩ := List.cons_prefix_cons.mp starts
      contradiction
    | true =>
      have all : ∀ n ∈ escapedCodes, ∀ m ∈ escapedCodes,
          escapeChar (Char.ofNat n) <+: escapeChar (Char.ofNat m) → Char.ofNat n = Char.ofNat m := by
        decide +kernel
      exact forall_escaped (p := fun c => escapeChar c <+: escapeChar d → c = d)
        (fun n listed => forall_escaped (p := fun d => escapeChar (Char.ofNat n) <+: escapeChar d → Char.ofNat n = d)
          (all n listed) escaped') escaped starts

theorem escapeChar_append_inj {c d : Char} {x y : List Char} (same : escapeChar c ++ x = escapeChar d ++ y) :
    c = d ∧ x = y := by
  have first : escapeChar c <+: escapeChar d ++ y := ⟨x, same⟩
  have second : escapeChar d <+: escapeChar d ++ y := List.prefix_append _ y
  have chars_eq : c = d := by
    rcases List.prefix_or_prefix_of_prefix first second with starts | starts
    · exact eq_of_escapeChar_starts starts
    · exact (eq_of_escapeChar_starts starts).symm
  subst chars_eq
  exact ⟨rfl, List.append_cancel_left same⟩

/-- The closing quote of a string is the first one that is not escaped. -/
theorem escaped_append_inj {cs ds x y : List Char}
    (same : cs.flatMap escapeChar ++ '"' :: x = ds.flatMap escapeChar ++ '"' :: y) : cs = ds ∧ x = y := by
  induction cs generalizing ds with
  | nil =>
    cases ds with
    | nil => simpa using same
    | cons d ds =>
      obtain ⟨first, more, written, open_⟩ := escapeChar_eq_cons d
      rw [List.flatMap_cons, written] at same
      exact absurd (List.cons.inj same).1.symm open_
  | cons c cs ih =>
    cases ds with
    | nil =>
      obtain ⟨first, more, written, open_⟩ := escapeChar_eq_cons c
      rw [List.flatMap_cons, written] at same
      exact absurd (List.cons.inj same).1 open_
    | cons d ds =>
      rw [List.flatMap_cons, List.flatMap_cons, List.append_assoc, List.append_assoc] at same
      obtain ⟨rfl, rest⟩ := escapeChar_append_inj same
      obtain ⟨rfl, rfl⟩ := ih rest
      exact ⟨rfl, rfl⟩

theorem quoteName_append_inj {name name' : String} {x y : List Char}
    (same : (quoteName name).toList ++ x = (quoteName name').toList ++ y) : name = name' ∧ x = y := by
  simp only [quoteName, String.toList_ofList, List.cons_append, List.append_assoc, List.cons.injEq, true_and] at same
  obtain ⟨chars_eq, rest⟩ := escaped_append_inj same
  exact ⟨String.toList_inj.mp chars_eq, rest⟩

theorem quoteText_ofString (s : String) : quoteText (Bytes.ofString s) = quoteName s := by
  change String.ofList ('"' :: (Bytes.ofString s).units.flatMap escapeUnit ++ ['"'])
    = String.ofList ('"' :: s.toList.flatMap escapeChar ++ ['"'])
  rw [Bytes.units_ofString, List.flatMap_map]
  simp only [escapeUnit, Bytes.invalidByte?_encode]

/-- The end of a value: what follows it in a list, after it, or nothing. -/
def Ends (x : List Char) : Prop := ∀ c ∈ x.head?, c = ',' ∨ c = ']' ∨ c = '\x7d'

/-- The values that settings are written as. -/
inductive Plain : Json → Prop
  | null : Plain .null
  | bool (value : Bool) : Plain (.bool value)
  | int (n : Int) : Plain (.ofInt n)
  | text (s : String) : Plain (.ofString s)
  | array {items : List Json} (each : ∀ item ∈ items, Plain item) : Plain (.array items)
  | object {members : List (String × Json)} (each : ∀ m ∈ members, Plain m.2) : Plain (.object members)

/-- The characters of whole numbers. -/
def isNumberChar (c : Char) : Bool := c.isDigit || c = '-'

/-- A whole number is written in digits, perhaps after a minus sign. -/
theorem isNumberChar_of_mem {n : Int} {c : Char} (member : c ∈ (toString n).toList) : isNumberChar c = true := by
  have digit {m : Nat} (member : c ∈ m.repr.toList) : isNumberChar c = true := by
    rw [Nat.toList_repr] at member
    rw [isNumberChar, Nat.isDigit_of_mem_toDigits (by decide) (by decide) member, Bool.true_or]
  cases n with
  | ofNat m => exact digit member
  | negSucc m =>
    change c ∈ ("-" ++ (m + 1).repr).toList at member
    rw [String.toList_append, List.mem_append] at member
    rcases member with sign | member
    · cases List.mem_singleton.mp sign
      rfl
    · exact digit member

theorem toString_int_ne_nil (n : Int) : (toString n).toList ≠ [] := by
  cases n with
  | ofNat m =>
    change m.repr.toList ≠ []
    rw [Nat.toList_repr]
    exact Nat.toDigits_ne_nil
  | negSucc m =>
    change ("-" ++ (m + 1).repr).toList ≠ []
    rw [String.toList_append]
    exact List.append_ne_nil_of_left_ne_nil (by decide) _

/-- A member as it is written. -/
def writtenMember (m : String × Json) : List Char := (quoteName m.1).toList ++ ':' :: m.2.compact.toList

theorem compact_ofString (s : String) : (ofString s).compact = quoteName s := quoteText_ofString s

theorem compact_array (items : List Json) : (array items).compact.toList =
    '[' :: ([','].intercalate (items.map fun item => item.compact.toList) ++ [']']) := by
  have each : compactItems items = items.map compact := by
    induction items with
    | nil => simp only [compactItems, List.map_nil]
    | cons item rest ih => simp only [compactItems, List.map_cons, ih]
  change ("[" ++ ",".intercalate (compactItems items) ++ "]").toList = _
  simp only [each, String.toList_append, String.toList_intercalate, List.map_map]
  rfl

theorem compact_object (members : List (String × Json)) :
    (object members).compact.toList = '\x7b' :: ([','].intercalate (members.map writtenMember) ++ ['\x7d']) := by
  have each : (compactMembers members).map String.toList = members.map writtenMember := by
    induction members with
    | nil => simp only [compactMembers, List.map_nil]
    | cons m rest ih =>
      obtain ⟨name, value⟩ := m
      simp only [compactMembers, List.map_cons, ih, String.toList_append, List.append_assoc]
      rfl
  change ("\x7b" ++ ",".intercalate (compactMembers members) ++ "\x7d").toList = _
  simp only [each, String.toList_append, String.toList_intercalate]
  rfl

/-- What kind of value starts with a character. -/
def kindOf (c : Char) : Nat :=
  if c = 'n' then 0 else if c = 't' || c = 'f' then 1 else if isNumberChar c then 2 else if c = '"' then 3
  else if c = '[' then 4 else if c = '\x7b' then 5 else 6

/-- The kind of a value. -/
def kind : Json → Nat
  | null => 0
  | bool _ => 1
  | number _ => 2
  | string _ => 3
  | array _ => 4
  | object _ => 5

/-- The first character of a value tells its kind. -/
theorem Plain.compact_eq_cons {j : Json} (plain : j.Plain) :
    ∃ c more, j.compact.toList = c :: more ∧ kindOf c = j.kind := by
  cases plain with
  | null => exact ⟨'n', _, rfl, rfl⟩
  | bool value => cases value <;> exact ⟨_, _, rfl, rfl⟩
  | int n =>
    obtain ⟨c, more, written⟩ := List.exists_cons_of_ne_nil (toString_int_ne_nil n)
    refine ⟨c, more, written, ?_⟩
    have number : isNumberChar c = true := isNumberChar_of_mem (n := n) (by rw [written]; exact List.mem_cons_self)
    have other {d : Char} (no : isNumberChar d = false) : c ≠ d := by
      rintro rfl
      rw [number] at no
      contradiction
    have word : (c = 't' || c = 'f') = false := by simp [other (d := 't') rfl, other (d := 'f') rfl]
    rw [kindOf, if_neg (other rfl), word, number]
    rfl
  | text s => exact ⟨'"', _, by rw [compact_ofString, quoteName, String.toList_ofList]; rfl, rfl⟩
  | array each => exact ⟨'[', _, compact_array _, rfl⟩
  | object each => exact ⟨'\x7b', _, compact_object _, rfl⟩

theorem Ends.of_head {c : Char} {x : List Char} (closes : c = ',' ∨ c = ']' ∨ c = '\x7d') : Ends (c :: x) := by
  intro d member
  cases Option.mem_some_iff.mp member
  exact closes

/-- What is written before the end of a list is not its end. -/
def Opens (x : List Char) : Prop := ∃ c more, x = c :: more ∧ c ≠ ']' ∧ c ≠ '\x7d'

theorem Plain.opens {j : Json} (plain : j.Plain) : Opens j.compact.toList := by
  obtain ⟨c, more, written, known⟩ := plain.compact_eq_cons
  have kinds : j.kind ≠ 6 := by cases j <;> simp [kind]
  refine ⟨c, more, written, ?_, ?_⟩
  · rintro rfl
    exact kinds known.symm
  · rintro rfl
    exact kinds known.symm

section

variable {α : Type} (write : α → List Char) (close : Char)

/-- What follows the first part of a list: the end of the list, or a comma and the other parts. -/
def afterPart (others : List α) (x : List Char) : List Char :=
  match others with
  | [] => close :: x
  | b :: others => ',' :: ([','].intercalate ((b :: others).map write) ++ close :: x)

theorem intercalate_cons_append (a : α) (others : List α) (x : List Char) :
    [','].intercalate ((a :: others).map write) ++ close :: x = write a ++ afterPart write close others x := by
  cases others with
  | nil => simp [afterPart]
  | cons b others => simp [afterPart, List.intercalate_cons_cons]

variable {write close} (closes : close = ']' ∨ close = '\x7d')
include closes

theorem ends_afterPart (others : List α) (x : List Char) : Ends (afterPart write close others x) := by
  cases others with
  | nil => exact .of_head (.inr closes)
  | cons b others => exact .of_head (.inl rfl)

/-- Parts that can be told apart one by one can be told apart in a list. -/
theorem intercalate_append_inj {valid : α → Prop} (opens : ∀ a, valid a → Opens (write a)) {xs ys : List α}
    (each : ∀ a ∈ xs, valid a ∧
      ∀ b x y, valid b → Ends x → Ends y → write a ++ x = write b ++ y → a = b ∧ x = y)
    (others : ∀ b ∈ ys, valid b) {x y : List Char}
    (same : [','].intercalate (xs.map write) ++ close :: x = [','].intercalate (ys.map write) ++ close :: y) :
    xs = ys ∧ x = y := by
  have comma : close ≠ ',' := by rcases closes with rfl | rfl <;> decide
  have notClose {a : α} (isValid : valid a) {rest z : List Char} (starts : write a ++ rest = close :: z) : False := by
    obtain ⟨c, more, written, square, curly⟩ := opens a isValid
    rw [written] at starts
    cases (List.cons.inj starts).1
    rcases closes with rfl | rfl
    · exact square rfl
    · exact curly rfl
  induction xs generalizing ys with
  | nil =>
    cases ys with
    | nil => exact ⟨rfl, by simpa using same⟩
    | cons b bs =>
      rw [intercalate_cons_append] at same
      exact (notClose (others b List.mem_cons_self) same.symm).elim
  | cons a as ih =>
    rw [intercalate_cons_append] at same
    cases ys with
    | nil => exact (notClose (each a List.mem_cons_self).1 same).elim
    | cons b bs =>
      rw [intercalate_cons_append] at same
      obtain ⟨rfl, rests⟩ := (each a List.mem_cons_self).2 b _ _ (others b List.mem_cons_self) (ends_afterPart closes as x)
        (ends_afterPart closes bs y) same
      rcases as with _ | ⟨a', as⟩ <;> rcases bs with _ | ⟨b', bs⟩
      · exact ⟨rfl, (List.cons.inj rests).2⟩
      · exact absurd (List.cons.inj rests).1 comma
      · exact absurd (List.cons.inj rests).1.symm comma
      · obtain ⟨parts_eq, ends_eq⟩ := ih (fun c member => each c (List.mem_cons_of_mem _ member))
          (fun c member => others c (List.mem_cons_of_mem _ member)) (List.cons.inj rests).2
        exact ⟨congrArg _ parts_eq, ends_eq⟩

end

/-- Where the number ends is the first character that is not of a number. -/
theorem number_append_inj {n n' : Int} {x y : List Char} (ends : Ends x) (ends' : Ends y)
    (same : (toString n).toList ++ x = (toString n').toList ++ y) : toString n = toString n' ∧ x = y := by
  have taken (n : Int) {x : List Char} (ends : Ends x) :
      ((toString n).toList ++ x).takeWhile isNumberChar = (toString n).toList := by
    rw [List.takeWhile_append_of_pos fun c member => isNumberChar_of_mem member]
    cases x with
    | nil => simp
    | cons c x =>
      have outside : isNumberChar c = false := by
        rcases ends c rfl with rfl | rfl | rfl <;> rfl
      rw [List.takeWhile_cons, outside]
      simp
  have chars_eq : (toString n).toList = (toString n').toList := by rw [← taken n ends, same, taken n' ends']
  rw [chars_eq] at same
  exact ⟨String.toList_inj.mp chars_eq, List.append_cancel_left same⟩

theorem Plain.kind_eq {j j' : Json} (plain : j.Plain) (plain' : j'.Plain) {x y : List Char}
    (same : j.compact.toList ++ x = j'.compact.toList ++ y) : j.kind = j'.kind := by
  obtain ⟨c, more, written, known⟩ := plain.compact_eq_cons
  obtain ⟨c', more', written', known'⟩ := plain'.compact_eq_cons
  rw [written, written'] at same
  rw [← known, ← known', (List.cons.inj same).1]

/-- A value and what follows it can be told from what is written. -/
theorem Plain.compact_append_inj {j j' : Json} (plain : j.Plain) (plain' : j'.Plain) {x y : List Char} (ends : Ends x)
    (ends' : Ends y) (same : j.compact.toList ++ x = j'.compact.toList ++ y) : j = j' ∧ x = y := by
  have kinds := plain.kind_eq plain' same
  induction plain generalizing j' x y with
  | null =>
    cases plain' with
    | null => exact ⟨rfl, List.append_cancel_left same⟩
    | _ => simp [kind, ofInt, ofString] at kinds
  | bool value =>
    cases plain' with
    | bool value' =>
      have word (value : Bool) : (Json.bool value).compact = if value then "true" else "false" := rfl
      rw [word, word] at same
      cases value <;> cases value' <;> simp at same
      · exact ⟨rfl, same⟩
      · exact ⟨rfl, same⟩
    | _ => simp [kind, ofInt, ofString] at kinds
  | int n =>
    cases plain' with
    | int n' =>
      have literal (n : Int) : (ofInt n).compact = toString n := rfl
      rw [literal, literal] at same
      obtain ⟨literals_eq, rest⟩ := number_append_inj ends ends' same
      exact ⟨congrArg Json.number literals_eq, rest⟩
    | _ => simp [kind, ofInt, ofString] at kinds
  | text s =>
    cases plain' with
    | text s' =>
      rw [compact_ofString, compact_ofString] at same
      obtain ⟨rfl, rest⟩ := quoteName_append_inj same
      exact ⟨rfl, rest⟩
    | _ => simp [kind, ofInt, ofString] at kinds
  | @array items each ih =>
    cases plain' with
    | @array items' each' =>
      rw [compact_array, compact_array, List.cons_append, List.cons_append, List.cons.injEq, List.append_assoc,
        List.append_assoc] at same
      have apart : ∀ a ∈ items, a.Plain ∧ ∀ b x y, b.Plain → Ends x → Ends y →
          a.compact.toList ++ x = b.compact.toList ++ y → a = b ∧ x = y :=
        fun a member => ⟨each a member, fun b x y valid ends ends' same =>
          ih a member valid ends ends' same ((each a member).kind_eq valid same)⟩
      obtain ⟨rfl, rest⟩ := intercalate_append_inj (.inl rfl) (fun a valid => Plain.opens valid) apart each' same.2
      exact ⟨rfl, rest⟩
    | _ => simp [kind, ofInt, ofString] at kinds
  | @object members each ih =>
    cases plain' with
    | @object members' each' =>
      rw [compact_object, compact_object, List.cons_append, List.cons_append, List.cons.injEq, List.append_assoc,
        List.append_assoc] at same
      have opens : ∀ m : String × Json, m.2.Plain → Opens (writtenMember m) := by
        intro m _
        rw [writtenMember, quoteName, String.toList_ofList]
        exact ⟨'"', _, rfl, by decide, by decide⟩
      have apart : ∀ m ∈ members, m.2.Plain ∧ ∀ m' x y, m'.2.Plain → Ends x → Ends y →
          writtenMember m ++ x = writtenMember m' ++ y → m = m' ∧ x = y := by
        refine fun m member => ⟨each m member, fun m' x y valid ends ends' same => ?_⟩
        rw [writtenMember, writtenMember, List.append_assoc, List.append_assoc] at same
        obtain ⟨names_eq, rest⟩ := quoteName_append_inj same
        have values := (List.cons.inj rest).2
        obtain ⟨values_eq, rest⟩ := ih m member valid ends ends' values ((each m member).kind_eq valid values)
        exact ⟨Prod.ext names_eq values_eq, rest⟩
      obtain ⟨rfl, rest⟩ := intercalate_append_inj (.inr rfl) opens apart each' same.2
      exact ⟨rfl, rest⟩
    | _ => simp [kind, ofInt, ofString] at kinds

/-- Values that are written alike are the same. -/
theorem Plain.eq_of_compact {j j' : Json} (plain : j.Plain) (plain' : j'.Plain) (same : j.compact = j'.compact) :
    j = j' := by
  have ends : Ends [] := fun _ member => nomatch member
  exact (plain.compact_append_inj plain' ends ends (by rw [same])).1

end DesignLint.Json
