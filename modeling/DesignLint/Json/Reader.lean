import DesignLint.Json.Value

/-! Reading JSON. Only standard JSON is read. Invalid bytes and escapes of half a surrogate pair read as
U+FFFD. -/
namespace DesignLint.Json

/-- The text after the blanks at its start. -/
def skipBlanks (text : Bytes) : Bytes :=
  text.dropWhile fun b => b = 32 || b = 9 || b = 10 || b = 13

/-- The value of a hexadecimal digit. -/
def hexValue? (b : UInt8) : Option Nat :=
  if 48 ≤ b && b ≤ 57 then some (b.toNat - 48)
  else if 97 ≤ b && b ≤ 102 then some (b.toNat - 87)
  else if 65 ≤ b && b ≤ 70 then some (b.toNat - 55)
  else none

/-- Four hexadecimal digits. -/
def unit16? : Bytes → Option (Nat × Bytes)
  | a :: b :: c :: d :: rest => do
    let a ← hexValue? a
    let b ← hexValue? b
    let c ← hexValue? c
    let d ← hexValue? d
    return (((a * 16 + b) * 16 + c) * 16 + d, rest)
  | _ => none

/-- The character of an escape after its `u`, joined with the next escape if the two form a pair. -/
def unicodeEscape? (text : Bytes) : Option (Char × Bytes) := do
  let (first, rest) ← unit16? text
  if 0xD800 ≤ first && first ≤ 0xDFFF then
    match rest with
    | 92 :: 117 :: more =>
      match unit16? more with
      | some (second, more) =>
        if first ≤ 0xDBFF && 0xDC00 ≤ second && second ≤ 0xDFFF then
          return (Char.ofNat (0x10000 + (first - 0xD800) * 0x400 + (second - 0xDC00)), more)
        else return (Bytes.replacement, rest)
      | none => return (Bytes.replacement, rest)
    | _ => return (Bytes.replacement, rest)
  else return (Char.ofNat first, rest)

/-- The character of an escape of one character. -/
def simpleEscape? (b : UInt8) : Option Char :=
  if b = 34 then some '"'
  else if b = 92 then some '\\'
  else if b = 47 then some '/'
  else if b = 98 then some (Char.ofNat 8)
  else if b = 102 then some (Char.ofNat 12)
  else if b = 110 then some '\n'
  else if b = 114 then some '\r'
  else if b = 116 then some '\t'
  else none

/-- The characters of a string after its opening quote, newest first in `taken`. -/
def stringBody? : (fuel : Nat) → (taken : List Char) → Bytes → Option (List Char × Bytes)
  | 0, _, _ => none
  | _, _, [] => none
  | fuel + 1, taken, b :: rest =>
    if b = 34 then some (taken.reverse, rest)
    else if b < 32 then none
    else if b = 92 then
      match rest with
      | 117 :: more => do
        let (c, more) ← unicodeEscape? more
        stringBody? fuel (c :: taken) more
      | e :: more => do
        let c ← simpleEscape? e
        stringBody? fuel (c :: taken) more
      | [] => none
    else
      let (c, more) := Bytes.step b rest
      stringBody? fuel (c :: taken) more

/-- The digits at the start of a text and what follows them. -/
def digitRun (text : Bytes) : Bytes × Bytes :=
  (text.takeWhile fun b => 48 ≤ b && b ≤ 57, text.dropWhile fun b => 48 ≤ b && b ≤ 57)

/-- The whole part of a number: zero, or digits that do not start with zero. -/
def wholePart? (text : Bytes) : Option (Bytes × Bytes) :=
  match text with
  | 48 :: rest => some ([48], rest)
  | _ =>
    match digitRun text with
    | ([], _) => none
    | (digits, rest) => some (digits, rest)

/-- The fraction of a number, empty if there is none. -/
def numberFraction? (text : Bytes) : Option (Bytes × Bytes) :=
  match text with
  | 46 :: rest =>
    match digitRun rest with
    | ([], _) => none
    | (digits, rest) => some (46 :: digits, rest)
  | _ => some ([], text)

/-- The exponent of a number, empty if there is none. -/
def numberExponent? (text : Bytes) : Option (Bytes × Bytes) :=
  match text with
  | e :: rest =>
    if e = 101 || e = 69 then
      let sign := rest.take 1 |>.filter fun b => b = 43 || b = 45
      match digitRun (rest.drop sign.length) with
      | ([], _) => none
      | (digits, rest) => some (e :: sign ++ digits, rest)
    else some ([], text)
  | [] => some ([], text)

/-- The literal of a number. -/
def numberLiteral? (text : Bytes) : Option (String × Bytes) := do
  let (sign, rest) : Bytes × Bytes := match text with
    | 45 :: rest => ([45], rest)
    | _ => ([], text)
  let (whole, rest) ← wholePart? rest
  let (fraction, rest) ← numberFraction? rest
  let (exponent, rest) ← numberExponent? rest
  return (Bytes.decode (sign ++ whole ++ fraction ++ exponent), rest)

/-- A string after its opening quote. -/
def stringAfterQuote? (text : Bytes) : Option (List Char × Bytes) :=
  stringBody? (text.length + 1) [] text

mutual

/-- One value at the start of a text. -/
def readValue? : (fuel : Nat) → Bytes → Option (Json × Bytes)
  | 0, _ => none
  | fuel + 1, text =>
    match skipBlanks text with
    | 34 :: rest => (stringAfterQuote? rest).map fun (cs, rest) => (.string (Bytes.ofChars cs), rest)
    | 123 :: rest =>
      match skipBlanks rest with
      | 125 :: rest => some (.object [], rest)
      | rest => readMembers? fuel [] rest
    | 91 :: rest =>
      match skipBlanks rest with
      | 93 :: rest => some (.array [], rest)
      | rest => readItems? fuel [] rest
    | 116 :: 114 :: 117 :: 101 :: rest => some (.bool true, rest)
    | 102 :: 97 :: 108 :: 115 :: 101 :: rest => some (.bool false, rest)
    | 110 :: 117 :: 108 :: 108 :: rest => some (.null, rest)
    | text => (numberLiteral? text).map fun (literal, rest) => (.number literal, rest)

/-- The items of a list, at least one, and its closing bracket. -/
def readItems? : (fuel : Nat) → (taken : List Json) → Bytes → Option (Json × Bytes)
  | 0, _, _ => none
  | fuel + 1, taken, text => do
    let (item, rest) ← readValue? fuel text
    match skipBlanks rest with
    | 44 :: rest => readItems? fuel (item :: taken) rest
    | 93 :: rest => return (.array (item :: taken).reverse, rest)
    | _ => none

/-- The members of an object, at least one, and its closing brace. -/
def readMembers? : (fuel : Nat) → (taken : List (String × Json)) → Bytes → Option (Json × Bytes)
  | 0, _, _ => none
  | fuel + 1, taken, text => do
    match skipBlanks text with
    | 34 :: rest =>
      let (name, rest) ← stringAfterQuote? rest
      match skipBlanks rest with
      | 58 :: rest =>
        let (value, rest) ← readValue? fuel rest
        let taken := (String.ofList name, value) :: taken
        match skipBlanks rest with
        | 44 :: rest => readMembers? fuel taken rest
        | 125 :: rest => return (.object taken.reverse, rest)
        | _ => none
      | _ => none
    | _ => none

end

section

variable {fuel : Nat} {text rest : Bytes}

theorem readValue?_congr {text' : Bytes} (same : skipBlanks text = skipBlanks text') (fuel : Nat) :
    readValue? fuel text = readValue? fuel text' := by
  cases fuel with
  | zero => rfl
  | succ fuel =>
    rw [readValue?.eq_def, readValue?.eq_def (fuel + 1) text']
    simp only [same]

theorem readValue?_string (fuel : Nat) (text : Bytes) : readValue? (fuel + 1) (34 :: text) =
    (stringAfterQuote? text).map fun found => (.string (Bytes.ofChars found.1), found.2) := rfl

theorem readValue?_array (fuel : Nat) (text : Bytes) : readValue? (fuel + 1) (91 :: text) =
    match skipBlanks text with
    | 93 :: rest => some (.array [], rest)
    | rest => readItems? fuel [] rest := rfl

theorem readValue?_object (fuel : Nat) (text : Bytes) : readValue? (fuel + 1) (123 :: text) =
    match skipBlanks text with
    | 125 :: rest => some (.object [], rest)
    | rest => readMembers? fuel [] rest := rfl

theorem readItems?_succ {item : Json} (read : readValue? fuel text = some (item, rest)) (taken : List Json) :
    readItems? (fuel + 1) taken text =
      match skipBlanks rest with
      | 44 :: rest => readItems? fuel (item :: taken) rest
      | 93 :: rest => some (.array (item :: taken).reverse, rest)
      | _ => none := by
  simp [readItems?.eq_def (fuel + 1), read]

theorem readMembers?_succ {quoted behind start : Bytes} {m : String × Json} (opens : skipBlanks text = 34 :: quoted)
    (name : stringAfterQuote? quoted = some (m.1.toList, behind)) (colon : skipBlanks behind = 58 :: start)
    (value : readValue? fuel start = some (m.2, rest)) (taken : List (String × Json)) :
    readMembers? (fuel + 1) taken text =
      match skipBlanks rest with
      | 44 :: rest => readMembers? fuel (m :: taken) rest
      | 125 :: rest => some (.object (m :: taken).reverse, rest)
      | _ => none := by
  simp [readMembers?.eq_def (fuel + 1), opens, name, colon, value]

end

/-- How many lists and objects may stand inside one another. -/
def maxNesting : Nat := 10000

/-- The value that a text consists of. One whose lists and objects nest too deep is refused. -/
def parse? (text : Bytes) : Option Json :=
  match readValue? (2 * text.length + 2) text with
  | some (value, rest) => if (skipBlanks rest).isEmpty && value.nestsWithin maxNesting then some value else none
  | none => none

end DesignLint.Json
