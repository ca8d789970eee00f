/-! Byte texts. A design file is a sequence of bytes, usually but not always valid UTF-8, and every
offset of the analyser counts bytes. Reading a text as characters never fails: a byte that starts no
valid encoding reads as the replacement character U+FFFD and takes one byte. -/
namespace DesignLint

/-- A text as it is stored. -/
abbrev Bytes := List UInt8

namespace Bytes

/-- The UTF-8 encoding of a string. -/
def ofString (s : String) : Bytes := s.toUTF8.data.toList

/-- The UTF-8 encoding of a sequence of characters. -/
def ofChars (cs : List Char) : Bytes := cs.flatMap String.utf8EncodeChar

/-- What an invalid byte reads as. -/
def replacement : Char := Char.ofNat 0xFFFD

/-- Whether a byte goes on with a character that an earlier byte started. -/
def continues (b : UInt8) : Bool := 0x80 ≤ b && b ≤ 0xBF

/-- What a byte adds to the code of its character. -/
def bits (b : UInt8) (mask : UInt8) : Nat := (b &&& mask).toNat

/-- The character at the head of a non-empty text and the number of bytes after the first that belong to it.
Overlong forms, surrogates and values above U+10FFFF are invalid, and then only the first byte is taken. -/
def head (b : UInt8) (rest : Bytes) : Char × Nat :=
  if b < 0x80 then (Char.ofNat b.toNat, 0)
  else
    match rest with
    | [] => (replacement, 0)
    | c :: rest₁ =>
      if 0xC2 ≤ b && b ≤ 0xDF && continues c then
        (Char.ofNat (bits b 0x1F * 64 + bits c 0x3F), 1)
      else
        match rest₁ with
        | [] => (replacement, 0)
        | d :: rest₂ =>
          if 0xE0 ≤ b && b ≤ 0xEF && continues c && continues d
              && (b != 0xE0 || 0xA0 ≤ c) && (b != 0xED || c ≤ 0x9F) then
            (Char.ofNat ((bits b 0x0F * 64 + bits c 0x3F) * 64 + bits d 0x3F), 2)
          else
            match rest₂ with
            | [] => (replacement, 0)
            | e :: _ =>
              if 0xF0 ≤ b && b ≤ 0xF4 && continues c && continues d && continues e
                  && (b != 0xF0 || 0x90 ≤ c) && (b != 0xF4 || c ≤ 0x8F) then
                (Char.ofNat
                  (((bits b 0x07 * 64 + bits c 0x3F) * 64 + bits d 0x3F) * 64 + bits e 0x3F), 3)
              else (replacement, 0)

/-- The character at the head of a non-empty text and the bytes after it. -/
def step (b : UInt8) (rest : Bytes) : Char × Bytes := ((head b rest).1, rest.drop (head b rest).2)

/-- A step takes at least the byte it starts at. -/
theorem step_length_le (b : UInt8) (rest : Bytes) : (step b rest).2.length ≤ rest.length := by
  simp [step]

/-- The characters of a text, each with the bytes it is read from. -/
def units : Bytes → List (Char × Bytes)
  | [] => []
  | b :: rest =>
    let (c, taken) := head b rest
    (c, b :: rest.take taken) :: units (rest.drop taken)
termination_by text => text.length
decreasing_by simp only [List.length_drop, List.length_cons]; omega

/-- The characters of a text. -/
def chars (text : Bytes) : List Char := text.units.map Prod.fst

/-- The text as a string, one U+FFFD for each invalid byte. -/
def decode (text : Bytes) : String := String.ofList text.chars

/-- The byte behind a character that is read from an invalid one. -/
def invalidByte? : Char × Bytes → Option UInt8
  | (c, [b]) => if c == replacement then some b else none
  | _ => none

/-- Whether a text is valid UTF-8 throughout. -/
def isWellFormed (text : Bytes) : Bool := text.units.all fun unit => (invalidByte? unit).isNone

/-- The byte order mark, which may stand at the start of a text. -/
def orderMark : Char := Char.ofNat 0xFEFF

/-- Characters without the byte order mark at their start. -/
def withoutMark : List Char → List Char
  | [] => []
  | c :: rest => if c = orderMark then rest else c :: rest

/-- Whether `part` occurs in the text. -/
def occursIn (part : Bytes) : Bytes → Bool
  | [] => part.isEmpty
  | b :: rest => part.isPrefixOf (b :: rest) || occursIn part rest

/-- The pieces of the text between the occurrences of one byte. -/
def splitOn (sep : UInt8) : Bytes → List Bytes
  | [] => [[]]
  | b :: rest =>
    match splitOn sep rest with
    | [] => [[b]]
    | piece :: pieces => if b = sep then [] :: piece :: pieces else (b :: piece) :: pieces

/-- The bytes from `start` up to, not including, `stop`. -/
def slice (text : Bytes) (start stop : Nat) : Bytes := (text.drop start).take (stop - start)

private def hexDigit? (c : Char) : Option UInt8 :=
  if '0' ≤ c && c ≤ '9' then some (c.toNat - 48).toUInt8
  else if 'a' ≤ c && c ≤ 'f' then some (c.toNat - 87).toUInt8
  else if 'A' ≤ c && c ≤ 'F' then some (c.toNat - 55).toUInt8
  else none

/-- Reads pairs of hexadecimal digits. -/
def ofHex? : List Char → Option Bytes
  | [] => some []
  | h :: l :: rest => do
    let high ← hexDigit? h
    let low ← hexDigit? l
    return (high * 16 + low) :: (← ofHex? rest)
  | _ => none

end Bytes
end DesignLint
