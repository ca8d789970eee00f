import DesignLint.Token

/-! The lexer. At each place the first lexical rule that matches decides, in a fixed order, and takes
the text that its pattern prefers. One rule looks back: a character literal right after a name or a
closing bracket is the tick of an attribute or a qualified expression, as in `x'('0')`, so only the
tick is taken there, and the rules start again right behind it. -/
namespace DesignLint.Lexer

/-- The lexical rules, in the order in which they are tried. -/
inductive Rule where
  | comment
  | blanks
  | bitString
  | string
  | character
  | number
  | identifier
  | operator
  | tick
  | punctuation
deriving Repr, DecidableEq

def isBlank (b : UInt8) : Bool := b = 32 || b = 9 || b = 13 || b = 10 || b = 12 || b = 11
def isDigit (b : UInt8) : Bool := 48 ≤ b && b ≤ 57
def isLetter (b : UInt8) : Bool := (65 ≤ b && b ≤ 90) || (97 ≤ b && b ≤ 122)
def isUnderscore (b : UInt8) : Bool := b = 95
def isNewline (b : UInt8) : Bool := b = 10
def isQuote (b : UInt8) : Bool := b = 34
def isApostrophe (b : UInt8) : Bool := b = 39
def isBackslash (b : UInt8) : Bool := b = 92

/-- The number of leading bytes of a class. -/
def countWhile (p : UInt8 → Bool) (text : Bytes) : Nat := (text.takeWhile p).length

/-- The bytes up to and including the first `*/`. -/
def blockEnd? : Bytes → Option Nat
  | [] => none
  | b :: rest =>
    if b = 42 && rest.head? = some 47 then some 2 else (blockEnd? rest).map (· + 1)

/-- A line comment up to the end of its line, or a block comment that is closed. -/
def comment? : Bytes → Option Nat
  | 45 :: 45 :: rest => some (2 + countWhile (!isNewline ·) rest)
  | 47 :: 42 :: rest => (blockEnd? rest).map (· + 2)
  | _ => none

/-- A run of at least one byte of a class. -/
def run? (p : UInt8 → Bool) (text : Bytes) : Option Nat :=
  match countWhile p text with
  | 0 => none
  | n => some n

/-- The digits of a bit string: letters and digits of any case, underscores and blanks. Matching without
regard to case admits the long s and the Kelvin sign as well. -/
def bitDigits : Bytes → Nat
  | [] => 0
  | b :: rest =>
    if isLetter b || isDigit b || isUnderscore b || b = 32 then bitDigits rest + 1
    else match b, rest with
      | 0xC5, 0xBF :: rest' => bitDigits rest' + 2
      | 0xE2, 0x84 :: 0xAA :: rest' => bitDigits rest' + 3
      | _, _ => 0

/-- The sign letter of a bit string, if there is one: u or s of any case, or the long s. -/
def bitSign : Bytes → Nat
  | 0xC5 :: 0xBF :: _ => 2
  | b :: _ => if b = 117 || b = 85 || b = 115 || b = 83 then 1 else 0
  | [] => 0

/-- The base letter of a bit string: b, o, d or x of any case. -/
def isBitBase (b : UInt8) : Bool :=
  b = 98 || b = 66 || b = 111 || b = 79 || b = 100 || b = 68 || b = 120 || b = 88

/-- An optional width, an optional sign, a base and digits between quotes. -/
def bitString? (text : Bytes) : Option Nat :=
  let width := countWhile isDigit text
  let lead := width + bitSign (text.drop width)
  match text.drop lead with
  | base :: open_ :: body =>
    if isBitBase base && isQuote open_ then
      let n := bitDigits body
      match body.drop n with
      | close :: _ => if isQuote close then some (lead + 2 + n + 1) else none
      | [] => none
    else none
  | _ => none

/-- What follows the opening quote of a string, up to its closing quote. A doubled quote belongs to the
string if a closing quote still follows, and closes it otherwise. -/
def stringEnd? : Bytes → Option Nat
  | [] => none
  | b :: rest =>
    if isNewline b then none
    else if isQuote b then
      match rest with
      | c :: rest' =>
        if isQuote c then
          match stringEnd? rest' with
          | some n => some (n + 2)
          | none => some 1
        else some 1
      | [] => some 1
    else (stringEnd? rest).map (· + 1)

def string? : Bytes → Option Nat
  | b :: rest => if isQuote b then (stringEnd? rest).map (· + 1) else none
  | [] => none

/-- One character other than a line break between apostrophes. -/
def character? : Bytes → Option Nat
  | a :: b :: rest =>
    if isApostrophe a && !isNewline b then
      let rest' := (Bytes.step b rest).2
      match rest' with
      | c :: _ => if isApostrophe c then some (rest.length - rest'.length + 3) else none
      | [] => none
    else none
  | _ => none

/-- The digits of a based literal between its two number signs. -/
def isBasedDigit (b : UInt8) : Bool :=
  isDigit b || (97 ≤ b && b ≤ 102) || (65 ≤ b && b ≤ 70) || isUnderscore b || b = 46

/-- The part of a number between two number signs, if it is complete. -/
def basedPart (text : Bytes) : Nat :=
  match text with
  | 35 :: rest =>
    let n := countWhile isBasedDigit rest
    match n, rest.drop n with
    | 0, _ => 0
    | _, 35 :: _ => n + 2
    | _, _ => 0
  | _ => 0

/-- A point and the digits after it. -/
def fractionPart (text : Bytes) : Nat :=
  match text with
  | 46 :: rest =>
    match countWhile (fun b => isDigit b || isUnderscore b) rest with
    | 0 => 0
    | n => n + 1
  | _ => 0

/-- An exponent mark, an optional sign and digits. -/
def exponentPart (text : Bytes) : Nat :=
  match text with
  | e :: rest =>
    if e = 101 || e = 69 then
      let sign := match rest with
        | s :: _ => if s = 43 || s = 45 then 1 else 0
        | [] => 0
      match countWhile isDigit (rest.drop sign) with
      | 0 => 0
      | n => n + sign + 1
    else 0
  | [] => 0

/-- A decimal, real or based literal. -/
def number? (text : Bytes) : Option Nat :=
  match text with
  | b :: _ =>
    if isDigit b then
      let whole := countWhile (fun b => isDigit b || isUnderscore b) text
      let based := whole + basedPart (text.drop whole)
      let real := based + fractionPart (text.drop based)
      some (real + exponentPart (text.drop real))
    else none
  | [] => none

/-- A letter with letters, digits and underscores after it, or an extended identifier between
backslashes. -/
def identifier? : Bytes → Option Nat
  | b :: rest =>
    if isLetter b then
      some (countWhile (fun b => isLetter b || isDigit b || isUnderscore b) rest + 1)
    else if isBackslash b then
      let n := countWhile (fun b => !isBackslash b && !isNewline b) rest
      match n, rest.drop n with
      | 0, _ => none
      | _, c :: _ => if isBackslash c then some (n + 2) else none
      | _, [] => none
    else none
  | [] => none

/-- The compound delimiters, in the order in which they are tried. -/
def operators : List Bytes :=
  ["<=", ">=", ":=", "=>", "/=", "**", "<>", "??", "?/=", "?<=", "?>=", "?=", "?<", "?>", "<<",
    ">>"].map Bytes.ofString

def operator? (text : Bytes) : Option Nat :=
  (operators.find? (·.isPrefixOf text)).map List.length

/-- The delimiters of one character. -/
def punctuation : Bytes := Bytes.ofString "-+*/&(),.;:<>=|[]@^?"

def single? (p : UInt8 → Bool) : Bytes → Option Nat
  | b :: _ => if p b then some 1 else none
  | [] => none

namespace Rule

/-- How much of the text the rule takes, if it matches at its start. -/
def take? : Rule → Bytes → Option Nat
  | comment => comment?
  | blanks => run? isBlank
  | bitString => bitString?
  | string => string?
  | character => character?
  | number => number?
  | identifier => identifier?
  | operator => operator?
  | tick => single? isApostrophe
  | punctuation => single? (Lexer.punctuation.elem ·)

/-- The class of the tokens that the rule makes; comments and blanks make none. -/
def kind? : Rule → Option TokenKind
  | comment | blanks => none
  | bitString => some .bitString
  | string => some .string
  | character => some .character
  | number => some .number
  | identifier => some .identifier
  | operator | punctuation => some .delimiter
  | tick => some .tick

/-- All rules in order. -/
def all : List Rule :=
  [comment, blanks, bitString, string, character, number, identifier, operator, tick, punctuation]

/-- The first rule that matches, with how much it takes. -/
def first? (text : Bytes) : Option (Rule × Nat) :=
  all.findSome? fun rule => (rule.take? text).map (rule, ·)

end Rule

/-- A place where no rule matches, and the text from there on. -/
structure Fault where
  offset : Nat
  rest : Bytes

/-- Shows at most sixteen characters of the text that could not be read. -/
def Fault.message (fault : Fault) : String :=
  let shown := fault.rest.chars
  let sample := if shown.length > 16 then shown.take 16 ++ ['.', '.', '.'] else shown
  "invalid input text " ++ Quoted.quoteString (String.ofList sample)

/-- Whether a tick right after this token starts an attribute or a qualified expression: after a name, the word `all`
or a closing bracket. -/
def takesAttribute (t : Token) : Bool :=
  if t.kind = .identifier then t.isName || t.word = "all" else t.text = [41] || t.text = [93]

/-- Whether a character literal at `offset` has to be split after its tick. -/
def splitsTick (last : Option Token) (offset : Nat) : Bool :=
  match last with
  | some t => t.stop = offset && takesAttribute t
  | none => false

/-- One run of the rules over a text that stands at `base`, from position `pos` on. The tokens before it are given
latest first. The run ends with the text, or right after a tick that had to be split off; then it gives the place to
start again from. -/
def pass (base : Nat) (done : List Token) (pos : Nat) : Bytes → Except Fault (List Token × Option (Nat × Bytes))
  | [] => .ok (done, none)
  | b :: rest =>
    match Rule.first? (b :: rest) with
    | none => .error ⟨base + pos, b :: rest⟩
    | some (rule, n) =>
      match rule.kind? with
      | none => pass base done (pos + n) (rest.drop (n - 1))
      | some kind =>
        let token := Token.ofText kind (b :: rest.take (n - 1)) (base + pos)
        if kind = .character && splitsTick done.head? token.offset then
          .ok (Token.ofText .tick [b] token.offset :: done, some (token.offset + 1, rest))
        else pass base (token :: done) (pos + n) (rest.drop (n - 1))
termination_by text => text.length
decreasing_by all_goals simp <;> omega

/-- What a run leaves is shorter than what it was given. -/
theorem pass_shortens {base pos : Nat} {done done' : List Token} {text rest : Bytes} {next : Nat}
    (ran : pass base done pos text = .ok (done', some (next, rest))) : rest.length < text.length := by
  fun_induction pass base done pos text with
  | case1 => cases ran
  | case2 => cases ran
  | case3 done pos b rest' rule n found _ ih =>
    have := ih ran
    simp only [List.length_drop, List.length_cons] at this ⊢
    omega
  | case4 done pos b rest' rule n found kind made token splits =>
    cases ran
    simp
  | case5 done pos b rest' rule n found kind made token splits ih =>
    have := ih ran
    simp only [List.length_drop, List.length_cons] at this ⊢
    omega

/-- Runs the rules over a text, and again after each tick that was split off. The tokens come latest first. -/
def passes (base : Nat) (done : List Token) (text : Bytes) : Except Fault (List Token) :=
  match _ran : pass base done 0 text with
  | .error fault => .error fault
  | .ok (done, none) => .ok done
  | .ok (done, some (next, rest)) => passes next done rest
termination_by text.length
decreasing_by exact pass_shortens (by assumption)

end Lexer

/-- The significant tokens of a text. -/
def lex (text : Bytes) : Except Lexer.Fault (List Token) := (Lexer.passes 0 [] text).map List.reverse

/-- The significant tokens of a text, closed by the end of the text. -/
def tokenize (text : Bytes) : Except Lexer.Fault (List Token) :=
  (lex text).map (· ++ [Token.endOfText text.length])

end DesignLint
