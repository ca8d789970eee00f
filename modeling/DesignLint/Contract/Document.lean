import DesignLint.Contract.Token

/-! Documents to be held against a contract. They are JSON with some freedom: a name needs no quotes, a line break
can stand for a comma between members, a comma may follow the last item, several names may stand before a value,
and the outermost braces may be left out. Values may be left open, and what is said about one value in several
places has to hold together. -/
namespace DesignLint.Contract

/-- The value or the kind of values that a name stands for. -/
def named? : String → Option Term
  | "_" => some .unstated
  | "null" => some .null
  | "true" => some (.flag true)
  | "false" => some (.flag false)
  | "string" => some (.kind .text)
  | "bytes" => some (.kind .bytes)
  | "bool" => some (.kind .flag)
  | "int" => some (.kind .whole)
  | "float" => some (.kind .decimal)
  | "number" => some (.kind .number)
  | _ => none

/-- What a sign before a value makes of it. -/
def signed? (sign : String) (t : Term) : Option Term :=
  match sign, t with
  | "+", .whole _ | "+", .decimal _ => some t
  | "-", .whole n => some (.whole (-n))
  | "-", .decimal n => some (.decimal (if n.digits = 0 then n else n.neg))
  | "!", .flag b => some (.flag !b)
  | _, _ => none

/-- How a member is stated: for sure, or only in case there is one. -/
inductive Presence where
  | stated
  | optional
  | required

/-- The name of a member and its colon. -/
def label? : List Token → Option (String × Bool × Presence × List Token)
  | .name n :: rest => (colon? rest).map fun (p, rest) => (n, false, p, rest)
  | .text n :: rest => (colon? rest).map fun (p, rest) => (composed n, true, p, rest)
  | .bytes b :: rest =>
    (colon? rest).map fun (p, rest) => (composed (Bytes.decode (b.map Nat.toUInt8)), true, p, rest)
  | _ => none
where
  colon? : List Token → Option (Presence × List Token)
    | .sign ":" :: rest => some (.stated, rest)
    | .sign "?" :: .sign ":" :: rest => some (.optional, rest)
    | .sign "!" :: .sign ":" :: rest => some (.required, rest)
    | _ => none

/-- Whether a member under a name without quotes is one for the document itself and no part of the value. -/
def isInternal (name : String) : Bool := name.startsWith "_" || name.startsWith "#"

/-- What a member says about the record it stands in. -/
def memberTerm (name : String) (isQuoted : Bool) (presence : Presence) (value : Term) : Term :=
  if !isQuoted && isInternal name then .record []
  else
    match presence with
    | .stated => .record [(name, value)]
    | .optional => .record []
    | .required => .record [(name, .unstated)]

/-- What was said so far together with something more. -/
def saidWith? (said : Option Term) (more : Term) : Option (Option Term) :=
  match said with
  | none => some (some more)
  | some term => (term.meet? more).map some

/-- What follows an item between braces: a comma, unless it is the last. -/
def afterMember? (closing : Option Token) : List Token → Option (List Token)
  | .comma _ :: rest => some rest
  | rest => if rest.head? = closing then some rest else none

/-- What follows an item of a list, and whether it has to be the last: a line break does not separate items. -/
def afterItem? : List Token → Option (Bool × List Token)
  | .comma false :: rest => some (false, rest)
  | .comma true :: rest => some (true, rest)
  | .sign "]" :: rest => some (true, .sign "]" :: rest)
  | _ => none

mutual

/-- A value, or what several say together. -/
def term? : (size : Nat) → List Token → Option (Term × List Token)
  | 0, _ => none
  | size + 1, tokens => do
    let (first, rest) ← operand? size tokens
    match rest with
    | .sign "&" :: rest =>
      let (more, rest) ← term? size rest
      return (← first.meet? more, rest)
    | _ => return (first, rest)

/-- A value with the signs before it. -/
def operand? : (size : Nat) → List Token → Option (Term × List Token)
  | 0, _ => none
  | size + 1, tokens =>
    match tokens with
    | .text s :: rest => some (.text s, rest)
    | .bytes b :: rest => some (.bytes b, rest)
    | .whole n :: rest => some (.whole n, rest)
    | .decimal n :: rest => some (.decimal n, rest)
    | .name n :: rest => (named? n).map (·, rest)
    | .sign "\x7b" :: rest => members? size (some (.sign "\x7d")) none rest
    | .sign "[" :: rest => items? size [] rest
    | .sign "(" :: rest => do
      let (value, rest) ← term? size rest
      match rest with
      | .sign ")" :: rest => return (value, rest)
      | _ => none
    | .sign s :: rest => do
      let (value, rest) ← operand? size rest
      return (← signed? s value, rest)
    | _ => none

/-- The value of a member, perhaps with further names before it. -/
def memberValue? : (size : Nat) → List Token → Option (Term × List Token)
  | 0, _ => none
  | size + 1, tokens =>
    match label? tokens with
    | some (name, isQuoted, presence, rest) => do
      let (value, rest) ← memberValue? size rest
      return (memberTerm name isQuoted presence value, rest)
    | none => term? size tokens

/-- The items of a list and its closing bracket. -/
def items? : (size : Nat) → (taken : List Term) → List Token → Option (Term × List Token)
  | 0, _, _ => none
  | size + 1, taken, tokens =>
    match tokens with
    | .sign "]" :: rest => some (.list taken.reverse false, rest)
    | .sign "..." :: rest => do
      let rest ← match rest with
        | .comma _ :: _ | .sign "]" :: _ => some rest
        | _ => (term? size rest).map Prod.snd
      match afterMember? (some (.sign "]")) rest with
      | some (.sign "]" :: rest) => some (.list taken.reverse true, rest)
      | _ => none
    | _ => do
      let (item, rest) ← term? size tokens
      match ← afterItem? rest with
      | (false, rest) => items? size (item :: taken) rest
      | (true, .sign "]" :: rest) => some (.list (item :: taken).reverse false, rest)
      | _ => none

/-- What is said between braces, up to the closing one or the end of the text: members, and values that stand by
themselves. -/
def members? : (size : Nat) → (closing : Option Token) → (said : Option Term) → List Token →
    Option (Term × List Token)
  | 0, _, _, _ => none
  | size + 1, closing, said, tokens =>
    if tokens.head? = closing then some (said.getD (.record []), tokens.drop 1)
    else
      match tokens with
      | .sign "..." :: rest => do
        members? size closing (← saidWith? said (.record [])) (← afterMember? closing rest)
      | _ => do
        let (value, rest) ← memberValue? size tokens
        members? size closing (← saidWith? said value) (← afterMember? closing rest)

end

/-- What a document says; nothing if it is malformed or does not hold together. -/
def document? (text : Bytes) : Option Term :=
  let chars := Bytes.withoutMark text.chars
  if chars.any fun c => c = Bytes.orderMark || c.toNat = 0 then none
  else do
    let tokens ← tokens? (2 * chars.length + 2) false chars
    let (said, _) ← members? (2 * tokens.length + 2) none none tokens
    return said

end DesignLint.Contract
