import DesignLint.Token.Lexer
import DesignLint.Tree.Arena

/-! Reading tokens into a tree. A reader moves through the tokens of a file and adds nodes to its tree.
The first thing that goes wrong ends the reading. Loops run as long as their body reads on: a body that
asks to go on without having read a token would never end, and is refused. The end of the text is a token
too, and is never passed; a token before the first or behind the last would be a fault. -/
namespace DesignLint

/-- Why a file could not be read. -/
inductive ReadFault where
  /-- The tokens do not form a design file. -/
  | unexpected (offset : Nat) (message : Bytes)
  /-- The tree, as it stands, cannot take another node. -/
  | tree (tree : Tree) (fault : Fault)
  /-- A token or byte outside the file was asked for. -/
  | outside
  /-- A loop went on without reading. -/
  | stalled

/-- What is left to read, up to and including the end of the text, where the last token that was read
ended, the tree so far and the library names in lower case. -/
structure ReaderState where
  rest : List Token
  lastStop : Option Nat := none
  tree : Tree
  libraryNames : List String := ["work", "std", "ieee"]

/-- A computation that reads tokens and builds nodes. -/
abbrev Reader := StateT ReaderState (Except ReadFault)

/-- What the body of a loop decides. -/
inductive Turn (σ β : Type) where
  | again (state : σ)
  | done (result : β)

namespace Reader

/-- Repeats `body` until it is done. -/
def loop {σ β : Type} (body : σ → Reader (Turn σ β)) (state : σ) : Reader β := fun s =>
  match body state s with
  | .error fault => .error fault
  | .ok (.done result, s') => .ok (result, s')
  | .ok (.again state', s') =>
    if s'.rest.length < s.rest.length then loop body state' s' else .error .stalled
termination_by s => s.rest.length

/-- The `n`-th token from here, or the last one if there are fewer. -/
def peekAt (n : Nat) : Reader Token := do
  let s ← get
  match s.rest[n]? with
  | some t => return t
  | none =>
    match s.rest.getLast? with
    | some t => return t
    | none => throw .outside

/-- The token to be read next. -/
def peek : Reader Token := peekAt 0

/-- Reads one token. The end of the text is never passed. -/
def next : Reader Token := do
  let s ← get
  match s.rest with
  | [] => throw .outside
  | t :: rest =>
    if t.kind = .endOfText then return t
    else
      set { s with rest, lastStop := some t.stop }
      return t

/-- Ends the reading with a message about the place of the next token. -/
def failWith {α : Type} (message : Bytes) : Reader α := do
  throw (.unexpected (← peek).offset message)

/-- Ends the reading with a plain message. -/
def fail {α : Type} (message : String) : Reader α := failWith (Bytes.ofString message)

/-- Ends the reading because the token is not what is expected. -/
def failExpecting {α : Type} (what : String) (found : Token) : Reader α :=
  fail ("expected " ++ what ++ ", found " ++ found.describe)

/-- Whether the next token is one of the words. -/
def sees (words : List String) : Reader Bool := return words.contains (← peek).word

/-- Whether the token after the next one is one of the words. -/
def seesSecond (words : List String) : Reader Bool := return words.contains (← peekAt 1).word

/-- Whether everything is read. -/
def atEnd : Reader Bool := return (← peek).kind = .endOfText

/-- Reads the next token if it is one of the words. -/
def accept (words : List String) : Reader Bool := do
  if ← sees words then
    discard next
    return true
  else return false

/-- Reads on after one of the words, or gives `otherwise` if none of them stands here. -/
def ifAccepted {α : Type} (words : List String) (otherwise : α) (x : Reader α) : Reader α := do
  if ← accept words then x else return otherwise

/-- Reads the next token, which has to be the word. -/
def expect (word : String) : Reader Token := do
  if ← sees [word] then next
  else failExpecting (Quoted.quoteString word) (← peek)

/-- Reads over the word. -/
def skip (word : String) : Reader Unit := discard (expect word)

/-- Whether the next token is an identifier other than a reserved word. -/
def seesName : Reader Bool := return (← peek).isName

/-- Reads an identifier. -/
def name : Reader Token := do
  if ← seesName then next else failExpecting "identifier" (← peek)

/-- Reads an identifier if there is one. -/
def optionalName : Reader Unit := do
  if ← seesName then discard next

/-- Reads identifiers separated by commas. -/
def nameList : Reader (List Token) := do
  let first ← name
  let others ← loop (fun (names : List Token) => do
    if ← accept [","] then return .again ((← name) :: names)
    else return .done names.reverse) []
  return first :: others

/-- Reads names separated by points, the last of which may be `all`. -/
def selectedName : Reader (List Bytes) := do
  let first ← name
  let others ← loop (fun (parts : List Bytes) => do
    if ← accept ["."] then
      if ← accept ["all"] then return .done (Bytes.ofString "all" :: parts).reverse
      else return .again ((← name).text :: parts)
    else return .done parts.reverse) []
  return first.text :: others

/-- Reads a statement label, if there is one. -/
def label : Reader Bytes := do
  if (← seesName) && (← seesSecond [":"]) then
    let t ← next
    discard next
    return t.text
  else return []

/-- Adds a node that spans the given part of the text. -/
def attach (parent : NodeId) (start stop : Nat) (construct : Construct) : Reader NodeId := do
  let s ← get
  match s.tree.attach parent start stop construct with
  | .ok (tree, id) =>
    set { s with tree }
    return id
  | .error fault => throw (.tree s.tree fault)

/-- Adds a node for a construct that has only begun. -/
def begin (parent : NodeId) (start : Token) (construct : Construct) : Reader NodeId :=
  attach parent start.offset start.offset construct

/-- Adds a node for exactly one token. -/
def attachToken (parent : NodeId) (t : Token) (construct : Construct) : Reader NodeId :=
  attach parent t.offset t.stop construct

/-- Changes the tree. -/
def modifyTree (change : Tree → Tree) : Reader Unit := modify fun s => { s with tree := change s.tree }

/-- Says what a node is. -/
def become (id : NodeId) (construct : Construct) : Reader Unit :=
  modifyTree (·.update id fun _ => construct)

/-- Lets a node end at an offset. -/
def endAt (id : NodeId) (stop : Nat) : Reader Unit :=
  modifyTree (·.modify id fun node => { node with stop })

/-- Lets a node end where the last token ended. -/
def finish (id : NodeId) : Reader Unit := do
  match (← get).lastStop with
  | some stop => endAt id stop
  | none => throw .outside

/-- Says what a node is, and lets it end here. -/
def complete (id : NodeId) (construct : Construct) : Reader Unit := do
  become id construct
  finish id

/-- Adds a node for each of the tokens. -/
def attachEach (parent : NodeId) (construct : Token → Construct) (names : List Token) :
    Reader (List (Token × NodeId)) :=
  names.mapM fun n => return (n, ← attachToken parent n (construct n))

/-- Says what the nodes of some tokens are, lets them end here and gives their numbers. -/
def completeEach (construct : Token → Construct) (items : List (Token × NodeId)) : Reader (List NodeId) :=
  items.mapM fun (n, id) => do
    complete id (construct n)
    return id

/-- Reads the name or operator that a construct may repeat at its end. -/
def optionalDesignator : Reader Unit := do
  if (← seesName) || (← peek).kind = .string then discard next

/-- Reads `end`, the words as far as they are there, an optional name and a semicolon. -/
def endOf (words : List String) : Reader Unit := do
  skip "end"
  words.forM fun word => discard (accept [word])
  optionalDesignator
  skip ";"

end Reader
end DesignLint
