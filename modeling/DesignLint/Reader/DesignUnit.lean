import DesignLint.Reader.Concurrent

/-! Design units and whole files: context clauses, entities, architectures and packages. Context
declarations, configurations and package instantiations are read over. -/
namespace DesignLint
namespace Reader

/-- Reads a library clause. Its names may prefix selected names from here on. -/
def libraryClause : Reader Unit := do
  skip "library"
  let names ← nameList
  modify fun s => { s with
    tree := { s.tree with libraries := s.tree.libraries ++ names.map Token.text }
    libraryNames := s.libraryNames ++ names.map Token.word }
  skip ";"

/-- Reads over further names of a context reference. -/
def furtherContexts : Reader Unit :=
  loop (fun () => do
    if ← accept [","] then
      discard selectedName
      return .again ()
    else return .done ()) ()

/-- Reads over the items of a context declaration; its library clauses count. -/
def contextItems : Reader Unit :=
  loop (fun () => do
    if ← sees ["end"] then return .done ()
    else if ← atEnd then fail "unterminated context declaration"
    else if ← sees ["library"] then
      libraryClause
      return .again ()
    else
      skipPast ";"
      return .again ()) ()

/-- Reads over a context reference or a context declaration. -/
def contextClause : Reader Unit := do
  skip "context"
  discard selectedName
  furtherContexts
  if ← accept [";"] then return ()
  else
    skip "is"
    contextItems
    endOf ["context"]

/-- Ends the reading because a file may hold one unit of each kind only. -/
def failMultiple {α : Type} (start : Token) (units : String) : Reader α :=
  throw (.unexpected start.offset
    (Bytes.ofString ("multiple " ++ units ++ " in one file are not supported")))

/-- Refuses a second unit of a kind. -/
def refuseSecond (unit : Tree → Option NodeId) (start : Token) (units : String) : Reader Unit := do
  if (unit (← get).tree).isSome then failMultiple start units else return ()

/-- Reads over the declarative part and the passive statements of an entity. -/
def entityRest (n : Token) : Reader Unit :=
  loop (fun () => do
    if ← sees ["end"] then return .done ()
    else if ← atEnd then failWith (Bytes.ofString "unterminated entity " ++ n.text)
    else if ← accept ["begin"] then return .again ()
    else
      skipPast ";"
      return .again ()) ()

/-- Reads an entity. -/
def entity : Reader Unit := do
  let start ← expect "entity"
  refuseSecond Tree.entity start "entities"
  let id ← begin 0 start (.entity {})
  modifyTree fun t => { t with entity := some id }
  let n ← name
  skip "is"
  let (genericIds, portIds) ← interfaceClauses id
  entityRest n
  endOf ["entity"]
  complete id (.entity ⟨n.text, genericIds, portIds⟩)

/-- Reads an architecture. -/
def architecture : Reader Unit := do
  let start ← expect "architecture"
  refuseSecond Tree.architecture start "architectures"
  let id ← begin 0 start (.architecture {})
  modifyTree fun t => { t with architecture := some id }
  let n ← name
  skip "of"
  let unit ← name
  skip "is"
  let d ← declarations id false
  skip "begin"
  let b ← concurrentStatements id (Body.declare {} d)
  endOf ["architecture"]
  complete id (.architecture ⟨n.text, unit.text, b⟩)

/-- The place of a package or of a package body in a tree. -/
def packagePlace (isBody : Bool) (t : Tree) : Option NodeId := if isBody then t.packageBody else t.package

/-- Puts a package or a package body into its place. -/
def placePackage (isBody : Bool) (id : NodeId) (t : Tree) : Tree :=
  if isBody then { t with packageBody := some id } else { t with package := some id }

/-- Reads the declarations of a package or a package body, up to its end. -/
def packageDeclarations (start n : Token) (isBody : Bool) : Reader Unit := do
  refuseSecond (packagePlace isBody) start "packages"
  let id ← begin 0 start (.package { name := n.text })
  modifyTree (placePackage isBody id)
  ifAccepted ["generic"] () (skipPast ";")
  let d ← declarations id false
  endOf (if isBody then ["package", "body"] else ["package"])
  complete id (.package ⟨n.text, d.constants, d.signals, d.types, d.functions, d.components⟩)

/-- Reads a package, a package body or, over it, the instance of a generic package. -/
def package : Reader Unit := do
  let start ← expect "package"
  let isBody ← accept ["body"]
  let n ← name
  skip "is"
  if ← sees ["new"] then skipPast ";" else packageDeclarations start n isBody

/-- Reads over a configuration declaration. -/
def configuration : Reader Unit := do
  skip "configuration"
  discard name
  skip "of"
  discard name
  skip "is"
  loop (fun (depth : Int) => do
    if ← atEnd then fail "unterminated configuration"
    else
      let seesEnd ← sees ["end"]
      if seesEnd && (← seesSecond ["for"]) then
        discard next
        discard next
        return .again (depth - 1)
      else if seesEnd && depth ≤ 0 then return .done ()
      else if (← next).word = "for" then return .again (depth + 1)
      else return .again depth) 0
  endOf ["configuration"]

/-- Reads one design unit or context item. -/
def designUnit : Reader Unit := do
  if ← sees ["library"] then libraryClause
  else if ← sees ["use"] then useClause 0
  else if ← sees ["context"] then contextClause
  else if ← sees ["entity"] then entity
  else if ← sees ["architecture"] then architecture
  else if ← sees ["package"] then package
  else if ← sees ["configuration"] then configuration
  else failExpecting "a design unit" (← peek)

/-- Reads a whole file. -/
def designFile : Reader Unit :=
  loop (fun () => do
    if ← atEnd then return .done ()
    else
      designUnit
      return .again ()) ()

end Reader

/-- A text that is no design file: where it fails and why. -/
structure FormatError where
  path : String
  offset : Nat
  coordinate : Coordinate
  reason : Bytes

/-- The place, counted from one, and the reason. -/
def FormatError.message (e : FormatError) : Bytes :=
  Bytes.ofString (e.path ++ ":" ++ toString (e.coordinate.line + 1) ++ ":"
    ++ toString (e.coordinate.character + 1) ++ ": ") ++ e.reason

/-- Why a text has no tree. -/
inductive ParseFault where
  | format (error : FormatError)
  | tree (fault : Fault)
  | outside
  | stalled

/-- The wording of the fault. -/
def ParseFault.message : ParseFault → Bytes
  | format error => error.message
  | tree fault => Bytes.ofString fault.message
  | outside => Bytes.ofString "place outside the file"
  | stalled => Bytes.ofString "no progress"

namespace Tree

/-- A format error at an offset of a text. -/
def formatError (path : String) (text : Bytes) (offset : Nat) (reason : Bytes) : FormatError :=
  ⟨path, offset, Coordinate.ofOffset text offset, reason⟩

/-- Reads the tokens of a text from the first one on. -/
def read (path : String) (text : Bytes) (tokens : List Token) : Except ReadFault (Unit × ReaderState) :=
  Reader.designFile.run { rest := tokens, tree := Tree.ofText path text }

/-- The tree of a design file. -/
def parse (path : String) (text : Bytes) : Except ParseFault Tree :=
  match tokenize text with
  | .error fault =>
    .error (.format (formatError path text fault.offset (Bytes.ofString fault.message)))
  | .ok tokens =>
    match read path text tokens with
    | .ok ((), s) => .ok s.tree
    | .error (.unexpected offset reason) => .error (.format (formatError path text offset reason))
    | .error (.tree _ fault) => .error (.tree fault)
    | .error .outside => .error .outside
    | .error .stalled => .error .stalled

end Tree
end DesignLint
