import DesignLint.Reader.Phrase

/-! Declarations: objects, interfaces, types, subprograms and components. Subprogram bodies are read over
without making nodes. -/
namespace DesignLint

/-- The items of a declarative part. -/
structure Declarations where
  signals : List NodeId := []
  locals : List NodeId := []
  constants : List NodeId := []
  types : List NodeId := []
  functions : List NodeId := []
  components : List NodeId := []

/-- Adds declarations to a body. -/
def Body.declare (b : Body) (d : Declarations) : Body :=
  { b with
    signals := b.signals ++ d.signals
    constants := b.constants ++ d.constants
    types := b.types ++ d.types
    functions := b.functions ++ d.functions
    components := b.components ++ d.components }

namespace Reader

/-- The words that start a subprogram. -/
def subprogramWords : List String := ["function", "procedure", "pure", "impure"]

/-- Reads a subtype indication and gives its text. -/
def subtypeText : Reader Bytes := do
  let p ← phraseUpTo [";", ":="]
  if p.tokens.isEmpty then failExpecting "a subtype indication" (← peek) else textOf p

/-- Reads the names of objects and adds a node for each. -/
def objectNames (parent : NodeId) (make : Declared → Construct) : Reader (List (Token × NodeId)) := do
  attachEach parent (fun _ => make {}) (← nameList)

/-- Reads `:= expression` if it is there. The reads belong to the first of the objects. -/
def initialValue (objects : List (Token × NodeId)) : Reader (List NodeId) :=
  ifAccepted [":="] [] (expression ((objects.map Prod.snd).headD 0) [";"])

/-- Reads `names : subtype [:= expression] ;`. The objects share their initial value. -/
def objects (parent : NodeId) (make : Declared → Construct) : Reader (List NodeId) := do
  let objects ← objectNames parent make
  skip ":"
  let typeText ← subtypeText
  let initial ← initialValue objects
  skip ";"
  completeEach (fun n => make ⟨n.text, typeText, initial⟩) objects

/-- Reads a mode; without one, a port is an input. -/
def direction : Reader Direction := do
  if ← accept ["in"] then return .input
  else if ← accept ["out", "buffer"] then return .output
  else if ← accept ["inout", "linkage"] then return .both
  else return .input

/-- Reads `names : [mode] subtype [:= expression]`. -/
def interfaceElement (parent : NodeId) (make : Direction → Declared → Construct) :
    Reader (List NodeId) := do
  let objects ← objectNames parent (make .input)
  skip ":"
  let mode ← direction
  let typeText ← subtypeText
  let initial ← initialValue objects
  completeEach (fun n => make mode ⟨n.text, typeText, initial⟩) objects

/-- Reads elements in brackets, separated by semicolons, and collects what they give. -/
def interfaceList (element : Reader (List NodeId)) : Reader (List NodeId) := do
  skip "("
  let items ← loop (fun (items : List NodeId) => do
    let items := items ++ (← element)
    if (← accept [";"]) && !(← sees [")"]) then return .again items
    else return .done items) []
  skip ")"
  return items

/-- Reads a generic clause. Generic types, subprograms and packages are read over. -/
def generics (parent : NodeId) : Reader (List NodeId) :=
  interfaceList do
    if ← sees ("type" :: "package" :: subprogramWords) then
      discard (phraseUpTo [";"])
      return []
    else
      discard (accept ["constant"])
      interfaceElement parent fun _ object => .generic object

/-- Reads a port clause. -/
def ports (parent : NodeId) : Reader (List NodeId) :=
  interfaceList do
    discard (accept ["signal"])
    interfaceElement parent fun mode object => .port object mode

/-- Reads a clause after its word, with the semicolon behind it, if it is there. -/
def optionalClause (word : String) (clause : Reader (List NodeId)) : Reader (List NodeId) :=
  ifAccepted [word] [] do
    let ids ← clause
    skip ";"
    return ids

/-- Reads the generic and the port clause of a unit, as far as they are there. -/
def interfaceClauses (parent : NodeId) : Reader (List NodeId × List NodeId) := do
  let genericIds ← optionalClause "generic" (generics parent)
  let portIds ← optionalClause "port" (ports parent)
  return (genericIds, portIds)

/-- Reads an alias and gives the token that it declares. -/
def aliasDeclaration : Reader Token := do
  skip "alias"
  let n ← next
  skipPast ";"
  return n

/-- Reads over the body of a subprogram, from after `is` to its end. Subprograms nested in its declarative
part are read over by `nested`; among its statements only `end if`, `end case` and `end loop` come
before the closing `end`. -/
def skipBody (nested : Reader Unit) : Reader Unit := do
  loop (fun () => do
    if ← sees ["begin"] then return .done ()
    else if ← atEnd then fail "unterminated subprogram body"
    else if ← sees subprogramWords then
      nested
      return .again ()
    else
      discard next
      return .again ()) ()
  discard next
  loop (fun () => do
    let t ← next
    if t.kind = .endOfText then fail "unterminated subprogram body"
    else if t.word = "end" then
      if ← accept ["if", "case", "loop"] then return .again ()
      else
        skipPast ";"
        return .done ()
    else return .again ()) ()

/-- Reads over a subprogram inside another one, down to the given nesting. -/
def skipSubprogram : (nesting : Nat) → Reader Unit
  | 0 => throw .stalled
  | nesting + 1 => do
    discard (accept ["pure", "impure"])
    discard next
    discard next
    discard (phraseUpTo [";", "is"])
    if ← accept [";"] then return ()
    else
      skip "is"
      if ← sees ["new"] then skipPast ";"
      else skipBody (skipSubprogram nesting)

/-- Reads over a nested subprogram. No subprogram can nest deeper than there are tokens. -/
def nestedSubprogram : Reader Unit := do
  skipSubprogram ((← get).rest.length + 1)

/-- Reads the name or operator that a subprogram declares. -/
def designator : Reader Token := do
  let n ← next
  if n.kind ≠ .identifier && n.kind ≠ .string then failExpecting "subprogram name" n else return n

/-- Reads what follows the designator of a subprogram: its parameters, its result, whose text is given, and
its body if it has one. An instance of a generic subprogram has none of them. -/
def subprogramRest : Reader Bytes := do
  if (← sees ["is"]) && (← seesSecond ["new"]) then
    skipPast ";"
    return []
  else
    discard (phraseUpTo [";", "is", "return"])
    let returnType ← ifAccepted ["return"] [] do textOf (← phraseUpTo [";", "is"])
    if ← accept [";"] then return returnType
    else
      skip "is"
      skipBody nestedSubprogram
      return returnType

/-- Reads a subprogram declaration, and over its body if it has one. -/
def subprogram (parent : NodeId) : Reader NodeId := do
  let start ← peek
  discard (accept ["pure", "impure"])
  let id ← begin parent start (.function {})
  let isProcedure ← sees ["procedure"]
  discard next
  let n ← designator
  let returnType ← subprogramRest
  complete id (.function ⟨n.text, isProcedure, returnType⟩)
  return id

/-- Reads a component declaration. -/
def component (parent : NodeId) : Reader NodeId := do
  let start ← expect "component"
  let id ← begin parent start (.component {})
  let n ← name
  discard (accept ["is"])
  let (genericIds, portIds) ← interfaceClauses id
  endOf ["component"]
  complete id (.component ⟨n.text, genericIds, portIds⟩)
  return id

/-- Reads one literal of an enumeration type. -/
def literal : Reader Token := do
  let t ← next
  if t.kind ≠ .identifier && t.kind ≠ .character then failExpecting "enumeration literal" t else return t

/-- Reads the literals of an enumeration type. -/
def literals (owner : NodeId) : Reader (List NodeId) := do
  let states ← loop (fun (states : List NodeId) => do
    let t ← literal
    let states := states ++ [← attachToken owner t (.state t.text)]
    if ← accept [","] then return .again states else return .done states) []
  skip ")"
  return states

/-- Reads `names : subtype ;` of a record type. -/
def fieldGroup (owner : NodeId) : Reader (List NodeId) := do
  let fields ← attachEach owner (fun n => .recordField n.text []) (← nameList)
  skip ":"
  let typeText ← subtypeText
  skip ";"
  completeEach (fun n => .recordField n.text typeText) fields

/-- Reads the fields of a record type, up to its end. -/
def recordFields (owner : NodeId) : Reader (List NodeId) := do
  let fields ← loop (fun (fields : List NodeId) => do
    if ← sees ["end"] then return .done fields
    else return .again (fields ++ (← fieldGroup owner))) []
  skip "end"
  skip "record"
  optionalName
  return fields

/-- Reads the units of a physical type, up to their end. -/
def physicalUnits (owner : NodeId) : Reader (List NodeId) := do
  let states ← loop (fun (states : List NodeId) => do
    if ← sees ["end"] then return .done states
    else
      let unit ← name
      let id ← attachToken owner unit (.state unit.text)
      skipPast ";"
      return .again (states ++ [id])) []
  skip "end"
  skip "units"
  optionalName
  return states

/-- Reads over a protected type. -/
def protectedType (n : Token) : Reader Unit := do
  discard (accept ["body"])
  loop (fun () => do
    if (← sees ["end"]) && (← seesSecond ["protected"]) then return .done ()
    else if ← atEnd then
      failWith (Bytes.ofString "unterminated protected type " ++ n.text)
    else if ← sees subprogramWords then
      nestedSubprogram
      return .again ()
    else
      discard next
      return .again ()) ()
  skip "end"
  skip "protected"
  discard (accept ["body"])
  optionalName

/-- Reads what a type is defined to be. -/
def typeDefinition (owner : NodeId) (n : Token) : Reader TypeDecl := do
  if ← accept ["("] then
    return { name := n.text, kind := .enumeration, states := ← literals owner }
  else if ← accept ["record"] then
    return { name := n.text, kind := .record, fields := ← recordFields owner }
  else if ← sees ["range"] then
    discard (phraseUpTo [";", "units"])
    if ← accept ["units"] then
      return { name := n.text, kind := .physical, states := ← physicalUnits owner }
    else return { name := n.text, kind := .plain }
  else if ← accept ["protected"] then
    protectedType n
    return { name := n.text, kind := .plain }
  else
    discard (phraseUpTo [";"])
    return { name := n.text, kind := .plain }

/-- Reads a type declaration, which may be incomplete. -/
def typeDeclaration (parent : NodeId) : Reader NodeId := do
  skip "type"
  let n ← name
  let id ← attachToken parent n (.typeDecl { name := n.text, kind := .plain })
  if ← accept [";"] then return id
  else
    skip "is"
    let decl ← typeDefinition id n
    skip ";"
    complete id (.typeDecl decl)
    return id

/-- Reads a subtype declaration. -/
def subtypeDeclaration (parent : NodeId) : Reader NodeId := do
  skip "subtype"
  let n ← name
  let id ← attachToken parent n (.typeDecl { name := n.text, kind := .plain })
  skipPast ";"
  complete id (.typeDecl { name := n.text, kind := .plain })
  return id

/-- Reads a use clause. Its clauses belong to the file, wherever they stand. -/
def useClause (parent : NodeId) : Reader Unit := do
  skip "use"
  loop (fun () => do
    let start ← peek
    let id ← begin parent start (.useClause {})
    let parts ← selectedName
    let item := List.intercalate (Bytes.ofString ".") (parts.drop 2)
    complete id (.useClause ⟨parts.headD [], parts[1]?.getD [], item⟩)
    modifyTree fun t => { t with uses := t.uses ++ [id] }
    if ← accept [","] then return .again () else return .done ()) ()
  skip ";"

/-- Reads one declarative item and adds it, or gives nothing if none starts here. In a process, variables and
aliases are variables; elsewhere they are kept as signals. -/
def declarativeItem (parent : NodeId) (inProcess : Bool) (d : Declarations) :
    Reader (Option Declarations) := do
  if ← accept ["signal"] then
    return some { d with signals := d.signals ++ (← objects parent .signal) }
  else if ← accept ["constant", "file"] then
    return some { d with constants := d.constants ++ (← objects parent .constant) }
  else if ← sees ["variable", "shared"] then
    discard (accept ["shared"])
    skip "variable"
    if inProcess then
      return some { d with locals := d.locals ++ (← objects parent .localVariable) }
    else return some { d with signals := d.signals ++ (← objects parent .signal) }
  else if ← sees ["alias"] then
    let n ← aliasDeclaration
    let object : Declared := ⟨n.text, Bytes.ofString "alias", []⟩
    if inProcess then
      return some { d with locals := d.locals ++ [← attachToken parent n (.localVariable object)] }
    else return some { d with signals := d.signals ++ [← attachToken parent n (.signal object)] }
  else if ← sees ["type"] then
    return some { d with types := d.types ++ [← typeDeclaration parent] }
  else if ← sees ["subtype"] then
    return some { d with types := d.types ++ [← subtypeDeclaration parent] }
  else if ← sees subprogramWords then
    return some { d with functions := d.functions ++ [← subprogram parent] }
  else if ← sees ["component"] then
    return some { d with components := d.components ++ [← component parent] }
  else if ← sees ["use"] then
    useClause parent
    return some d
  else if ← sees ["attribute", "for", "disconnect", "group"] then
    skipPast ";"
    return some d
  else return none

/-- Reads declarative items up to a token that cannot start one. -/
def declarations (parent : NodeId) (inProcess : Bool) : Reader Declarations :=
  loop (fun d => do
    match ← declarativeItem parent inProcess d with
    | some d' => return .again d'
    | none => return .done d) {}

end Reader
end DesignLint
