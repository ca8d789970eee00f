import DesignLint.Reader.Sequential

/-! Concurrent statements: processes, instantiations, generate and block statements, and assignments.
Generate statements nest through a reader one level further down, as sequential statements do. -/
namespace DesignLint.Reader

/-- Reads a list of names in brackets, if there is one. -/
def bracketed (id : NodeId) : Reader (List NodeId) :=
  ifAccepted ["("] [] do
    let ids ← reads id (← phrase fun _ => false)
    skip ")"
    return ids

/-- Reads a process. Signals and components declared in it stay unattached. -/
def process (parent : NodeId) (start : Token) (label : Bytes) : Reader NodeId := do
  let id ← begin parent start (.process {})
  discard (accept ["postponed"])
  skip "process"
  let sensitivity ← bracketed id
  discard (accept ["is"])
  let d ← declarations id true
  skip "begin"
  let body ← statements id
  endOf ["postponed", "process"]
  complete id (.process ⟨label, sensitivity, d.locals, d.constants, d.types, d.functions, body⟩)
  return id

/-- Reads the formal of an association with its arrow. If there is none, the actual starts where the search
for a formal did. -/
def formalPart (id : NodeId) : Reader (List NodeId) := do
  let before ← get
  let p ← phraseUpTo ["=>", ","]
  if ← accept ["=>"] then reads id p
  else
    modify fun s => { s with rest := before.rest, lastStop := before.lastStop }
    return []

/-- Reads `[formal =>] actual`. -/
def association (map : NodeId) : Reader NodeId := do
  let start ← peek
  let id ← begin map start (.mapping {})
  let formal ← formalPart id
  if ← accept ["open"] then
    complete id (.mapping { formal })
    return id
  else
    let actual ← phraseUpTo [","]
    let ifInput ← reads id actual
    let (ifOutputWrites, ifOutputReads) ← occurrences id (if actual.isName then some 0 else none) actual
    complete id (.mapping { formal, ifInput, ifOutputReads, ifOutputWrites })
    return id

/-- Reads the associations of a map. -/
def associationMap (parent : NodeId) : Reader NodeId := do
  let id ← begin parent (← expect "(") (.map [])
  let mappings ← loop (fun (mappings : List NodeId) => do
    let mappings := mappings ++ [← association id]
    if ← accept [","] then return .again mappings else return .done mappings) []
  skip ")"
  complete id (.map mappings)
  return id

/-- Reads `word map (...)` if it is there. -/
def optionalMap (word : String) (parent : NodeId) : Reader (Option NodeId) :=
  ifAccepted [word] none do
    skip "map"
    return some (← associationMap parent)

/-- Reads the architecture of an instantiated entity, if it is there. -/
def optionalArchitecture : Reader Unit :=
  ifAccepted ["("] () do
    discard name
    skip ")"

/-- Reads which unit is instantiated: its kind, library and name. -/
def instantiatedUnit : Reader (InstanceKind × Bytes × Bytes) := do
  if ← accept ["entity"] then
    let parts ← selectedName
    optionalArchitecture
    return (.entity, if parts.length > 1 then parts.headD [] else [], parts.getLastD [])
  else if ← accept ["configuration"] then
    return (.component, [], (← selectedName).getLastD [])
  else
    discard (accept ["component"])
    return (.component, [], (← name).text)

/-- Reads a component or entity instantiation. -/
def instantiation (parent : NodeId) (start : Token) (label : Bytes) : Reader NodeId := do
  let id ← begin parent start (.instantiation {})
  let (kind, library, unitName) ← instantiatedUnit
  let genericMap ← optionalMap "generic" id
  let portMap ← optionalMap "port" id
  skip ";"
  complete id (.instantiation ⟨label, kind, library, unitName, genericMap, portMap⟩)
  return id

/-- The statements of a body, read under a parent and added to those already there. -/
abbrev BodyReader := NodeId → Body → Reader Body

/-- The words that start the declarative part of a generate body. -/
def generateDeclarationWords : List String :=
  ["signal", "constant", "type", "subtype", "shared", "variable", "file", "alias", "component",
    "function", "procedure", "pure", "impure", "attribute", "use"]

/-- Reads the declarations of a generate statement, if there are any, up to the start of its statements. -/
def generateDeclarations (id : NodeId) : Reader Body := do
  if ← sees generateDeclarationWords then
    let d ← declarations id false
    skip "begin"
    return Body.declare {} d
  else
    discard (accept ["begin"])
    return {}

/-- Reads the `end` of an alternative, if it has one of its own. -/
def alternativeEnd : Reader Unit := do
  if (← sees ["end"]) && !(← seesSecond ["generate"]) then endOf []

/-- Reads the body of a generate statement. -/
def generateBody (body : BodyReader) (id : NodeId) : Reader Body := do
  let declared ← generateDeclarations id
  let result ← body id declared
  alternativeEnd
  return result

/-- Reads a for-generate statement. -/
def forGenerate (body : BodyReader) (parent : NodeId) (start : Token) (label : Bytes) :
    Reader NodeId := do
  let id ← begin parent start (.generate {})
  skip "for"
  let n ← name
  skip "in"
  let bounds ← expression id ["generate"]
  skip "generate"
  let inner ← generateBody body id
  endOf ["generate"]
  complete id (.generate ⟨label, .forRange, n.text, bounds, [], inner⟩)
  return id

/-- Reads the condition of a branch. An else branch has none. -/
def branchCondition (id : NodeId) (conditional : Bool) : Reader (List NodeId) :=
  if conditional then expression id ["generate"] else return []

/-- Reads one branch of an if-generate statement. -/
def generateBranch (body : BodyReader) (parent : NodeId) (start : Token) (label : Bytes)
    (conditional : Bool) : Reader NodeId := do
  let id ← begin parent start (.generate {})
  discard Reader.label
  let condition ← branchCondition id conditional
  skip "generate"
  let inner ← generateBody body id
  complete id (.generate ⟨label, .condition, [], [], condition, inner⟩)
  return id

/-- Reads the else branch of an if-generate statement, if it has one. -/
def elseBranch (body : BodyReader) (parent : NodeId) (label : Bytes) : Reader (List NodeId) := do
  if ← sees ["else"] then return [← generateBranch body parent (← next) label false] else return []

/-- Reads an if-generate statement, one node for each branch. -/
def ifGenerate (body : BodyReader) (parent : NodeId) (start : Token) (label : Bytes) :
    Reader (List NodeId) := do
  skip "if"
  let first ← generateBranch body parent start label true
  let branches ← loop (fun (branches : List NodeId) => do
    if ← sees ["elsif"] then
      return .again (branches ++ [← generateBranch body parent (← next) label true])
    else return .done branches) [first]
  let last ← elseBranch body parent label
  endOf ["generate"]
  return branches ++ last

/-- Reads over a case-generate statement. -/
def skipCaseGenerate : Reader Unit :=
  loop (fun (depth : Int) => do
    let t ← next
    if t.kind = .endOfText then fail "unterminated case generate"
    else if t.word = "end" && (← sees ["generate"]) then
      discard next
      if depth = 1 then
        optionalName
        skip ";"
        return .done ()
      else return .again (depth - 1)
    else if t.word = "generate" then return .again (depth + 1)
    else return .again depth) 0

/-- Reads over the generic and port clauses and maps of a block. -/
def blockHeader : Reader Unit :=
  loop (fun () => do
    if ← sees ["generic", "port"] then
      skipPast ";"
      return .again ()
    else return .done ()) ()

/-- Reads a block statement. -/
def block (body : BodyReader) (parent : NodeId) (start : Token) (label : Bytes) : Reader NodeId := do
  let id ← begin parent start (.generate {})
  skip "block"
  let condition ← bracketed id
  discard (accept ["is"])
  blockHeader
  let d ← declarations id false
  skip "begin"
  let inner ← body id (Body.declare {} d)
  endOf ["block"]
  complete id (.generate ⟨label, .block, [], [], condition, inner⟩)
  return id

/-- Reads concurrent statements up to a word that closes the construct around them. -/
def concurrentList (statement : NodeId → Body → Reader Body) : BodyReader := fun parent =>
  loop fun (b : Body) => do
    if ← sees closingWords then return .done b
    else if ← atEnd then fail "unexpected end of file in statement part"
    else return .again (← statement parent b)

/-- Reads one concurrent statement, with at most `levels` levels below it, and adds it to a body. -/
def concurrentStatement : (levels : Nat) → NodeId → Body → Reader Body
  | 0, parent, _ => do throw (.tree (← get).tree (.tree (.longChain parent)))
  | levels + 1, parent, b => do
    let inner := concurrentList (concurrentStatement levels)
    let start ← peek
    let label ← label
    let postponed ← sees ["postponed"]
    if (← sees ["process"]) || (postponed && (← seesSecond ["process"])) then
      return { b with processes := b.processes ++ [← process parent start label] }
    else if (← sees ["entity", "component", "configuration"]) ||
        (!label.isEmpty && (← seesName) && (← seesSecond ["generic", "port", ";"])) then
      return { b with instantiations := b.instantiations ++ [← instantiation parent start label] }
    else if ← sees ["for"] then
      return { b with generates := b.generates ++ [← forGenerate inner parent start label] }
    else if ← sees ["if"] then
      return { b with generates := b.generates ++ (← ifGenerate inner parent start label) }
    else if ← sees ["case"] then
      skipCaseGenerate
      return b
    else if ← sees ["block"] then
      return { b with generates := b.generates ++ [← block inner parent start label] }
    else if (← sees ["with"]) || (postponed && (← seesSecond ["with"])) then
      discard (accept ["postponed"])
      return { b with assignments := b.assignments ++ [← selectedAssignment parent start label] }
    else
      discard (accept ["postponed"])
      return { b with assignments := b.assignments ++ [← simpleStatement parent start label] }

/-- Reads the statement part of an architecture. -/
def concurrentStatements : BodyReader := concurrentList (concurrentStatement (maxDepth + 2))

end DesignLint.Reader
