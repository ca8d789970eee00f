import DesignLint.Reader.Declaration

/-! Sequential statements. A compound statement reads the statements inside it through a reader of its
own, one level further down; since every level adds to the chain of parents, no file needs more levels
than the chain may have steps. -/
namespace DesignLint.Reader

/-- The statements of a block, read under a parent. -/
abbrev BlockReader := NodeId → Reader (List (Option NodeId))

/-- Lets a node end at an offset, less the white space before it. -/
def endTrimmed (id : NodeId) (limit : Nat) : Reader Unit := do
  let t := (← get).tree
  let start := (t.node? id).elim 0 Node.start
  match trimmedEnd? t.text start limit with
  | .ok stop => endAt id stop.toNat
  | .error (.range fault) => throw (.tree t (.range fault))
  | .error .beforeText => throw .outside

/-- Reads a branch with a condition, after its word. -/
def ifClause (block : BlockReader) (parent : NodeId) (word : Token) : Reader NodeId := do
  let id ← begin parent word (.ifClause {})
  let p ← phraseUpTo ["then"]
  let condition ← reads id p
  let conditionText ← textOf p
  skip "then"
  let body ← block id
  become id (.ifClause ⟨condition, conditionText, body⟩)
  -- A clause runs up to the next branch.
  endTrimmed id (← peek).offset
  return id

/-- Reads an if statement with its elsif and else branches. -/
def ifStatement (block : BlockReader) (parent : NodeId) (start : Token) (label : Bytes) :
    Reader NodeId := do
  let id ← begin parent start (.ifStatement {})
  let word ← expect "if"
  let clauses ← loop (fun ((word, clauses) : Token × List NodeId) => do
    let clauses := clauses ++ [← ifClause block id word]
    if ← sees ["elsif"] then return .again (← next, clauses) else return .done clauses) (word, [])
  let otherwise ← ifAccepted ["else"] [] (block id)
  endOf ["if"]
  complete id (.ifStatement ⟨label, clauses, otherwise⟩)
  return id

/-- Reads one arm of a case statement. -/
def caseArm (block : BlockReader) (parent : NodeId) : Reader NodeId := do
  let id ← begin parent (← next) (.caseArm {})
  let choices ← expression id ["=>"]
  skip "=>"
  let body ← block id
  complete id (.caseArm ⟨choices, body⟩)
  return id

/-- Reads a case statement. -/
def caseStatement (block : BlockReader) (parent : NodeId) (start : Token) (label : Bytes) :
    Reader NodeId := do
  let id ← begin parent start (.caseStatement {})
  skip "case"
  discard (accept ["?"])
  let selector ← expression id ["is"]
  skip "is"
  let arms ← loop (fun (arms : List NodeId) => do
    if ← sees ["when"] then return .again (arms ++ [← caseArm block id]) else return .done arms) []
  skip "end"
  skip "case"
  discard (accept ["?"])
  optionalName
  skip ";"
  complete id (.caseStatement ⟨label, selector, arms⟩)
  return id

/-- Reads what a loop runs over: the variable and the bounds of a for loop, or the condition of a while
loop. -/
def iteration (id : NodeId) : Reader (Bytes × List NodeId) := do
  if ← accept ["for"] then
    let n ← name
    skip "in"
    return (n.text, ← expression id ["loop"])
  else if ← accept ["while"] then return ([], ← expression id ["loop"])
  else return ([], [])

/-- Reads a for, while or plain loop. -/
def loopStatement (block : BlockReader) (parent : NodeId) (start : Token) (label : Bytes) :
    Reader NodeId := do
  let id ← begin parent start (.loop {})
  let (iterator, bounds) ← iteration id
  skip "loop"
  let body ← block id
  endOf ["loop"]
  complete id (.loop ⟨label, iterator, bounds, body⟩)
  return id

/-- Reads the name of the loop that an exit or next statement is about, if it is there. -/
def optionalLoopName : Reader Unit := do
  if (← seesName) && (← seesSecond ["when", ";"]) then discard next

/-- Reads an exit or next statement, whose condition is kept as reads. -/
def exitStatement (parent : NodeId) (start : Token) (label : Bytes) : Reader NodeId := do
  let id ← begin parent start (.assignment {})
  discard next
  optionalLoopName
  let condition ← ifAccepted ["when"] [] (expression id [";"])
  skip ";"
  complete id (.assignment { label, reads := condition })
  return id

/-- Reads an assignment, a procedure call, or a wait, assert, report or return statement. -/
def simpleStatement (parent : NodeId) (start : Token) (label : Bytes) : Reader NodeId := do
  let id ← begin parent start (.assignment {})
  if ← accept ["wait", "assert", "report", "return"] then
    let used ← expression id [";"]
    skip ";"
    complete id (.assignment { label, reads := used })
    return id
  else
    let target ← phraseUpTo ["<=", ":=", ";"]
    if ← sees ["<=", ":="] then
      let isVariable := (← next).word == ":="
      -- The names of an aggregate target stand one bracket deep.
      let depth := if (target.tokens.headD target.follow).word = "(" then 1 else 0
      let (writes, indices) ← occurrences id (some depth) target
      let used ← expression id [";"]
      skip ";"
      complete id (.assignment ⟨label, isVariable, writes, indices ++ used⟩)
      return id
    else
      let used ← reads id target
      skip ";"
      complete id (.assignment { label, reads := used })
      return id

/-- Reads an assignment sign, and says whether it is that of a variable. -/
def assignmentSign : Reader Bool := do
  let isVariable ← sees [":="]
  if ← accept ["<=", ":="] then return isVariable else failExpecting "\"<=\"" (← peek)

/-- Reads `with selector select target <= waveforms;`. -/
def selectedAssignment (parent : NodeId) (start : Token) (label : Bytes) : Reader NodeId := do
  let id ← begin parent start (.assignment {})
  skip "with"
  let selector ← expression id ["select"]
  skip "select"
  discard (accept ["?"])
  let target ← phraseUpTo ["<=", ":="]
  let isVariable ← assignmentSign
  let (writes, indices) ← occurrences id (some 0) target
  let used ← expression id [";"]
  skip ";"
  complete id (.assignment ⟨label, isVariable, writes, selector ++ indices ++ used⟩)
  return id

/-- The words that close a list of statements. -/
def closingWords : List String := ["end", "elsif", "else", "when"]

/-- Reads statements up to a word that closes the construct around them. -/
def statementList (statement : NodeId → Reader (Option NodeId)) : BlockReader := fun parent =>
  loop (fun (items : List (Option NodeId)) => do
    if ← sees closingWords then return .done items
    else if ← atEnd then fail "unexpected end of file in sequential statements"
    else
      match ← statement parent with
      | some id => return .again (items ++ [some id])
      | none => return .again items) []

/-- Reads one sequential statement, with at most `levels` levels below it. The null statement leaves no
node. -/
def statement : (levels : Nat) → NodeId → Reader (Option NodeId)
  | 0, parent => do throw (.tree (← get).tree (.tree (.longChain parent)))
  | levels + 1, parent => do
    let block := statementList (statement levels)
    let start ← peek
    let label ← label
    if ← sees ["if"] then ifStatement block parent start label
    else if ← sees ["case"] then caseStatement block parent start label
    else if ← sees ["for", "while", "loop"] then loopStatement block parent start label
    else if ← accept ["null"] then
      skip ";"
      return none
    else if ← sees ["exit", "next"] then exitStatement parent start label
    else if ← sees ["with"] then selectedAssignment parent start label
    else simpleStatement parent start label

/-- Reads the statements of a process. -/
def statements : BlockReader := statementList (statement (maxDepth + 2))

end DesignLint.Reader
