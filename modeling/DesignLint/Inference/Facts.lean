import DesignLint.Tree.View
import DesignLint.Inference.Rules

/-! Facts derived from a tree: which names a process writes and reads, whether it is a register process,
what it resets, which process registers a signal, and what an instantiation reads and writes. Each fact
is a plain function of the tree and the rules. -/
namespace DesignLint

/-- What an association reads, by the direction of its port. -/
def Mapping.readsFor (m : Mapping) : Option Direction → List NodeId
  | none | some .input | some .both => m.ifInput
  | some .output => m.ifOutputReads
  | some (.other _) => []

/-- What an association drives, by the direction of its port. -/
def Mapping.writesFor (m : Mapping) : Option Direction → List NodeId
  | some d => if d.writable then m.ifOutputWrites else []
  | none => []

namespace Tree

/-- Collects what a clause or an arm contributes: its own part and then its statements. -/
def flattenBranch (t : Tree) (inside : List (Option NodeId) → Except TreeFault (List NodeId))
    (branch? : Construct → Option (List NodeId × List (Option NodeId))) (id : NodeId) :
    Except TreeFault (List NodeId) :=
  match t.get? branch? id with
  | some (own, body) => return own ++ (← inside body)
  | none => return []

/-- A clause as a branch. -/
def clauseBranch? (ofClause : IfClause → List NodeId) : Construct → Option (List NodeId × List (Option NodeId))
  | .ifClause c => some (ofClause c, c.body)
  | _ => none

/-- An arm as a branch. -/
def armBranch? (ofArm : CaseArm → List NodeId) : Construct → Option (List NodeId × List (Option NodeId))
  | .caseArm a => some (ofArm a, a.body)
  | _ => none

/-- Collects what a statement contributes. The arguments say what an assignment, a branch, a selector and an
arm contribute before their own statements, and how the statements inside are collected. -/
def flattenStatement (t : Tree) (ofAssignment : Assignment → List NodeId) (ofClause : IfClause → List NodeId)
    (ofCase : CaseStatement → List NodeId) (ofArm : CaseArm → List NodeId)
    (inside : List (Option NodeId) → Except TreeFault (List NodeId)) :
    Option NodeId → Except TreeFault (List NodeId)
  | none => throw .absentStatement
  | some id => do
    match t.construct? id with
    | some (.assignment a) => return ofAssignment a
    | some (.ifStatement s) =>
      let branches ← s.clauses.mapM (t.flattenBranch inside (clauseBranch? ofClause))
      return branches.flatten ++ (← inside s.otherwise)
    | some (.caseStatement s) =>
      let arms ← s.arms.mapM (t.flattenBranch inside (armBranch? ofArm))
      return ofCase s ++ arms.flatten
    | some (.loop l) => inside l.body
    | _ => return []

/-- Collects what the statements of a list and everything inside them contribute. -/
def flatten (t : Tree) (ofAssignment : Assignment → List NodeId) (ofClause : IfClause → List NodeId)
    (ofCase : CaseStatement → List NodeId) (ofArm : CaseArm → List NodeId) :
    (levels : Nat) → List (Option NodeId) → Except TreeFault (List NodeId)
  | 0, _ => .error .endlessStatements
  | levels + 1, statements => do
    let inside := t.flatten ofAssignment ofClause ofCase ofArm levels
    let parts ← statements.mapM (t.flattenStatement ofAssignment ofClause ofCase ofArm inside)
    return parts.flatten

/-- The writes of a list of statements, in every branch and loop. -/
def flattenWrites (t : Tree) (statements : List (Option NodeId)) : Except TreeFault (List NodeId) :=
  t.flatten Assignment.writes (fun _ => []) (fun _ => []) (fun _ => []) (t.nodes.size + 1) statements

/-- The reads of a list of statements, with conditions, selectors and choices. -/
def flattenReads (t : Tree) (statements : List (Option NodeId)) : Except TreeFault (List NodeId) :=
  t.flatten Assignment.reads IfClause.condition CaseStatement.selector CaseArm.choices
    (t.nodes.size + 1) statements

/-- The clauses of the if statements that stand directly in a list. -/
def topClauses (t : Tree) (statements : List (Option NodeId)) : List IfClause :=
  statements.flatMap fun statement =>
    match statement.bind (t.get? Construct.ifStatement?) with
    | some s => s.clauses.filterMap (t.get? Construct.ifClause?)
    | none => []

/-- Whether a top-level clause of the statements tests a clock edge. -/
def testsClock (t : Tree) (rules : InferenceRules) (statements : List (Option NodeId)) : Bool :=
  (t.topClauses statements).any fun c => rules.clock.matchesIn c.conditionText

/-- The texts of write nodes. -/
def writtenTexts (t : Tree) (ids : List NodeId) : List Bytes := ids.filterMap (t.get? Construct.write?)

/-- The names assigned directly in the top-level reset clauses of the statements. -/
def resetNames (t : Tree) (rules : InferenceRules) (statements : List (Option NodeId)) : List Bytes :=
  ((t.topClauses statements).filter fun c => rules.reset.matchesIn c.conditionText).flatMap fun c =>
    c.body.flatMap fun statement =>
      match statement.bind (t.get? Construct.assignment?) with
      | some a => t.writtenTexts a.writes
      | none => []

/-- The statements of a process. -/
def processStatements (t : Tree) (process : NodeId) : List (Option NodeId) :=
  ((t.get? Construct.process? process).map Process.statements).getD []

/-- The processes that could register a signal: those of the body it is declared in, the process itself
for its variables, and all of the architecture's for the ports of the file's entity. -/
def candidateProcesses (t : Tree) (signal : NodeId) : Except TreeFault (List NodeId) := do
  match t.parent? signal with
  | none => return []
  | some parent =>
    match t.construct? parent with
    | some (.architecture a) => return a.body.processes
    | some (.generate g) => return g.body.processes
    | some (.process _) => return [parent]
    | some (.entity _) =>
      t.checkRoot signal
      match t.architectureUnit? with
      | some a => return t.allProcesses a
      | none => return []
    | _ => return []

/-- The base name of a mapping's formal, empty for a positional association. -/
def formalName (t : Tree) (m : Mapping) : Bytes :=
  ((m.formal.filterMap (t.get? Construct.read?)).find? fun (_, isElement) => !isElement).elim [] Prod.fst

/-- The direction of the port that a mapping connects to: the port of its formal's name, or the one at its
position. Without a unit nothing is known. -/
def formalDirection? (t : Tree) (unit : Option (List (Bytes × Direction))) (m : Mapping)
    (position : Nat) : Option Direction := do
  let ports ← unit
  match t.formalName m with
  | [] => (ports[position]?).map Prod.snd
  | name => (ports.find? fun (portName, _) => sameName portName name).map Prod.snd

/-- The mappings of a map. -/
def mappingsOf (t : Tree) (map : Option NodeId) : List Mapping :=
  (map.bind (t.get? Construct.map?)).elim [] fun ids => ids.filterMap (t.get? Construct.mapping?)

/-- What an instantiation reads: generic actuals, the actuals of inputs and of unknown ports, and the index
expressions of outputs. -/
def instanceReads (t : Tree) (i : Instantiation) (unit : Option (List (Bytes × Direction))) :
    List NodeId :=
  (t.mappingsOf i.genericMap).flatMap Mapping.ifInput ++
    (t.mappingsOf i.portMap).zipIdx.flatMap fun (m, position) => m.readsFor (t.formalDirection? unit m position)

/-- What an instantiation drives: the actuals of outputs. -/
def instanceWrites (t : Tree) (i : Instantiation) (unit : Option (List (Bytes × Direction))) :
    List NodeId :=
  (t.mappingsOf i.portMap).zipIdx.flatMap fun (m, position) => m.writesFor (t.formalDirection? unit m position)

end Tree

/-- The ports of an instantiated unit, if it is known. -/
abbrev UnitPorts := Option (List (Bytes × Direction))

/-- The facts of one tree, as a computation `m` delivers them. -/
structure Facts (m : Type → Type) where
  flatWrites : NodeId → m (List NodeId)
  flatReads : NodeId → m (List NodeId)
  isRegisterProcess : NodeId → m Bool
  resets : NodeId → m (List Bytes)
  /-- The last process that registers a signal. -/
  registerProcess : NodeId → m (Option NodeId)
  instanceReads : NodeId → UnitPorts → m (List NodeId)
  instanceWrites : NodeId → UnitPorts → m (List NodeId)

/-- Passes a fault of the tree on. -/
def liftTree {m : Type → Type} [Monad m] [MonadExceptOf Fault m] {α : Type} :
    Except TreeFault α → m α
  | .ok a => pure a
  | .error fault => throw (.tree fault)

namespace Tree

variable {m : Type → Type} [Monad m] [MonadExceptOf Fault m]

/-- Whether a process is a register process. -/
def computeIsRegister (t : Tree) (rules : InferenceRules) (process : NodeId) : m Bool := do
  liftTree (t.checkRoot process)
  return t.testsClock rules (t.processStatements process)

/-- What a process resets; only register processes reset anything. -/
def computeResets (t : Tree) (rules : InferenceRules) (isRegisterProcess : NodeId → m Bool)
    (process : NodeId) : m (List Bytes) := do
  if !(← isRegisterProcess process) then return []
  liftTree (t.checkRoot process)
  return t.resetNames rules (t.processStatements process)

/-- The last of some processes that is a register process and writes a signal. -/
def lastRegister (t : Tree) (isRegisterProcess : NodeId → m Bool) (flatWrites : NodeId → m (List NodeId))
    (name : Bytes) : (found : Option NodeId) → List NodeId → m (Option NodeId)
  | found, [] => return found
  | found, process :: rest => do
    if !(← isRegisterProcess process) then
      t.lastRegister isRegisterProcess flatWrites name found rest
    else
      let written := t.writtenTexts (← flatWrites process)
      let found := if written.any (sameName · name) then some process else found
      t.lastRegister isRegisterProcess flatWrites name found rest

/-- The last process that registers a signal. -/
def computeRegisterProcess (t : Tree) (isRegisterProcess : NodeId → m Bool)
    (flatWrites : NodeId → m (List NodeId)) (signal : NodeId) : m (Option NodeId) := do
  let candidates ← liftTree (t.candidateProcesses signal)
  t.lastRegister isRegisterProcess flatWrites ((t.nameOf? signal).getD []) none candidates

/-- The facts of a tree, computed anew each time. -/
def facts (t : Tree) (rules : InferenceRules) : Facts m where
  flatWrites process := liftTree (t.flattenWrites (t.processStatements process))
  flatReads process := liftTree (t.flattenReads (t.processStatements process))
  isRegisterProcess := t.computeIsRegister rules
  resets := t.computeResets rules (t.computeIsRegister rules)
  registerProcess := t.computeRegisterProcess (t.computeIsRegister rules) fun process =>
    liftTree (t.flattenWrites (t.processStatements process))
  instanceReads id unit :=
    return (t.get? Construct.instantiation? id).elim [] (t.instanceReads · unit)
  instanceWrites id unit :=
    return (t.get? Construct.instantiation? id).elim [] (t.instanceWrites · unit)

end Tree
end DesignLint
