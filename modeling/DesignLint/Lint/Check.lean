import DesignLint.Lint.Diagnostic
import DesignLint.Scope.Resolve

/-! The checks of one file: occurrences of names that resolve to no declaration, and registers that no process
resets. The checks ask for derived facts through `Facts`, so they run with and without a memo. -/
namespace DesignLint.Lint

variable {m : Type → Type} [Monad m] [MonadExceptOf Fault m]

/-- A file of a design and how to find entities for its instantiations. -/
structure Subject where
  design : Design
  file : Nat
  tree : Tree
  packages : List Ref
  entities : UnitLookup

/-- A finding about the name at a node. -/
def undeclared (s : Subject) (id : NodeId) (name : Bytes) (verb : String) : Diagnostic :=
  .ofRule .undeclared s.tree.path
    (Bytes.ofString "signal '" ++ name ++ Bytes.ofString ("' is " ++ verb ++ " but not declared"))
    (s.tree.span id)

/-- A finding for a write that resolves to nothing. -/
def checkWrite (s : Subject) (id : NodeId) : m (List Diagnostic) := do
  if ← liftTree (s.design.resolveWrite s.file id) then return []
  else return [undeclared s id ((s.tree.get? Construct.write? id).getD []) "written"]

/-- A finding for a read that resolves to nothing. -/
def checkRead (s : Subject) (id : NodeId) : m (List Diagnostic) := do
  match ← liftTree (s.design.resolveRead s.file id s.packages) with
  | some _ => return []
  | none => return [undeclared s id ((s.tree.get? Construct.read? id).elim [] Prod.fst) "read"]

/-- Findings for writes that resolve to nothing. -/
def checkWrites (s : Subject) (ids : List NodeId) : m (List Diagnostic) :=
  return (← ids.mapM (checkWrite s)).flatten

/-- Findings for reads that resolve to nothing. -/
def checkReads (s : Subject) (ids : List NodeId) : m (List Diagnostic) :=
  return (← ids.mapM (checkRead s)).flatten

/-- Findings in a process: what it writes, its sensitivity list, what it reads. -/
def checkProcess (facts : Facts m) (s : Subject) (id : NodeId) : m (List Diagnostic) := do
  let writes ← facts.flatWrites id
  let reads ← facts.flatReads id
  let written ← checkWrites s writes
  let sensitive ← checkReads s (((s.tree.get? Construct.process? id).map Process.sensitivity).getD [])
  return written ++ sensitive ++ (← checkReads s reads)

/-- Findings in a concurrent assignment. -/
def checkAssignment (s : Subject) (id : NodeId) : m (List Diagnostic) := do
  let a := (s.tree.get? Construct.assignment? id).getD {}
  return (← checkWrites s a.writes) ++ (← checkReads s a.reads)

/-- Findings in an instantiation, judged by the unit it connects to. -/
def checkInstance (facts : Facts m) (s : Subject) (id : NodeId) : m (List Diagnostic) := do
  let unit ← liftTree (s.design.resolveInstance s.file id s.packages s.entities)
  let ports := s.design.ports? unit
  let written ← checkWrites s (← facts.instanceWrites id ports)
  return written ++ (← checkReads s (← facts.instanceReads id ports))

/-- Findings in the bounds and the condition of a generate statement. -/
def checkGenerate (s : Subject) (id : NodeId) : m (List Diagnostic) := do
  let g := (s.tree.get? Construct.generate? id).getD {}
  return (← checkReads s g.bounds) ++ (← checkReads s g.condition)

/-- Findings in one body, without the bodies inside it. -/
def checkBody (facts : Facts m) (s : Subject) (b : Body) : m (List Diagnostic) := do
  let processes ← b.processes.mapM (checkProcess facts s)
  let assignments ← b.assignments.mapM (checkAssignment s)
  let instances ← b.instantiations.mapM (checkInstance facts s)
  let generates ← b.generates.mapM (checkGenerate s)
  return (processes ++ assignments ++ instances ++ generates).flatten

/-- Every read and write of the architecture that resolves to no visible declaration. -/
def checkUndeclared (facts : Facts m) (s : Subject) : m (List Diagnostic) := do
  return (← s.tree.bodies.mapM (checkBody facts s)).flatten

/-- Whether one of the processes resets the name. -/
def resetByAny (facts : Facts m) (name : Bytes) : List NodeId → m Bool
  | [] => return false
  | process :: rest => do
    if (← facts.resets process).any (sameName · name) then return true
    else resetByAny facts name rest

/-- A finding for a signal that is a register but is not reset in its body. It spans the first line of the
process that registers the signal. -/
def checkReset (facts : Facts m) (s : Subject) (b : Body) (signal : NodeId) :
    m (List Diagnostic) := do
  match ← facts.registerProcess signal with
  | none => return []
  | some process =>
    let name := (s.tree.nameOf? signal).getD []
    if ← resetByAny facts name b.processes then return []
    let start := (s.tree.span process).start
    return [.ofRule .missingReset s.tree.path
      (Bytes.ofString "Reset '" ++ name ++ Bytes.ofString "' missing")
      ⟨start, ⟨start.line, Coordinate.endOfLine⟩⟩]

/-- Every register signal that no register process of its body resets. -/
def checkResets (facts : Facts m) (s : Subject) : m (List Diagnostic) := do
  let findings ← s.tree.bodies.mapM fun b => do
    return (← b.signals.mapM (checkReset facts s b)).flatten
  return findings.flatten

/-- All checks. -/
def checkAll (facts : Facts m) (s : Subject) : m (List Diagnostic) := do
  let found ← checkUndeclared facts s
  return found ++ (← checkResets facts s)

end DesignLint.Lint
