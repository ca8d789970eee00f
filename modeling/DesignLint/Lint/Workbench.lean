import DesignLint.Inference.Memo
import DesignLint.Lint.Check
import DesignLint.Tree.Fields

/-! A workbench on which one tree is built node by node and asked for derived facts in between. Facts are kept
from the first time they are asked for, so an answer may be older than the tree. -/
namespace DesignLint

/-- The file under construction and the facts known about it. -/
structure Workbench where
  file : DesignFile
  memo : Memo := {}

/-- One request to a workbench. Nodes come from outside and may not exist. -/
inductive Request where
  | new (kind : String) (parent : Option Int) (start stop : Int) (fields : List (String × FieldValue))
  | set (node : Int) (fields : List (String × FieldValue))
  | add (node : Int) (field : String) (child : Option Int)
  | clear (node : Int) (field : String)
  | describe (node : Int)
  | root (node : Int)
  | parent (node : Int)
  | scopes (node : Int)
  | count
  | setRules (clock reset : String)
  | isRegisterProcess (process : Int)
  | resets (process : Int)
  | resetsName (process : Int) (name : Bytes)
  | flatWrites (process : Int)
  | flatReads (process : Int)
  | isRegister (signal : Int)
  | registerProcess (signal : Int)
  | allProcesses (architecture : Int)
  | formalName (mapping : Int)
  | instanceReads (node : Int) (unit : Option Int)
  | instanceWrites (node : Int) (unit : Option Int)
  | resolveRead (node : Int) (packages : List Int)
  | resolveWrite (node : Int)
  | resolveInstance (node : Int) (packages : List Int)
  | setPackages (packages : List Int)
  | linkEntity (entity : Int)
  | lint
  | tree

/-- What a workbench answers. -/
inductive Reply where
  | node (id : Nat)
  | optional (id : Option NodeId)
  | nodes (ids : List NodeId)
  | described (kind : String) (id : NodeId)
  | flag (value : Bool)
  | text (value : Bytes)
  | texts (values : List Bytes)
  | rules (clock reset : String)
  | badRules (error : RulesError)
  | findings (found : List Diagnostic)
  | tree (t : Tree)
  | fault (f : Fault)
  /-- The checks of the file stopped at a fault. -/
  | lintFault (path : String) (f : Fault)
  /-- There is no such kind or field. -/
  | refused

namespace Workbench

/-- A request at work: the workbench changes, and faults stop the request. -/
abbrev Work := ExceptT Fault (StateM Workbench)

/-- An empty tree over a text. -/
def start (path : String) (text : Bytes) : Workbench := { file := { tree := Tree.ofText path text } }

/-- The file as the only one of its design. -/
def design (w : Workbench) : Design := ⟨#[w.file]⟩

def lookup (id : Int) : Work NodeId := do liftTree ((← get).file.tree.handle id)

def changeTree (change : Tree → Tree) : Work Unit :=
  modify fun w => { w with file := { w.file with tree := change w.file.tree } }

/-- Asks for a fact through the memo. -/
def ask {α : Type} (question : Facts Query → Query α) : Work α := fun w =>
  let (answer, memo) := question (Memo.facts w.file.tree w.file.rules) w.memo
  (answer, { w with memo })

/-- Sets fields of a node; `false` if one does not exist. -/
def setFields (id : NodeId) (fields : List (String × FieldValue)) : Work Bool := do
  let put (t : Option Tree) (field : String × FieldValue) := t.bind (·.putField? id field.1 field.2)
  match fields.foldl put (some (← get).file.tree) with
  | some t => changeTree fun _ => t; return true
  | none => return false

/-- Makes a node under a parent: the root is found from the parent, then the range is checked, then the node is
added and its fields are set. -/
def build (parent : NodeId) (start stop : Int) (construct : Construct) (fields : List (String × FieldValue)) :
    Work Reply := do
  let t := (← get).file.tree
  let _ ← ask fun _ => Memo.rootOf t parent
  match t.place parent start stop construct with
  | .error fault => throw fault
  | .ok (t, id) =>
    changeTree fun _ => t
    if ← setFields id fields then return .node id else return .refused

def fieldOf (id : NodeId) (field : String) : Work (Option FieldValue) := do
  return ((← get).file.tree.fieldsOf id).lookup field

def onlyFile (node : NodeId) : Ref := ⟨0, node⟩

def portsOf (unit : Option Int) : Work UnitPorts := do
  match unit with
  | none => return none
  | some id =>
    let id ← lookup id
    return (← get).design.ports? (some (onlyFile id))

def packagesOf (packages : List Int) : Work (List Ref) := do
  return (← packages.mapM lookup).map onlyFile

/-- Carries out one request. -/
def perform : Request → Work Reply
  | .new kind parent start stop fields => do
    match parent, Construct.blank? kind with
    | _, none => return .refused
    | none, _ => liftTree (.error (.orphan kind))
    | some parent, some construct =>
      build (← lookup parent) start stop construct fields
  | .set node fields => do
    let id ← lookup node
    if ← setFields id fields then return .flag true else return .refused
  | .add node field child => do
    let id ← lookup node
    let child ← match child with
      | some c => some <$> lookup c
      | none => pure none
    match (← fieldOf id field).bind (FieldValue.adding child) with
    | none => return .refused
    | some (value, size) =>
      if ← setFields id [(field, value)] then return .node size else return .refused
  | .clear node field => do
    let id ← lookup node
    match ← fieldOf id field with
    | none => return .refused
    | some value =>
      if ← setFields id [(field, FieldValue.cleared value)] then return .node 0 else return .refused
  | .describe node => do
    let id ← lookup node
    return .described (((← get).file.tree.construct? id).elim "" Construct.kindName) id
  | .root node => do
    let id ← lookup node
    let t := (← get).file.tree
    return .node (← ask fun _ => Memo.rootOf t id)
  | .parent node => do
    let id ← lookup node
    return .optional ((← get).file.tree.parent? id)
  | .scopes node => do
    let id ← lookup node
    let (scopes, complete) := (← get).file.tree.scopes id
    if complete then return .nodes scopes else liftTree (.error (.longChain id))
  | .count => return .node (← get).file.tree.nodes.size
  | .setRules clock reset => do
    match InferenceRules.compile clock reset with
    | .error e => return .badRules e
    | .ok rules =>
      modify fun w => { w with file := { w.file with rules } }
      return .rules rules.clock.expression rules.reset.expression
  | .isRegisterProcess process => do
    let id ← lookup process
    return .flag (← ask (·.isRegisterProcess id))
  | .resets process => do
    let id ← lookup process
    return .texts (← ask (·.resets id))
  | .resetsName process name => do
    let id ← lookup process
    return .flag ((← ask (·.resets id)).any (sameName · name))
  | .flatWrites process => do
    let id ← lookup process
    return .nodes (← ask (·.flatWrites id))
  | .flatReads process => do
    let id ← lookup process
    return .nodes (← ask (·.flatReads id))
  | .isRegister signal => do
    let id ← lookup signal
    return .flag (← ask (·.registerProcess id)).isSome
  | .registerProcess signal => do
    let id ← lookup signal
    return .optional (((← get).memo.registerProcess.lookup id).bind fun process => process)
  | .allProcesses architecture => do
    let id ← lookup architecture
    let t := (← get).file.tree
    return .nodes ((t.get? Construct.architecture? id).elim [] t.allProcesses)
  | .formalName mapping => do
    let id ← lookup mapping
    let t := (← get).file.tree
    return .text ((t.get? Construct.mapping? id).elim [] t.formalName)
  | .instanceReads node unit => do
    let id ← lookup node
    let ports ← portsOf unit
    return .nodes (← ask (·.instanceReads id ports))
  | .instanceWrites node unit => do
    let id ← lookup node
    let ports ← portsOf unit
    return .nodes (← ask (·.instanceWrites id ports))
  | .resolveRead node packages => do
    let id ← lookup node
    let packages ← packagesOf packages
    return .optional ((← liftTree ((← get).design.resolveRead 0 id packages)).map Ref.node)
  | .resolveWrite node => do
    let id ← lookup node
    return .flag (← liftTree ((← get).design.resolveWrite 0 id))
  | .resolveInstance node packages => do
    let id ← lookup node
    let packages ← packagesOf packages
    return .optional
      ((← liftTree ((← get).design.resolveInstance 0 id packages fun _ _ => none)).map Ref.node)
  | .setPackages packages => do
    let packages ← packagesOf packages
    modify fun w => { w with file := { w.file with packages } }
    return .node packages.length
  | .linkEntity entity => do
    let id ← lookup entity
    modify fun w => { w with file := { w.file with linked := some (onlyFile id) } }
    return .optional (((← get).design.boundEntity? 0).map Ref.node)
  | .lint => fun w =>
    let subject : Lint.Subject := ⟨w.design, 0, w.file.tree, w.file.packages, fun _ _ => none⟩
    match ask (fun facts => Lint.checkAll facts subject) w with
    | (.ok found, w) => (.ok (.findings found), w)
    | (.error fault, w) => (.ok (.lintFault w.file.tree.path fault), w)
  | .tree => return .tree (← get).file.tree

/-- Carries out one request; a fault is an answer too. -/
def run (w : Workbench) (request : Request) : Workbench × Reply :=
  match perform request w with
  | (.ok reply, w) => (w, reply)
  | (.error fault, w) => (w, .fault fault)

/-- Carries out requests in order. -/
def runAll (w : Workbench) : List Request → List Reply
  | [] => []
  | request :: rest =>
    let (w, reply) := w.run request
    reply :: runAll w rest

end Workbench
end DesignLint
