import DesignLint.Tree.Arena
import DesignLint.Text.Case

/-! Typed views of a tree: the constructs of one kind, the names that nodes declare, and the bodies of an
architecture. -/
namespace DesignLint

namespace Construct

/-- The name that a construct declares. -/
def name? : Construct → Option Bytes
  | entity u | component u => some u.name
  | package p => some p.name
  | signal o | port o _ | localVariable o | constant o | generic o => some o.name
  | typeDecl t => some t.name
  | state n | recordField n _ => some n
  | function f => some f.name
  | _ => none

def read? : Construct → Option (Bytes × Bool)
  | read text isElement => some (text, isElement)
  | _ => none

def write? : Construct → Option Bytes
  | write text => some text
  | _ => none

def interface? : Construct → Option Interface
  | entity u | component u => some u
  | _ => none

def architecture? : Construct → Option Architecture
  | architecture a => some a
  | _ => none

def generate? : Construct → Option Generate
  | generate g => some g
  | _ => none

def package? : Construct → Option Package
  | package p => some p
  | _ => none

def typeDecl? : Construct → Option TypeDecl
  | typeDecl d => some d
  | _ => none

def useClause? : Construct → Option UseClause
  | useClause u => some u
  | _ => none

def process? : Construct → Option Process
  | process p => some p
  | _ => none

def assignment? : Construct → Option Assignment
  | assignment a => some a
  | _ => none

def ifStatement? : Construct → Option IfStatement
  | ifStatement s => some s
  | _ => none

def ifClause? : Construct → Option IfClause
  | ifClause c => some c
  | _ => none

def instantiation? : Construct → Option Instantiation
  | instantiation i => some i
  | _ => none

def mapping? : Construct → Option Mapping
  | mapping m => some m
  | _ => none

def map? : Construct → Option (List NodeId)
  | map ms => some ms
  | _ => none

/-- Signals, ports and variables. -/
def signalLike? : Construct → Option Declared
  | signal o | port o _ | localVariable o => some o
  | _ => none

def port? : Construct → Option (Bytes × Direction)
  | port o d => some (o.name, d)
  | _ => none

end Construct

namespace Tree

/-- The construct of a node, if it is of the wanted kind. -/
def get? {α : Type} (t : Tree) (choose : Construct → Option α) (id : NodeId) : Option α :=
  (t.construct? id).bind choose

/-- The name that a node declares. -/
def nameOf? (t : Tree) (id : NodeId) : Option Bytes := t.get? Construct.name? id

/-- Whether a node declares the name. -/
def declares (t : Tree) (name : Bytes) (id : NodeId) : Bool := (t.nameOf? id).any (sameName · name)

/-- The first node of a list that declares the name. -/
def findNamed (t : Tree) (ids : List NodeId) (name : Bytes) : Option NodeId := ids.find? (t.declares name)

/-- The names that the nodes of a list declare. -/
def namesOf (t : Tree) (ids : List NodeId) : List Bytes := ids.filterMap t.nameOf?

/-- The body of a generate statement. -/
def generateBody? (t : Tree) (id : NodeId) : Option Body := (t.get? Construct.generate? id).map Generate.body

/-- The bodies of generate statements, each followed by those inside it, down to `levels` of them. -/
def bodiesBelow (t : Tree) : (levels : Nat) → List NodeId → List Body
  | 0, _ => []
  | levels + 1, ids => ids.flatMap fun id =>
    match t.generateBody? id with
    | some b => b :: t.bodiesBelow levels b.generates
    | none => []

/-- A body and the bodies of the generate statements in it, depth first. -/
def bodiesOf (t : Tree) (b : Body) : List Body := b :: t.bodiesBelow (t.nodes.size + 1) b.generates

/-- The architecture of the file. -/
def architectureUnit? (t : Tree) : Option Architecture :=
  t.architecture.bind (t.get? Construct.architecture?)

/-- All bodies of the file's architecture. -/
def bodies (t : Tree) : List Body :=
  match t.architectureUnit? with
  | some a => t.bodiesOf a.body
  | none => []

/-- The processes of an architecture, those of nested generate statements included. -/
def allProcesses (t : Tree) (a : Architecture) : List NodeId := (t.bodiesOf a.body).flatMap Body.processes

/-- The label of a process. -/
def processLabel (t : Tree) (id : NodeId) : Bytes := (t.get? Construct.process? id).elim [] Process.label

/-- The names and directions of the ports of a unit. -/
def portsOf (t : Tree) (unit : Interface) : List (Bytes × Direction) :=
  unit.ports.filterMap (t.get? Construct.port?)

end Tree
end DesignLint
