import DesignLint.Text.Bytes

/-! The constructs of a design file. A node of the tree holds one construct, and constructs refer to
their parts by node number, so that a part can be shared or left unattached. Sequential statement lists
may hold an absent statement. -/
namespace DesignLint

/-- The number of a node in the order of construction. -/
abbrev NodeId := Nat

/-- The mode of a port. -/
inductive Direction where
  | input
  | output
  | both
  | other (word : Bytes)
deriving DecidableEq

namespace Direction

/-- Reads a mode. -/
def ofWord (word : Bytes) : Direction :=
  if word = Bytes.ofString "in" then .input
  else if word = Bytes.ofString "out" then .output
  else if word = Bytes.ofString "inout" then .both
  else .other word

/-- The word of a mode. -/
def word : Direction → Bytes
  | input => Bytes.ofString "in"
  | output => Bytes.ofString "out"
  | both => Bytes.ofString "inout"
  | other w => w

/-- Whether a port of this mode may be assigned. -/
def writable : Direction → Bool
  | output | both => true
  | _ => false

end Direction

/-- For-generate, if-generate or block. -/
inductive GenerateKind where
  | forRange
  | condition
  | block
  | other (word : Bytes)
deriving DecidableEq

namespace GenerateKind

def ofWord (word : Bytes) : GenerateKind :=
  if word = Bytes.ofString "for" then .forRange
  else if word = Bytes.ofString "if" then .condition
  else if word = Bytes.ofString "block" then .block
  else .other word

def word : GenerateKind → Bytes
  | forRange => Bytes.ofString "for"
  | condition => Bytes.ofString "if"
  | block => Bytes.ofString "block"
  | other w => w

end GenerateKind

/-- What kind of unit an instantiation names. -/
inductive InstanceKind where
  | component
  | entity
  | other (word : Bytes)
deriving DecidableEq

namespace InstanceKind

def ofWord (word : Bytes) : InstanceKind :=
  if word = Bytes.ofString "component" then .component
  else if word = Bytes.ofString "entity" then .entity
  else .other word

def word : InstanceKind → Bytes
  | component => Bytes.ofString "component"
  | entity => Bytes.ofString "entity"
  | other w => w

end InstanceKind

/-- The class of a type declaration. -/
inductive TypeKind where
  | enumeration
  | record
  | physical
  | plain
  | other (word : Bytes)
deriving DecidableEq

namespace TypeKind

def ofWord (word : Bytes) : TypeKind :=
  if word = Bytes.ofString "enum" then .enumeration
  else if word = Bytes.ofString "record" then .record
  else if word = Bytes.ofString "physical" then .physical
  else if word = Bytes.ofString "other" then .plain
  else .other word

def word : TypeKind → Bytes
  | enumeration => Bytes.ofString "enum"
  | record => Bytes.ofString "record"
  | physical => Bytes.ofString "physical"
  | plain => Bytes.ofString "other"
  | other w => w

end TypeKind

/-- One selected name of a use clause. -/
structure UseClause where
  library : Bytes := []
  package : Bytes := []
  item : Bytes := []

/-- The outside of an entity or a component. -/
structure Interface where
  name : Bytes := []
  generics : List NodeId := []
  ports : List NodeId := []

/-- The declarations and concurrent statements of an architecture, generate or block. -/
structure Body where
  signals : List NodeId := []
  constants : List NodeId := []
  types : List NodeId := []
  functions : List NodeId := []
  components : List NodeId := []
  processes : List NodeId := []
  instantiations : List NodeId := []
  generates : List NodeId := []
  assignments : List NodeId := []

structure Architecture where
  name : Bytes := []
  entityName : Bytes := []
  body : Body := {}

structure Generate where
  label : Bytes := []
  kind : GenerateKind := .other []
  iterator : Bytes := []
  bounds : List NodeId := []
  condition : List NodeId := []
  body : Body := {}

structure Package where
  name : Bytes := []
  constants : List NodeId := []
  signals : List NodeId := []
  types : List NodeId := []
  functions : List NodeId := []
  components : List NodeId := []

/-- A declared object: signal, port, variable, constant or generic. -/
structure Declared where
  name : Bytes := []
  typeText : Bytes := []
  initial : List NodeId := []

/-- A type or subtype. Enumeration literals and physical units are both states. -/
structure TypeDecl where
  name : Bytes := []
  kind : TypeKind := .other []
  states : List NodeId := []
  fields : List NodeId := []

/-- A function or procedure. -/
structure Subprogram where
  name : Bytes := []
  isProcedure : Bool := false
  returnType : Bytes := []

structure Instantiation where
  label : Bytes := []
  kind : InstanceKind := .other []
  library : Bytes := []
  unitName : Bytes := []
  genericMap : Option NodeId := none
  portMap : Option NodeId := none

/-- One association of a map. The actual is kept twice: as reads for an input, and split into reads and
writes for an output. -/
structure Mapping where
  formal : List NodeId := []
  ifInput : List NodeId := []
  ifOutputReads : List NodeId := []
  ifOutputWrites : List NodeId := []

/-- An assignment, or another simple statement, which then writes nothing. -/
structure Assignment where
  label : Bytes := []
  isVariable : Bool := false
  writes : List NodeId := []
  reads : List NodeId := []

structure IfStatement where
  label : Bytes := []
  clauses : List NodeId := []
  otherwise : List (Option NodeId) := []

structure IfClause where
  condition : List NodeId := []
  conditionText : Bytes := []
  body : List (Option NodeId) := []

structure CaseStatement where
  label : Bytes := []
  selector : List NodeId := []
  arms : List NodeId := []

structure CaseArm where
  choices : List NodeId := []
  body : List (Option NodeId) := []

/-- A for loop, or a while or plain loop when the variable is empty. -/
structure Loop where
  label : Bytes := []
  iterator : Bytes := []
  bounds : List NodeId := []
  body : List (Option NodeId) := []

structure Process where
  label : Bytes := []
  sensitivity : List NodeId := []
  locals : List NodeId := []
  constants : List NodeId := []
  types : List NodeId := []
  functions : List NodeId := []
  statements : List (Option NodeId) := []

/-- What a node is. -/
inductive Construct where
  | file
  | useClause (clause : UseClause)
  | entity (unit : Interface)
  | component (unit : Interface)
  | architecture (unit : Architecture)
  | generate (statement : Generate)
  | package (unit : Package)
  | signal (object : Declared)
  | port (object : Declared) (direction : Direction)
  | localVariable (object : Declared)
  | constant (object : Declared)
  | generic (object : Declared)
  | typeDecl (decl : TypeDecl)
  | state (name : Bytes)
  | recordField (name typeText : Bytes)
  | function (decl : Subprogram)
  | instantiation (statement : Instantiation)
  | map (mappings : List NodeId)
  | mapping (association : Mapping)
  | read (text : Bytes) (isElement : Bool)
  | write (text : Bytes)
  | assignment (statement : Assignment)
  | ifStatement (statement : IfStatement)
  | ifClause (clause : IfClause)
  | caseStatement (statement : CaseStatement)
  | caseArm (arm : CaseArm)
  | loop (statement : Loop)
  | process (statement : Process)

/-- A construct with its place in the text and the node that owns it. -/
structure Node where
  parent : Option NodeId
  start : Nat
  stop : Nat
  construct : Construct

end DesignLint
