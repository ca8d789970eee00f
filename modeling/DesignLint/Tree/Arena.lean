import DesignLint.Tree.Node
import DesignLint.Source.Position

/-! The tree of one design file. Nodes are numbered in the order of construction and never removed; node
zero is the file. Every node but the file knows its parent, and a walk along the parents is bounded: a
chain of more than a hundred steps is a fault. -/
namespace DesignLint

/-- A walk up the parents makes at most this many steps. -/
def maxDepth : Nat := 100

/-- A malformed tree. -/
inductive TreeFault where
  /-- The chain of parents from this node is too long. -/
  | longChain (node : NodeId)
  /-- No node has this number. -/
  | outside (node : Int) (count : Nat)
  /-- A construct of the named kind was made without a parent. -/
  | orphan (kind : String)
  /-- A statement list holds an absent statement. -/
  | absentStatement
  /-- Statements contain each other without end. -/
  | endlessStatements
deriving DecidableEq

/-- The wording of a tree fault. -/
def TreeFault.message (fault : TreeFault) : String :=
  let (node, reason) : Int × String := match fault with
    | longChain node => (node, "parent chain longer than " ++ toString maxDepth)
    | outside node count => (node, "handle outside arena of " ++ toString count ++ " nodes")
    | orphan kind => (-1, "*ast." ++ kind ++ " constructed without a parent")
    | absentStatement => (-1, "unknown statement variant <nil>")
    | endlessStatements => (-1, "statements contain each other")
  "ast: invariant violated at node " ++ toString node ++ ": " ++ reason

/-- Why the analysis of a tree stops. -/
inductive Fault where
  | tree (fault : TreeFault)
  | range (fault : RangeFault)
deriving DecidableEq

/-- The wording of a fault. -/
def Fault.message : Fault → String
  | tree fault => fault.message
  | range fault => fault.message

/-- A design file: its text, the units declared in it and all nodes. -/
structure Tree where
  path : String
  text : Bytes
  library : Bytes
  libraries : List Bytes := []
  uses : List NodeId := []
  entity : Option NodeId := none
  architecture : Option NodeId := none
  package : Option NodeId := none
  packageBody : Option NodeId := none
  nodes : Array Node

namespace Tree

/-- An empty tree over a text, which belongs to library `work` until told otherwise. -/
def ofText (path : String) (text : Bytes) : Tree where
  path := path
  text := text
  library := Bytes.ofString "work"
  nodes := #[⟨none, 0, text.length, .file⟩]

/-- The node of a number. -/
def node? (t : Tree) (id : NodeId) : Option Node := t.nodes[id]?

/-- What a node is, if there is one of that number. -/
def construct? (t : Tree) (id : NodeId) : Option Construct := (t.node? id).map Node.construct

/-- The parent of a node. -/
def parent? (t : Tree) (id : NodeId) : Option NodeId := (t.node? id).bind Node.parent

/-- Looks up a number that may come from outside. -/
def handle (t : Tree) (id : Int) : Except TreeFault NodeId :=
  if 0 ≤ id && id < t.nodes.size then .ok id.toNat else .error (.outside id t.nodes.size)

/-- Whether the chain of parents from a node ends within `steps` nodes. -/
def reachesFile (t : Tree) : (steps : Nat) → NodeId → Bool
  | 0, _ => false
  | steps + 1, id =>
    match t.parent? id with
    | none => true
    | some parent => t.reachesFile steps parent

/-- The file that a node belongs to is found by walking up its parents. -/
def checkRoot (t : Tree) (id : NodeId) : Except TreeFault Unit :=
  if t.reachesFile (maxDepth + 1) id then .ok () else .error (.longChain id)

/-- No chain of parents in the tree is too long. -/
def checkRoots (t : Tree) : Except TreeFault Unit := (List.range t.nodes.size).forM t.checkRoot

/-- The parent, its parent and so on, at most `steps` of them, and whether the last one is the file. -/
def ancestors (t : Tree) : (steps : Nat) → NodeId → List NodeId × Bool
  | 0, id => ([], (t.parent? id).isNone)
  | steps + 1, id =>
    match t.parent? id with
    | none => ([], true)
    | some parent =>
      let (rest, complete) := t.ancestors steps parent
      (parent :: rest, complete)

/-- Whether a construct declares names for what it contains. -/
def isScope : Construct → Bool
  | .architecture _ | .generate _ | .process _ | .loop _ => true
  | _ => false

/-- The scopes around a node, nearest first, and whether the walk reached the file. -/
def scopes (t : Tree) (id : NodeId) : List NodeId × Bool :=
  let (ids, complete) := t.ancestors maxDepth id
  (ids.filter fun a => (t.construct? a).any isScope, complete)

/-- Adds a node under a parent whose chain of parents is known to be good. -/
def place (t : Tree) (parent : NodeId) (start stop : Int) (construct : Construct) :
    Except Fault (Tree × NodeId) :=
  match checkRange t.text.length start stop with
  | .error fault => .error (.range fault)
  | .ok () =>
    .ok ({ t with nodes := t.nodes.push ⟨some parent, start.toNat, stop.toNat, construct⟩ },
      t.nodes.size)

/-- Adds a node under a parent. The parent's chain is checked first, then the range. -/
def attach (t : Tree) (parent : NodeId) (start stop : Int) (construct : Construct) :
    Except Fault (Tree × NodeId) :=
  match t.checkRoot parent with
  | .error fault => .error (.tree fault)
  | .ok () => t.place parent start stop construct

/-- Changes one node. -/
def modify (t : Tree) (id : NodeId) (change : Node → Node) : Tree :=
  { t with nodes := t.nodes.modify id change }

/-- Changes what a node is. -/
def update (t : Tree) (id : NodeId) (change : Construct → Construct) : Tree :=
  t.modify id fun node => { node with construct := change node.construct }

/-- The coordinates of a node's range. -/
def span (t : Tree) (id : NodeId) : Span :=
  match t.node? id with
  | some node => ⟨Coordinate.ofOffset t.text node.start, Coordinate.ofOffset t.text node.stop⟩
  | none => ⟨⟨0, 0⟩, ⟨0, 0⟩⟩

/-- The numbers of all nodes that the selection accepts, in order. -/
def select {α : Type} (t : Tree) (pick : Construct → Option α) : List (NodeId × α) :=
  (List.range t.nodes.size).filterMap fun id =>
    ((t.construct? id).bind pick).map (id, ·)

/-- The members of a list that are of the wanted kind, with their numbers. -/
def pick {α : Type} (t : Tree) (choose : Construct → Option α) (ids : List NodeId) :
    List (NodeId × α) :=
  ids.filterMap fun id => ((t.construct? id).bind choose).map (id, ·)

end Tree
end DesignLint
