import DesignLint.Json.Value
import DesignLint.Tree.Fields

/-! Export of a tree as nested objects. Each node is written in full where it is met first, as a reference
where it is met again, and the nodes that no field reaches are listed as detached, in order. Empty texts,
false flags, empty lists and missing nodes are left out. Members stand in ascending order of their names. -/
namespace DesignLint

namespace Coordinate

/-- A coordinate as an object. -/
def toJson (c : Coordinate) : Json :=
  .object [("line", .ofInt c.line), ("character", .ofInt c.character)]

end Coordinate

namespace Span

/-- A span as an object. -/
def toJson (s : Span) : Json := .object [("start", s.start.toJson), ("end", s.stop.toJson)]

end Span

namespace Tree

/-- The nodes met so far. -/
abbrev Seen := List NodeId

/-- Exports a list of nodes with a given export of one. -/
def exportList (one : NodeId → Seen → Json × Seen) : List NodeId → Seen → List Json × Seen
  | [], seen => ([], seen)
  | id :: rest, seen =>
    let (item, seen) := one id seen
    let (items, seen) := exportList one rest seen
    (item :: items, seen)

/-- Exports the value of a field, or leaves it out. -/
def exportField (one : NodeId → Seen → Json × Seen) (value : FieldValue) (seen : Seen) :
    Option Json × Seen :=
  match value with
  | .text [] | .flag false | .names [] | .child none | .children [] | .statements [] => (none, seen)
  | .text t => (some (.string t), seen)
  | .flag true => (some (.bool true), seen)
  | .names ns => (some (.ofList .string ns), seen)
  | .child (some id) =>
    let (item, seen) := one id seen
    (some item, seen)
  | .children ids =>
    let (items, seen) := exportList one ids seen
    (some (.array items), seen)
  | .statements ids =>
    let (items, seen) := exportList one (ids.filterMap id) seen
    (some (.array items), seen)

/-- Exports the fields of a node in order. -/
def exportFields (one : NodeId → Seen → Json × Seen) :
    List (String × FieldValue) → Seen → List (String × Json) × Seen
  | [], seen => ([], seen)
  | (name, value) :: rest, seen =>
    let (item, seen) := exportField one value seen
    let (members, seen) := exportFields one rest seen
    match item with
    | some j => ((name, j) :: members, seen)
    | none => (members, seen)

/-- Members in ascending order of their names. -/
def inOrder (members : List (String × Json)) : Json :=
  .object (members.mergeSort fun a b => decide (a.1 ≤ b.1))

/-- What an export writes for a node that is already written. -/
def reference (id : NodeId) : Json := .object [("$ref", .ofNat id)]

/-- Exports a node, with at most `levels` nodes inside each other. -/
def exportNode (t : Tree) : (levels : Nat) → NodeId → Seen → Json × Seen
  | 0, id, seen => (reference id, seen)
  | levels + 1, id, seen =>
    if seen.contains id then (reference id, seen)
    else
      let kind := ((t.construct? id).map Construct.kindName).getD ""
      let (members, seen) := exportFields (t.exportNode levels) (t.fieldsOf id) (id :: seen)
      let kind := ((members.lookup "kind").bind Json.text?).getD (Bytes.ofString kind)
      (inOrder ([("id", .ofNat id), ("kind", .string kind), ("range", (t.span id).toJson)]
        ++ members.filter (·.1 ≠ "kind")), seen)

/-- Exports the nodes of a list that were not met before. -/
def exportDetached (t : Tree) : List NodeId → Seen → List Json
  | [], _ => []
  | id :: rest, seen =>
    if seen.contains id then t.exportDetached rest seen
    else
      let (item, seen) := t.exportNode (t.nodes.size + 1) id seen
      item :: t.exportDetached rest seen

/-- The whole tree. No chain of nodes is longer than their number. -/
def toJson (t : Tree) : Json :=
  let (root, seen) := t.exportNode (t.nodes.size + 1) 0 []
  match t.exportDetached (List.range t.nodes.size) seen, root with
  | [], _ => root
  | detached, .object members => inOrder (members ++ [("detached", .array detached)])
  | _, _ => root

end Tree
end DesignLint
