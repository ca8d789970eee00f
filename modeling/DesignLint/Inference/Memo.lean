import DesignLint.Inference.Facts

/-! Facts that are computed on first use and kept, whatever happens to the tree afterwards. A computation
that fails is not kept. -/
namespace DesignLint

/-- The facts known so far, by node. -/
structure Memo where
  root : List (NodeId × NodeId) := []
  flatWrites : List (NodeId × List NodeId) := []
  flatReads : List (NodeId × List NodeId) := []
  isRegisterProcess : List (NodeId × Bool) := []
  resets : List (NodeId × List Bytes) := []
  registerProcess : List (NodeId × Option NodeId) := []
  instanceReads : List (NodeId × List NodeId) := []
  instanceWrites : List (NodeId × List NodeId) := []

/-- A computation that may use and fill the memo. What is filled before a failure stays. -/
abbrev Query := ExceptT Fault (StateM Memo)

namespace Memo

/-- Looks a fact up in its cell, or computes it and fills the cell. -/
def memoize {α : Type} (cells : Memo → List (NodeId × α)) (fill : Memo → List (NodeId × α) → Memo)
    (id : NodeId) (compute : Query α) : Query α := do
  match (cells (← get)).lookup id with
  | some known => return known
  | none =>
    let value ← compute
    modify fun memo => fill memo ((id, value) :: cells memo)
    return value

/-- The file at the top of a node's chain of parents. -/
def rootOf (t : Tree) (id : NodeId) : Query NodeId :=
  memoize Memo.root (fun memo cells => { memo with root := cells }) id do
    liftTree (t.checkRoot id)
    return 0

/-- Walks to the file from every node. -/
def warmRoots (t : Tree) : Query Unit :=
  (List.range t.nodes.size).forM fun id => do
    let _ ← rootOf t id
    return ()

/-- The facts of a tree, each computed at most once. -/
def facts (t : Tree) (rules : InferenceRules) : Facts Query :=
  let flatWrites process : Query (List NodeId) :=
    memoize Memo.flatWrites (fun memo cells => { memo with flatWrites := cells }) process
      (liftTree (t.flattenWrites (t.processStatements process)))
  let isRegisterProcess process : Query Bool :=
    memoize Memo.isRegisterProcess (fun memo cells => { memo with isRegisterProcess := cells }) process
      (t.computeIsRegister rules process)
  { flatWrites
    isRegisterProcess
    flatReads := fun process =>
      memoize Memo.flatReads (fun memo cells => { memo with flatReads := cells }) process
        (liftTree (t.flattenReads (t.processStatements process)))
    resets := fun process =>
      memoize Memo.resets (fun memo cells => { memo with resets := cells }) process
        (t.computeResets rules isRegisterProcess process)
    registerProcess := fun signal =>
      memoize Memo.registerProcess (fun memo cells => { memo with registerProcess := cells }) signal
        (t.computeRegisterProcess isRegisterProcess flatWrites signal)
    instanceReads := fun id unit =>
      memoize Memo.instanceReads (fun memo cells => { memo with instanceReads := cells }) id
        ((t.facts rules).instanceReads id unit)
    instanceWrites := fun id unit =>
      memoize Memo.instanceWrites (fun memo cells => { memo with instanceWrites := cells }) id
        ((t.facts rules).instanceWrites id unit) }

end Memo
end DesignLint
