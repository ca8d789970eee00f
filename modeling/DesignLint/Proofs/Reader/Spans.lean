import DesignLint.Token
import DesignLint.Proofs.Tree.Growth

/-! Where nodes begin and end while a file is read. No node begins or ends behind the next token, and none begins
before its parent. A node ends where it begins or later, with one exception: an association that takes no token begins
at the token that follows it and ends with the token before it. -/
namespace DesignLint

/-- A node does not end before it begins, unless it is an empty association between two tokens. -/
def Node.Ordered (tokens : List Token) (node : Node) : Prop :=
  node.start ≤ node.stop ∨
    node.construct = .mapping {} ∧ ∀ t ∈ tokens, t.stop ≤ node.stop ∨ node.start ≤ t.offset

namespace Tree

/-- The nodes of a tree lie in order before the tokens that are left to read. The file alone ends behind them. -/
structure Spans (t : Tree) (tokens rest : List Token) : Prop where
  begun : ∀ (i : Nat) (node : Node), t.node? i = some node → ∀ u ∈ rest, node.start ≤ u.offset
  ended : ∀ (i : Nat) (node : Node), 0 < i → t.node? i = some node → ∀ u ∈ rest, node.stop ≤ u.offset
  ordered : ∀ (i : Nat) (node : Node), t.node? i = some node → node.Ordered tokens
  below : ∀ (i : Nat) (node : Node) (p : Nat) (above : Node), t.node? i = some node → node.parent = some p →
    t.node? p = some above → above.start ≤ node.start ∧ above.start ≤ node.stop

namespace Spans

variable {t t' : Tree} {tokens rest later : List Token} {id owner : Nat} {node : Node}

theorem forward (spans : t.Spans tokens rest) (subset : ∀ u ∈ later, u ∈ rest) : t.Spans tokens later where
  begun i node known u member := spans.begun i node known u (subset u member)
  ended i node positive known u member := spans.ended i node positive known u (subset u member)
  ordered := spans.ordered
  below := spans.below

theorem of_nodes_eq (spans : t.Spans tokens rest) (nodes_eq : t'.nodes = t.nodes) : t'.Spans tokens rest := by
  have same (i : Nat) : t'.node? i = t.node? i := by rw [Tree.node?, nodes_eq, Tree.node?]
  constructor
  · simpa only [same] using spans.begun
  · simpa only [same] using spans.ended
  · simpa only [same] using spans.ordered
  · simpa only [same] using spans.below

/-- A new node that lies between its owner's start and the next token. -/
theorem push (spans : t.Spans tokens rest) (rooted : t.Rooted) (parent : node.parent = some owner)
    (ordered : node.start ≤ node.stop) (ended : ∀ u ∈ rest, node.stop ≤ u.offset)
    (after : ∀ above, t.node? owner = some above → above.start ≤ node.start) (owner_lt : owner < t.nodes.size) :
    ({ t with nodes := t.nodes.push node } : Tree).Spans tokens rest := by
  constructor
  · intro i found known u member
    rw [node?_push] at known
    split at known
    · cases known
      exact Nat.le_trans ordered (ended u member)
    · exact spans.begun i found known u member
  · intro i found positive known u member
    rw [node?_push] at known
    split at known
    · cases known
      exact ended u member
    · exact spans.ended i found positive known u member
  · intro i found known
    rw [node?_push] at known
    split at known
    · cases known
      exact .inl ordered
    · exact spans.ordered i found known
  · intro i found p above known owns here
    rw [node?_push] at known here
    split at known
    · cases known
      rw [parent] at owns
      cases owns
      rw [if_neg (Nat.ne_of_lt owner_lt)] at here
      have := after above here
      exact ⟨this, Nat.le_trans this ordered⟩
    · -- The parent of an old node is old.
      have old := rooted.lt_of_parent? ((parent?_of_node? known).trans owns)
      have := lt_size_of_node? known
      rw [if_neg (by omega)] at here
      exact spans.below i found p above known owns here

/-- A node that is redrawn keeps its start, and its end moves to a place between its parent's start and the next
token. -/
theorem modify {change : Node → Node} (spans : t.Spans tokens rest) (known : t.node? id = some node)
    (parent_eq : (change node).parent = node.parent) (start_eq : (change node).start = node.start)
    (ordered : (change node).Ordered tokens) (ended : 0 < id → ∀ u ∈ rest, (change node).stop ≤ u.offset)
    (below : ∀ p above, node.parent = some p → t.node? p = some above → above.start ≤ (change node).stop) :
    (t.modify id change).Spans tokens rest := by
  constructor
  · intro i found here
    rw [node?_modify] at here
    split at here
    · subst_vars
      rw [known] at here
      cases here
      rw [start_eq]
      exact spans.begun _ node known
    · exact spans.begun i found here
  · intro i found positive here
    rw [node?_modify] at here
    split at here
    · subst_vars
      rw [known] at here
      cases here
      exact ended positive
    · exact spans.ended i found positive here
  · intro i found here
    rw [node?_modify] at here
    split at here
    · subst_vars
      rw [known] at here
      cases here
      exact ordered
    · exact spans.ordered i found here
  · intro i found p above here owns aboveHere
    -- The node above has kept its start, whether it is the redrawn one or not.
    obtain ⟨old, oldHere, oldStart⟩ : ∃ old, t.node? p = some old ∧ above.start = old.start := by
      rw [node?_modify] at aboveHere
      split at aboveHere
      · subst_vars
        rw [known] at aboveHere
        cases aboveHere
        exact ⟨node, known, start_eq⟩
      · exact ⟨above, aboveHere, rfl⟩
    rw [oldStart]
    rw [node?_modify] at here
    split at here
    · subst_vars
      rw [known] at here
      cases here
      rw [parent_eq] at owns
      rw [start_eq]
      exact ⟨(spans.below _ node p old known owns oldHere).1, below p old owns oldHere⟩
    · exact spans.below i found p old here owns oldHere

/-- The file alone begins with the text and ends with it. -/
theorem ofText {text : Bytes} (path : String) : (Tree.ofText path text).Spans tokens rest := by
  have only (i : Nat) (node : Node) (known : (Tree.ofText path text).node? i = some node) :
      i = 0 ∧ node = ⟨none, 0, text.length, .file⟩ := by
    have lt : i < 1 := lt_size_of_node? known
    obtain rfl : i = 0 := by omega
    exact ⟨rfl, (Option.some.inj known).symm⟩
  constructor
  · intro i node known u _
    rw [(only i node known).2]
    exact Nat.zero_le _
  · intro i node positive known
    rw [(only i node known).1] at positive
    contradiction
  · intro i node known
    rw [(only i node known).2]
    exact .inl (Nat.zero_le _)
  · intro i node p above known owns
    rw [(only i node known).2] at owns
    contradiction

end Spans
end Tree
end DesignLint
