import DesignLint.Reader.Sequential
import DesignLint.Proofs.Reader.Cursor

/-! Building nodes. A reader of a construct opens a node below its owner, adds parts to the new node, and draws
it up at the end; to its own caller it has then added one part. -/
namespace DesignLint

/-- Parts none of which is of a loose role. -/
def Part.Tight (parts : List Part) : Prop := ∀ part ∈ parts, part.1.isLoose = false

/-- The design units of the file are the same. -/
structure SameUnits (t t' : Tree) : Prop where
  entity : t'.entity = t.entity
  architecture : t'.architecture = t.architecture
  package : t'.package = t.package
  packageBody : t'.packageBody = t.packageBody

/-- A reader went from `s` to `s'` and gave `owner` new parts. -/
structure Adds (text : Bytes) (tokens : List Token) (s s' : ReaderState) (owner : Nat) (parts : List Part) :
    Prop where
  ready : Ready text tokens s'
  left_le : s'.left ≤ s.left
  grows : s.tree.Grows s'.tree owner parts
  units : SameUnits s.tree s'.tree
  uses : s.tree.ListsUses s'.tree
  settles : s.Settled → s'.Settled

/-- A reader added the node of a construct that has only begun. -/
structure Opens (text : Bytes) (tokens : List Token) (s s' : ReaderState) (owner start stop : Nat) (c : Construct) :
    Prop where
  ready : Ready text tokens s'
  rest_eq : s'.rest = s.rest
  last_eq : s'.lastStop = s.lastStop
  tree_eq : s'.tree = { s.tree with nodes := s.tree.nodes.push ⟨some owner, start, stop, c⟩ }
  ordered : start ≤ stop
  owner_lt : owner < s.tree.nodes.size
  libraries_eq : s'.libraryNames = s.libraryNames

/-- A reader redrew a node. -/
structure Redraws (text : Bytes) (tokens : List Token) (s s' : ReaderState) (id : Nat) (node : Node) : Prop where
  ready : Ready text tokens s'
  rest_eq : s'.rest = s.rest
  last_eq : s'.lastStop = s.lastStop
  redrawn : s.tree.Redrawn s'.tree (· = id)
  drawn : s'.tree.node? id = some node
  units : SameUnits s.tree s'.tree
  uses_eq : s'.tree.uses = s.tree.uses

variable {text : Bytes} {tokens : List Token} {s s₁ s₂ s₃ : ReaderState} {owner id start stop : Nat}
  {a b parts : List Part} {c : Construct} {node : Node}

namespace Part.Tight

theorem all {role : Role} (tight : role.isLoose = false) (ids : List NodeId) : Tight (Part.all role ids) := by
  intro part member
  obtain ⟨id, _, rfl⟩ := List.mem_map.mp member
  exact tight

theorem append (first : Tight a) (next : Tight b) : Tight (a ++ b) := fun part member =>
  (List.mem_append.mp member).elim (first part) (next part)

/-- Only clauses and associations are loose. -/
theorem of_pick (clauses : Part.pick .clause a = []) (mappings : Part.pick .mapping a = []) : Tight a := by
  rintro ⟨role, id⟩ member
  have picked := Part.mem_pick.mpr member
  cases role with
  | clause => rw [clauses] at picked; contradiction
  | mapping => rw [mappings] at picked; contradiction
  | _ => rfl

end Part.Tight

theorem SameUnits.refl (t : Tree) : SameUnits t t := ⟨rfl, rfl, rfl, rfl⟩

theorem SameUnits.trans {t t₁ t₂ : Tree} (first : SameUnits t t₁) (next : SameUnits t₁ t₂) : SameUnits t t₂ :=
  ⟨next.entity.trans first.entity, next.architecture.trans first.architecture,
    next.package.trans first.package, next.packageBody.trans first.packageBody⟩

theorem Steps.adds (steps : Steps text tokens s s₁) (owner_lt : owner < s.tree.nodes.size) :
    Adds text tokens s s₁ owner [] :=
  ⟨steps.ready, steps.left_le, by rw [steps.tree_eq]; exact .refl owner_lt,
    by rw [steps.tree_eq]; exact .refl _, by rw [steps.tree_eq]; exact .refl _, steps.settled⟩

theorem Steps.depth_eq (steps : Steps text tokens s s₁) : s₁.tree.depth id = s.tree.depth id := by
  rw [steps.tree_eq]

/-- The lists of the file do not matter to the cursor. -/
theorem Ready.retree (ready : Ready text tokens s) (rest_eq : s₁.rest = s.rest) (last_eq : s₁.lastStop = s.lastStop)
    (nodes_eq : s₁.tree.nodes = s.tree.nodes) (text_eq : s₁.tree.text = s.tree.text) :
    Ready text tokens s₁ where
  tokensOf := ready.tokensOf
  cursor := by
    rw [rest_eq, last_eq]
    exact ready.cursor
  unpassed := rest_eq ▸ ready.unpassed
  text_eq := text_eq.trans ready.text_eq
  rooted := (Tree.redrawn_of_nodes_eq nodes_eq).rooted ready.rooted
  shallow i lt := by
    rw [(Tree.redrawn_of_nodes_eq nodes_eq).depth_eq]
    exact ready.shallow i (nodes_eq ▸ lt)
  spans := by
    rw [rest_eq]
    exact ready.spans.of_nodes_eq nodes_eq
  faithful := ready.faithful.of_nodes_eq nodes_eq
  marked := ready.marked.of_nodes_eq nodes_eq

namespace ReaderState

theorem past_congr (last_eq : s₁.lastStop = s.lastStop) {n : Nat} : s₁.Past n ↔ s.Past n := by
  rw [Past, Past, last_eq]

theorem passed_congr (last_eq : s₁.lastStop = s.lastStop) : s₁.Passed node ↔ s.Passed node := by
  rw [Passed, Passed, past_congr last_eq, past_congr last_eq]

end ReaderState

namespace Adds

theorem trans (first : Adds text tokens s s₁ owner a) (next : Adds text tokens s₁ s₂ owner b)
    (ready : Ready text tokens s) : Adds text tokens s s₂ owner (a ++ b) :=
  ⟨next.ready, Nat.le_trans next.left_le first.left_le, first.grows.trans next.grows ready.rooted,
    first.units.trans next.units, first.uses.trans next.uses first.grows.size_le next.grows.toExtends,
    fun settled => next.settles (first.settles settled)⟩

theorem steps (adds : Adds text tokens s s₁ owner a) (steps : Steps text tokens s₁ s₂) :
    Adds text tokens s s₂ owner a :=
  ⟨steps.ready, Nat.le_trans steps.left_le adds.left_le, by rw [steps.tree_eq]; exact adds.grows,
    by rw [steps.tree_eq]; exact adds.units, by rw [steps.tree_eq]; exact adds.uses, fun settled => steps.settled (adds.settles settled)⟩

theorem size_le (adds : Adds text tokens s s₁ owner a) : s.tree.nodes.size ≤ s₁.tree.nodes.size :=
  adds.grows.size_le

theorem depth_eq (adds : Adds text tokens s s₁ owner a) (lt : id < s.tree.nodes.size) :
    s₁.tree.depth id = s.tree.depth id :=
  Tree.depth_congr fun i le => adds.grows.parent?_old i (by omega)

/-- Changing the lists of the file, and no node, adds nothing. -/
theorem retree (adds : Adds text tokens s s₁ owner a) (rest_eq : s₂.rest = s₁.rest)
    (last_eq : s₂.lastStop = s₁.lastStop) (nodes_eq : s₂.tree.nodes = s₁.tree.nodes)
    (text_eq : s₂.tree.text = s₁.tree.text) (units : SameUnits s₁.tree s₂.tree)
    (uses_eq : s₂.tree.uses = s₁.tree.uses) :
    Adds text tokens s s₂ owner a where
  ready := adds.ready.retree rest_eq last_eq nodes_eq text_eq
  left_le := by
    rw [ReaderState.left, rest_eq]
    exact adds.left_le
  grows := adds.grows.redraw (Tree.redrawn_of_nodes_eq nodes_eq) (fun _ => False.elim) (fun _ _ => False.elim)
    (fun _ => False.elim) fun _ => False.elim
  units := adds.units.trans units
  uses := adds.uses.redraw (Tree.redrawn_of_nodes_eq nodes_eq) uses_eq
  settles settled i node positive known tight := by
    have same : s₂.tree.node? i = s₁.tree.node? i := by rw [Tree.node?, nodes_eq, Tree.node?]
    rw [ReaderState.passed_congr last_eq]
    exact adds.settles settled i node positive (same.symm.trans known) tight

theorem past (adds : Adds text tokens s s₁ owner a) (ready : Ready text tokens s) {n : Nat} (past : s.Past n) :
    s₁.Past n :=
  ready.past_of_le adds.ready adds.left_le past

theorem met (adds : Adds text tokens s s₁ owner a) (ready : Ready text tokens s) (lt : id < s.tree.nodes.size)
    {t : Token} (met : s.Met id t) : s₁.Met id t where
  after above known := met.after above ((adds.grows.old id lt).symm.trans known)
  before u member := met.before u (ready.rest_subset_of_le adds.ready adds.left_le u member)

theorem seen (adds : Adds text tokens s s₁ owner a) (ready : Ready text tokens s) (lt : id < s.tree.nodes.size)
    {t : Token} (seen : s.Seen id t) : s₁.Seen id t where
  after above known := seen.after above ((adds.grows.old id lt).symm.trans known)
  past := adds.past ready seen.past

end Adds

/-- A step of the cursor before nodes are added. -/
theorem Steps.then_adds (steps : Steps text tokens s s₁) (adds : Adds text tokens s₁ s₂ owner a) :
    Adds text tokens s s₂ owner a :=
  ⟨adds.ready, Nat.le_trans adds.left_le steps.left_le, by rw [← steps.tree_eq]; exact adds.grows,
    by rw [← steps.tree_eq]; exact adds.units, by rw [← steps.tree_eq]; exact adds.uses, fun settled => adds.settles (steps.settled settled)⟩

namespace Tree

/-- A change that keeps the parent and the kind of a node redraws it. -/
theorem redrawn_modify {t : Tree} {change : Node → Node} {node : Node} (known : t.node? id = some node)
    (parent : (change node).parent = node.parent)
    (kind : (change node).construct.kind = node.construct.kind) :
    t.Redrawn (t.modify id change) (· = id) where
  size_eq := Array.size_modify
  parent_eq i := by
    simp only [parent?, node?_modify]
    split
    · subst_vars
      simp [known, parent]
    · rfl
  kind_eq i := by
    simp only [construct?, node?_modify]
    split
    · subst_vars
      simp [known, kind]
    · rfl
  other i same := by
    rw [node?_modify, if_neg fun h => same h.symm]

end Tree

namespace Tree

theorem extends_push {t : Tree} {node : Node} (parent : node.parent = some owner)
    (owner_lt : owner < t.nodes.size) :
    t.Extends { t with nodes := t.nodes.push node } owner [(node.construct.role, t.nodes.size)] := by
  have size_eq : (t.nodes.push node).size = t.nodes.size + 1 := Array.size_push _
  have known : ({ t with nodes := t.nodes.push node } : Tree).node? t.nodes.size = some node := by
    rw [node?_push, if_pos rfl]
  refine ⟨owner_lt, ?_, ?_, ?_, ?_⟩
  · exact size_eq ▸ Nat.le_succ _
  · intro i lt
    rw [node?_push, if_neg (by omega)]
  · intro i from_ lt
    obtain rfl : i = t.nodes.size := by
      have : i < t.nodes.size + 1 := size_eq ▸ lt
      omega
    exact ⟨owner, by rw [parent?, known, Option.bind_some, parent], owner_lt, .inl rfl⟩
  · simp [partsFrom, part?, known, parent]

/-- A new node stands one step below its owner, the others stand where they stood. -/
theorem depth_push {t : Tree} {node : Node} (parent : node.parent = some owner)
    (owner_lt : owner < t.nodes.size) (i : Nat) :
    ({ t with nodes := t.nodes.push node } : Tree).depth i =
      if i = t.nodes.size then t.depth owner + 1 else t.depth i := by
  have grown := extends_push parent owner_lt
  split
  · subst i
    have known : ({ t with nodes := t.nodes.push node } : Tree).parent? t.nodes.size = some owner := by
      rw [parent?, node?_push, if_pos rfl, Option.bind_some, parent]
    rw [depth_of_parent? known owner_lt]
    congr 1
    exact depth_congr fun i le => grown.parent?_old i (by omega)
  · rename_i other
    by_cases old : i < t.nodes.size
    · exact depth_congr fun j le => grown.parent?_old j (by omega)
    · have outside : t.parent? i = none := by rw [parent?, node?_eq_none (by omega), Option.bind_none]
      rw [depth_of_root outside, depth_of_root]
      rw [parent?, node?_push, if_neg other]
      exact outside

end Tree

namespace Opens

theorem extend (opens : Opens text tokens s s₁ owner start stop c) :
    s.tree.Extends s₁.tree owner [(c.role, s.tree.nodes.size)] := by
  rw [opens.tree_eq]
  exact Tree.extends_push rfl opens.owner_lt

theorem size_eq (opens : Opens text tokens s s₁ owner start stop c) :
    s₁.tree.nodes.size = s.tree.nodes.size + 1 := by
  rw [opens.tree_eq]
  exact Array.size_push _

theorem node? (opens : Opens text tokens s s₁ owner start stop c) :
    s₁.tree.node? s.tree.nodes.size = some ⟨some owner, start, stop, c⟩ := by
  rw [opens.tree_eq, Tree.node?_push, if_pos rfl]

theorem construct? (opens : Opens text tokens s s₁ owner start stop c) :
    s₁.tree.construct? s.tree.nodes.size = some c := by
  rw [Tree.construct?, opens.node?]
  rfl

theorem isRegion (opens : Opens text tokens s s₁ owner start stop c) (region : c.role.isRegion = true) :
    s₁.tree.IsRegion s.tree.nodes.size :=
  .of_construct? opens.construct? region

theorem units (opens : Opens text tokens s s₁ owner start stop c) : SameUnits s.tree s₁.tree := by
  rw [opens.tree_eq]
  exact ⟨rfl, rfl, rfl, rfl⟩

theorem depth_eq (opens : Opens text tokens s s₁ owner start stop c) :
    s₁.tree.depth s.tree.nodes.size = s.tree.depth owner + 1 := by
  rw [opens.tree_eq, Tree.depth_push rfl opens.owner_lt, if_pos rfl]

theorem left_eq (opens : Opens text tokens s s₁ owner start stop c) : s₁.left = s.left := by
  rw [ReaderState.left, ReaderState.left, opens.rest_eq]

theorem new_lt (opens : Opens text tokens s s₁ owner start stop c) :
    s.tree.nodes.size < s₁.tree.nodes.size := by
  rw [opens.size_eq]
  exact Nat.lt_succ_self _

theorem uses (opens : Opens text tokens s s₁ owner start stop c) (other : c.role ≠ .use) : s.tree.ListsUses s₁.tree := by
  rw [opens.tree_eq]
  exact .push other

/-- What was passed before a node was begun is passed. -/
theorem settled (opens : Opens text tokens s s₁ owner start stop c) (settled : s.Settled)
    (passed : c.role.isLoose = false → s.Past start ∧ s.Past stop) : s₁.Settled := by
  intro i node positive known tight
  rw [ReaderState.passed_congr opens.last_eq]
  rw [opens.tree_eq, Tree.node?_push] at known
  split at known
  · cases known
    exact passed tight
  · exact settled i node positive known tight

/-- A construct without parts is complete as soon as its node is there. -/
theorem leaf (opens : Opens text tokens s s₁ owner start stop c) (ready : Ready text tokens s)
    (settles : s.Settled → s₁.Settled) (bare : c.Bare) (other : c.role ≠ .use) :
    Adds text tokens s s₁ owner [(c.role, s.tree.nodes.size)] :=
  ⟨opens.ready, Nat.le_of_eq opens.left_eq,
    .leaf ready.rooted opens.extend opens.size_eq opens.construct? bare, opens.units, opens.uses other, settles⟩

/-- A construct that got its parts and was then drawn up behind them is one new part of its owner. -/
theorem grows {c' : Construct} (opens : Opens text tokens s s₁ owner start stop c) (ready : Ready text tokens s)
    (inner : Adds text tokens s₁ s₂ s.tree.nodes.size parts)
    (redraws : Redraws text tokens s₂ s₃ s.tree.nodes.size node) (drawn : node.construct = c')
    (plain : c'.initial? = none) (holds : c'.Holds parts) (simple : s₂.tree.Assigns c'.concurrent)
    (covers : s₃.tree.Covers s.tree.nodes.size) : s.tree.Grows s₃.tree owner [(c.role, s.tree.nodes.size)] := by
  have known : s₃.tree.construct? s.tree.nodes.size = some c' := by
    rw [Tree.construct?, redraws.drawn, Option.map_some, drawn]
  exact .close ready.rooted opens.extend opens.size_eq inner.grows redraws.redrawn known plain holds simple covers

theorem left_le (opens : Opens text tokens s s₁ owner start stop c)
    (inner : Adds text tokens s₁ s₂ s.tree.nodes.size parts)
    (redraws : Redraws text tokens s₂ s₃ s.tree.nodes.size node) : s₃.left ≤ s.left := by
  have := inner.left_le
  rw [opens.left_eq] at this
  rw [ReaderState.left, redraws.rest_eq]
  exact this

/-- The use clauses of a construct that is none itself are those of its parts. -/
theorem uses_closed (opens : Opens text tokens s s₁ owner start stop c)
    (inner : Adds text tokens s₁ s₂ s.tree.nodes.size parts)
    (redraws : Redraws text tokens s₂ s₃ s.tree.nodes.size node) (other : c.role ≠ .use) :
    s.tree.ListsUses s₃.tree := by
  refine ((opens.uses other).trans inner.uses ?_ inner.grows.toExtends).redraw redraws.redrawn redraws.uses_eq
  exact Nat.le_of_lt opens.new_lt

/-- To its caller, the reader of a construct has added one part. -/
theorem close {c' : Construct} (opens : Opens text tokens s s₁ owner start stop c) (ready : Ready text tokens s)
    (inner : Adds text tokens s₁ s₂ s.tree.nodes.size parts)
    (redraws : Redraws text tokens s₂ s₃ s.tree.nodes.size node) (drawn : node.construct = c')
    (plain : c'.initial? = none) (holds : c'.Holds parts) (simple : s₂.tree.Assigns c'.concurrent)
    (covers : s₃.tree.Covers s.tree.nodes.size) (other : c.role ≠ .use) (settles : s.Settled → s₃.Settled) :
    Adds text tokens s s₃ owner [(c.role, s.tree.nodes.size)] :=
  ⟨redraws.ready, opens.left_le inner redraws, opens.grows ready inner redraws drawn plain holds simple covers,
    (opens.units.trans inner.units).trans redraws.units, opens.uses_closed inner redraws other, settles⟩

end Opens

namespace Redraws

variable {node' : Node}

theorem left_eq (redraws : Redraws text tokens s s₁ id node) : s₁.left = s.left := by
  rw [ReaderState.left, ReaderState.left, redraws.rest_eq]

theorem trans (first : Redraws text tokens s s₁ id node) (next : Redraws text tokens s₁ s₂ id node') :
    Redraws text tokens s s₂ id node' where
  ready := next.ready
  rest_eq := next.rest_eq.trans first.rest_eq
  last_eq := next.last_eq.trans first.last_eq
  redrawn := (first.redrawn.trans next.redrawn).weaken fun _ changed => changed.elim (fun h => h) fun h => h
  drawn := next.drawn
  units := first.units.trans next.units
  uses_eq := next.uses_eq.trans first.uses_eq

theorem ofModify (ready : Ready text tokens s) {change : Node → Node} (known : s.tree.node? id = some node)
    (parent : (change node).parent = node.parent) (starts : (change node).start = node.start)
    (kind : (change node).construct.kind = node.construct.kind) (ordered : (change node).Ordered tokens)
    (ended : 0 < id → ∀ u ∈ s.rest, (change node).stop ≤ u.offset)
    (below : ∀ p above, node.parent = some p → s.tree.node? p = some above → above.start ≤ (change node).stop)
    (branch : node.construct.role.isMark = false)
    (fits : s.tree.Fits tokens id node.start (change node).construct) :
    Redraws text tokens s { s with tree := s.tree.modify id change } id (change node) := by
  have redrawn := Tree.redrawn_modify known parent kind
  refine ⟨⟨ready.tokensOf, ready.cursor, ready.unpassed, ready.text_eq, redrawn.rooted ready.rooted, ?_, ?_,
    ready.faithful.modify known branch starts fits, ready.marked.modify known branch (congrArg Prod.fst kind)⟩,
    rfl, rfl, redrawn, ?_, ⟨rfl, rfl, rfl, rfl⟩, rfl⟩
  · intro i lt
    rw [redrawn.depth_eq]
    exact ready.shallow i (redrawn.size_eq ▸ lt)
  · exact ready.spans.modify known parent starts ordered ended below
  · simp [Tree.node?_modify, known]

/-- What was passed before a node was redrawn is passed, and so is the node if it ends with the last token. -/
theorem settled (redraws : Redraws text tokens s s₁ id node) (settled : s.Settled)
    (passed : node.construct.role.isLoose = false → s.Passed node) : s₁.Settled := by
  intro i found positive known tight
  rw [ReaderState.passed_congr redraws.last_eq]
  by_cases here : i = id
  · subst here
    rw [redraws.drawn] at known
    cases known
    exact passed tight
  · exact settled i found positive ((redraws.redrawn.other i here).symm.trans known) tight

/-- A node that ends behind everything below it covers it. -/
theorem covers (redraws : Redraws text tokens s s₁ id node)
    (inside : ∀ (i : Nat) (child : Node), s.tree.node? i = some child → child.parent = some id →
      child.start ≤ node.stop ∧ child.stop ≤ node.stop) : s₁.tree.Covers id := by
  refine ⟨node, redraws.drawn, fun i child found parent => ?_⟩
  have above := (Tree.parent?_of_node? found).trans parent
  have ne : i ≠ id := Nat.ne_of_gt (redraws.ready.rooted.lt_of_parent? above)
  exact inside i child ((redraws.redrawn.other i ne).symm.trans found) parent

end Redraws

/-- A new node that is no mark changes nothing about the marks. -/
theorem Ready.marked_plain (ready : Ready text tokens s) (owner_lt : owner < s.tree.nodes.size) (plain : c.Plain) :
    ({ s.tree with nodes := s.tree.nodes.push ⟨some owner, start, stop, c⟩ } : Tree).Marked tokens := by
  have other := plain.isMark
  refine ready.marked.push ready.rooted owner_lt rfl (fun name quotes => ?_) fun mark => ?_
  · rw [← c.isSome_quoted?, quotes] at other
    contradiction
  · rw [other] at mark
    contradiction

namespace Reader

theorem attach_ends (ready : Ready text tokens s) (owner_lt : owner < s.tree.nodes.size)
    (ordered : start ≤ stop) (ended : ∀ u ∈ s.rest, stop ≤ u.offset)
    (after : ∀ above, s.tree.node? owner = some above → above.start ≤ start) (c : Construct)
    (plain : c.Plain ∨ c.role.isMark = true)
    (marked : ({ s.tree with nodes := s.tree.nodes.push ⟨some owner, start, stop, c⟩ } : Tree).Marked tokens) :
    Ends text (attach owner start stop c) s fun id s' =>
      id = s.tree.nodes.size ∧ Opens text tokens s s' owner start stop c := by
  unfold attach
  refine .get_bind ?_
  have inside : stop ≤ text.length := by
    obtain ⟨t, head⟩ := ready.exists_head
    exact Nat.le_trans (ended t (List.mem_of_head? head)) (ready.offset_le (ready.head_mem head))
  have range : checkRange s.tree.text.length start stop = .ok () := by
    rw [checkRange, if_neg]
    rw [ready.text_eq]
    simp only [Bool.or_eq_true, decide_eq_true_eq]
    omega
  by_cases deep : s.tree.depth owner ≤ maxDepth
  · have root := ready.rooted.checkRoot_iff.mpr deep
    simp only [Tree.attach, Tree.place, root, range, Int.toNat_natCast]
    refine .modify_bind (.pure ⟨rfl, ⟨ready.tokensOf, ready.cursor, ready.unpassed, ready.text_eq, ?_, ?_, ?_,
      ready.faithful.push plain, marked⟩, rfl, rfl, rfl, ordered, owner_lt, rfl⟩)
    · exact (Tree.extends_push rfl owner_lt).rooted ready.rooted
    · intro i lt
      rw [Tree.depth_push rfl owner_lt]
      have old := ready.shallow i
      rw [Array.size_push] at lt
      split <;> omega
    · exact ready.spans.push ready.rooted rfl ordered ended after owner_lt
  · rw [Tree.attach, ready.rooted.checkRoot_error (by omega)]
    exact ⟨ready.rooted, owner_lt, by omega⟩

theorem begin_ends (ready : Ready text tokens s) (owner_lt : owner < s.tree.nodes.size) {t : Token}
    (met : s.Met owner t) (c : Construct) (plain : c.Plain) :
    Ends text (begin owner t c) s fun id s' =>
      id = s.tree.nodes.size ∧ Opens text tokens s s' owner t.offset t.offset c :=
  attach_ends ready owner_lt (Nat.le_refl _) met.before met.after c (.inl plain) (ready.marked_plain owner_lt plain)

/-- The node of a token that was read is passed as soon as it is there. -/
theorem attachSeen_ends (ready : Ready text tokens s) (owner_lt : owner < s.tree.nodes.size) {t : Token}
    (seen : s.Seen owner t) (c : Construct) (plain : c.Plain ∨ c.role.isMark = true)
    (marked : ({ s.tree with nodes := s.tree.nodes.push ⟨some owner, t.offset, t.stop, c⟩ } : Tree).Marked tokens) :
    Ends text (attachToken owner t c) s fun id s' =>
      id = s.tree.nodes.size ∧ Opens text tokens s s' owner t.offset t.stop c ∧ (s.Settled → s'.Settled) := by
  obtain ⟨last, lastStop, reached⟩ := seen.past
  have ended (u : Token) (member : u ∈ s.rest) : t.stop ≤ u.offset :=
    Nat.le_trans reached (ready.lastStop_le lastStop u member)
  refine (attach_ends ready owner_lt (Nat.le_add_right _ _) ended seen.after c plain marked).mono ?_
  rintro _ s₁ ⟨rfl, opens⟩
  refine ⟨rfl, opens, fun settled => opens.settled settled ?_⟩
  exact fun _ => ⟨seen.past.le (Nat.le_add_right _ _), seen.past⟩

theorem attachToken_ends (ready : Ready text tokens s) (owner_lt : owner < s.tree.nodes.size) {t : Token}
    (seen : s.Seen owner t) (c : Construct) (plain : c.Plain) :
    Ends text (attachToken owner t c) s fun id s' =>
      id = s.tree.nodes.size ∧ Opens text tokens s s' owner t.offset t.stop c ∧ (s.Settled → s'.Settled) :=
  attachSeen_ends ready owner_lt seen c (.inl plain) (ready.marked_plain owner_lt plain)

theorem become_ends {c' : Construct} (ready : Ready text tokens s) (known : s.tree.node? id = some node)
    (kind : c'.kind = node.construct.kind) (ordered : node.start ≤ node.stop)
    (branch : node.construct.role.isMark = false)
    (fits : s.tree.Fits tokens id node.start c') :
    Ends text (become id c') s fun _ s' => Redraws text tokens s s' id { node with construct := c' } :=
  Redraws.ofModify ready known rfl rfl kind (.inl ordered) (fun positive => ready.spans.ended id node positive known)
    (fun p above owns here => (ready.spans.below id node p above known owns here).2) branch fits

/-- A node may end anywhere between its start and the next token. -/
theorem endAt_ends (ready : Ready text tokens s) (known : s.tree.node? id = some node) {stop : Nat}
    (ordered : node.start ≤ stop) (ended : ∀ u ∈ s.rest, stop ≤ u.offset)
    (branch : node.construct.role.isMark = false) :
    Ends text (endAt id stop) s fun _ s' => Redraws text tokens s s' id { node with stop } :=
  Redraws.ofModify ready known rfl rfl rfl (.inl ordered) (fun _ => ended) (fun p above owns here =>
    Nat.le_trans (ready.spans.below id node p above known owns here).1 ordered) branch (ready.faithful id node known)

theorem finish_ends (ready : Ready text tokens s) (known : s.tree.node? id = some node) (begun : s.Past node.start)
    (branch : node.construct.role.isMark = false) :
    Ends text (finish id) s fun _ s' => ∃ last, s.lastStop = some last ∧ node.start ≤ last ∧
      Redraws text tokens s s' id { node with stop := last } := by
  unfold finish
  refine .get_bind ?_
  obtain ⟨last, lastStop, reached⟩ := begun
  simp only [lastStop]
  refine (endAt_ends ready known reached (ready.lastStop_le lastStop) branch).mono fun _ _ redraws => ?_
  exact ⟨last, rfl, reached, redraws⟩

theorem complete_ends {c' : Construct} (ready : Ready text tokens s) (known : s.tree.node? id = some node)
    (kind : c'.kind = node.construct.kind) (ordered : node.start ≤ node.stop) (begun : s.Past node.start)
    (branch : node.construct.role.isMark = false)
    (fits : s.tree.Fits tokens id node.start c') :
    Ends text (complete id c') s fun _ s' => ∃ last, s.lastStop = some last ∧ node.start ≤ last ∧
      Redraws text tokens s s' id { node with construct := c', stop := last } := by
  unfold complete
  have branch' : c'.role.isMark = false := (congrArg (Role.isMark ∘ Prod.fst) kind).trans branch
  refine (become_ends ready known kind ordered branch fits).bind fun _ s₁ redraws => ?_
  refine (finish_ends redraws.ready redraws.drawn ((ReaderState.past_congr redraws.last_eq).mpr begun) branch').mono ?_
  rintro _ s₂ ⟨last, lastStop, reached, ended⟩
  exact ⟨last, redraws.last_eq ▸ lastStop, reached, redraws.trans ended⟩

end Reader

/-- What stands below a node that was begun has been passed. -/
theorem Adds.inside (inner : Adds text tokens s₁ s₂ id parts) (clear : s₂.Clear) (i : Nat) (child : Node) (found : s₂.tree.node? i = some child)
    (parent : child.parent = some id) : s₂.Passed child := by
  have above := inner.ready.rooted.lt_of_parent? ((Tree.parent?_of_node? found).trans parent)
  exact clear i child (Nat.zero_lt_of_lt above) found

namespace Opens

variable {c' : Construct}

theorem new_pos (opens : Opens text tokens s s₁ owner start stop c) : 0 < s.tree.nodes.size :=
  Nat.lt_of_le_of_lt (Nat.zero_le _) opens.owner_lt

/-- A node that was begun is still there after its parts were added. -/
theorem node?_after (opens : Opens text tokens s s₁ owner start stop c)
    (inner : Adds text tokens s₁ s₂ s.tree.nodes.size parts) :
    s₂.tree.node? s.tree.nodes.size = some ⟨some owner, start, stop, c⟩ :=
  (inner.grows.old _ opens.new_lt).trans opens.node?

/-- Completing a construct whose parts have been passed makes it one new part of its owner. -/
theorem complete_inside_ends (opens : Opens text tokens s s₁ owner start stop c) (ready : Ready text tokens s)
    (inner : Adds text tokens s₁ s₂ s.tree.nodes.size parts) (settled : s₂.Settled) (begun : s₂.Past start)
    (inside : ∀ (i : Nat) (child : Node), s₂.tree.node? i = some child → child.parent = some s.tree.nodes.size →
      s₂.Passed child)
    (kind : c'.kind = c.kind) (plain : c'.initial? = none) (holds : c'.Holds parts)
    (simple : s₂.tree.Assigns c'.concurrent) (other : c.role ≠ .use) (branch : c.role.isMark = false)
    (fits : s₂.tree.Fits tokens s.tree.nodes.size start c') :
    Reader.Ends text (Reader.complete s.tree.nodes.size c') s₂ fun _ s₃ =>
      Adds text tokens s s₃ owner [(c.role, s.tree.nodes.size)] ∧ s₃.left = s₂.left ∧
        s₃.tree.construct? s.tree.nodes.size = some c' := by
  refine (Reader.complete_ends inner.ready (opens.node?_after inner) kind opens.ordered begun branch fits).mono ?_
  rintro _ s₃ ⟨last, lastStop, reached, redraws⟩
  refine ⟨opens.close ready inner redraws rfl plain holds simple ?_ other ?_, redraws.left_eq, ?_⟩
  · refine redraws.covers fun i child found parent => ?_
    have passed := inside i child found parent
    exact ⟨passed.1.le_last lastStop, passed.2.le_last lastStop⟩
  · exact fun _ => redraws.settled settled fun _ => ⟨begun, ⟨last, lastStop, Nat.le_refl _⟩⟩
  · rw [Tree.construct?, redraws.drawn, Option.map_some]

section

variable (opens : Opens text tokens s s₁ owner start stop c) (inner : Adds text tokens s₁ s₂ s.tree.nodes.size parts)
include opens inner

theorem begun (clear : s₂.Clear) : s₂.Past start := (clear _ _ opens.new_pos (opens.node?_after inner)).1

/-- The parts of a new node have been passed, unless they are of a loose role. -/
theorem inside_of_tight (settled : s₂.Settled) (tight : Part.Tight parts) (i : Nat) (child : Node)
    (found : s₂.tree.node? i = some child) (parent : child.parent = some s.tree.nodes.size) : s₂.Passed child := by
  have above := (Tree.parent?_of_node? found).trans parent
  have lt := inner.ready.rooted.lt_of_parent? above
  have part : (child.construct.role, i) ∈ s₂.tree.partsFrom s₁.tree.nodes.size s.tree.nodes.size := by
    refine Tree.mem_partsFrom.mpr ⟨?_, above, by rw [Tree.construct?, found]; rfl⟩
    rw [opens.size_eq]
    exact lt
  rw [inner.grows.added_eq] at part
  exact settled i child (Nat.zero_lt_of_lt lt) found (tight _ part)

/-- Completing a construct after a token behind all its parts. -/
theorem complete_ends (ready : Ready text tokens s) (clear : s₂.Clear) (kind : c'.kind = c.kind)
    (plain : c'.initial? = none) (holds : c'.Holds parts)
    (simple : s₂.tree.Assigns c'.concurrent)
    (other : c.role ≠ .use) (branch : c.role.isMark = false)
    (fits : s₂.tree.Fits tokens s.tree.nodes.size start c') :
    Reader.Ends text (Reader.complete s.tree.nodes.size c') s₂ fun _ s₃ =>
      Adds text tokens s s₃ owner [(c.role, s.tree.nodes.size)] ∧ s₃.left = s₂.left :=
  (opens.complete_inside_ends ready inner clear.settled (opens.begun inner clear) (inner.inside clear) kind plain holds
    simple other branch fits).mono fun _ _ ⟨adds, same, _⟩ => ⟨adds, same⟩

/-- Completing a construct right behind its last part. -/
theorem complete_tight_ends (ready : Ready text tokens s) (settled : s₂.Settled) (begun : s₂.Past start)
    (tight : Part.Tight parts) (kind : c'.kind = c.kind) (plain : c'.initial? = none)
    (holds : c'.Holds parts)
    (simple : s₂.tree.Assigns c'.concurrent)
    (other : c.role ≠ .use) (branch : c.role.isMark = false)
    (fits : s₂.tree.Fits tokens s.tree.nodes.size start c') :
    Reader.Ends text (Reader.complete s.tree.nodes.size c') s₂ fun _ s₃ =>
      Adds text tokens s s₃ owner [(c.role, s.tree.nodes.size)] ∧ s₃.left = s₂.left :=
  (opens.complete_inside_ends ready inner settled begun (opens.inside_of_tight inner settled tight) kind plain holds
    simple other branch fits).mono fun _ _ ⟨adds, same, _⟩ => ⟨adds, same⟩

end

end Opens
end DesignLint
