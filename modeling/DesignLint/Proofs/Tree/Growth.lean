import DesignLint.Proofs.Tree.Parts

/-! How trees grow. Nodes are only added, always below one owner at a time, and a node is redrawn only while
it is the newest thing on its level. What was drawn up once stays so. -/
namespace DesignLint.Tree

/-- A tree that took on nodes below `owner`: the old nodes stand as they were, the new ones stand below the
owner, and `added` are its new parts. -/
structure Extends (t t' : Tree) (owner : Nat) (added : List Part) : Prop where
  owner_lt : owner < t.nodes.size
  size_le : t.nodes.size ≤ t'.nodes.size
  old : ∀ i : Nat, i < t.nodes.size → t'.node? i = t.node? i
  parent : ∀ i : Nat, t.nodes.size ≤ i → i < t'.nodes.size →
    ∃ q : Nat, t'.parent? i = some q ∧ q < i ∧ (q = owner ∨ t.nodes.size ≤ q)
  added_eq : t'.partsFrom t.nodes.size owner = added

/-- A node that ends behind everything directly below it. -/
def Covers (t : Tree) (id : Nat) : Prop :=
  ∃ node, t.node? id = some node ∧ ∀ (i : Nat) (child : Node), t.node? i = some child → child.parent = some id →
    child.start ≤ node.stop ∧ child.stop ≤ node.stop

/-- Objects of one declaration: the nodes from `first` to `id` stand side by side and differ in their names only. -/
structure Together (t : Tree) (first id : Nat) : Prop where
  le : first ≤ id
  parent_eq : ∀ j : Nat, first ≤ j → j < id → t.parent? j = t.parent? id
  renamed : ∀ j : Nat, first ≤ j → j < id → ∃ name, t.construct? j = (t.construct? id).map (Construct.rename name)

/-- An object whose initial value is that of its declaration: the reads come behind the objects and stand below the
first of them. -/
def Shares (t : Tree) (id : Nat) : Prop :=
  ∀ c initial, t.construct? id = some c → c.initial? = some initial →
    ∃ first, t.Together first id ∧ ∀ read ∈ initial, id < read ∧ t.parent? read = some first

/-- A node whose descendants come before the next node beside it. The objects of one declaration are built one behind
the other, ahead of the initial value that they share, so nothing is asked of them. -/
def Packed (t : Tree) (id : Nat) : Prop :=
  (t.construct? id).map (Role.isObject ∘ Construct.role) = some false →
    ∀ next x : Nat, id < next → t.parent? next = t.parent? id → t.Below id x → x < next

/-- A tree that took on nodes below `owner`, all of them drawn up and closed behind what they contain. -/
structure Grows (t t' : Tree) (owner : Nat) (added : List Part) : Prop extends Extends t t' owner added where
  drawn : ∀ i : Nat, t.nodes.size ≤ i → i < t'.nodes.size → t'.Drawn i
  covers : ∀ i : Nat, t.nodes.size ≤ i → i < t'.nodes.size → t'.Covers i
  shares : ∀ i : Nat, t.nodes.size ≤ i → i < t'.nodes.size → t'.Shares i
  packed : ∀ i : Nat, t.nodes.size ≤ i → i < t'.nodes.size → t'.Packed i

/-- A tree in which some nodes were redrawn. They keep their parents and their kinds. -/
structure Redrawn (t t' : Tree) (changed : Nat → Prop) : Prop where
  size_eq : t'.nodes.size = t.nodes.size
  parent_eq : ∀ i : Nat, t'.parent? i = t.parent? i
  kind_eq : ∀ i : Nat, (t'.construct? i).map Construct.kind = (t.construct? i).map Construct.kind
  other : ∀ i : Nat, ¬changed i → t'.node? i = t.node? i

variable {t t₁ t₂ t₃ : Tree} {owner id : Nat} {a b parts : List Part} {changed : Nat → Prop}

theorem node?_push {node : Node} (i : Nat) :
    ({ t with nodes := t.nodes.push node } : Tree).node? i =
      if i = t.nodes.size then some node else t.node? i :=
  Array.getElem?_push

theorem node?_modify {change : Node → Node} (i : Nat) :
    (t.modify id change).node? i = if id = i then (t.node? i).map change else t.node? i :=
  Array.getElem?_modify

namespace Extends

theorem refl (owner_lt : owner < t.nodes.size) : t.Extends t owner [] where
  owner_lt := owner_lt
  size_le := Nat.le_refl _
  old _ _ := rfl
  parent i from_ lt := absurd lt (by omega)
  added_eq := by simp [partsFrom]

theorem parent?_old (e : t.Extends t₁ owner a) (i : Nat) (lt : i < t.nodes.size) :
    t₁.parent? i = t.parent? i := by
  rw [parent?, parent?, e.old i lt]

theorem construct?_old (e : t.Extends t₁ owner a) (i : Nat) (lt : i < t.nodes.size) :
    t₁.construct? i = t.construct? i := by
  rw [construct?, construct?, e.old i lt]

theorem assigns {ids : List Nat} (e : t.Extends t₁ owner a) (assigns : t.Assigns ids) : t₁.Assigns ids := by
  intro id member
  have known := assigns id member
  obtain ⟨c, found, _⟩ := Option.map_eq_some_iff.mp known
  rw [e.construct?_old id (lt_size_of_construct? found)]
  exact known

theorem rooted (e : t.Extends t₁ owner a) (rooted : t.Rooted) : t₁.Rooted where
  nonempty := Nat.lt_of_lt_of_le rooted.nonempty e.size_le
  file := by rw [e.parent?_old 0 rooted.nonempty, rooted.file]
  parent_lt i positive lt := by
    by_cases old : i < t.nodes.size
    · rw [e.parent?_old i old]
      exact rooted.parent_lt i positive old
    · obtain ⟨q, known, less, _⟩ := e.parent i (by omega) lt
      exact ⟨q, known, less⟩

/-- A node other than the owner gets no new parts. -/
theorem partsFrom_eq_nil (e : t.Extends t₁ owner a) (lt : id < t.nodes.size) (ne : id ≠ owner) :
    t₁.partsFrom t.nodes.size id = [] := by
  refine Tree.partsFrom_eq_nil fun i from_ known => ?_
  obtain ⟨q, known', _, isOwner⟩ := e.parent i from_ (lt_size_of_parent? known)
  rw [known] at known'
  cases known'
  omega

theorem partsOf_of_ne (e : t.Extends t₁ owner a) (lt : id < t.nodes.size) (ne : id ≠ owner) :
    t₁.partsOf id = t.partsOf id := by
  rw [partsOf, partsFrom_append e.size_le e.old (Nat.zero_le _), e.partsFrom_eq_nil lt ne,
    List.append_nil, partsOf]

theorem partsOf_owner (e : t.Extends t₁ owner a) : t₁.partsOf owner = t.partsOf owner ++ a := by
  rw [partsOf, partsFrom_append e.size_le e.old (Nat.zero_le _), e.added_eq, partsOf]

theorem old_trans (e₁ : t.Extends t₁ owner a) (e₂ : t₁.Extends t₂ id b) (i : Nat)
    (lt : i < t.nodes.size) : t₂.node? i = t.node? i :=
  (e₂.old i (Nat.lt_of_lt_of_le lt e₁.size_le)).trans (e₁.old i lt)

theorem trans (e₁ : t.Extends t₁ owner a) (e₂ : t₁.Extends t₂ owner b) :
    t.Extends t₂ owner (a ++ b) where
  owner_lt := e₁.owner_lt
  size_le := Nat.le_trans e₁.size_le e₂.size_le
  old := e₁.old_trans e₂
  parent i from_ lt := by
    by_cases old : i < t₁.nodes.size
    · rw [e₂.parent?_old i old]
      exact e₁.parent i from_ old
    · obtain ⟨q, known, less, isOwner⟩ := e₂.parent i (by omega) lt
      have := e₁.size_le
      exact ⟨q, known, less, by omega⟩
  added_eq := by
    rw [partsFrom_append e₂.size_le e₂.old e₁.size_le, e₁.added_eq, e₂.added_eq]

/-- Growth below a new node adds no part to the owner of that node. -/
theorem within (e₁ : t.Extends t₁ owner a) (e₂ : t₁.Extends t₂ id b) (new : t.nodes.size ≤ id) :
    t.Extends t₂ owner a where
  owner_lt := e₁.owner_lt
  size_le := Nat.le_trans e₁.size_le e₂.size_le
  old := e₁.old_trans e₂
  parent i from_ lt := by
    by_cases old : i < t₁.nodes.size
    · rw [e₂.parent?_old i old]
      exact e₁.parent i from_ old
    · obtain ⟨q, known, less, isOwner⟩ := e₂.parent i (by omega) lt
      have := e₁.size_le
      exact ⟨q, known, less, by omega⟩
  added_eq := by
    have lt := Nat.lt_of_lt_of_le e₁.owner_lt e₁.size_le
    have ne : owner ≠ id := by have := e₁.owner_lt; omega
    rw [partsFrom_append e₂.size_le e₂.old e₁.size_le, e₁.added_eq, e₂.partsFrom_eq_nil lt ne,
      List.append_nil]

end Extends

namespace Redrawn

theorem role_eq (r : t.Redrawn t₁ changed) (i : Nat) :
    (t₁.construct? i).map Construct.role = (t.construct? i).map Construct.role := by
  simpa [Function.comp_def, Construct.kind] using congrArg (Option.map Prod.fst) (r.kind_eq i)

theorem assigns {ids : List Nat} (r : t.Redrawn t₁ changed) (assigns : t.Assigns ids) : t₁.Assigns ids := by
  intro id member
  have same := congrArg (Option.map Prod.snd) (r.kind_eq id)
  simp only [Option.map_map, Function.comp_def, Construct.kind] at same
  exact same.trans (assigns id member)

theorem part?_eq (r : t.Redrawn t₁ changed) (i : Nat) : t₁.part? owner i = t.part? owner i := by
  cases found : t.part? owner i with
  | none =>
    cases found' : t₁.part? owner i with
    | none => rfl
    | some part =>
      obtain ⟨role, other⟩ := part
      have := part?_eq_some_iff.mp found'
      rw [r.parent_eq, r.role_eq, ← part?_eq_some_iff, found] at this
      contradiction
  | some part =>
    obtain ⟨role, other⟩ := part
    have := part?_eq_some_iff.mp found
    rw [← r.parent_eq, ← r.role_eq] at this
    exact part?_eq_some_iff.mpr this

theorem partsFrom_eq (r : t.Redrawn t₁ changed) (first : Nat) :
    t₁.partsFrom first owner = t.partsFrom first owner :=
  partsFrom_congr r.size_eq fun i _ => r.part?_eq i

theorem partsOf_eq (r : t.Redrawn t₁ changed) : t₁.partsOf owner = t.partsOf owner := r.partsFrom_eq 0

theorem rooted (r : t.Redrawn t₁ changed) (rooted : t.Rooted) : t₁.Rooted where
  nonempty := r.size_eq ▸ rooted.nonempty
  file := by rw [r.parent_eq, rooted.file]
  parent_lt i positive lt := by
    rw [r.parent_eq]
    exact rooted.parent_lt i positive (r.size_eq ▸ lt)

theorem depth_eq (r : t.Redrawn t₁ changed) : t₁.depth id = t.depth id :=
  depth_congr fun i _ => r.parent_eq i

theorem construct?_eq (r : t.Redrawn t₁ changed) (i : Nat) (same : ¬changed i) :
    t₁.construct? i = t.construct? i := by
  rw [construct?, construct?, r.other i same]

theorem drawn (r : t.Redrawn t₁ changed) (i : Nat) (same : ¬changed i) (drawn : t.Drawn i) :
    t₁.Drawn i := by
  obtain ⟨c, known, fields⟩ := drawn
  refine ⟨c, (r.construct?_eq i same).trans known, ?_⟩
  split at fields
  · obtain ⟨first, le, parent, reads, shared⟩ := fields
    refine ⟨first, le, ?_, r.partsOf_eq.trans reads, shared.imp_right fun none_ => r.partsOf_eq.trans none_⟩
    rw [r.parent_eq, r.parent_eq, parent]
  · rw [r.partsOf_eq]
    exact fields.imp_right r.assigns

theorem trans {more : Nat → Prop} (r₁ : t.Redrawn t₁ changed) (r₂ : t₁.Redrawn t₂ more) :
    t.Redrawn t₂ fun i => changed i ∨ more i where
  size_eq := r₂.size_eq.trans r₁.size_eq
  parent_eq i := (r₂.parent_eq i).trans (r₁.parent_eq i)
  kind_eq i := (r₂.kind_eq i).trans (r₁.kind_eq i)
  other i same := (r₂.other i fun h => same (.inr h)).trans (r₁.other i fun h => same (.inl h))

theorem refl (t : Tree) : t.Redrawn t fun _ => False := ⟨rfl, fun _ => rfl, fun _ => rfl, fun _ _ => rfl⟩

theorem weaken {more : Nat → Prop} (r : t.Redrawn t₁ changed) (le : ∀ i, changed i → more i) :
    t.Redrawn t₁ more :=
  ⟨r.size_eq, r.parent_eq, r.kind_eq, fun i same => r.other i fun h => same (le i h)⟩

end Redrawn

theorem redrawn_of_nodes_eq {t' : Tree} (nodes_eq : t'.nodes = t.nodes) : t.Redrawn t' fun _ => False := by
  have node? (i : Nat) : t'.node? i = t.node? i := by rw [Tree.node?, nodes_eq, Tree.node?]
  exact ⟨by rw [nodes_eq], fun i => by rw [Tree.parent?, node?, Tree.parent?],
    fun i => by rw [Tree.construct?, node?, Tree.construct?], fun i _ => node? i⟩

/-- Redrawing new nodes changes nothing about what a tree took on. -/
theorem Extends.redraw (e : t.Extends t₁ owner a) (r : t₁.Redrawn t₂ changed)
    (new : ∀ i, changed i → t.nodes.size ≤ i) : t.Extends t₂ owner a where
  owner_lt := e.owner_lt
  size_le := r.size_eq ▸ e.size_le
  old i lt := (r.other i fun h => absurd (new i h) (by omega)).trans (e.old i lt)
  parent i from_ lt := by
    rw [r.parent_eq]
    exact e.parent i from_ (r.size_eq ▸ lt)
  added_eq := (r.partsFrom_eq _).trans e.added_eq

/-- Growth elsewhere leaves a node drawn up. -/
theorem Extends.drawn (e : t.Extends t₁ owner a) (rooted : t.Rooted) (i above : Nat)
    (parent : t.parent? i = some above) (le : owner ≤ above) (drawn : t.Drawn i) : t₁.Drawn i := by
  have exists_ := lt_size_of_parent? parent
  -- A node with the same parent as `i` comes after that parent, so it is not the owner.
  have parts : ∀ j : Nat, t.parent? j = t.parent? i → t₁.partsOf j = t.partsOf j := by
    intro j same
    rw [parent] at same
    have := rooted.lt_of_parent? same
    exact e.partsOf_of_ne (lt_size_of_parent? same) (by omega)
  obtain ⟨c, known, fields⟩ := drawn
  refine ⟨c, (e.construct?_old i exists_).trans known, ?_⟩
  split at fields
  · obtain ⟨first, first_le, same, reads, shared⟩ := fields
    refine ⟨first, first_le, ?_, (parts first same).trans reads,
      shared.imp_right fun none_ => (parts i rfl).trans none_⟩
    rw [e.parent?_old first (by omega), e.parent?_old i exists_, same]
  · rw [parts i rfl]
    exact fields.imp_right e.assigns

theorem parent?_of_node? {node : Node} (known : t.node? id = some node) : t.parent? id = node.parent := by
  rw [parent?, known, Option.bind_some]

theorem lt_size_of_node? {node : Node} (known : t.node? id = some node) : id < t.nodes.size :=
  (Array.getElem?_eq_some_iff.mp known).1

/-- Growth elsewhere adds nothing that a node would have to cover. -/
theorem Extends.covers (e : t.Extends t₁ owner a) (i : Nat) (lt : i < t.nodes.size) (ne : i ≠ owner)
    (covers : t.Covers i) : t₁.Covers i := by
  obtain ⟨node, known, below⟩ := covers
  refine ⟨node, (e.old i lt).trans known, fun j child found parent => ?_⟩
  by_cases old : j < t.nodes.size
  · exact below j child ((e.old j old).symm.trans found) parent
  · obtain ⟨q, above, _, isOwner⟩ := e.parent j (by omega) (lt_size_of_node? found)
    rw [parent?_of_node? found, parent] at above
    cases above
    omega

/-- A node stays closed as long as neither it nor a node below it is redrawn. -/
theorem Redrawn.covers (r : t.Redrawn t₁ changed) (i : Nat) (same : ¬changed i)
    (apart : ∀ j : Nat, changed j → t.parent? j ≠ some i) (covers : t.Covers i) : t₁.Covers i := by
  obtain ⟨node, known, below⟩ := covers
  refine ⟨node, (r.other i same).trans known, fun j child found parent => ?_⟩
  have above : t.parent? j = some i := by rw [← r.parent_eq, parent?_of_node? found, parent]
  exact below j child ((r.other j fun h => apart j h above).symm.trans found) parent

/-- The newest node has nothing below it. -/
theorem Extends.covers_new (e : t.Extends t₁ owner a) (rooted : t.Rooted) (one : t₁.nodes.size = t.nodes.size + 1) :
    t₁.Covers t.nodes.size := by
  have exists_ : t.nodes.size < t₁.nodes.size := by omega
  refine ⟨_, Array.getElem?_eq_getElem exists_, fun j child found parent => ?_⟩
  have := (e.rooted rooted).lt_of_parent? ((parent?_of_node? found).trans parent)
  have := lt_size_of_node? found
  omega

/-- A declaration stays as it is while its tree grows. -/
theorem Extends.shares (e : t.Extends t₁ owner a) (i : Nat) (lt : i < t.nodes.size) (shares : t.Shares i) :
    t₁.Shares i := by
  intro c initial known declared
  rw [e.construct?_old i lt] at known
  obtain ⟨first, together, reads⟩ := shares c initial known declared
  refine ⟨first, ⟨together.le, fun j from_ le => ?_, fun j from_ le => ?_⟩, fun read member => ?_⟩
  · rw [e.parent?_old j (by omega), e.parent?_old i lt]
    exact together.parent_eq j from_ le
  · rw [e.construct?_old j (by omega), e.construct?_old i lt]
    exact together.renamed j from_ le
  · obtain ⟨later, parent⟩ := reads read member
    exact ⟨later, (e.parent?_old read (lt_size_of_parent? parent)).trans parent⟩

/-- A declaration stays as it is as long as no object beside it is redrawn. -/
theorem Redrawn.shares (r : t.Redrawn t₁ changed) (i : Nat) (same : ¬changed i)
    (apart : ∀ (j : Nat) (c : Construct), changed j → t.parent? j = t.parent? i → t.construct? j = some c →
      c.initial? = none) (shares : t.Shares i) : t₁.Shares i := by
  intro c initial known declared
  rw [r.construct?_eq i same] at known
  obtain ⟨first, together, reads⟩ := shares c initial known declared
  refine ⟨first, ⟨together.le, fun j from_ le => ?_, fun j from_ le => ?_⟩, fun read member => ?_⟩
  · rw [r.parent_eq, r.parent_eq]
    exact together.parent_eq j from_ le
  · obtain ⟨name, renamed⟩ := together.renamed j from_ le
    rw [known, Option.map_some] at renamed
    have unchanged : ¬changed j := by
      intro again
      have plain := apart j _ again (together.parent_eq j from_ le) renamed
      rw [Construct.initial?_rename, declared] at plain
      contradiction
    exact ⟨name, by rw [r.construct?_eq j unchanged, renamed, r.construct?_eq i same, known, Option.map_some]⟩
  · rw [r.parent_eq]
    exact reads read member

/-- Only declared objects have an initial value to share. -/
theorem shares_of_plain {c : Construct} (known : t.construct? id = some c) (plain : c.initial? = none) : t.Shares id := by
  intro c' initial known' declared
  rw [known] at known'
  cases known'
  rw [plain] at declared
  contradiction

/-- Nothing is added below a node that came after the owner. -/
theorem Extends.below_old (e : t.Extends t₁ owner a) (rooted : t.Rooted) (later : owner < id) (lt : id < t.nodes.size)
    {x : Nat} (below : t₁.Below id x) : x < t.nodes.size ∧ t.Below id x := by
  induction below with
  | @child x parent =>
    have old : x < t.nodes.size := by
      by_contra new
      obtain ⟨q, known, _, isOwner⟩ := e.parent x (by omega) (lt_size_of_parent? parent)
      rw [parent] at known
      cases known
      omega
    exact ⟨old, .child ((e.parent?_old x old).symm.trans parent)⟩
  | @step x middle parent _ ih =>
    have := rooted.below_lt ih.2
    have old : x < t.nodes.size := by
      by_contra new
      obtain ⟨q, known, _, isOwner⟩ := e.parent x (by omega) (lt_size_of_parent? parent)
      rw [parent] at known
      cases known
      omega
    exact ⟨old, .step ((e.parent?_old x old).symm.trans parent) ih.2⟩

/-- What is added comes after everything that was there. -/
theorem Extends.packed (e : t.Extends t₁ owner a) (rooted : t.Rooted) (later : owner < id) (lt : id < t.nodes.size)
    (packed : t.Packed id) : t₁.Packed id := by
  intro plain next x after beside below
  obtain ⟨old, below⟩ := e.below_old rooted later lt below
  rw [e.construct?_old id lt] at plain
  by_cases before : next < t.nodes.size
  · rw [e.parent?_old next before, e.parent?_old id lt] at beside
    exact packed plain next x after beside below
  · omega

/-- The order of the nodes depends on their parents, and who is an object on its role. -/
theorem Redrawn.packed (r : t.Redrawn t₁ changed) (packed : t.Packed id) : t₁.Packed id := by
  have below {x : Nat} (below : t₁.Below id x) : t.Below id x := by
    induction below with
    | child parent => exact .child ((r.parent_eq _).symm.trans parent)
    | step parent _ ih => exact .step ((r.parent_eq _).symm.trans parent) ih
  have same := congrArg (Option.map Role.isObject) (r.role_eq id)
  rw [Option.map_map, Option.map_map] at same
  intro plain next x after beside inside
  rw [r.parent_eq, r.parent_eq] at beside
  exact packed (same ▸ plain) next x after beside (below inside)

/-- A node in which use clauses may stand. -/
def IsRegion (t : Tree) (id : Nat) : Prop := (t.construct? id).map (Role.isRegion ∘ Construct.role) = some true

theorem IsRegion.of_construct? {c : Construct} (known : t.construct? id = some c) (region : c.role.isRegion = true) :
    t.IsRegion id := by
  rw [IsRegion, known, Option.map_some, Function.comp_apply, region]

theorem IsRegion.lt_size (region : t.IsRegion id) : id < t.nodes.size := by
  obtain ⟨c, known, _⟩ := Option.map_eq_some_iff.mp region
  exact lt_size_of_construct? known

theorem Extends.isRegion (e : t.Extends t₁ owner a) (region : t.IsRegion id) : t₁.IsRegion id := by
  rw [IsRegion, e.construct?_old id region.lt_size]
  exact region

theorem Redrawn.isRegion (r : t.Redrawn t₁ changed) (region : t.IsRegion id) : t₁.IsRegion id := by
  have same := congrArg (Option.map Role.isRegion) (r.role_eq id)
  rw [Option.map_map, Option.map_map] at same
  exact same.trans region

/-- The use clauses that the file lists since `t` are the new nodes of that role, and they stand in regions. -/
def ListsUses (t t' : Tree) : Prop :=
  ∃ more, t'.uses = t.uses ++ more ∧
    (∀ i : Nat, i ∈ more ↔ t.nodes.size ≤ i ∧ (t'.construct? i).map Construct.role = some .use) ∧
    ∀ i ∈ more, ∃ p, t'.parent? i = some p ∧ t'.IsRegion p

namespace ListsUses

theorem refl (t : Tree) : t.ListsUses t := by
  refine ⟨[], by rw [List.append_nil], fun i => ?_, by simp⟩
  constructor
  · intro member
    contradiction
  · rintro ⟨new, plays⟩
    obtain ⟨c, known, _⟩ := Option.map_eq_some_iff.mp plays
    exact absurd (lt_size_of_construct? known) (Nat.not_lt.mpr new)

theorem trans (first : t.ListsUses t₁) (next : t₁.ListsUses t₂) (size_le : t.nodes.size ≤ t₁.nodes.size)
    (e : t₁.Extends t₂ owner a) : t.ListsUses t₂ := by
  obtain ⟨more, listed, mem_iff, placed⟩ := first
  obtain ⟨later, listed', mem_iff', placed'⟩ := next
  refine ⟨more ++ later, by rw [listed', listed, List.append_assoc], fun i => ?_, fun i member => ?_⟩
  · rw [List.mem_append, mem_iff, mem_iff']
    by_cases before : i < t₁.nodes.size
    · rw [e.construct?_old i before]
      constructor
      · rintro (found | ⟨new, _⟩)
        · exact found
        · omega
      · exact .inl
    · constructor
      · rintro (⟨new, plays⟩ | ⟨_, plays⟩)
        · obtain ⟨c, known, _⟩ := Option.map_eq_some_iff.mp plays
          exact absurd (lt_size_of_construct? known) before
        · exact ⟨by omega, plays⟩
      · rintro ⟨_, plays⟩
        exact .inr ⟨by omega, plays⟩
  · rcases List.mem_append.mp member with before | new
    · obtain ⟨p, parent, region⟩ := placed i before
      exact ⟨p, (e.parent?_old i (lt_size_of_parent? parent)).trans parent, e.isRegion region⟩
    · exact placed' i new

theorem redraw (lists : t.ListsUses t₁) (r : t₁.Redrawn t₂ changed) (uses_eq : t₂.uses = t₁.uses) : t.ListsUses t₂ := by
  obtain ⟨more, listed, mem_iff, placed⟩ := lists
  refine ⟨more, uses_eq.trans listed, fun i => ?_, fun i member => ?_⟩
  · rw [mem_iff, r.role_eq]
  · obtain ⟨p, parent, region⟩ := placed i member
    exact ⟨p, (r.parent_eq i).trans parent, r.isRegion region⟩

/-- A node of another role is no matter of the use clauses. -/
theorem push {node : Node} (other : node.construct.role ≠ .use) :
    t.ListsUses { t with nodes := t.nodes.push node } := by
  refine ⟨[], by rw [List.append_nil], fun i => ?_, by simp⟩
  constructor
  · intro member
    contradiction
  · rintro ⟨new, plays⟩
    rw [construct?, node?_push] at plays
    split at plays
    · exact absurd (Option.some.inj plays) other
    · rw [node?_eq_none new] at plays
      contradiction

end ListsUses

namespace Grows

theorem refl (owner_lt : owner < t.nodes.size) : t.Grows t owner [] :=
  ⟨.refl owner_lt, fun i from_ lt => absurd lt (by omega), fun i from_ lt => absurd lt (by omega),
    fun i from_ lt => absurd lt (by omega), fun i from_ lt => absurd lt (by omega)⟩

/-- New nodes stay drawn up when their tree grows further below the owner or below one of them. -/
theorem drawn_later (g : t.Grows t₁ owner a) (rooted : t.Rooted) (e : t₁.Extends t₂ id b) (i : Nat)
    (new : t.nodes.size ≤ i) (lt : i < t₁.nodes.size)
    (above : ∀ q : Nat, t₁.parent? i = some q → id ≤ q) : t₂.Drawn i := by
  obtain ⟨q, known, _⟩ := g.parent i new lt
  exact e.drawn (g.toExtends.rooted rooted) i q known (above q known) (g.drawn i new lt)

theorem trans (g₁ : t.Grows t₁ owner a) (g₂ : t₁.Grows t₂ owner b) (rooted : t.Rooted) :
    t.Grows t₂ owner (a ++ b) where
  toExtends := g₁.toExtends.trans g₂.toExtends
  drawn i from_ lt := by
    by_cases old : i < t₁.nodes.size
    · refine g₁.drawn_later rooted g₂.toExtends i from_ old fun q known => ?_
      obtain ⟨q', known', _, isOwner⟩ := g₁.parent i from_ old
      rw [known] at known'
      cases known'
      have := g₁.owner_lt
      omega
    · exact g₂.drawn i (by omega) lt
  covers i from_ lt := by
    have := g₁.owner_lt
    by_cases old : i < t₁.nodes.size
    · exact g₂.toExtends.covers i old (by omega) (g₁.covers i from_ old)
    · exact g₂.covers i (by omega) lt
  shares i from_ lt := by
    by_cases old : i < t₁.nodes.size
    · exact g₂.toExtends.shares i old (g₁.shares i from_ old)
    · exact g₂.shares i (by omega) lt
  packed i from_ lt := by
    have := g₁.owner_lt
    by_cases old : i < t₁.nodes.size
    · exact g₂.toExtends.packed (g₁.toExtends.rooted rooted) (by omega) old (g₁.packed i from_ old)
    · exact g₂.packed i (by omega) lt

/-- Redrawing new nodes directly below the owner, none of them an object, keeps a growth if they are drawn up and closed
again. -/
theorem redraw (g : t.Grows t₁ owner a) (r : t₁.Redrawn t₂ changed)
    (new : ∀ i, changed i → t.nodes.size ≤ i ∧ t₁.parent? i = some owner)
    (plain : ∀ (i : Nat) (c : Construct), changed i → t₁.construct? i = some c ∨ t₂.construct? i = some c →
      c.initial? = none)
    (drawn : ∀ i, changed i → t₂.Drawn i) (covers : ∀ i, changed i → t₂.Covers i) :
    t.Grows t₂ owner a where
  toExtends := g.toExtends.redraw r fun i again => (new i again).1
  drawn i from_ lt := by
    by_cases again : changed i
    · exact drawn i again
    · exact r.drawn i again (g.drawn i from_ (r.size_eq ▸ lt))
  covers i from_ lt := by
    by_cases again : changed i
    · exact covers i again
    · refine r.covers i again (fun j redrawn above => ?_) (g.covers i from_ (r.size_eq ▸ lt))
      rw [(new j redrawn).2] at above
      cases above
      have := g.owner_lt
      omega
  shares i from_ lt := by
    by_cases again : changed i
    · intro c initial known declared
      rw [plain i c again (.inr known)] at declared
      contradiction
    · refine r.shares i again (fun j c redrawn _ known => plain j c redrawn (.inl known)) ?_
      exact g.shares i from_ (r.size_eq ▸ lt)
  packed i from_ lt := r.packed (g.packed i from_ (r.size_eq ▸ lt))

/-- A node that was added, got its parts and was then drawn up is a new part of its owner. -/
theorem close {role : Role} {c : Construct} (rooted : t.Rooted)
    (opened : t.Extends t₁ owner [(role, t.nodes.size)]) (one : t₁.nodes.size = t.nodes.size + 1)
    (inner : t₁.Grows t₂ t.nodes.size parts) (r : t₂.Redrawn t₃ (· = t.nodes.size))
    (drawn : t₃.construct? t.nodes.size = some c) (plain : c.initial? = none) (holds : c.Holds parts)
    (simple : t₂.Assigns c.concurrent) (covers : t₃.Covers t.nodes.size) : t.Grows t₃ owner [(role, t.nodes.size)] where
  toExtends := (opened.within inner.toExtends (Nat.le_refl _)).redraw r fun i same => by omega
  drawn i from_ lt := by
    by_cases here : i = t.nodes.size
    · subst here
      have fresh : t₁.partsOf t.nodes.size = [] := by
        refine partsFrom_eq_nil fun j _ known => ?_
        have := (opened.rooted rooted).lt_of_parent? known
        have := lt_size_of_parent? known
        omega
      refine ⟨c, drawn, ?_⟩
      rw [plain]
      rw [r.partsOf_eq, inner.partsOf_owner, fresh]
      exact ⟨holds, r.assigns simple⟩
    · exact r.drawn i here (inner.drawn i (by omega) (r.size_eq ▸ lt))
  covers i from_ lt := by
    by_cases here : i = t.nodes.size
    · exact here ▸ covers
    · refine r.covers i here ?_ (inner.covers i (by omega) (r.size_eq ▸ lt))
      rintro j rfl above
      have := (inner.toExtends.rooted (opened.rooted rooted)).lt_of_parent? above
      omega
  shares i from_ lt := by
    by_cases here : i = t.nodes.size
    · subst here
      exact shares_of_plain drawn plain
    · -- What stands below the new node does not stand beside it.
      refine r.shares i here ?_ (inner.shares i (by omega) (r.size_eq ▸ lt))
      rintro j c rfl beside _
      obtain ⟨q, known, _, isOwner⟩ := inner.parent i (by omega) (r.size_eq ▸ lt)
      rw [known] at beside
      have := (inner.toExtends.rooted (opened.rooted rooted)).lt_of_parent? beside
      omega
  packed i from_ lt := by
    by_cases here : i = t.nodes.size
    · -- Nothing was added beside the new node.
      subst here
      intro _ next x after beside _
      obtain ⟨above, known, less, _⟩ := opened.parent t.nodes.size (Nat.le_refl _) (by omega)
      rw [r.parent_eq, r.parent_eq, inner.parent?_old t.nodes.size (by omega), known] at beside
      obtain ⟨q, parent, _, isOwner⟩ := inner.parent next (by omega) (lt_size_of_parent? beside)
      rw [beside] at parent
      cases parent
      omega
    · exact r.packed (inner.packed i (by omega) (r.size_eq ▸ lt))

/-- A node without parts is a new part of its owner. -/
theorem leaf {role : Role} {c : Construct} (rooted : t.Rooted)
    (opened : t.Extends t₁ owner [(role, t.nodes.size)]) (one : t₁.nodes.size = t.nodes.size + 1)
    (drawn : t₁.construct? t.nodes.size = some c)
    (bare : c.Bare) :
    t.Grows t₁ owner [(role, t.nodes.size)] where
  toExtends := opened
  drawn i from_ lt := by
    obtain rfl : i = t.nodes.size := by omega
    have fresh : t₁.partsOf t.nodes.size = [] := by
      refine partsFrom_eq_nil fun j _ known => ?_
      have := (opened.rooted rooted).lt_of_parent? known
      have := lt_size_of_parent? known
      omega
    refine ⟨c, drawn, ?_⟩
    obtain declared | ⟨plain, holds, simple⟩ := bare
    · rw [declared]
      exact ⟨_, Nat.le_refl _, rfl, fresh, .inl rfl⟩
    · rw [plain, fresh, simple]
      exact ⟨holds, .nil⟩
  covers i from_ lt := by
    obtain rfl : i = t.nodes.size := by omega
    exact opened.covers_new rooted one
  shares i from_ lt := by
    obtain rfl : i = t.nodes.size := by omega
    obtain declared | ⟨plain, _⟩ := bare
    · intro c' initial known declared'
      rw [drawn] at known
      cases known
      rw [declared] at declared'
      cases declared'
      exact ⟨_, ⟨Nat.le_refl _, fun j from_ lt => absurd lt (by omega), fun j from_ lt => absurd lt (by omega)⟩, by simp⟩
    · exact shares_of_plain drawn plain
  packed i from_ lt := by
    intro _ next _ after beside _
    obtain ⟨q, known, _⟩ := opened.parent i from_ lt
    have := lt_size_of_parent? (beside.trans known)
    omega

end Grows
end DesignLint.Tree
