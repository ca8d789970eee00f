import DesignLint.Proofs.Tree.WellFormed

/-! Traversals. A traversal follows the lists of some roles downwards, each node before what is under it. It
meets a node once, and it meets everything that can be reached through the lists. -/
namespace DesignLint.Tree

/-- A node or something below it. -/
def AtOrBelow (t : Tree) (above id : Nat) : Prop := id = above ∨ t.Below above id

/-- What a node lists for some roles. -/
def kids (t : Tree) (roles : List Role) (id : Nat) : List NodeId := roles.flatMap (t.membersOf · id)

/-- The nodes of a list, each followed by those under it, down to `levels` of them. -/
def preorder (t : Tree) (roles : List Role) : (levels : Nat) → List NodeId → List NodeId
  | 0, _ => []
  | levels + 1, ids => ids.flatMap fun id => id :: t.preorder roles levels (t.kids roles id)

/-- The nodes of a list, each followed by those under it. No chain of parents is longer than the tree. -/
def under (t : Tree) (roles : List Role) (ids : List NodeId) : List NodeId :=
  t.preorder roles t.nodes.size ids

variable {t : Tree} {roles : List Role} {ids : List Nat} {a b id x y parent levels : Nat}

theorem Below.atOrBelow_parent (below : t.Below a x) (known : t.parent? x = some parent) :
    t.AtOrBelow a parent := by
  cases below with
  | child found =>
    rw [known] at found
    exact .inl (Option.some.inj found)
  | step found above =>
    rw [known] at found
    cases found
    exact .inr above

theorem Rooted.not_below_sibling (rooted : t.Rooted) (left : t.parent? a = some parent)
    (right : t.parent? b = some parent) : ¬t.Below a b := by
  intro below
  have before := rooted.lt_of_parent? left
  rcases below.atOrBelow_parent right with same | above
  · omega
  · have := rooted.below_lt above
    omega

/-- Siblings have nothing in common. -/
theorem Rooted.eq_of_siblings (rooted : t.Rooted) (left : t.parent? a = some parent)
    (right : t.parent? b = some parent) (inLeft : t.AtOrBelow a x) (inRight : t.AtOrBelow b x) : a = b := by
  have leftFree := rooted.not_below_sibling left right
  have rightFree := rooted.not_below_sibling right left
  rcases inLeft with rfl | inLeft
  · rcases inRight with same | below
    · exact same
    · exact absurd below rightFree
  · induction inLeft with
    | child known =>
      rcases inRight with rfl | below
      · exact absurd (.child known) leftFree
      · rcases below.atOrBelow_parent known with same | below
        · exact same
        · exact absurd below rightFree
    | step known above ih =>
      rcases inRight with rfl | below
      · exact absurd (.step known above) leftFree
      · exact ih (below.atOrBelow_parent known)

/-- Lists without repetition that have nothing in common, one after the other. -/
theorem nodup_flatMap_of_eq {α β : Type} {xs : List α} {f : α → List β} (nodup : xs.Nodup)
    (each : ∀ x ∈ xs, (f x).Nodup) (eq : ∀ x ∈ xs, ∀ x' ∈ xs, ∀ y, y ∈ f x → y ∈ f x' → x = x') :
    (xs.flatMap f).Nodup := by
  refine List.nodup_flatMap.mpr ⟨each, List.Pairwise.imp_of_mem (fun {x x'} member member' ne => ?_) nodup⟩
  intro y left right
  exact ne (eq x member x' member' y left right)

theorem mem_kids : x ∈ t.kids roles id ↔ ∃ role ∈ roles, x ∈ t.membersOf role id := List.mem_flatMap

namespace WellFormed

theorem parent?_of_mem_kids (formed : t.WellFormed) (listed : ∀ role ∈ roles, role.Listed)
    (member : x ∈ t.kids roles id) : t.parent? x = some id := by
  obtain ⟨role, among, member⟩ := mem_kids.mp member
  exact (formed.child_of_mem (listed role among) member).1

theorem kids_nodup (formed : t.WellFormed) (listed : ∀ role ∈ roles, role.Listed) (distinct : roles.Nodup)
    (id : Nat) : (t.kids roles id).Nodup := by
  refine nodup_flatMap_of_eq distinct (fun role among => formed.membersOf_nodup (listed role among) id) ?_
  intro r among r' among' x left right
  have one := (formed.child_of_mem (listed r among) left).2
  have two := (formed.child_of_mem (listed r' among') right).2
  rw [one] at two
  exact Option.some.inj two

end WellFormed

/-- What holds of the first nodes, and of everything that a node with it lists, holds of all nodes met. -/
theorem preorder_induction (holds : Nat → Prop) (first : ∀ id ∈ ids, holds id)
    (next : ∀ id, holds id → ∀ x ∈ t.kids roles id, holds x) : ∀ x ∈ t.preorder roles levels ids, holds x := by
  induction levels generalizing ids with
  | zero => simp [preorder]
  | succ levels ih =>
    intro x member
    obtain ⟨id, among, member⟩ := List.mem_flatMap.mp member
    rcases List.mem_cons.mp member with rfl | member
    · exact first _ among
    · exact ih (next id (first id among)) x member

theorem under_induction (holds : Nat → Prop) (first : ∀ id ∈ ids, holds id)
    (next : ∀ id, holds id → ∀ x ∈ t.kids roles id, holds x) : ∀ x ∈ t.under roles ids, holds x :=
  preorder_induction holds first next

theorem preorder_atOrBelow (formed : t.WellFormed) (listed : ∀ role ∈ roles, role.Listed) :
    ∀ x ∈ t.preorder roles levels ids, ∃ id ∈ ids, t.AtOrBelow id x := by
  refine preorder_induction (fun x => ∃ id ∈ ids, t.AtOrBelow id x) (fun id among => ⟨id, among, .inl rfl⟩) ?_
  rintro id ⟨first, among, below⟩ x member
  have known := formed.parent?_of_mem_kids listed member
  refine ⟨first, among, .inr ?_⟩
  rcases below with rfl | below
  · exact .child known
  · exact .step known below

/-- A traversal meets no node twice. -/
theorem preorder_nodup (formed : t.WellFormed) (listed : ∀ role ∈ roles, role.Listed) (distinct : roles.Nodup)
    (siblings : ∀ id ∈ ids, t.parent? id = some parent) (nodup : ids.Nodup) :
    (t.preorder roles levels ids).Nodup := by
  induction levels generalizing ids parent with
  | zero => exact .nil
  | succ levels ih =>
    have within (id x : Nat) (member : x ∈ id :: t.preorder roles levels (t.kids roles id)) : t.AtOrBelow id x := by
      rcases List.mem_cons.mp member with same | member
      · exact .inl same
      · obtain ⟨kid, among, below⟩ := preorder_atOrBelow formed listed x member
        have known := formed.parent?_of_mem_kids listed among
        rcases below with rfl | below
        · exact .inr (.child known)
        · exact .inr ((Below.child known).trans below)
    refine nodup_flatMap_of_eq nodup (fun id among => List.nodup_cons.mpr ⟨fun member => ?_, ?_⟩) ?_
    · obtain ⟨kid, among, below⟩ := preorder_atOrBelow formed listed _ member
      have less := formed.rooted.lt_of_parent? (formed.parent?_of_mem_kids listed among)
      rcases below with rfl | below
      · exact absurd less (Nat.lt_irrefl _)
      · have := formed.rooted.below_lt below
        omega
    · exact ih (fun x member => formed.parent?_of_mem_kids listed member) (formed.kids_nodup listed distinct id)
    · intro i among j among' x left right
      exact formed.rooted.eq_of_siblings (siblings i among) (siblings j among') (within i x left)
        (within j x right)

/-- Enough levels for everything under some nodes. -/
def Enough (t : Tree) (levels : Nat) (ids : List Nat) : Prop :=
  ∀ id ∈ ids, id < t.nodes.size ∧ t.nodes.size ≤ levels + id

theorem Enough.kids (formed : t.WellFormed) (listed : ∀ role ∈ roles, role.Listed)
    (enough : t.Enough (levels + 1) ids) (among : id ∈ ids) : t.Enough levels (t.kids roles id) := by
  intro x member
  have known := formed.parent?_of_mem_kids listed member
  have := formed.rooted.lt_of_parent? known
  have := (enough id among).2
  exact ⟨lt_size_of_parent? known, by omega⟩

theorem preorder_succ (formed : t.WellFormed) (listed : ∀ role ∈ roles, role.Listed)
    (enough : t.Enough levels ids) : t.preorder roles (levels + 1) ids = t.preorder roles levels ids := by
  induction levels generalizing ids with
  | zero =>
    have none_ : ids = [] := by
      refine List.eq_nil_iff_forall_not_mem.mpr fun id among => ?_
      have := enough id among
      omega
    simp [none_, preorder]
  | succ levels ih =>
    rw [preorder, preorder]
    refine List.flatMap_congr fun id among => ?_
    rw [ih (enough.kids formed listed among)]

/-- A traversal, one node at a time. -/
theorem under_eq (formed : t.WellFormed) (listed : ∀ role ∈ roles, role.Listed)
    (exist : ∀ id ∈ ids, id < t.nodes.size) :
    t.under roles ids = ids.flatMap fun id => id :: t.under roles (t.kids roles id) := by
  have enough : t.Enough t.nodes.size ids := fun id among => ⟨exist id among, Nat.le_add_right _ _⟩
  rw [under, ← preorder_succ formed listed enough, preorder]
  rfl

/-- A traversal meets what the nodes that it meets list. -/
theorem mem_under_of_mem_kids (formed : t.WellFormed) (listed : ∀ role ∈ roles, role.Listed)
    (exist : ∀ id ∈ ids, id < t.nodes.size) (met : x ∈ t.under roles ids) (member : y ∈ t.kids roles x) :
    y ∈ t.under roles ids := by
  have closed (levels : Nat) (ids : List Nat) (enough : t.Enough levels ids)
      (met : x ∈ t.preorder roles levels ids) : y ∈ t.preorder roles levels ids := by
    induction levels generalizing ids with
    | zero => simp [preorder] at met
    | succ levels ih =>
      obtain ⟨id, among, met⟩ := List.mem_flatMap.mp met
      have fewer := enough.kids formed listed among
      refine List.mem_flatMap.mpr ⟨id, among, List.mem_cons_of_mem _ ?_⟩
      rcases List.mem_cons.mp met with rfl | met
      · rw [← preorder_succ formed listed fewer, preorder]
        exact List.mem_flatMap.mpr ⟨y, member, List.mem_cons_self⟩
      · exact ih _ fewer met
  exact closed _ ids (fun id among => ⟨exist id among, Nat.le_add_right _ _⟩) met

theorem mem_under_of_mem (formed : t.WellFormed) (listed : ∀ role ∈ roles, role.Listed)
    (exist : ∀ id ∈ ids, id < t.nodes.size) (member : x ∈ ids) : x ∈ t.under roles ids := by
  rw [under_eq formed listed exist]
  exact List.mem_flatMap.mpr ⟨x, member, List.mem_cons_self⟩

end DesignLint.Tree
