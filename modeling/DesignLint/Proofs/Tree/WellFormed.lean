import Mathlib.Data.List.Nodup
import DesignLint.Proofs.Tree.Growth

/-! Well-formed trees, as the parser leaves them. The fields of a construct and the children of its node tell
the same thing: a node is listed under its role exactly if the construct is its parent. -/
namespace DesignLint

/-- Only plain constructs list parts. -/
theorem Construct.members_of_initial? {c : Construct} {initial : List NodeId} (declared : c.initial? = some initial)
    (role : Role) : c.members role = [] := by
  cases c <;> simp [Construct.initial?] at declared <;> cases role <;> rfl

/-- A role that every construct lists. -/
def Role.Listed (role : Role) : Prop := ∀ c : Construct, c.lists role = true

namespace Tree

/-- The role of a node. -/
def role? (t : Tree) (id : Nat) : Option Role := (t.construct? id).map Construct.role

/-- What a node lists for a role. -/
def membersOf (t : Tree) (role : Role) (id : Nat) : List NodeId :=
  (t.construct? id).elim [] (·.members role)

/-- The children of a node that play a role. -/
def Child (t : Tree) (role : Role) (parent id : Nat) : Prop :=
  t.parent? id = some parent ∧ t.role? id = some role

/-- Every parent comes before its children, no node is deeper than one step below what a walk may go, and
every construct is drawn up. -/
structure WellFormed (t : Tree) : Prop where
  rooted : t.Rooted
  shallow : ∀ id : Nat, id < t.nodes.size → t.depth id ≤ maxDepth + 1
  file : t.construct? 0 = some .file
  drawn : ∀ id : Nat, 0 < id → id < t.nodes.size → t.Drawn id
  architecture : ∀ a, t.architecture = some a → t.role? a = some .architecture

variable {t : Tree} {id child parent : Nat} {c : Construct} {role : Role}

theorem exists_construct? (lt : id < t.nodes.size) : ∃ c, t.construct? id = some c :=
  ⟨_, by rw [construct?, node?, Array.getElem?_eq_getElem lt]; rfl⟩

theorem role?_of_construct? (known : t.construct? id = some c) : t.role? id = some c.role := by
  rw [role?, known, Option.map_some]

theorem membersOf_of_construct? (known : t.construct? id = some c) : t.membersOf role id = c.members role := by
  rw [membersOf, known, Option.elim_some]

/-- Parts are listed in the order in which they were built. -/
theorem partsOf_pairwise (t : Tree) (owner : Nat) : ((t.partsOf owner).map Prod.snd).Pairwise (· < ·) := by
  rw [partsOf, partsFrom, Nat.sub_zero, List.map_filterMap]
  refine List.Pairwise.filterMap _ (fun i j lt id found id' found' => ?_) List.pairwise_lt_range'
  obtain ⟨⟨_, _⟩, part, rfl⟩ := Option.map_eq_some_iff.mp found
  obtain ⟨⟨_, _⟩, part', rfl⟩ := Option.map_eq_some_iff.mp found'
  rw [(part?_eq_some_iff.mp part).1, (part?_eq_some_iff.mp part').1]
  exact lt

theorem partsOf_nodup (t : Tree) (owner : Nat) : ((t.partsOf owner).map Prod.snd).Nodup :=
  (t.partsOf_pairwise owner).imp Nat.ne_of_lt

theorem pick_nodup (t : Tree) (owner : Nat) (role : Role) : (Part.pick role (t.partsOf owner)).Nodup :=
  (t.partsOf_nodup owner).sublist (Part.pick_sublist role _)

namespace WellFormed

theorem pos_of_ne_file (formed : t.WellFormed) (known : t.construct? id = some c) (ne : c ≠ .file) : 0 < id := by
  refine Nat.pos_of_ne_zero ?_
  rintro rfl
  rw [formed.file] at known
  exact ne (Option.some.inj known).symm

theorem holds_of_pos (formed : t.WellFormed) (known : t.construct? id = some c) (positive : 0 < id)
    (plain : c.initial? = none) : c.Holds (t.partsOf id) ∧ t.Assigns c.concurrent := by
  obtain ⟨c', known', fields⟩ := formed.drawn id positive (lt_size_of_construct? known)
  rw [known] at known'
  cases known'
  rw [plain] at fields
  exact fields

theorem holds (formed : t.WellFormed) (known : t.construct? id = some c) (ne : c ≠ .file)
    (plain : c.initial? = none) : c.Holds (t.partsOf id) :=
  (formed.holds_of_pos known (formed.pos_of_ne_file known ne) plain).1

/-- What a construct lists under a role are the children that play it. -/
theorem mem_members_iff (formed : t.WellFormed) (known : t.construct? id = some c) (ne : c ≠ .file)
    (plain : c.initial? = none) (listed : c.lists role = true) :
    child ∈ c.members role ↔ t.Child role id child := by
  rw [← (formed.holds known ne plain).lists role listed, Part.mem_pick, mem_partsOf, Child, role?]

/-- Whatever is listed under a role that every construct lists is a child that plays it. -/
theorem child_of_mem (formed : t.WellFormed) (listed : role.Listed) (member : child ∈ t.membersOf role id) :
    t.Child role id child := by
  cases known : t.construct? id with
  | none => simp [membersOf, known] at member
  | some c =>
    rw [membersOf_of_construct? known] at member
    cases plain : c.initial? with
    | some initial => simp [Construct.members_of_initial? plain] at member
    | none =>
      have ne : c ≠ .file := by
        rintro rfl
        cases role <;> simp [Construct.members, Construct.statements] at member
      exact (formed.mem_members_iff known ne plain (listed c)).mp member

theorem role?_of_mem_members (formed : t.WellFormed) (listed : role.Listed) (known : t.construct? id = some c)
    (member : child ∈ c.members role) : t.role? child = some role :=
  (formed.child_of_mem listed (membersOf_of_construct? known ▸ member)).2

theorem membersOf_nodup (formed : t.WellFormed) (listed : role.Listed) (id : Nat) :
    (t.membersOf role id).Nodup := by
  cases known : t.construct? id with
  | none => simp [membersOf, known]
  | some c =>
    rw [membersOf_of_construct? known]
    cases plain : c.initial? with
    | some initial => simp [Construct.members_of_initial? plain]
    | none =>
      by_cases ne : c = .file
      · subst ne
        cases role <;> simp [Construct.members, Construct.statements]
      · rw [← (formed.holds known ne plain).lists role (listed c)]
        exact t.pick_nodup id role

/-- The children of a declared object are reads. -/
theorem role?_of_declared (formed : t.WellFormed) (known : t.construct? id = some c) {initial : List NodeId}
    (declared : c.initial? = some initial) (parent : t.parent? child = some id) : t.role? child = some .read := by
  have ne : c ≠ .file := by
    rintro rfl
    simp [Construct.initial?] at declared
  obtain ⟨c', known', fields⟩ := formed.drawn id (formed.pos_of_ne_file known ne) (lt_size_of_construct? known)
  rw [known] at known'
  cases known'
  rw [declared] at fields
  obtain ⟨first, _, _, reads, isFirst⟩ := fields
  obtain ⟨c', found⟩ := exists_construct? (lt_size_of_parent? parent)
  have part : (c'.role, child) ∈ t.partsOf id := mem_partsOf.mpr ⟨parent, role?_of_construct? found⟩
  rcases isFirst with rfl | none_
  · rw [reads, Part.all, List.mem_map] at part
    obtain ⟨_, _, same⟩ := part
    rw [role?_of_construct? found, (Prod.mk.inj same).1]
  · simp [none_] at part

theorem mem_members_of_plain (formed : t.WellFormed) (known : t.construct? id = some c) (positive : 0 < id)
    (plain : c.initial? = none) (listed : role.Listed) (is_child : t.Child role id child) :
    child ∈ c.members role := by
  rw [← (formed.holds_of_pos known positive plain).1.lists role (listed c), Part.mem_pick, mem_partsOf]
  exact is_child

/-- A child that is no read is listed by its parent, unless that is the file. -/
theorem mem_members_of_child (formed : t.WellFormed) (known : t.construct? id = some c) (positive : 0 < id)
    (listed : role.Listed) (other : role ≠ .read) (is_child : t.Child role id child) : child ∈ c.members role := by
  cases plain : c.initial? with
  | some initial =>
    have read := formed.role?_of_declared known plain is_child.1
    rw [is_child.2] at read
    exact absurd (Option.some.inj read) other
  | none => exact formed.mem_members_of_plain known positive plain listed is_child

/-- The lists of the file, apart from its architecture, do not matter. -/
theorem retree (formed : t.WellFormed) {t' : Tree} (nodes_eq : t'.nodes = t.nodes)
    (architecture : t'.architecture = t.architecture) : t'.WellFormed := by
  have redrawn := redrawn_of_nodes_eq nodes_eq
  have construct? (i : Nat) : t'.construct? i = t.construct? i := redrawn.construct?_eq i fun h => h
  refine ⟨redrawn.rooted formed.rooted, ?_, (construct? 0).trans formed.file, ?_, ?_⟩
  · intro id lt
    rw [redrawn.depth_eq]
    exact formed.shallow id (nodes_eq ▸ lt)
  · intro id positive lt
    exact redrawn.drawn id (fun h => h) (formed.drawn id positive (nodes_eq ▸ lt))
  · intro a found
    rw [role?, construct?]
    exact formed.architecture a (architecture ▸ found)

end WellFormed
end Tree
end DesignLint
