import DesignLint.Tree.Arena

/-! How deep the nodes of a tree stand. The walks to the root and through the scopes count their steps
from different places; on a tree whose parents come before their children, both are statements about the
depth of the node that the walk starts from. -/
namespace DesignLint.Tree

/-- The number of steps from a node up to the file. A parent that does not come before its child is not
followed. -/
def depth (t : Tree) (id : Nat) : Nat :=
  match t.parent? id with
  | some parent => if parent < id then t.depth parent + 1 else 0
  | none => 0
termination_by id

/-- The first node is the file, and every other node has a parent that was built before it. -/
structure Rooted (t : Tree) : Prop where
  nonempty : 0 < t.nodes.size
  file : t.parent? 0 = none
  parent_lt : ∀ id : Nat, 0 < id → id < t.nodes.size → ∃ parent : Nat, t.parent? id = some parent ∧ parent < id

/-- One node stands, however many levels, below another. -/
inductive Below (t : Tree) (above : Nat) : Nat → Prop where
  | child {id : Nat} (parent : t.parent? id = some above) : Below t above id
  | step {id middle : Nat} (parent : t.parent? id = some middle) (below : Below t above middle) :
      Below t above id

variable {t t' : Tree} {id parent : Nat}

theorem lt_size_of_parent? (known : t.parent? id = some parent) : id < t.nodes.size := by
  obtain ⟨node, found, _⟩ := Option.bind_eq_some_iff.mp known
  exact (Array.getElem?_eq_some_iff.mp found).1

theorem lt_size_of_construct? {c : Construct} (known : t.construct? id = some c) : id < t.nodes.size := by
  obtain ⟨node, found, _⟩ := Option.map_eq_some_iff.mp known
  exact (Array.getElem?_eq_some_iff.mp found).1

theorem Rooted.lt_of_parent? (rooted : t.Rooted) (known : t.parent? id = some parent) : parent < id := by
  have positive : 0 < id := by
    refine Nat.pos_of_ne_zero ?_
    rintro rfl
    rw [rooted.file] at known
    contradiction
  obtain ⟨other, found, lt⟩ := rooted.parent_lt id positive (lt_size_of_parent? known)
  rw [known] at found
  cases found
  exact lt

theorem depth_of_parent? (known : t.parent? id = some parent) (lt : parent < id) :
    t.depth id = t.depth parent + 1 := by
  rw [depth, known]
  simp only [lt, if_true]

theorem depth_of_root (root : t.parent? id = none) : t.depth id = 0 := by rw [depth, root]

theorem Rooted.depth_pos (rooted : t.Rooted) (positive : 0 < id) (exists_ : id < t.nodes.size) :
    0 < t.depth id := by
  obtain ⟨parent, known, lt⟩ := rooted.parent_lt id positive exists_
  rw [depth_of_parent? known lt]
  exact Nat.succ_pos _

/-- The depth of a node depends only on the parents of the nodes up to it. -/
theorem depth_congr (same : ∀ i ≤ id, t'.parent? i = t.parent? i) : t'.depth id = t.depth id := by
  induction id using Nat.strongRecOn with
  | ind id ih =>
    have here := same id (Nat.le_refl _)
    cases known : t.parent? id with
    | none => rw [depth_of_root known, depth_of_root (here.trans known)]
    | some parent =>
      by_cases lt : parent < id
      · rw [depth_of_parent? known lt, depth_of_parent? (here.trans known) lt,
          ih parent lt fun i le => same i (Nat.le_trans le (Nat.le_of_lt lt))]
      · rw [depth, depth, here, known]
        simp only [lt, if_false]

theorem Rooted.reachesFile_iff (rooted : t.Rooted) (steps id : Nat) :
    t.reachesFile steps id = true ↔ t.depth id < steps := by
  induction steps generalizing id with
  | zero => simp [reachesFile]
  | succ steps ih =>
    rw [reachesFile]
    cases known : t.parent? id with
    | none => simp [depth_of_root known]
    | some parent =>
      rw [depth_of_parent? known (rooted.lt_of_parent? known), Nat.add_lt_add_iff_right]
      exact ih parent

/-- The root of a node is found exactly if the node is no deeper than a walk may go. -/
theorem Rooted.checkRoot_iff (rooted : t.Rooted) :
    t.checkRoot id = .ok () ↔ t.depth id ≤ maxDepth := by
  have reaches := rooted.reachesFile_iff (maxDepth + 1) id
  rw [Nat.lt_succ_iff] at reaches
  rw [← reaches, checkRoot]
  split <;> simp_all

/-- If no node is deeper than a walk may go, the root of everything is found. -/
theorem Rooted.checkRoot_of_shallow (rooted : t.Rooted)
    (shallow : ∀ id : Nat, id < t.nodes.size → t.depth id ≤ maxDepth) (id : Nat) : t.checkRoot id = .ok () := by
  rw [rooted.checkRoot_iff]
  by_cases inside : id < t.nodes.size
  · exact shallow id inside
  · rw [depth_of_root]
    · exact Nat.zero_le _
    · rw [parent?, node?, Array.getElem?_eq_none (by omega), Option.bind_none]

theorem Rooted.checkRoot_error (rooted : t.Rooted) (deep : maxDepth < t.depth id) :
    t.checkRoot id = .error (.longChain id) := by
  have reaches := rooted.reachesFile_iff (maxDepth + 1) id
  rw [checkRoot, if_neg]
  rw [reaches]
  omega

theorem forM_eq_ok_iff {α : Type} {xs : List α} {f : α → Except TreeFault Unit} :
    xs.forM f = .ok () ↔ ∀ x ∈ xs, f x = .ok () := by
  induction xs with
  | nil => simp [pure, Except.pure]
  | cons x xs ih =>
    change (f x >>= fun _ => xs.forM f) = .ok () ↔ _
    rw [List.forall_mem_cons, ← ih]
    cases f x <;> simp [bind, Except.bind]

/-- All roots of a tree are found exactly if no node is deeper than a walk may go. -/
theorem Rooted.checkRoots_iff (rooted : t.Rooted) :
    t.checkRoots = .ok () ↔ ∀ id : Nat, id < t.nodes.size → t.depth id ≤ maxDepth := by
  rw [checkRoots, forM_eq_ok_iff]
  simp only [List.mem_range, rooted.checkRoot_iff]

theorem Rooted.ancestors_complete_iff (rooted : t.Rooted) (steps : Nat) :
    (t.ancestors steps id).2 = true ↔ t.depth id ≤ steps := by
  induction steps generalizing id with
  | zero =>
    cases known : t.parent? id with
    | none => simp [ancestors, known, depth_of_root known]
    | some parent => simp [ancestors, known, depth_of_parent? known (rooted.lt_of_parent? known)]
  | succ steps ih =>
    rw [ancestors]
    cases known : t.parent? id with
    | none => simp [depth_of_root known]
    | some parent =>
      rw [depth_of_parent? known (rooted.lt_of_parent? known), Nat.add_le_add_iff_right]
      exact ih

/-- The walk through the scopes reaches the file exactly if the node is no deeper than a walk may go. -/
theorem Rooted.scopes_complete_iff (rooted : t.Rooted) :
    (t.scopes id).2 = true ↔ t.depth id ≤ maxDepth :=
  rooted.ancestors_complete_iff maxDepth

theorem Rooted.below_lt (rooted : t.Rooted) {above : Nat} (below : t.Below above id) : above < id := by
  induction below with
  | child known => exact rooted.lt_of_parent? known
  | step known _ ih => exact Nat.lt_trans ih (rooted.lt_of_parent? known)

theorem Below.trans {a b c : Nat} (upper : t.Below a b) (lower : t.Below b c) : t.Below a c := by
  induction lower with
  | child known => exact .step known upper
  | step known _ ih => exact .step known ih

/-- What stands below a node stands below one of its children or is one. -/
theorem Below.exists_child {above : Nat} (below : t.Below above id) :
    ∃ child : Nat, t.parent? child = some above ∧ (child = id ∨ t.Below child id) := by
  induction below with
  | child known => exact ⟨_, known, .inl rfl⟩
  | step known _ ih =>
    obtain ⟨child, first, rfl | below⟩ := ih
    · exact ⟨_, first, .inr (.child known)⟩
    · exact ⟨_, first, .inr (.step known below)⟩

end DesignLint.Tree
