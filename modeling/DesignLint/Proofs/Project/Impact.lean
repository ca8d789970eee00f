import DesignLint.Project.Dependents
import Mathlib.Data.List.Sort
import Mathlib.Order.Bounds.Basic

/-! How far a change spreads. The levels of an impact are the files by their distance from the changed one, and they are
the same in whichever order the dependents of a file are gone through. -/
namespace DesignLint.DependentsGraph

/-- A way of so many steps from a file to one that depends on it. -/
inductive Path (g : DependentsGraph) (root : String) : Nat → String → Prop where
  | here : Path g root 0 root
  | next {length source file} : Path g root length source → file ∈ g.dependents source → Path g root (length + 1) file

def Distance (g : DependentsGraph) (root file : String) (length : Nat) : Prop :=
  IsLeast {length | g.Path root length file} length

variable {g : DependentsGraph} {root file source : String} {n m depth : Nat} {visited frontier met : List String}

theorem Distance.unique (first : g.Distance root file n) (second : g.Distance root file m) : n = m :=
  IsLeast.unique first second

theorem distance_zero_iff : g.Distance root file 0 ↔ file = root := by
  constructor
  · intro near
    cases near.1
    rfl
  · rintro rfl
    exact ⟨.here, fun _ _ => Nat.zero_le _⟩

theorem Path.exists_distance (path : g.Path root n file) : ∃ m, g.Distance root file m := by
  classical
  exact ⟨Nat.find ⟨n, path⟩, Nat.find_spec ⟨n, path⟩, fun _ other => Nat.find_min' _ other⟩

/-- A shortest way is one step longer than a shortest way to a file before. -/
theorem distance_succ_iff : g.Distance root file (n + 1) ↔
    (∃ source, g.Distance root source n ∧ file ∈ g.dependents source) ∧ ∀ m ≤ n, ¬ g.Path root m file := by
  constructor
  · rintro ⟨path, least⟩
    have nearer : ∀ m ≤ n, ¬ g.Path root m file := fun m within other =>
      absurd (least other) (Nat.not_le.mpr (Nat.lt_succ_of_le within))
    cases path with
    | next before step =>
      refine ⟨⟨_, ⟨before, fun m other => ?_⟩, step⟩, nearer⟩
      exact Nat.le_of_succ_le_succ (least (other.next step))
  · rintro ⟨⟨source, near, step⟩, nearer⟩
    refine ⟨near.1.next step, fun m other => ?_⟩
    by_contra short
    exact nearer m (Nat.le_of_lt_succ (Nat.not_le.mp short)) other

/-- Where no file is at a distance, none is further away. -/
theorem not_distance_add (empty : ∀ file, ¬ g.Distance root file n) (further : Nat) (file : String) :
    ¬ g.Distance root file (n + further) := by
  induction further generalizing file with
  | zero => exact empty file
  | succ further ih =>
    intro far
    obtain ⟨⟨source, near, _⟩, _⟩ := distance_succ_iff.1 far
    exact ih source near

/-- What is known when the files at a distance have just been visited. -/
structure VisitedTo (g : DependentsGraph) (root : String) (depth : Nat) (visited frontier : List String) : Prop where
  visited : ∀ file, file ∈ visited ↔ ∃ n ≤ depth, g.Path root n file
  frontier : ∀ file, file ∈ frontier ↔ g.Distance root file depth

theorem visitedTo_start : g.VisitedTo root 0 [root] [root] := by
  constructor
  · intro file
    rw [List.mem_singleton]
    constructor
    · rintro rfl
      exact ⟨0, Nat.le_refl 0, .here⟩
    · rintro ⟨n, none, path⟩
      obtain rfl := Nat.le_zero.mp none
      cases path
      rfl
  · intro file
    rw [List.mem_singleton, distance_zero_iff]

namespace VisitedTo

theorem mem_nextLevel (known : g.VisitedTo root depth visited frontier) :
    file ∈ g.nextLevel visited frontier ↔ g.Distance root file (depth + 1) := by
  rw [DependentsGraph.mem_nextLevel, distance_succ_iff, known.visited]
  simp only [known.frontier, not_exists, not_and]

theorem step (known : g.VisitedTo root depth visited frontier) :
    g.VisitedTo root (depth + 1) (visited ++ g.nextLevel visited frontier) (g.nextLevel visited frontier) := by
  constructor
  · intro file
    rw [List.mem_append, known.mem_nextLevel, known.visited]
    constructor
    · rintro (⟨n, within, path⟩ | new)
      · exact ⟨n, Nat.le_succ_of_le within, path⟩
      · exact ⟨depth + 1, Nat.le_refl _, new.1⟩
    · rintro ⟨n, within, path⟩
      obtain ⟨m, near⟩ := path.exists_distance
      rcases Nat.lt_or_eq_of_le ((near.2 path).trans within) with before | rfl
      · exact .inl ⟨m, Nat.le_of_lt_succ before, near.1⟩
      · exact .inr near
  · intro file
    exact known.mem_nextLevel

/-- The levels beyond a frontier are the files at each further distance. -/
theorem mem_levels (known : g.VisitedTo root depth visited frontier) (k : Nat) :
    file ∈ (g.levels visited frontier)[k]?.getD [] ↔ g.Distance root file (depth + 1 + k) := by
  induction visited, frontier using levels.induct g generalizing depth k with
  | case1 visited frontier done =>
    have empty : ∀ file, ¬ g.Distance root file (depth + 1) := by
      intro file far
      rw [← known.mem_nextLevel, done] at far
      contradiction
    rw [levels, if_pos done]
    exact ⟨fun absent => absurd absent (by simp), fun far => absurd far (not_distance_add empty k file)⟩
  | case2 visited frontier goesOn ih =>
    rw [levels, if_neg goesOn]
    cases k with
    | zero => exact known.mem_nextLevel
    | succ k =>
      rw [List.getElem?_cons_succ, ih known.step, Nat.add_assoc (depth + 1), Nat.add_comm 1 k]

end VisitedTo

/-- Every level holds files, in ascending order. -/
theorem of_mem_levels {level : List String} (member : level ∈ g.levels visited frontier) :
    level ≠ [] ∧ level.Pairwise (· < ·) := by
  induction visited, frontier using levels.induct g with
  | case1 visited frontier done =>
    rw [levels, if_pos done] at member
    contradiction
  | case2 visited frontier goesOn ih =>
    rw [levels, if_neg goesOn] at member
    cases member with
    | head => exact ⟨goesOn, pairwise_sortedSet _⟩
    | tail _ later => exact ih later

theorem mem_impact (k : Nat) : file ∈ (g.impact root)[k]?.getD [] ↔ g.Distance root file (k + 1) := by
  rw [impact, visitedTo_start.mem_levels, Nat.add_comm]

theorem mem_flatten_impact :
    file ∈ (g.impact root).flatten ↔ ∃ k, g.Distance root file (k + 1) := by
  rw [List.mem_flatten]
  constructor
  · rintro ⟨level, member, inside⟩
    obtain ⟨k, found⟩ := List.mem_iff_getElem?.mp member
    exact ⟨k, (mem_impact k).mp (by rwa [found])⟩
  · rintro ⟨k, far⟩
    rw [← mem_impact] at far
    cases found : (g.impact root)[k]? with
    | none => rw [found] at far; contradiction
    | some level =>
      rw [found] at far
      exact ⟨level, List.mem_of_getElem? found, far⟩

theorem impact_disjoint : (g.impact root).Pairwise List.Disjoint := by
  rw [List.pairwise_iff_getElem]
  intro i j inside inside' before file first second
  have near := (mem_impact i).mp (by rwa [List.getElem?_eq_getElem inside])
  have far := (mem_impact j).mp (by rwa [List.getElem?_eq_getElem inside'])
  exact absurd (near.unique far) (by omega)

/-! The same traversal, file by file. The dependents of a file come in any order, and a file that is met counts as visited
at once. -/

/-- The files that are met for the first time, in the order in which they are met. -/
def gather : (visited met : List String) → List String
  | _, [] => []
  | visited, file :: met => if file ∈ visited then gather visited met else file :: gather (file :: visited) met

theorem mem_gather : file ∈ gather visited met ↔ file ∈ met ∧ file ∉ visited := by
  induction met generalizing visited with
  | nil => simp [gather]
  | cons first met ih =>
    rw [gather]
    split
    case isTrue old =>
      rw [ih, List.mem_cons]
      constructor
      · exact fun ⟨inside, new⟩ => ⟨.inr inside, new⟩
      · rintro ⟨rfl | inside, new⟩
        · exact absurd old new
        · exact ⟨inside, new⟩
    case isFalse fresh =>
      rw [List.mem_cons, ih, List.mem_cons, List.mem_cons]
      by_cases same : file = first
      · subst same
        simp [fresh]
      · simp [same]

theorem nodup_gather : (gather visited met).Nodup := by
  induction met generalizing visited with
  | nil => exact List.nodup_nil
  | cons first met ih =>
    rw [gather]
    split
    · exact ih
    · refine List.nodup_cons.mpr ⟨fun again => ?_, ih⟩
      exact (mem_gather.1 again).2 List.mem_cons_self

/-- The traversal from a frontier on, where the dependents of each file come in a given order. -/
inductive Spreads (order : String → List String) : (visited frontier : List String) → List (List String) → Prop where
  | done {visited frontier : List String} : gather visited (frontier.flatMap order) = [] → Spreads order visited frontier []
  | step {visited frontier : List String} {levels : List (List String)} : gather visited (frontier.flatMap order) ≠ [] →
      Spreads order (visited ++ gather visited (frontier.flatMap order))
        (sortStrings (gather visited (frontier.flatMap order))) levels →
      Spreads order visited frontier (sortStrings (gather visited (frontier.flatMap order)) :: levels)

section

variable {order : String → List String}

/-- What one pass gathers is the next level, in whichever order it is met. -/
theorem sort_gather (reordered : ∀ file, (order file).Perm (g.dependents file)) {visited' : List String}
    (same : ∀ file, file ∈ visited' ↔ file ∈ visited) (frontier : List String) :
    sortStrings (gather visited' (frontier.flatMap order)) = g.nextLevel visited frontier := by
  refine (pairwise_sortStrings nodup_gather).eq_of_mem_iff (pairwise_sortedSet _) fun file => ?_
  rw [mem_sortStrings, mem_gather, List.mem_flatMap, same]
  simp only [(reordered _).mem_iff]
  exact mem_nextLevel.symm

theorem gather_eq_nil_iff (reordered : ∀ file, (order file).Perm (g.dependents file)) {visited' : List String}
    (same : ∀ file, file ∈ visited' ↔ file ∈ visited) :
    gather visited' (frontier.flatMap order) = [] ↔ g.nextLevel visited frontier = [] := by
  rw [← sort_gather reordered same frontier, ← List.length_eq_zero_iff, ← List.length_eq_zero_iff, sortStrings,
    List.length_mergeSort]

/-- The traversal comes to an end with the levels. What was visited is known as a set only, since it is listed in the
order of the dependents. -/
theorem spreads_levels (reordered : ∀ file, (order file).Perm (g.dependents file)) {visited' : List String}
    (same : ∀ file, file ∈ visited' ↔ file ∈ visited) : Spreads order visited' frontier (g.levels visited frontier) := by
  induction visited, frontier using levels.induct g generalizing visited' with
  | case1 visited frontier done =>
    rw [levels, if_pos done]
    exact .done ((gather_eq_nil_iff reordered same).mpr done)
  | case2 visited frontier goesOn ih =>
    rw [levels, if_neg goesOn]
    have gathered := sort_gather reordered same frontier
    have same' : ∀ file, file ∈ visited' ++ gather visited' (frontier.flatMap order) ↔
        file ∈ visited ++ g.nextLevel visited frontier := fun file => by
      rw [List.mem_append, List.mem_append, same, ← gathered, mem_sortStrings]
    have further := ih same'
    rw [← gathered] at further ⊢
    exact .step (fun none => goesOn ((gather_eq_nil_iff reordered same).mp none)) further

theorem Spreads.unique {levels levels' : List (List String)} (first : Spreads order visited frontier levels)
    (second : Spreads order visited frontier levels') : levels = levels' := by
  induction first generalizing levels' with
  | done none =>
    cases second with
    | done _ => rfl
    | step some _ => exact absurd none some
  | step some _ ih =>
    cases second with
    | done none => exact absurd none some
    | step _ further => rw [ih further]

end

/-- Impact levels are breadth-first distances. In whichever order the dependents of the files come, the traversal ends and
gives the same levels: the one numbered `k` holds the files at distance `k + 1`, in ascending order. None is
empty, no two share a file, and together they hold what depends on the root, directly or through others. -/
theorem impact_breadthFirst (g : DependentsGraph) (root : String) :
    (∀ order : String → List String, (∀ file, (order file).Perm (g.dependents file)) →
      ∀ levels, Spreads order [root] [root] levels ↔ levels = g.impact root) ∧
    (∀ k file, file ∈ (g.impact root)[k]?.getD [] ↔ g.Distance root file (k + 1)) ∧
    (∀ level ∈ g.impact root, level ≠ [] ∧ level.Pairwise (· < ·) ∧ root ∉ level) ∧
    (g.impact root).Pairwise List.Disjoint ∧
    ∀ file, file ∈ (g.impact root).flatten ↔ file ≠ root ∧ ∃ length, g.Path root length file := by
  have apart {k : Nat} (far : g.Distance root root (k + 1)) : False := by
    have := far.unique (distance_zero_iff.mpr rfl)
    omega
  refine ⟨?_, fun k file => mem_impact k, ?_, impact_disjoint, ?_⟩
  · intro order reordered levels
    have ends : Spreads order [root] [root] (g.impact root) := spreads_levels reordered fun _ => Iff.rfl
    constructor
    · intro spreads
      exact spreads.unique ends
    · rintro rfl
      exact ends
  · intro level member
    obtain ⟨some, ascending⟩ := of_mem_levels member
    refine ⟨some, ascending, fun inside => ?_⟩
    obtain ⟨k, far⟩ := mem_flatten_impact.mp (List.mem_flatten_of_mem member inside)
    exact apart far
  · intro file
    rw [mem_flatten_impact]
    constructor
    · rintro ⟨k, far⟩
      refine ⟨?_, k + 1, far.1⟩
      rintro rfl
      exact apart far
    · rintro ⟨other, length, path⟩
      obtain ⟨n, near⟩ := path.exists_distance
      cases n with
      | zero => exact absurd (distance_zero_iff.mp near) other
      | succ k => exact ⟨k, near⟩

end DesignLint.DependentsGraph
