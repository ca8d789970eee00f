/-! Sorted lists of strings. Strings are ordered by their characters, which is the order of their UTF-8
bytes. -/
namespace DesignLint

/-- The strings in ascending order. -/
def sortStrings (strings : List String) : List String := strings.mergeSort fun a b => decide (a ≤ b)

/-- The strings in ascending order, each once. -/
def sortedSet (strings : List String) : List String := sortStrings strings.eraseDups

theorem mem_sortStrings {s : String} {l : List String} : s ∈ sortStrings l ↔ s ∈ l := by
  simp [sortStrings]

theorem mem_sortedSet {s : String} {l : List String} : s ∈ sortedSet l ↔ s ∈ l := by
  simp [sortedSet, sortStrings, List.mem_eraseDups]

/-- Leaving out what came before leaves each element once. -/
theorem nodup_eraseDups {α : Type} [BEq α] [LawfulBEq α] (l : List α) : l.eraseDups.Nodup := by
  induction length : l.length using Nat.strongRecOn generalizing l with
  | ind n ih =>
    cases l with
    | nil => exact List.Pairwise.nil
    | cons a rest =>
      have shorter : (rest.filter fun b => !b == a).length < n := by
        rw [← length]
        exact Nat.lt_succ_of_le (List.length_filter_le ..)
      rw [List.eraseDups_cons]
      refine List.nodup_cons.mpr ⟨fun again => ?_, ih _ shorter _ rfl⟩
      simp [List.mem_eraseDups] at again

/-- Distinct strings are sorted into strictly ascending order. -/
theorem pairwise_sortStrings {strings : List String} (distinct : strings.Nodup) :
    (sortStrings strings).Pairwise (· < ·) := by
  have ascending : (sortStrings strings).Pairwise fun a b => decide (a ≤ b) = true :=
    List.pairwise_mergeSort (fun a b c => by simpa using String.le_trans)
      (fun a b => by simpa using String.le_total a b) _
  refine (ascending.and ((List.mergeSort_perm strings _).nodup_iff.mpr distinct)).imp ?_
  rintro a b ⟨le, ne⟩
  exact String.not_le.mp fun ge => ne (String.le_antisymm (of_decide_eq_true le) ge)

/-- A sorted set is in strictly ascending order. -/
theorem pairwise_sortedSet (l : List String) : (sortedSet l).Pairwise (· < ·) :=
  pairwise_sortStrings (nodup_eraseDups l)

end DesignLint
