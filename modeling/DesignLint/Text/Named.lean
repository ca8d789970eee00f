/-! Values by name, in ascending order of the names. -/
namespace DesignLint

/-- Values by name. -/
abbrev Named (α : Type) := List (String × α)

namespace Named

variable {α : Type}

/-- The value of a name. -/
def get? (values : Named α) (name : String) : Option α := values.lookup name

/-- Gives a name a value; one that it had before is forgotten. -/
def insert (name : String) (value : α) : Named α → Named α
  | [] => [(name, value)]
  | (other, old) :: rest =>
    if name < other then (name, value) :: (other, old) :: rest
    else if name = other then (name, value) :: rest
    else (other, old) :: insert name value rest

/-- The last value of each name of a list. -/
def ofList (members : List (String × α)) : Named α :=
  members.foldl (fun values m => insert m.1 m.2 values) []

theorem get?_insert_self (name : String) (value : α) (values : Named α) :
    get? (insert name value values) name = some value := by
  induction values with
  | nil => simp [insert, get?]
  | cons head rest ih =>
    obtain ⟨other, old⟩ := head
    by_cases less : name < other
    · simp [insert, get?, less]
    · by_cases same : name = other
      · simp [insert, get?, same]
      · have apart : (name == other) = false := by simpa using same
        simpa [insert, get?, less, same, List.lookup_cons, apart] using ih

theorem get?_insert_of_ne {name other : String} (value : α) (values : Named α) (h : other ≠ name) :
    get? (insert name value values) other = get? values other := by
  have apart : (other == name) = false := by simpa using h
  induction values with
  | nil => simp [insert, get?, List.lookup_cons, apart]
  | cons head rest ih =>
    obtain ⟨first, old⟩ := head
    by_cases less : name < first
    · simp [insert, get?, less, List.lookup_cons, apart]
    · by_cases same : name = first
      · subst same
        simp [insert, get?, List.lookup_cons, apart]
      · simp only [insert, get?, less, same, if_false, List.lookup_cons]
        split
        · rfl
        · exact ih

theorem get?_foldl_insert (members : List (String × α)) (values : Named α) (name : String) :
    get? (members.foldl (fun values m => insert m.1 m.2 values) values) name =
      (members.reverse.lookup name).or (get? values name) := by
  induction members generalizing values with
  | nil => simp
  | cons m rest ih =>
    obtain ⟨other, value⟩ := m
    rw [List.foldl_cons, ih, List.reverse_cons, List.lookup_append, Option.or_assoc]
    by_cases same : name = other
    · subst same
      simp [get?_insert_self]
    · have apart : (name == other) = false := by simpa using same
      simp [get?_insert_of_ne value values same, List.lookup_cons, apart]

theorem get?_ofList (members : List (String × α)) (name : String) :
    get? (ofList members) name = members.reverse.lookup name := by
  rw [ofList, get?_foldl_insert]
  simp [get?]

theorem isSome_get?_ofList (members : List (String × α)) (name : String) :
    (get? (ofList members) name).isSome = members.any fun m => name == m.1 := by
  rw [get?_ofList, Bool.eq_iff_iff, List.lookup_isSome_iff, List.any_eq_true]
  simp only [List.mem_reverse]

theorem get?_ofList_of_mem {value : String → α} {names : List String} {name : String} (member : name ∈ names) :
    get? (ofList (names.map fun n => (n, value n))) name = some (value name) := by
  rw [get?_ofList, ← List.map_reverse]
  rw [← List.mem_reverse] at member
  generalize names.reverse = reversed at member
  induction reversed with
  | nil => exact nomatch member
  | cons first rest ih =>
    rw [List.map_cons, List.lookup_cons]
    by_cases same : name = first
    · rw [same, beq_self_eq_true]
    · have apart : (name == first) = false := by simpa using same
      rw [apart]
      exact ih ((List.mem_cons.mp member).resolve_left same)

theorem mem_insert {m : String × α} {name : String} {value : α} {values : Named α}
    (member : m ∈ insert name value values) : m = (name, value) ∨ m ∈ values := by
  fun_induction insert name value values <;> grind

theorem mem_ofList {m : String × α} {members : List (String × α)} (member : m ∈ ofList members) : m ∈ members := by
  have folded (values : Named α) (found : m ∈ members.foldl (fun values m => insert m.1 m.2 values) values) :
      m ∈ members ∨ m ∈ values := by
    clear member
    induction members generalizing values with
    | nil => exact .inr found
    | cons head rest ih =>
      rcases ih _ found with later | found
      · exact .inl (List.mem_cons_of_mem _ later)
      · rcases mem_insert found with rfl | before
        · exact .inl List.mem_cons_self
        · exact .inr before
  rcases folded [] member with found | none
  · exact found
  · exact nomatch none

/-- Values under ascending names. -/
def IsSorted (values : Named α) : Prop := values.Pairwise fun a b => a.1 < b.1

theorem isSorted_insert {values : Named α} (sorted : values.IsSorted) (name : String) (value : α) :
    (insert name value values).IsSorted := by
  induction values with
  | nil => exact List.pairwise_singleton _ _
  | cons first rest ih =>
    obtain ⟨other, old⟩ := first
    obtain ⟨above, sorted'⟩ := List.pairwise_cons.mp sorted
    rw [insert]
    split
    · next less =>
      refine List.pairwise_cons.mpr ⟨fun m member => ?_, sorted⟩
      rcases List.mem_cons.mp member with rfl | later
      · exact less
      · exact String.lt_trans less (above m later)
    · split
      · next same =>
        subst same
        exact List.pairwise_cons.mpr ⟨above, sorted'⟩
      · next notLess apart =>
        have greater : other < name := String.not_le.mp fun le => apart (String.le_antisymm le (String.not_lt.mp notLess))
        refine List.pairwise_cons.mpr ⟨fun m member => ?_, ih sorted'⟩
        rcases mem_insert member with rfl | later
        · exact greater
        · exact above m later

theorem isSorted_foldl_insert {values : Named α} (sorted : values.IsSorted) (members : List (String × α)) :
    (members.foldl (fun all m => insert m.1 m.2 all) values).IsSorted := by
  induction members generalizing values with
  | nil => exact sorted
  | cons m members ih => exact ih (isSorted_insert sorted m.1 m.2)

theorem isSorted_ofList (members : List (String × α)) : (ofList members).IsSorted := isSorted_foldl_insert .nil members

theorem insert_above {values : Named α} {m : String × α} (above : ∀ m' ∈ values, m'.1 < m.1) :
    insert m.1 m.2 values = values ++ [m] := by
  induction values with
  | nil => rfl
  | cons first rest ih =>
    obtain ⟨other, old⟩ := first
    have greater := above _ List.mem_cons_self
    rw [insert, if_neg (String.lt_asymm greater), if_neg (fun same => String.lt_irrefl _ (same ▸ greater)),
      ih fun m' member => above m' (List.mem_cons_of_mem _ member), List.cons_append]

/-- Values that are sorted by name stay as they are. -/
theorem ofList_of_isSorted {values : Named α} (sorted : values.IsSorted) : ofList values = values := by
  have onto (front rest : Named α) (sorted : (front ++ rest).IsSorted) :
      rest.foldl (fun all m => insert m.1 m.2 all) front = front ++ rest := by
    induction rest generalizing front with
    | nil => rw [List.foldl_nil, List.append_nil]
    | cons m rest ih =>
      have above := fun m' member => (List.pairwise_append.mp sorted).2.2 m' member m List.mem_cons_self
      rw [List.append_cons] at sorted
      rw [List.foldl_cons, insert_above above, ih _ sorted, ← List.append_cons]
  exact onto [] values sorted

theorem IsSorted.nodup {values : Named α} (sorted : values.IsSorted) : (values.map Prod.fst).Nodup := by
  refine List.pairwise_map.mpr (sorted.imp fun {a b} less same => ?_)
  rw [same] at less
  exact String.lt_irrefl _ less

end Named
end DesignLint
