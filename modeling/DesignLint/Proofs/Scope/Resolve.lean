import DesignLint.Scope.Resolve
import DesignLint.Proofs.Tree.Depth

/-! Resolution of names in trees that are not too deep. A walk through the scopes ends at the file, so a name
resolves to something or to nothing, and no fault comes up. -/
namespace DesignLint

theorem exists_bind_ok {ε α β : Type} {x : Except ε α} {f : α → Except ε β} (first : ∃ a, x = .ok a)
    (next : ∀ a, ∃ b, f a = .ok b) : ∃ b, (x >>= f) = .ok b := by
  obtain ⟨a, rfl⟩ := first
  exact next a

namespace Tree

variable {t : Tree} {id : Nat}

theorem Rooted.exists_searchScopes (rooted : t.Rooted) (shallow : t.depth id ≤ maxDepth) {α : Type}
    (answer : NodeId → Option α) : ∃ found, t.searchScopes id answer = .ok found := by
  have complete := rooted.scopes_complete_iff.mpr shallow
  rw [searchScopes]
  split
  rename_i scopes reached same
  rw [same] at complete
  cases scopes.findSome? answer with
  | some a => exact ⟨some a, rfl⟩
  | none => exact ⟨none, if_pos complete⟩

end Tree

namespace Design

/-- The design with another tree for one of its files. What the file is linked to stays. -/
def withTree (d : Design) (file : Nat) (t : Tree) : Design := ⟨d.files.modify file fun f => { f with tree := t }⟩

variable {d : Design} {file id other : Nat} {t t' : Tree}

theorem tree?_withTree (placed : d.tree? file = some t) (t' : Tree) : (d.withTree file t').tree? file = some t' := by
  obtain ⟨f, known, -⟩ := Option.map_eq_some_iff.mp placed
  simp [tree?, withTree, Array.getElem?_modify, known]

theorem tree?_withTree_of_ne (ne : other ≠ file) (t' : Tree) : (d.withTree file t').tree? other = d.tree? other := by
  simp [tree?, withTree, Array.getElem?_modify, Ne.symm ne]

/-- The bound entity depends only on whether the file has an entity of its own and which one. -/
theorem boundEntity?_withTree (placed : d.tree? file = some t) (same : t'.entity = t.entity) (other : Nat) :
    (d.withTree file t').boundEntity? other = d.boundEntity? other := by
  obtain ⟨f, known, rfl⟩ := Option.map_eq_some_iff.mp placed
  by_cases here : file = other
  · subst here
    simp [boundEntity?, withTree, Array.getElem?_modify, known, same]
  · simp [boundEntity?, withTree, Array.getElem?_modify, here]

theorem interface?_eq_some_iff {unit : Ref} {u : Interface} : d.interface? unit = some (t, u) ↔
    d.tree? unit.file = some t ∧ t.get? Construct.interface? unit.node = some u := by
  simp only [interface?, bind, pure, Option.bind_eq_some_iff, Option.some.injEq, Prod.mk.injEq]
  constructor
  · rintro ⟨_, placed, _, known, rfl, rfl⟩
    exact ⟨placed, known⟩
  · rintro ⟨placed, known⟩
    exact ⟨t, placed, u, known, rfl, rfl⟩

theorem exists_resolveRead (placed : d.tree? file = some t) (rooted : t.Rooted) (shallow : t.depth id ≤ maxDepth)
    (packages : List Ref) : ∃ found, d.resolveRead file id packages = .ok found := by
  rw [resolveRead, placed]
  simp only
  split
  · exact ⟨_, rfl⟩
  · refine exists_bind_ok (rooted.exists_searchScopes shallow _) fun found => ?_
    cases found with
    | some node => exact ⟨_, rfl⟩
    | none => exact exists_bind_ok ⟨_, rooted.checkRoot_iff.mpr shallow⟩ fun _ => ⟨_, rfl⟩

theorem exists_resolveWrite (placed : d.tree? file = some t) (rooted : t.Rooted) (shallow : t.depth id ≤ maxDepth) :
    ∃ found, d.resolveWrite file id = .ok found := by
  rw [resolveWrite, placed]
  refine exists_bind_ok (rooted.exists_searchScopes shallow _) fun found => ?_
  cases found with
  | some _ => exact ⟨_, rfl⟩
  | none => exact exists_bind_ok ⟨_, rooted.checkRoot_iff.mpr shallow⟩ fun _ => ⟨_, rfl⟩

theorem exists_resolveInstance (placed : d.tree? file = some t) (rooted : t.Rooted)
    (shallow : t.depth id ≤ maxDepth) (packages : List Ref) (entities : UnitLookup) :
    ∃ found, d.resolveInstance file id packages entities = .ok found := by
  rw [resolveInstance, placed]
  refine exists_bind_ok ⟨_, rooted.checkRoot_iff.mpr shallow⟩ fun _ => ?_
  dsimp only
  split
  · refine exists_bind_ok (rooted.exists_searchScopes shallow _) fun found => ?_
    cases found with
    | some node => exact ⟨_, rfl⟩
    | none => exact ⟨_, rfl⟩
  · exact ⟨_, rfl⟩

end Design
end DesignLint
