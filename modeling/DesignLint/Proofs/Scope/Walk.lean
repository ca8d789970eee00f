import DesignLint.Proofs.Scope.Visibility
import DesignLint.Proofs.Tree.WellFormed

/-! Reads of any depth. A walk that is too short to come to the file still passes the scopes on its way, and a read
resolves if one of them answers. Only the entity is out of its reach. -/
namespace DesignLint
namespace Tree

variable {t : Tree} {id above scope : NodeId} {name : Bytes} {isElement : Bool}

theorem Rooted.depth_lt (rooted : t.Rooted) (below : t.Below above id) : t.depth above < t.depth id := by
  induction below with
  | child known =>
    rw [depth_of_parent? known (rooted.lt_of_parent? known)]
    exact Nat.lt_succ_self _
  | step known _ ih =>
    rw [depth_of_parent? known (rooted.lt_of_parent? known)]
    exact Nat.lt_succ_of_lt ih

/-- A walk passes what stands above its start by no more than its steps. -/
theorem Rooted.mem_ancestors (rooted : t.Rooted) (below : t.Below above id) {steps : Nat}
    (near : t.depth id ≤ t.depth above + steps) : above ∈ (t.ancestors steps id).1 := by
  induction below generalizing steps with
  | child known =>
    rw [depth_of_parent? known (rooted.lt_of_parent? known)] at near
    obtain ⟨steps, rfl⟩ : ∃ fewer, steps = fewer + 1 := ⟨steps - 1, by omega⟩
    rw [ancestors, known]
    exact List.mem_cons_self
  | step known below ih =>
    rw [depth_of_parent? known (rooted.lt_of_parent? known)] at near
    have further := rooted.depth_lt below
    obtain ⟨steps, rfl⟩ : ∃ fewer, steps = fewer + 1 := ⟨steps - 1, by omega⟩
    rw [ancestors, known]
    exact List.mem_cons_of_mem _ (ih (by omega))

/-- The walk from any node of a well-formed tree passes everything above it but perhaps the file. -/
theorem WellFormed.mem_ancestors (formed : t.WellFormed) (below : t.Below above id) (positive : 0 < above) :
    above ∈ (t.ancestors maxDepth id).1 := by
  refine formed.rooted.mem_ancestors below ?_
  have inside : id < t.nodes.size := by cases below <;> exact lt_size_of_parent? ‹_›
  have shallow := formed.shallow id inside
  have deep := formed.rooted.depth_pos positive (Nat.lt_trans (formed.rooted.below_lt below) inside)
  omega

/-- A chain of parents that is too long is a fault only if no scope on the walk answers. -/
theorem searchScopes_lookupScope_eq (t : Tree) (id : NodeId) (name : Bytes) (isElement : Bool) :
    t.searchScopes id (t.lookupScope · name isElement) =
      match (t.ancestors maxDepth id).1.findSome? (t.lookupScope · name isElement) with
      | some node => .ok (some node)
      | none => if t.reachesFile (maxDepth + 1) id then .ok none else .error (.longChain id) := by
  rw [← ancestors_complete]
  simp only [searchScopes, scopes, findSome?_lookupScope]
  cases (t.ancestors maxDepth id).1.findSome? (t.lookupScope · name isElement) <;> rfl

end Tree

namespace Design

/-- What a read meets: what the packages make visible, what the scopes on its walk do and, if the walk comes to the
file, what the entity does. -/
inductive Met (d : Design) (file : Nat) (t : Tree) (read : NodeId) (packages : List Ref) (isElement : Bool) :
    Ref → Bytes → Prop where
  | package {package r name} (listed : package ∈ packages) (held : d.OfPackage package isElement r name) :
      Met d file t read packages isElement r name
  | scope {scope id name} (passed : scope ∈ (t.ancestors maxDepth read).1) (held : t.OfScope scope isElement id name) :
      Met d file t read packages isElement ⟨file, id⟩ name
  | entity {r name} (reaches : t.reachesFile (maxDepth + 1) read = true) (held : d.OfEntity file r name) :
      Met d file t read packages isElement r name

variable {d : Design} {file id : Nat} {t : Tree} {name n : Bytes} {isElement : Bool} {packages : List Ref} {r : Ref}

theorem Met.visible (met : d.Met file t id packages isElement r n) (placed : d.tree? file = some t) :
    d.Visible file id packages isElement r n := by
  cases met with
  | package listed held => exact .package listed held
  | scope passed held => exact .scope placed (Tree.below_of_mem_ancestors passed) held
  | entity _ held => exact .entity held

/-- A read that is not too deep meets everything that is visible to it. -/
theorem Visible.met (visible : d.Visible file id packages isElement r n) (placed : d.tree? file = some t)
    (reaches : t.reachesFile (maxDepth + 1) id = true) : d.Met file t id packages isElement r n := by
  cases visible with
  | package listed held => exact .package listed held
  | scope placed' around held =>
    cases placed.symm.trans placed'
    exact .scope (Tree.mem_ancestors_of_below around reaches) held
  | entity held => exact .entity reaches held

theorem resolveRead_eq_walk (placed : d.tree? file = some t)
    (isRead : t.get? Construct.read? id = some (name, isElement)) (packages : List Ref) :
    d.resolveRead file id packages =
      match d.lookupPackages packages name isElement with
      | some r => .ok (some r)
      | none =>
        match (t.ancestors maxDepth id).1.findSome? (t.lookupScope · name isElement) with
        | some node => .ok (some ⟨file, node⟩)
        | none =>
          if t.reachesFile (maxDepth + 1) id then .ok (d.lookupEntity file t name) else .error (.longChain id) := by
  simp only [resolveRead, placed, isRead, Option.getD_some, t.searchScopes_lookupScope_eq, Tree.checkRoot]
  cases d.lookupPackages packages name isElement with
  | some r => rfl
  | none =>
    cases (t.ancestors maxDepth id).1.findSome? (t.lookupScope · name isElement) with
    | some node => rfl
    | none => cases t.reachesFile (maxDepth + 1) id <;> rfl

/-- A read refers to something that it meets under its name. -/
theorem resolveRead_met (placed : d.tree? file = some t)
    (isRead : t.get? Construct.read? id = some (name, isElement))
    (resolved : d.resolveRead file id packages = .ok (some r)) :
    ∃ n, d.Met file t id packages isElement r n ∧ sameName n name := by
  rw [resolveRead_eq_walk placed isRead] at resolved
  split at resolved
  case h_1 r' found =>
    cases resolved
    obtain ⟨package, listed, n, held, same⟩ := (d.finds_lookupPackages packages name isElement).sound _ found
    exact ⟨n, .package listed held, same⟩
  case h_2 =>
    split at resolved
    case h_1 node found =>
      cases resolved
      obtain ⟨scope, passed, n, held, same⟩ :=
        (Finds.findSome? fun scope _ => t.finds_lookupScope scope name isElement).sound _ found
      exact ⟨n, .scope passed held, same⟩
    case h_2 =>
      split at resolved
      case isTrue reaches =>
        obtain ⟨n, held, same⟩ := (finds_lookupEntity placed name).sound r (Except.ok.inj resolved)
        exact ⟨n, .entity reaches held, same⟩
      case isFalse => contradiction

/-- A read that meets something under its name refers to something. -/
theorem Met.resolves (met : d.Met file t id packages isElement r n) (placed : d.tree? file = some t)
    (isRead : t.get? Construct.read? id = some (name, isElement)) (same : sameName n name = true) :
    ∃ r, d.resolveRead file id packages = .ok (some r) := by
  rw [resolveRead_eq_walk placed isRead]
  cases met with
  | package listed held =>
    obtain ⟨r, found, -⟩ := (d.finds_lookupPackages packages name isElement).exists_eq_some ⟨_, _, listed, n, held, same⟩
    exact ⟨r, by rw [found]⟩
  | scope passed held =>
    obtain ⟨node, found, -⟩ := (Finds.findSome? fun scope _ => t.finds_lookupScope scope name isElement).exists_eq_some
      ⟨_, _, passed, n, held, same⟩
    rw [found]
    split <;> exact ⟨_, rfl⟩
  | entity reaches held =>
    obtain ⟨r, found, -⟩ := (finds_lookupEntity placed name).exists_eq_some ⟨_, n, held, same⟩
    rw [if_pos reaches, found]
    split
    · exact ⟨_, rfl⟩
    · split <;> exact ⟨_, rfl⟩

end Design
end DesignLint
