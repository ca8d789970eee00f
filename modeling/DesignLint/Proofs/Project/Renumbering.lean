import DesignLint.Proofs.Lint.Context
import DesignLint.Proofs.Project.Symbols
import Mathlib.Data.List.Forall2
import Mathlib.Data.Option.Basic

/-! Designs that hold the same files under other numbers. References that were renumbered name the same nodes, so a file
that is linked to them is analysed alike in both designs. -/
namespace DesignLint

theorem or_rel {α β : Type} {R : α → β → Prop} {a c : Option α} {b d : Option β} (first : Option.Rel R a b)
    (second : Option.Rel R c d) : Option.Rel R (a.or c) (b.or d) := by
  cases first with
  | none => exact second
  | some related => exact .some related

theorem findSome?_rel {α β γ δ : Type} {R : α → β → Prop} {S : γ → δ → Prop} {f : α → Option γ} {g : β → Option δ}
    (each : ∀ a b, R a b → Option.Rel S (f a) (g b)) {xs : List α} {ys : List β} (lists : List.Forall₂ R xs ys) :
    Option.Rel S (xs.findSome? f) (ys.findSome? g) := by
  induction lists with
  | nil => exact .none
  | cons first _ ih =>
    rw [List.findSome?_cons, List.findSome?_cons]
    have here := each _ _ first
    generalize f _ = found, g _ = found' at here
    cases here with
    | none => exact ih
    | some related => exact .some related

/-- References to one node of files that stand for each other. -/
def Ref.Moved (same : Nat → Nat → Prop) (r r' : Ref) : Prop := same r.file r'.file ∧ r.node = r'.node

/-- Two designs in which files that stand for each other have the same tree. -/
structure Design.Renumbered (same : Nat → Nat → Prop) (d d' : Design) : Prop where
  unique : ∀ {m n m' n'}, same m m' → same n n' → (m = n ↔ m' = n')
  tree : ∀ {n n'}, same n n' → d.tree? n = d'.tree? n'

namespace Design.Renumbered

variable {same : Nat → Nat → Prop} {d d' : Design}

theorem ref_eq_iff (moved : d.Renumbered same d') {r r' q q' : Ref} (first : r.Moved same r')
    (second : q.Moved same q') : r = q ↔ r' = q' := by
  have files := moved.unique first.1 second.1
  constructor
  · rintro rfl
    exact congrArg₂ Ref.mk (files.mp rfl) (first.2.symm.trans second.2)
  · rintro rfl
    exact congrArg₂ Ref.mk (files.mpr rfl) (first.2.trans second.2.symm)

theorem interface?_eq (moved : d.Renumbered same d') {r r' : Ref} (ref : r.Moved same r') :
    d.interface? r = d'.interface? r' := by
  rw [interface?, interface?, moved.tree ref.1, ref.2]

theorem ports?_eq (moved : d.Renumbered same d') {unit unit' : Option Ref}
    (units : Option.Rel (Ref.Moved same) unit unit') : d.ports? unit = d'.ports? unit' := by
  cases units with
  | none => rfl
  | some ref => simp only [ports?, Option.bind_some, moved.interface?_eq ref]

/-- The first package with an answer is the same, and the answer stands in the same file. -/
theorem ofPackages (moved : d.Renumbered same d') {packages packages' : List Ref}
    (lists : List.Forall₂ (Ref.Moved same) packages packages') (ask : Tree → NodeId → Package → Option NodeId) :
    Option.Rel (Ref.Moved same)
      (packages.findSome? fun r => do
        let t ← d.tree? r.file
        let p ← t.get? Construct.package? r.node
        let id ← ask t r.node p
        return ⟨r.file, id⟩)
      (packages'.findSome? fun r => do
        let t ← d'.tree? r.file
        let p ← t.get? Construct.package? r.node
        let id ← ask t r.node p
        return ⟨r.file, id⟩) := by
  refine findSome?_rel (fun r r' ref => ?_) lists
  simp only [moved.tree ref.1, ref.2]
  cases d'.tree? r'.file with
  | none => exact .none
  | some t =>
    simp only [Option.bind_eq_bind, Option.bind_some]
    cases t.get? Construct.package? r'.node with
    | none => exact .none
    | some p =>
      simp only [Option.bind_some]
      cases ask t r'.node p with
      | none => exact .none
      | some id => exact .some ⟨ref.1, rfl⟩

theorem lookupPackages (moved : d.Renumbered same d') {packages packages' : List Ref}
    (lists : List.Forall₂ (Ref.Moved same) packages packages') (name : Bytes) (isElement : Bool) :
    Option.Rel (Ref.Moved same) (d.lookupPackages packages name isElement)
      (d'.lookupPackages packages' name isElement) :=
  moved.ofPackages lists fun t id p => t.lookupPackage id p name isElement

theorem componentOfPackages (moved : d.Renumbered same d') {packages packages' : List Ref}
    (lists : List.Forall₂ (Ref.Moved same) packages packages') (name : Bytes) :
    Option.Rel (Ref.Moved same) (d.componentOfPackages packages name) (d'.componentOfPackages packages' name) :=
  moved.ofPackages lists fun t _ p => t.findNamed p.components name

theorem isSome_lookupEntity (moved : d.Renumbered same d') {file file' : Nat}
    (bound : Option.Rel (Ref.Moved same) (d.boundEntity? file) (d'.boundEntity? file')) (t : Tree) (name : Bytes) :
    (d.lookupEntity file t name).isSome = (d'.lookupEntity file' t name).isSome := by
  rw [lookupEntity, lookupEntity]
  generalize d.boundEntity? file = entity, d'.boundEntity? file' = entity' at bound
  cases bound with
  | none => rfl
  | some ref =>
    simp only [Option.bind_eq_bind, Option.bind_some, moved.interface?_eq ref]
    cases t.architectureUnit? with
    | none => rfl
    | some a =>
      simp only [Option.bind_some, Option.isSome_or, Option.isSome_map]
      congr 1
      cases d'.interface? _ with
      | none => rfl
      | some unit =>
        simp only [Option.bind_some]
        cases (unit.1.findNamed unit.2.generics name).or (unit.1.findNamed unit.2.ports name) <;> rfl

end Design.Renumbered

namespace Lint.Subject

/-- A file of two designs in which it has the same tree and refers to the same files. -/
structure Moved (same : Nat → Nat → Prop) (s s' : Subject) : Prop where
  design : s.design.Renumbered same s'.design
  file : same s.file s'.file
  tree : s.tree = s'.tree
  placed : s.design.tree? s.file = some s.tree
  packages : List.Forall₂ (Ref.Moved same) s.packages s'.packages
  bound : Option.Rel (Ref.Moved same) (s.design.boundEntity? s.file) (s'.design.boundEntity? s'.file)
  instances : ∀ b ∈ s.tree.bodies, ∀ id ∈ b.instantiations,
    let i := (s.tree.get? Construct.instantiation? id).getD {}
    Option.Rel (Ref.Moved same) (s.entities (Design.libraryOf s.tree i.library) i.unitName)
      (s'.entities (Design.libraryOf s.tree i.library) i.unitName)

namespace Moved

variable {same : Nat → Nat → Prop} {s s' : Subject}

theorem placed' (moved : s.Moved same s') : s'.design.tree? s'.file = some s.tree := by
  rw [← moved.design.tree moved.file, moved.placed]

theorem writes (moved : s.Moved same s') (id : NodeId) :
    s.design.resolveWrite s.file id = s'.design.resolveWrite s'.file id := by
  rw [Design.resolveWrite, Design.resolveWrite, moved.placed, moved.placed']
  simp only [moved.design.ports?_eq moved.bound]

theorem reads (moved : s.Moved same s') (id : NodeId) :
    (s.design.resolveRead s.file id s.packages).map Option.isSome =
      (s'.design.resolveRead s'.file id s'.packages).map Option.isSome := by
  rw [Design.resolveRead, Design.resolveRead, moved.placed, moved.placed']
  simp only
  generalize (s.tree.get? Construct.read? id).getD ([], false) = read
  obtain ⟨name, isElement⟩ := read
  have packages := moved.design.lookupPackages moved.packages name isElement
  have entity := moved.design.isSome_lookupEntity moved.bound s.tree name
  simp only
  generalize s.design.lookupPackages s.packages name isElement = found,
    s'.design.lookupPackages s'.packages name isElement = found' at packages ⊢
  cases packages with
  | some ref => rfl
  | none =>
    simp only
    cases s.tree.searchScopes id (s.tree.lookupScope · name isElement) with
    | error fault => rfl
    | ok answer =>
      cases answer with
      | some node => rfl
      | none =>
        simp only [bind, Except.bind]
        cases s.tree.checkRoot id with
        | error fault => rfl
        | ok _ => exact congrArg Except.ok entity

theorem ports (moved : s.Moved same s') {id : NodeId}
    (entity : let i := (s.tree.get? Construct.instantiation? id).getD {}
      Option.Rel (Ref.Moved same) (s.entities (Design.libraryOf s.tree i.library) i.unitName)
        (s'.entities (Design.libraryOf s.tree i.library) i.unitName)) : s.portsAt id = s'.portsAt id := by
  rw [portsAt, portsAt, Design.resolveInstance, Design.resolveInstance, moved.placed, moved.placed']
  simp only
  generalize (s.tree.get? Construct.instantiation? id).getD {} = i at entity ⊢
  simp only [bind, Except.bind]
  have target {component component' : Option Ref} (found : Option.Rel (Ref.Moved same) component component') :
      s.design.ports? (component.or (s.entities (Design.libraryOf s.tree i.library) i.unitName)) =
        s'.design.ports? (component'.or (s'.entities (Design.libraryOf s.tree i.library) i.unitName)) :=
    moved.design.ports?_eq (or_rel found entity)
  cases s.tree.checkRoot id with
  | error fault => rfl
  | ok _ =>
    by_cases isComponent : i.kind = .component
    · simp only [if_pos isComponent]
      cases s.tree.searchScopes id (fun scope => s.tree.findNamed (Design.componentsIn s.tree scope) i.unitName) with
      | error fault => rfl
      | ok answer =>
        cases answer with
        | some node => exact congrArg Except.ok (target (.some ⟨moved.file, rfl⟩))
        | none =>
          exact congrArg Except.ok (target (moved.design.componentOfPackages moved.packages i.unitName))
    · simp only [if_neg isComponent]
      exact congrArg Except.ok (target .none)

theorem agrees (moved : s.Moved same s') : s.Agrees s' where
  tree := moved.tree
  writes := moved.writes
  reads := moved.reads
  instances b member id listed := moved.ports (moved.instances b member id listed)

end Moved
end Lint.Subject
end DesignLint
