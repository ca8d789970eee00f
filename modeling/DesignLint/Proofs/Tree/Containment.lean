import DesignLint.Proofs.Tree.Fields

/-! What stands in what. The role of a node limits the roles of its parts, so a family of roles that is closed under
parts holds everything below a node of the family. -/
namespace DesignLint

/-- No construct that plays a role of the family has a part outside of it. -/
def Role.Closed (family : List Role) : Prop := ∀ role ∈ family, ∀ part ∈ role.parts, part ∈ family

instance (family : List Role) : Decidable (Role.Closed family) :=
  inferInstanceAs (Decidable (∀ role ∈ family, ∀ part ∈ role.parts, part ∈ family))

/-- What can stand below a process: its declarations, its statements and what they read and write. -/
def Role.inProcess : List Role :=
  [.use, .read, .write, .localVariable, .signal, .constant, .typeDecl, .state, .field, .function, .component, .generic,
    .port, .statement, .clause, .arm]

/-- What can stand below an entity or a package. -/
def Role.inInterface : List Role :=
  [.use, .read, .signal, .constant, .typeDecl, .state, .field, .function, .component, .generic, .port]

namespace Tree

variable {t : Tree} {id parent top : Nat} {role other : Role} {family : List Role}

/-- The parts of a node play the roles that its own role allows. -/
theorem Arranged.role_mem_parts (arranged : t.Arranged) (above : t.parent? id = some parent)
    (around : t.role? parent = some role) (plays : t.role? id = some other) : other ∈ role.parts := by
  obtain ⟨c, known, rfl⟩ := Option.map_eq_some_iff.mp around
  by_cases isUse : other = .use
  · subst isUse
    obtain ⟨region, above', isRegion⟩ := arranged.useParent id plays
    obtain rfl := Option.some.inj (above.symm.trans above')
    rw [IsRegion, known, Option.map_some, Function.comp_apply] at isRegion
    cases c <;> simp [Construct.role, Role.isRegion] at isRegion <;> simp [Construct.role, Role.parts]
  by_cases dropped : t.Dropped id
  · obtain ⟨process, above', isProcess, declared⟩ := dropped
    obtain rfl := Option.some.inj (above.symm.trans above')
    obtain same := Option.some.inj (around.symm.trans isProcess)
    rw [plays] at declared
    rw [same]
    rcases declared with declared | declared <;> obtain rfl := Option.some.inj declared <;> decide
  by_cases isFile : c = .file
  · subst isFile
    obtain rfl := (arranged.eq_zero_iff known).mpr rfl
    have unit := (arranged.units (other, id)).mpr ⟨mem_partsOf.mpr ⟨above, plays⟩, isUse⟩
    simp only [unitParts, Part.all, List.mem_append, List.mem_map, Prod.mk.injEq] at unit
    rcases unit with (⟨_, _, rfl, _⟩ | ⟨_, _, rfl, _⟩) | ⟨_, _, rfl, _⟩ <;> decide
  have held := arranged.heldBy_of_parent above (fun same => isUse (Option.some.inj (plays.symm.trans same))) dropped
  rcases (heldBy_iff known isFile).mp held with value | ⟨listed, member⟩
  · cases plain : c.initial? with
    | none => simp [plain] at value
    | some initial =>
      obtain rfl := Option.some.inj (plays.symm.trans (arranged.role?_of_declared known plain above))
      cases c <;> simp [Construct.initial?] at plain <;> simp [Construct.role, Role.parts]
  · obtain rfl := Option.some.inj (plays.symm.trans (arranged.child_of_members known member).2)
    exact Construct.mem_parts_of_members member

/-- What stands below a node plays the roles of any closed family that has the roles of its parts. -/
theorem Arranged.role?_of_below (arranged : t.Arranged) (closed : Role.Closed family)
    (around : t.role? top = some role) (first : ∀ part ∈ role.parts, part ∈ family) (below : t.Below top id) :
    ∃ other ∈ family, t.role? id = some other := by
  have named {x parent : Nat} (above : t.parent? x = some parent) : ∃ other, t.role? x = some other := by
    obtain ⟨c, known⟩ := exists_construct? (lt_size_of_parent? above)
    exact ⟨c.role, role?_of_construct? known⟩
  induction below with
  | child above =>
    obtain ⟨other, plays⟩ := named above
    exact ⟨other, first other (arranged.role_mem_parts above around plays), plays⟩
  | step above _ ih =>
    obtain ⟨middle, among, between⟩ := ih
    obtain ⟨other, plays⟩ := named above
    exact ⟨other, closed middle among other (arranged.role_mem_parts above between plays), plays⟩

theorem Arranged.role?_in_process (arranged : t.Arranged) (process : t.role? top = some .process)
    (below : t.Below top id) : ∃ role ∈ Role.inProcess, t.role? id = some role :=
  arranged.role?_of_below (by decide) process (by decide) below

/-- Every node but the file is a part of the file or stands below one. -/
theorem Arranged.exists_unit (arranged : t.Arranged) (positive : 0 < id) (lt : id < t.nodes.size) :
    ∃ unit role, t.parent? unit = some 0 ∧ t.role? unit = some role ∧ role ∈ Role.file.parts ∧ t.AtOrBelow unit id := by
  induction id using Nat.strongRecOn with
  | ind id ih =>
    obtain ⟨parent, above, less⟩ := arranged.rooted.parent_lt id positive lt
    by_cases top : parent = 0
    · subst top
      obtain ⟨c, known⟩ := exists_construct? lt
      have plays := role?_of_construct? known
      refine ⟨id, c.role, above, plays, ?_, .inl rfl⟩
      exact arranged.role_mem_parts above (role?_of_construct? arranged.file) plays
    · obtain ⟨unit, role, first, plays, among, inside⟩ := ih parent less (Nat.pos_of_ne_zero top) (Nat.lt_trans less lt)
      exact ⟨unit, role, first, plays, among, .inr (inside.below_child above)⟩

/-- Writes stand below the architecture of the file. -/
theorem Arranged.architecture_of_write (arranged : t.Arranged) (write : t.role? id = some .write) :
    ∃ a, t.architecture = some a ∧ t.Below a id := by
  obtain ⟨c, known, isWrite⟩ := Option.map_eq_some_iff.mp write
  have positive : 0 < id := by
    refine arranged.pos_of_ne_file known ?_
    rintro rfl
    contradiction
  obtain ⟨unit, role, first, plays, among, inside⟩ := arranged.exists_unit positive (lt_size_of_construct? known)
  have other : role ≠ .write := by
    rintro rfl
    simp [Role.parts] at among
  have below : t.Below unit id := by
    rcases inside with rfl | below
    · exact absurd (Option.some.inj (plays.symm.trans write)) other
    · exact below
  -- Neither a use clause nor an entity nor a package has a write inside it.
  by_cases isArchitecture : role = .architecture
  · subst isArchitecture
    refine ⟨unit, ?_, below⟩
    have part := (arranged.units (.architecture, unit)).mpr ⟨mem_partsOf.mpr ⟨first, plays⟩, by simp⟩
    simpa [unitParts, Part.all] using part
  · have inner : ∀ part ∈ role.parts, part ∈ Role.inInterface := by
      simp only [Role.parts, List.mem_cons, List.not_mem_nil, or_false] at among
      rcases among with rfl | rfl | rfl | rfl <;> first | decide | contradiction
    obtain ⟨other, among, plays⟩ := arranged.role?_of_below (by decide) plays inner below
    obtain rfl := Option.some.inj (plays.symm.trans write)
    simp [Role.inInterface] at among

end Tree
end DesignLint
