import DesignLint.Proofs.Parse.Structure
import DesignLint.Proofs.Scope.Relocation
import DesignLint.Proofs.Scope.Walk

/-! Reads in a process that takes over declarations of the body around it. A read meets before and after the same
packages, scopes and entity; what the body and the architecture lose, the process gains, but for fields. -/
namespace DesignLint
namespace Design

/-- Designs whose trees tell the same to every view that does not look into bodies and processes. -/
def Alike (d d' : Design) : Prop := ∀ file u, d.tree? file = some u → ∃ u', d'.tree? file = some u' ∧
  ∀ {α : Type} {choose : Construct → Option α}, Construct.Blind choose → ∀ id, u'.get? choose id = u.get? choose id

variable {d d' : Design} {file read : Nat} {t : Tree} {r : t.Relocation} {isElement : Bool} {packages : List Ref}
  {package entity ref : Ref} {n name : Bytes} {unit : Interface}

theorem alike_relocated (placed : d.tree? file = some t) (r : t.Relocation) : d.Alike (d.withTree file r.tree) := by
  intro other u placed'
  by_cases here : other = file
  · subst here
    cases placed.symm.trans placed'
    exact ⟨r.tree, tree?_withTree placed _, fun blind id => r.get?_tree blind id⟩
  · exact ⟨u, (tree?_withTree_of_ne here _).trans placed', fun _ _ => rfl⟩

theorem alike_original (placed : d.tree? file = some t) (r : t.Relocation) : (d.withTree file r.tree).Alike d := by
  intro other u placed'
  by_cases here : other = file
  · subst here
    cases (tree?_withTree placed r.tree).symm.trans placed'
    exact ⟨t, placed, fun blind id => (r.get?_tree blind id).symm⟩
  · exact ⟨u, (tree?_withTree_of_ne here _).symm.trans placed', fun _ _ => rfl⟩

theorem OfPackage.congr (held : d.OfPackage package isElement ref n) (alike : d.Alike d') :
    d'.OfPackage package isElement ref n := by
  cases held with
  | self placed kind whole =>
    obtain ⟨u, placed', same⟩ := alike _ _ placed
    exact .self placed' ((same Construct.blind_package? _).trans kind) whole
  | declared placed kind held named =>
    obtain ⟨u, placed', same⟩ := alike _ _ placed
    refine .declared placed' ((same Construct.blind_package? _).trans kind) ?_ ((same Construct.blind_name? _).trans named)
    exact held.imp_right (.imp_right (.imp_right (·.congr (same Construct.blind_typeDecl?))))

theorem Alike.interface? (alike : d.Alike d') {owner : Tree} (kind : d.interface? entity = some (owner, unit)) :
    ∃ owner', d'.interface? entity = some (owner', unit) ∧ ∀ id, owner'.nameOf? id = owner.nameOf? id := by
  obtain ⟨placed, known⟩ := interface?_eq_some_iff.mp kind
  obtain ⟨owner', placed', same⟩ := alike _ _ placed
  exact ⟨owner', interface?_eq_some_iff.mpr ⟨placed', (same Construct.blind_interface? _).trans known⟩,
    same Construct.blind_name?⟩

theorem not_field_of_package (arranged : t.Arranged) (placed : d.tree? file = some t)
    (held : d.OfPackage package isElement ref n) : ¬(ref.file = file ∧ r.Field ref.node) := by
  rintro ⟨rfl, field⟩
  revert field
  cases held with
  | self placed' kind _ =>
    cases placed.symm.trans placed'
    have known := (Tree.get?_eq_some_iff Construct.package?_eq_some_iff).mp kind
    exact Tree.Relocation.not_field_of_role arranged (by simp [Tree.role?_of_construct? known, Construct.role])
  | @declared _ p id _ placed' kind held _ =>
    cases placed.symm.trans placed'
    have known := (Tree.get?_eq_some_iff Construct.package?_eq_some_iff).mp kind
    refine Tree.Relocation.not_field_of_lists arranged held (fun x listed => ?_) fun _ type listed moved => ?_
    · rcases listed with listed | listed | listed | listed
      · exact arranged.role?_ne_of_members known .constant (by decide) listed
      · exact arranged.role?_ne_of_members known .signal (by decide) listed
      · exact arranged.role?_ne_of_members known .function (by decide) listed
      · exact arranged.role?_ne_of_members known .typeDecl (by decide) listed
    · have plays : t.Child .typeDecl package.node type := arranged.child_of_members known listed
      have same := Option.some.inj (plays.1.symm.trans (r.role?_of_moved arranged moved).1)
      obtain ⟨c, isBody, chosen⟩ := Option.bind_eq_some_iff.mp r.isBody
      cases (same ▸ known).symm.trans isBody
      contradiction

theorem not_field_of_interface (arranged : t.Arranged) (placed : d.tree? file = some t) {owner : Tree}
    (kind : d.interface? entity = some (owner, unit)) {id : NodeId} (listed : id ∈ unit.generics ∨ id ∈ unit.ports) :
    ¬(entity.file = file ∧ r.Field id) := by
  rintro ⟨rfl, field⟩
  obtain ⟨placed', known⟩ := interface?_eq_some_iff.mp kind
  cases placed.symm.trans placed'
  obtain ⟨c, isUnit, chosen⟩ := Option.bind_eq_some_iff.mp known
  have plain : t.role? id ≠ some .field := by
    rcases listed with listed | listed
    · refine arranged.role?_ne_of_members isUnit .generic (by decide) ?_
      cases c <;> simp [Construct.interface?] at chosen <;> exact chosen ▸ listed
    · refine arranged.role?_ne_of_members isUnit .port (by decide) ?_
      cases c <;> simp [Construct.interface?] at chosen <;> exact chosen ▸ listed
  exact Tree.Relocation.not_field_of_role arranged plain field

theorem not_field_of_entity (arranged : t.Arranged) (placed : d.tree? file = some t) (held : d.OfEntity file ref n) :
    ¬(ref.file = file ∧ r.Field ref.node) := by
  cases held with
  | generic _ _ _ kind listed _ => exact not_field_of_interface arranged placed kind (.inl listed)
  | port _ _ _ kind listed _ => exact not_field_of_interface arranged placed kind (.inr listed)
  | @state _ _ _ type _ id _ placed' _ _ _ known held _ =>
    cases placed.symm.trans placed'
    have isType := (Tree.get?_eq_some_iff Construct.typeDecl?_eq_some_iff).mp known
    have child : t.Child .state type id := arranged.child_of_members isType held
    exact fun ⟨_, field⟩ => Tree.Relocation.not_field_of_role arranged (by simp [child.2]) field

/-- What the entity gives in one design it gives in one alike, but for the states of types that the architecture lost. -/
theorem OfEntity.transfer {t' : Tree} (held : d.OfEntity file ref n) (alike : d.Alike d')
    (bound_eq : d'.boundEntity? file = d.boundEntity? file) (placed : d.tree? file = some t)
    (placed' : d'.tree? file = some t') (lost : List NodeId)
    (units : ∀ a, t.architectureUnit? = some a →
      ∃ a', t'.architectureUnit? = some a' ∧ ∀ type ∈ a.body.types, type ∉ lost → type ∈ a'.body.types) :
    d'.OfEntity file ref n ∨ ∃ id, ref = ⟨file, id⟩ ∧ t.OfTypes lost false id ∧ t.nameOf? id = some n := by
  obtain ⟨_, found, same⟩ := alike file t placed
  cases found.symm.trans placed'
  cases held with
  | generic placed₁ body bound kind listed named =>
    cases placed.symm.trans placed₁
    obtain ⟨a, body', -⟩ := units _ body
    obtain ⟨owner, kind', names⟩ := alike.interface? kind
    exact .inl (.generic placed' body' (bound_eq.trans bound) kind' listed ((names _).trans named))
  | port placed₁ body bound kind listed named =>
    cases placed.symm.trans placed₁
    obtain ⟨a, body', -⟩ := units _ body
    obtain ⟨owner, kind', names⟩ := alike.interface? kind
    exact .inl (.port placed' body' (bound_eq.trans bound) kind' listed ((names _).trans named))
  | @state _ _ _ type _ id _ placed₁ body bound listed known held named =>
    cases placed.symm.trans placed₁
    by_cases gone : type ∈ lost
    · exact .inr ⟨id, rfl, .state gone known held, named⟩
    obtain ⟨a, body', stays⟩ := units _ body
    refine .inl (.state placed' body' (bound_eq.trans bound) (stays type listed gone) ?_ held ?_)
    · exact (same Construct.blind_typeDecl? type).trans known
    · exact (same Construct.blind_name? id).trans named

theorem OfEntity.relocate (held : d.OfEntity file ref n) (placed : d.tree? file = some t) (r : t.Relocation) :
    (d.withTree file r.tree).OfEntity file ref n ∨
      ∃ id, ref = ⟨file, id⟩ ∧ t.OfTypes r.moved false id ∧ t.nameOf? id = some n :=
  held.transfer (alike_relocated placed r) (boundEntity?_withTree placed r.entity_tree file) placed
    (tree?_withTree placed r.tree) r.moved fun _ => r.exists_architectureUnit?

theorem OfEntity.of_relocated (held : (d.withTree file r.tree).OfEntity file ref n) (placed : d.tree? file = some t) :
    d.OfEntity file ref n := by
  have units (a : Architecture) (body : r.tree.architectureUnit? = some a) :
      ∃ a', t.architectureUnit? = some a' ∧ ∀ type ∈ a.body.types, type ∉ [] → type ∈ a'.body.types := by
    obtain ⟨a', body', whole⟩ := r.exists_original body
    exact ⟨a', body', fun type listed _ => whole type listed⟩
  rcases held.transfer (alike_original placed r) (boundEntity?_withTree placed r.entity_tree file).symm
    (tree?_withTree placed r.tree) placed [] units with held | ⟨id, -, nothing, -⟩
  · exact held
  · exact absurd nothing Tree.not_ofTypes_nil

/-- What a read in the process meets, it meets again once the declarations are moved, unless it is a field of one. -/
theorem Met.relocate (met : d.Met file t read packages isElement ref n) (arranged : t.Arranged)
    (placed : d.tree? file = some t) (below : t.Below r.process read) (kept : ¬(ref.file = file ∧ r.Field ref.node)) :
    (d.withTree file r.tree).Met file r.tree read packages isElement ref n := by
  have walk := r.ancestors_tree (fun y above => r.not_moved arranged below above) maxDepth
  have gained {id : NodeId} (held : t.OfTypes r.moved false id) (named : t.nameOf? id = some n) :
      (d.withTree file r.tree).Met file r.tree read packages isElement ⟨file, id⟩ n := by
    have around : r.process ∈ (r.tree.ancestors maxDepth read).1 := by
      rw [walk]
      exact arranged.mem_ancestors below (r.process_pos arranged)
    exact .scope around ((r.ofScope_process arranged).mpr (.inr ⟨held, named⟩))
  cases met with
  | package listed held => exact .package listed (held.congr (alike_relocated placed r))
  | @scope scope id _ passed held =>
    have passed' : scope ∈ (r.tree.ancestors maxDepth read).1 := by rw [walk]; exact passed
    by_cases isBody : scope = r.body
    · subst isBody
      rcases (r.ofScope_body arranged).mp held with held | ⟨held, named⟩
      · exact .scope passed' held
      · exact gained (held.plain fun type moved d known field => kept ⟨rfl, type, moved, d, known, field⟩) named
    by_cases isProcess : scope = r.process
    · subst isProcess
      exact .scope passed' ((r.ofScope_process arranged).mpr (.inl held))
    · exact .scope passed' ((r.ofScope_other isBody isProcess).mpr held)
  | entity reaches held =>
    rcases held.relocate placed r with held | ⟨id, rfl, held, named⟩
    · refine .entity ?_ held
      rw [← Tree.ancestors_complete, walk, Tree.ancestors_complete]
      exact reaches
    · exact gained held named

/-- What a read in the process meets once the declarations are moved, it met before, and it is no field of one. -/
theorem Met.of_relocated (met : (d.withTree file r.tree).Met file r.tree read packages isElement ref n)
    (arranged : t.Arranged) (placed : d.tree? file = some t) (below : t.Below r.process read) :
    d.Met file t read packages isElement ref n ∧ ¬(ref.file = file ∧ r.Field ref.node) := by
  have walk := r.ancestors_tree (fun y above => r.not_moved arranged below above) maxDepth
  cases met with
  | package listed held =>
    have held := held.congr (alike_original placed r)
    exact ⟨.package listed held, not_field_of_package arranged placed held⟩
  | @scope scope id _ passed held =>
    have passed' : scope ∈ (t.ancestors maxDepth read).1 := by rw [← walk]; exact passed
    refine ⟨?_, fun ⟨_, field⟩ => Tree.Relocation.not_field_of_tree arranged held field⟩
    by_cases isBody : scope = r.body
    · subst isBody
      exact .scope passed' ((r.ofScope_body arranged).mpr (.inl held))
    by_cases isProcess : scope = r.process
    · subst isProcess
      rcases (r.ofScope_process arranged).mp held with held | ⟨held, named⟩
      · exact .scope passed' held
      · have around := arranged.mem_ancestors (r.inside.trans below) (r.body_pos arranged)
        exact .scope around ((r.ofScope_body arranged).mpr (.inr ⟨held.of_plain isElement, named⟩))
    · exact .scope passed' ((r.ofScope_other isBody isProcess).mp held)
  | entity reaches held =>
    have held := held.of_relocated placed
    refine ⟨.entity ?_ held, not_field_of_entity arranged placed held⟩
    rw [← Tree.ancestors_complete, ← walk, Tree.ancestors_complete]
    exact reaches

/-- A read in a process resolves alike wherever the constants, subprograms and types around it are declared, in the body
or in the process, unless it refers to a field of a record type that moves. Once they are declared in the process, the
read resolves exactly if something but such a field is visible to it under its name. -/
theorem resolveRead_relocated {path : String} {text library : Bytes} {parsedTree : Tree}
    (parsed : Tree.parse path text = .ok parsedTree) (whole : t = { parsedTree with library })
    (placed : d.tree? file = some t) (r : t.Relocation) (below : t.Below r.process read)
    (isRead : t.get? Construct.read? read = some (name, isElement)) (packages : List Ref) :
    (∀ ref, d.resolveRead file read packages = .ok (some ref) → ¬(ref.file = file ∧ r.Field ref.node) →
      ∃ ref', (d.withTree file r.tree).resolveRead file read packages = .ok (some ref')) ∧
    (t.reachesFile (maxDepth + 1) read = true →
      ∃ found, (d.withTree file r.tree).resolveRead file read packages = .ok found ∧
        (found.isSome ↔ ∃ ref n, d.Visible file read packages isElement ref n ∧ sameName n name ∧
          ¬(ref.file = file ∧ r.Field ref.node))) := by
  have arranged : t.Arranged := whole ▸ (Tree.arranged_of_parse parsed).inLibrary library
  have placed' := tree?_withTree placed r.tree
  have isRead' := (r.get?_tree Construct.blind_read? read).trans isRead
  refine ⟨fun ref resolved kept => ?_, fun reaches => ?_⟩
  · obtain ⟨n, met, same⟩ := resolveRead_met placed isRead resolved
    exact (met.relocate arranged placed below kept).resolves placed' isRead' same
  have walk := r.ancestors_tree (fun y above => r.not_moved arranged below above) maxDepth
  have reaches' : r.tree.reachesFile (maxDepth + 1) read = true := by
    rw [← Tree.ancestors_complete, walk, Tree.ancestors_complete]
    exact reaches
  refine ⟨_, resolveRead_eq placed' isRead' reaches' packages, ?_⟩
  rw [(finds_resolveRead placed' reaches' packages name isElement).isSome_iff]
  constructor
  · rintro ⟨ref, n, visible, same⟩
    obtain ⟨met, kept⟩ := (visible.met placed' reaches').of_relocated arranged placed below
    exact ⟨ref, n, met.visible placed, same, kept⟩
  · rintro ⟨ref, n, visible, same, kept⟩
    exact ⟨ref, n, ((visible.met placed reaches).relocate arranged placed below kept).visible placed', same⟩

/-- An enumeration type of an architecture whose second state is read in a process, spelled in the other case. -/
def modeOutside : Bytes := Bytes.ofString
  "architecture a of e is\ntype mode is (idle, busy);\nbegin\nprocess begin\nx <= BUSY;\nend process;\nend;\n"

/-- The state is found as well once the type is declared in the process. -/
theorem modeOutside_relocated : ∃ t, Tree.parse "design.vhd" modeOutside = .ok t ∧
    ∃ r : t.Relocation, r.moved = [2] ∧ r.process = 5 ∧
      ∃ ref, ((⟨#[{ tree := t }]⟩ : Design).withTree 0 r.tree).resolveRead 0 8 [] = .ok (some ref) := by
  obtain ⟨t, parsed, shown⟩ := exists_ok_of_any (show (Tree.parse "design.vhd" modeOutside).toOption.any (fun t =>
    decide (t.get? Construct.read? 8 = some (Bytes.ofString "BUSY", false)) && decide (t.role? 5 = some .process) &&
      decide (t.parent? 5 = some 1) && decide (t.parent? 8 = some 6) && decide (t.parent? 6 = some 5) &&
      (t.get? Construct.body? 1).any (fun b => decide (b.types = [2])) &&
      (t.get? Construct.typeDecl? 2).all (fun d => decide (d.fields = [])) &&
      decide ((⟨#[{ tree := t }]⟩ : Design).resolveRead 0 8 [] = .ok (some ⟨0, 4⟩))) = true by
      rw [modeOutside, Bytes.ofString_ofList]
      decide +kernel)
  simp only [Bool.and_eq_true, decide_eq_true_eq, Option.any_eq_true, Option.all_eq_true] at shown
  obtain ⟨⟨⟨⟨⟨⟨⟨isRead, isProcess⟩, inside⟩, above⟩, around⟩, b, isBody, types⟩, noFields⟩, resolved⟩ := shown
  have listed : ∀ id ∈ [2], id ∈ b.constants ∨ id ∈ b.functions ∨ id ∈ b.types := by simp [types]
  let r : t.Relocation := ⟨1, 5, [2], 0, b, isBody, isProcess, .child inside, listed⟩
  have placed : (⟨#[{ tree := t }]⟩ : Design).tree? 0 = some t := rfl
  have kept : ¬((0 : Nat) = 0 ∧ r.Field 4) := by
    rintro ⟨-, type, moved, d, known, held⟩
    obtain rfl := List.mem_singleton.mp moved
    simp [noFields d known] at held
  obtain ⟨resolves, -⟩ := resolveRead_relocated parsed rfl placed r (.step above (.child around)) isRead []
  exact ⟨t, parsed, r, rfl, rfl, resolves ⟨0, 4⟩ resolved kept⟩

end Design
end DesignLint
