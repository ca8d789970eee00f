import DesignLint.Project.Dependents
import DesignLint.Project.Findings
import DesignLint.Proofs.Lint.Items
import DesignLint.Proofs.Project.Renumbering
import DesignLint.Proofs.Project.Symbols

/-! Completeness of the graph of dependents. What a file looks up in the symbol table is what its dependencies are read
from; so if no lookup leads to an edited file, before or after the edit, all lookups lead where they led, and the file
has the findings that it had. -/
namespace DesignLint

/-- The names that a file looks up in the symbol table. -/
def Tree.lookups (t : Tree) : List String :=
  let uses := (t.pick Construct.useClause? t.uses).filter fun (_, u) => !u.package.isEmpty
  let entity := t.architectureUnit?.toList.filter fun _ => t.entity.isNone
  let instances := t.bodies.flatMap fun b => t.pick Construct.instantiation? b.instantiations
  (uses.map fun (_, u) => qualify (Design.libraryOf t u.library) [u.package]) ++
    (entity.map fun a => qualify (Design.libraryOf t t.library) [a.entityName]) ++
    instances.map fun (_, i) => qualify (Design.libraryOf t i.library) [i.unitName]

theorem dependencies_eq (symbols : SymbolTable) (t : Tree) :
    dependencies symbols t = t.lookups.filterMap fun name => (symbols.get? name).map Symbol.file := by
  rw [dependencies, Tree.lookups, List.filterMap_append, List.filterMap_append, List.filterMap_map, List.filterMap_map,
    List.filterMap_map, List.filterMap_flatMap, List.filterMap_filter]
  refine congrArg₂ (· ++ ·) (congrArg₂ (· ++ ·) ?_ ?_) ?_
  · refine congrArg (List.filterMap · _) (funext fun (_, u) => ?_)
    by_cases empty : u.package.isEmpty = true
    · simp [empty]
    · simp [empty, Design.libraryOf]
  · cases t.architectureUnit? with
    | none => rfl
    | some a =>
      cases t.entity.isNone with
      | false => rfl
      | true =>
        simp only [if_true, Option.toList_some, List.filter_cons_of_pos, List.filter_nil, List.filterMap_cons,
          List.filterMap_nil, Function.comp_apply, Design.libraryOf]
        cases symbols.get? _ <;> rfl
  · rfl

theorem Design.libraryOf_self (t : Tree) : Design.libraryOf t t.library = t.library := by
  rw [libraryOf]
  split <;> rfl

/-- A file that is no dependent of another looks up no name that is declared there. -/
theorem DependentsGraph.file_ne_of_not_mem {symbols : SymbolTable} {trees : List Tree} {t : Tree} {path : String}
    (member : t ∈ trees) (named : path ≠ "") (other : path ≠ t.path)
    (independent : t.path ∉ (ofTrees symbols trees).dependents path) {name : String} (asked : name ∈ t.lookups)
    {symbol : Symbol} (found : symbols.get? name = some symbol) : symbol.file ≠ path := by
  intro file
  have depends : path ∈ dependencies symbols t := by
    rw [dependencies_eq]
    exact List.mem_filterMap.mpr ⟨name, asked, by rw [found, Option.map_some, file]⟩
  refine independent (mem_sortedSet.mpr (List.mem_flatMap.mpr ⟨(path, [t.path]), ?_, List.mem_singleton_self _⟩))
  refine List.mem_filter.mpr ⟨List.mem_flatMap.mpr ⟨t, member, List.mem_map.mpr ⟨path, ?_, rfl⟩⟩, decide_eq_true rfl⟩
  exact List.mem_filter.mpr ⟨depends, by simp [named, other]⟩

/-- Numbers of files that stand for each other when `old` files after the first `kept` are replaced by `new` ones. -/
def Shifted (kept old new : Nat) (n n' : Nat) : Prop :=
  n < kept ∧ n' = n ∨ ∃ k, n = kept + old + k ∧ n' = kept + new + k

/-- Symbols for one unit. -/
def Symbol.Moved (same : Nat → Nat → Prop) (s s' : Symbol) : Prop := s.kind = s'.kind ∧ s.ref.Moved same s'.ref

section

variable {same : Nat → Nat → Prop}

theorem declaredBy_moved {trees : List Tree} {first first' : Nat}
    (numbers : ∀ i : Nat, i < trees.length → same (first + i) (first' + i)) :
    List.Forall₂ (fun e e' : String × Symbol => e.1 = e'.1 ∧ e.2.Moved same e'.2) (declaredBy trees first)
      (declaredBy trees first') := by
  induction trees generalizing first first' with
  | nil => exact .nil
  | cons t trees ih =>
    have here : List.Forall₂ (fun e e' : String × Symbol => e.1 = e'.1 ∧ e.2.Moved same e'.2) (t.declared first)
        (t.declared first') := by
      rw [Tree.declared, Tree.declared, List.forall₂_map_left_iff, List.forall₂_map_right_iff, List.forall₂_same]
      exact fun unit _ => ⟨rfl, rfl, numbers 0 (by simp), rfl⟩
    have later := @ih (first + 1) (first' + 1) fun i lt => by
      have := numbers (i + 1) (by simpa using lt)
      rwa [Nat.add_right_comm, Nat.add_right_comm first']
    exact List.rel_append here later

theorem lookup_rel {α : Type} {R : α → α → Prop} {entries entries' : List (String × α)}
    (lists : List.Forall₂ (fun e e' : String × α => e.1 = e'.1 ∧ R e.2 e'.2) entries entries') (name : String) :
    Option.Rel R (entries.lookup name) (entries'.lookup name) := by
  induction lists with
  | nil => exact .none
  | @cons e e' rest rest' first _ ih =>
    rw [List.lookup_cons, List.lookup_cons, first.1]
    cases name == e'.1 with
    | true => exact .some first.2
    | false => exact ih

theorem mem_iff_of_moved {d d' : Design} (moved : d.Renumbered same d') {r r' : Ref} (ref : r.Moved same r')
    {refs refs' : List Ref} (lists : List.Forall₂ (Ref.Moved same) refs refs') : r ∈ refs ↔ r' ∈ refs' := by
  induction lists with
  | nil => simp
  | cons first _ ih => rw [List.mem_cons, List.mem_cons, moved.ref_eq_iff ref first, ih]

/-- The clauses of a file one after the other: where each finds the same package, the same packages become visible and the
same clauses are left over. -/
theorem foldl_clauses_moved {d d' : Design} (moved : d.Renumbered same d') {find find' : UseClause → Option Ref}
    (clauses : List (NodeId × UseClause))
    (each : ∀ clause ∈ clauses, Option.Rel (Ref.Moved same) (find clause.2) (find' clause.2))
    (state state' : List Ref × List NodeId) (visible : List.Forall₂ (Ref.Moved same) state.1 state'.1)
    (left : state.2 = state'.2) :
    let step (find : UseClause → Option Ref) (state : List Ref × List NodeId) (clause : NodeId × UseClause) :=
      match find clause.2 with
      | some r => (if r ∈ state.1 then state.1 else state.1 ++ [r], state.2)
      | none => (state.1, state.2 ++ [clause.1])
    List.Forall₂ (Ref.Moved same) (clauses.foldl (step find) state).1 (clauses.foldl (step find') state').1 ∧
      (clauses.foldl (step find) state).2 = (clauses.foldl (step find') state').2 := by
  intro step
  induction clauses generalizing state state' with
  | nil => exact ⟨visible, left⟩
  | cons clause clauses ih =>
    have here := each clause List.mem_cons_self
    rw [List.foldl_cons, List.foldl_cons]
    refine ih (fun other member => each other (List.mem_cons_of_mem clause member)) _ _ ?_ ?_
    all_goals
      simp only [step]
      generalize find clause.2 = package, find' clause.2 = package' at here
    · cases here with
      | none => exact visible
      | some ref =>
        simp only [mem_iff_of_moved moved ref visible]
        split
        · exact visible
        · exact List.rel_append visible (.cons ref .nil)
    · cases here with
      | none => exact congrArg (· ++ [clause.1]) left
      | some ref => exact left

/-- Use clauses that find the same packages make the same packages visible and leave the same clauses over. -/
theorem linkUses_moved {d d' : Design} (moved : d.Renumbered same d') {symbols symbols' : SymbolTable}
    (settings : LinkSettings) (t : Tree)
    (standard : List.Forall₂ (Ref.Moved same) Standard.standardPackage.toList Standard.standardPackage.toList)
    (found : ∀ clause ∈ t.pick Construct.useClause? t.uses, clause.2.package.isEmpty = false →
      Option.Rel (Ref.Moved same) (findPackage symbols settings t clause.2) (findPackage symbols' settings t clause.2)) :
    List.Forall₂ (Ref.Moved same) (linkUses symbols settings t).1 (linkUses symbols' settings t).1 ∧
      (linkUses symbols settings t).2 = (linkUses symbols' settings t).2 := by
  refine foldl_clauses_moved moved _ (fun clause member => ?_) _ _ standard rfl
  obtain ⟨listed, named⟩ := List.mem_filter.mp member
  exact found clause listed (by simpa using named)

end

/-- The predeclared packages stand in the files before those of the project. -/
theorem Standard.file_lt {library name : Bytes} {r : Ref} (found : Standard.package? library name = some r) :
    r.file < Project.firstFile := by
  obtain ⟨before, after, split, _⟩ := List.lookup_eq_some_iff.mp found
  have listed : (qualify library [name], r) ∈ Standard.packages := by rw [split]; simp
  obtain ⟨⟨f, file⟩, member, entry⟩ := List.mem_filterMap.mp listed
  have lt : file < Standard.files.toList.length := (List.getElem?_eq_some_iff.mp
    (List.mem_zipIdx_iff_getElem?.mp member)).1
  simp only [Option.bind_eq_bind, Option.bind_eq_some_iff, Option.pure_def, Option.some.injEq, Prod.mk.injEq] at entry
  obtain ⟨node, _, _, _, _, rfl⟩ := entry
  exact lt

namespace Project

variable {settings : LinkSettings} {trees : List Tree}

theorem tree?_ofTrees_of_lt {n : Nat} (lt : n < firstFile) :
    (ofTrees settings trees).design.tree? n = (Standard.files[n]?).map DesignFile.tree := by
  rw [Design.tree?, files_ofTrees, Array.getElem?_append_left lt]

theorem tree?_ofTrees_add (i : Nat) : (ofTrees settings trees).design.tree? (firstFile + i) = trees[i]? := by
  rw [Design.tree?, files_ofTrees, Array.getElem?_append_right (Nat.le_add_right firstFile i)]
  simp [firstFile, Function.comp_def, linkFile]

section

/- A project in which the files `edited` become `edited'`, all of them at one path. -/
variable {before edited edited' after : List Tree} {path : String}

theorem shifted_of_lt {kept old new n : Nat} (lt : n < kept) : Shifted kept old new n n := .inl ⟨lt, rfl⟩

theorem renumbered (settings : LinkSettings) (before edited edited' after : List Tree) :
    (ofTrees settings (before ++ edited ++ after)).design.Renumbered
      (Shifted (firstFile + before.length) edited.length edited'.length)
      (ofTrees settings (before ++ edited' ++ after)).design where
  unique := by
    rintro m n m' n' (⟨_, rfl⟩ | ⟨k, rfl, rfl⟩) (⟨_, rfl⟩ | ⟨l, rfl, rfl⟩) <;> omega
  tree := by
    rintro n n' (⟨lt, rfl⟩ | ⟨k, rfl, rfl⟩)
    · by_cases standard : n' < firstFile
      · rw [tree?_ofTrees_of_lt standard, tree?_ofTrees_of_lt standard]
      · obtain ⟨i, rfl⟩ := Nat.exists_eq_add_of_le (Nat.le_of_not_lt standard)
        have inside : i < before.length := by omega
        rw [tree?_ofTrees_add, tree?_ofTrees_add, List.append_assoc, List.append_assoc,
          List.getElem?_append_left inside, List.getElem?_append_left inside]
    · simp only [Nat.add_assoc, tree?_ofTrees_add, List.append_assoc, List.getElem?_append_right, Nat.le_add_right,
        Nat.add_sub_cancel_left]

/-- A name that leads to the edited file neither before nor after the edit leads to the same unit. -/
theorem get?_moved (edits : ∀ t ∈ edited, t.path = path) (edits' : ∀ t ∈ edited', t.path = path) {name : String}
    (elsewhere : ∀ s, (ofTrees settings (before ++ edited ++ after)).symbols.get? name = some s → s.file ≠ path)
    (elsewhere' : ∀ s, (ofTrees settings (before ++ edited' ++ after)).symbols.get? name = some s → s.file ≠ path) :
    Option.Rel (Symbol.Moved (Shifted (firstFile + before.length) edited.length edited'.length))
      ((ofTrees settings (before ++ edited ++ after)).symbols.get? name)
      ((ofTrees settings (before ++ edited' ++ after)).symbols.get? name) := by
  have laterNumbers : ∀ i : Nat, i < after.length → Shifted (firstFile + before.length) edited.length edited'.length
      (firstFile + (before ++ edited).length + i) (firstFile + (before ++ edited').length + i) := by
    intro i _
    exact .inr ⟨i, by rw [List.length_append]; omega, by rw [List.length_append]; omega⟩
  have earlierNumbers : ∀ i : Nat, i < before.length → Shifted (firstFile + before.length) edited.length edited'.length
      (firstFile + i) (firstFile + i) := fun i lt => shifted_of_lt (by omega)
  have later := lookup_rel (List.forall₂_reverse_iff.mpr (declaredBy_moved laterNumbers)) name
  have earlier := lookup_rel (List.forall₂_reverse_iff.mpr (declaredBy_moved earlierNumbers)) name
  simp only [get?_ofTrees, declaredBy_append, List.reverse_append, List.lookup_append] at elsewhere elsewhere' ⊢
  generalize (declaredBy after (firstFile + (before ++ edited).length)).reverse.lookup name = found,
    (declaredBy after (firstFile + (before ++ edited').length)).reverse.lookup name = found' at later elsewhere elsewhere' ⊢
  cases later with
  | some moved => exact .some moved
  | none =>
    -- No unit of the edited file has the name, or the name would lead there.
    have none_ {files : List Tree} (all : ∀ t ∈ files, t.path = path) {first : Nat} {rest : Option Symbol}
        (elsewhere : ∀ s, (none : Option Symbol).or (((declaredBy files first).reverse.lookup name).or rest) = some s →
          s.file ≠ path) : (declaredBy files first).reverse.lookup name = none := by
      cases declared : (declaredBy files first).reverse.lookup name with
      | none => rfl
      | some s =>
        obtain ⟨_, _, split, _⟩ := List.lookup_eq_some_iff.mp declared
        have listed : (name, s) ∈ (declaredBy files first).reverse := by rw [split]; simp
        obtain ⟨t, member, file⟩ := mem_declaredBy (List.mem_reverse.mp listed)
        exact absurd (file.trans (all t member)) (elsewhere s (by rw [declared]; rfl))
    rw [none_ edits elsewhere, none_ edits' elsewhere']
    exact earlier

end
end Project

section

variable {same : Nat → Nat → Prop} {symbols symbols' : SymbolTable}

theorem SymbolTable.entity?_moved {library name : Bytes}
    (symbol : Option.Rel (Symbol.Moved same) (symbols.get? (qualify library [name])) (symbols'.get? (qualify library [name]))) :
    Option.Rel (Ref.Moved same) (symbols.entity? library name) (symbols'.entity? library name) := by
  rw [entity?, entity?]
  generalize symbols.get? _ = found, symbols'.get? _ = found' at symbol
  cases symbol with
  | none => exact .none
  | some moved =>
    simp only [moved.1]
    split
    · exact .some moved.2
    · exact .none

theorem SymbolTable.package?_moved {library name : Bytes}
    (symbol : Option.Rel (Symbol.Moved same) (symbols.get? (qualify library [name])) (symbols'.get? (qualify library [name]))) :
    Option.Rel (Ref.Moved same) (symbols.package? library name) (symbols'.package? library name) := by
  rw [package?, package?]
  generalize symbols.get? _ = found, symbols'.get? _ = found' at symbol
  cases symbol with
  | none => exact .none
  | some moved =>
    simp only [moved.1]
    split
    · exact .some moved.2
    · exact .none

/-- A use clause finds the same package, as long as the file's lookups lead to the same units. -/
theorem findPackage_moved {settings : LinkSettings} {t : Tree} {clause : NodeId × UseClause}
    (standard : ∀ library name r, Standard.package? library name = some r → r.Moved same r)
    (looked : ∀ name ∈ t.lookups, Option.Rel (Symbol.Moved same) (symbols.get? name) (symbols'.get? name))
    (listed : clause ∈ t.pick Construct.useClause? t.uses) (named : clause.2.package.isEmpty = false)
    (library : clause.2.library.isEmpty = false) :
    Option.Rel (Ref.Moved same) (findPackage symbols settings t clause.2) (findPackage symbols' settings t clause.2) := by
  have own : Design.libraryOf t clause.2.library =
      if sameName clause.2.library ownLibrary then t.library else clause.2.library := by
    rw [Design.libraryOf, library, Bool.false_or]
  have asked : qualify (Design.libraryOf t clause.2.library) [clause.2.package] ∈ t.lookups := by
    refine List.mem_append_left _ (List.mem_append_left _ (List.mem_map.mpr ⟨clause, ?_, rfl⟩))
    exact List.mem_filter.mpr ⟨listed, show (!clause.2.package.isEmpty) = true by rw [named]; rfl⟩
  simp only [findPackage, ← own]
  refine or_rel ?_ ?_
  · cases predeclared : Standard.package? (Design.libraryOf t clause.2.library) clause.2.package with
    | none => exact .none
    | some r => exact .some (standard _ _ r predeclared)
  · split
    · exact SymbolTable.package?_moved (looked _ asked)
    · exact .none

theorem linkEntity_moved {t : Tree}
    (looked : ∀ name ∈ t.lookups, Option.Rel (Symbol.Moved same) (symbols.get? name) (symbols'.get? name)) :
    Option.Rel (Ref.Moved same) (linkEntity symbols t) (linkEntity symbols' t) := by
  rw [linkEntity, linkEntity]
  cases alone : t.entity with
  | some id => exact .none
  | none =>
    cases unit : t.architectureUnit? with
    | none => exact .none
    | some a =>
      have asked : qualify t.library [a.entityName] ∈ t.lookups := by
        refine List.mem_append_left _ (List.mem_append_right _ (List.mem_map.mpr ⟨a, ?_, ?_⟩))
        · rw [unit, alone]
          exact List.mem_filter.mpr ⟨List.mem_singleton_self a, rfl⟩
        · rw [Design.libraryOf_self]
      exact SymbolTable.entity?_moved (looked _ asked)

end

/-- A use clause that names a package names its library. -/
theorem Tree.names_library {t : Tree} (libraries : ∀ (id : Nat) c, t.construct? id = some c → c.NamesLibrary)
    {ids : List NodeId} {clause : NodeId × UseClause} (listed : clause ∈ t.pick Construct.useClause? ids)
    (named : clause.2.package.isEmpty = false) : clause.2.library.isEmpty = false := by
  obtain ⟨id, _, picked⟩ := List.mem_filterMap.mp listed
  obtain ⟨u, chosen, rfl⟩ := Option.map_eq_some_iff.mp picked
  obtain ⟨c, known, isClause⟩ := Option.bind_eq_some_iff.mp chosen
  cases c <;> cases isClause
  rcases libraries id _ known with empty | filled
  · rw [show u.package = [] from empty] at named
    contradiction
  · exact List.isEmpty_eq_false_iff.mpr filled

/-- A file whose lookups lead to the same units in two projects has the same findings there. -/
theorem Project.findings_moved {same : Nat → Nat → Prop} {p p' : Project} {settings : LinkSettings} {t : Tree}
    {n n' : Nat} (moved : p.design.Renumbered same p'.design) (number : same n n')
    (standard : ∀ library name r, Standard.package? library name = some r → r.Moved same r)
    (formed : t.WellFormed) (libraries : ∀ (id : Nat) c, t.construct? id = some c → c.NamesLibrary)
    (placed : p.design.files[n]? = some (linkFile p.symbols settings t))
    (placed' : p'.design.files[n']? = some (linkFile p'.symbols settings t))
    (looked : ∀ name ∈ t.lookups, Option.Rel (Symbol.Moved same) (p.symbols.get? name) (p'.symbols.get? name))
    (ignoreRegions : Bool) :
    p.findings ignoreRegions (linkFile p.symbols settings t) n =
      p'.findings ignoreRegions (linkFile p'.symbols settings t) n' := by
  obtain ⟨packages, unresolved⟩ := linkUses_moved moved settings t (by
      cases predeclared : Standard.standardPackage with
      | none => exact .nil
      | some r => exact .cons (standard _ _ r predeclared) .nil)
    fun clause listed named => findPackage_moved standard looked listed named (Tree.names_library libraries listed named)
  have subjects : (p.subject (linkFile p.symbols settings t) n).Moved same
      (p'.subject (linkFile p'.symbols settings t) n') := by
    refine ⟨moved, number, rfl, ?_, packages, ?_, ?_⟩
    · change (p.design.files[n]?).map DesignFile.tree = some t
      rw [placed]
      rfl
    · change Option.Rel (Ref.Moved same) (p.design.boundEntity? n) (p'.design.boundEntity? n')
      rw [Design.boundEntity?, Design.boundEntity?, placed, placed']
      simp only [Option.bind_some, linkFile]
      cases t.entity with
      | some id => exact .some ⟨number, rfl⟩
      | none => exact linkEntity_moved looked
    · intro b body id listed
      have plays := formed.role?_of_mem_bodies body
        (show Role.instantiation ∈ Tree.itemRoles by simp [Tree.itemRoles]) listed
      obtain ⟨c, known, isInstance⟩ := Option.map_eq_some_iff.mp plays
      cases c <;> simp only [Construct.role, reduceCtorEq] at isInstance
      rename_i i
      have found : t.get? Construct.instantiation? id = some i := by rw [Tree.get?, known]; rfl
      have asked : qualify (Design.libraryOf t i.library) [i.unitName] ∈ t.lookups := by
        refine List.mem_append_right _ (List.mem_map.mpr ⟨(id, i), List.mem_flatMap.mpr ⟨b, body, ?_⟩, rfl⟩)
        exact List.mem_filterMap.mpr ⟨id, listed, by rw [known]; rfl⟩
      change let i := (t.get? Construct.instantiation? id).getD {}
        Option.Rel (Ref.Moved same) (p.symbols.entity? (Design.libraryOf t i.library) i.unitName)
          (p'.symbols.entity? (Design.libraryOf t i.library) i.unitName)
      rw [found]
      exact SymbolTable.entity?_moved (looked _ asked)
  have checked : Lint.checkAll ((linkFile p.symbols settings t).tree.facts (linkFile p.symbols settings t).rules)
        (p.subject (linkFile p.symbols settings t) n) =
      (Lint.checkAll ((linkFile p'.symbols settings t).tree.facts (linkFile p'.symbols settings t).rules)
        (p'.subject (linkFile p'.symbols settings t) n') : Except Fault _) :=
    subjects.agrees.checkAll settings.rules
  have uses : unresolvedUses (linkFile p.symbols settings t) = unresolvedUses (linkFile p'.symbols settings t) := by
    simp only [unresolvedUses, linkFile, unresolved]
  rw [findings, findings, checked, uses]
  rfl

namespace Project

variable {settings : LinkSettings} {before edited edited' after : List Tree} {path : String} {t : Tree}

/-- A file that stands for itself beside an edited one, and looks nothing up in it, has the same findings. -/
theorem findings_beside_edit (edits : ∀ t ∈ edited, t.path = path) (edits' : ∀ t ∈ edited', t.path = path)
    (formed : t.WellFormed) (libraries : ∀ (id : Nat) c, t.construct? id = some c → c.NamesLibrary)
    (elsewhere : ∀ name ∈ t.lookups, ∀ s,
      (ofTrees settings (before ++ edited ++ after)).symbols.get? name = some s → s.file ≠ path)
    (elsewhere' : ∀ name ∈ t.lookups, ∀ s,
      (ofTrees settings (before ++ edited' ++ after)).symbols.get? name = some s → s.file ≠ path)
    {i i' : Nat} (found : (before ++ edited ++ after)[i]? = some t) (found' : (before ++ edited' ++ after)[i']? = some t)
    (number : Shifted (firstFile + before.length) edited.length edited'.length (firstFile + i) (firstFile + i'))
    (ignoreRegions : Bool) :
    let p := ofTrees settings (before ++ edited ++ after)
    let p' := ofTrees settings (before ++ edited' ++ after)
    p.findings ignoreRegions (linkFile p.symbols settings t) (firstFile + i) =
      p'.findings ignoreRegions (linkFile p'.symbols settings t) (firstFile + i') := by
  intro p p'
  refine findings_moved (renumbered settings before edited edited' after) number ?_ formed libraries ?_ ?_ ?_
    ignoreRegions
  · intro library name r predeclared
    have lt := Standard.file_lt predeclared
    exact ⟨shifted_of_lt (by omega), rfl⟩
  · rw [files_ofTrees_add, found]
    rfl
  · rw [files_ofTrees_add, found']
    rfl
  · exact fun name asked => get?_moved edits edits' (elsewhere name asked) (elsewhere' name asked)

/-- A file other than the edited one has its place before or after it. -/
theorem exists_places (edited edited' : List Tree) (member : t ∈ before ++ after) :
    ∃ i i', (before ++ edited ++ after)[i]? = some t ∧ (before ++ edited' ++ after)[i']? = some t ∧
      Shifted (firstFile + before.length) edited.length edited'.length (firstFile + i) (firstFile + i') := by
  rcases List.mem_append.mp member with earlier | later
  · obtain ⟨i, lt, rfl⟩ := List.getElem_of_mem earlier
    refine ⟨i, i, ?_, ?_, shifted_of_lt (by omega)⟩
    · rw [List.append_assoc, List.getElem?_append_left lt, List.getElem?_eq_getElem lt]
    · rw [List.append_assoc, List.getElem?_append_left lt, List.getElem?_eq_getElem lt]
  · obtain ⟨k, lt, rfl⟩ := List.getElem_of_mem later
    refine ⟨(before ++ edited).length + k, (before ++ edited').length + k, ?_, ?_, .inr ⟨k, ?_, ?_⟩⟩
    · rw [List.getElem?_append_right (Nat.le_add_right _ k), Nat.add_sub_cancel_left, List.getElem?_eq_getElem lt]
    · rw [List.getElem?_append_right (Nat.le_add_right _ k), Nat.add_sub_cancel_left, List.getElem?_eq_getElem lt]
    · rw [List.length_append]
      omega
    · rw [List.length_append]
      omega

theorem filterMap_tree? (before after : List SourceFile) (g : SourceFile) :
    (before ++ g :: after).filterMap SourceFile.tree? =
      before.filterMap SourceFile.tree? ++ g.tree?.toList ++ after.filterMap SourceFile.tree? := by
  rw [List.filterMap_append, List.filterMap_cons, List.append_assoc]
  cases g.tree? <;> rfl

/-- Two versions of one file of a project: every other file whose findings differ is a dependent of the edited file in
one version of the project or the other. -/
theorem dependents_complete (settings : LinkSettings) (before after : List SourceFile) (g : SourceFile) (text' : Bytes)
    (distinct : ((before ++ g :: after).map SourceFile.path).Nodup) (ignoreRegions : Bool) :
    let p := ofSources settings (before ++ g :: after)
    let p' := ofSources settings (before ++ { g with text := text' } :: after)
    ∀ f ∈ before ++ after, ∀ t, f.tree? = some t → ∃ m ∈ p.members, ∃ m' ∈ p'.members, m.1.tree = t ∧ m'.1.tree = t ∧
      (p.findings ignoreRegions m.1 m.2 ≠ p'.findings ignoreRegions m'.1 m'.2 →
        f.path ∈ (DependentsGraph.ofTrees p.symbols p.trees).dependents g.path ∨
          f.path ∈ (DependentsGraph.ofTrees p'.symbols p'.trees).dependents g.path) := by
  intro p p' f member t read
  have other : f.path ≠ g.path := by
    intro same
    rw [List.map_append, List.map_cons, List.nodup_middle, ← List.map_append] at distinct
    exact (List.nodup_cons.mp distinct).1 (same ▸ List.mem_map_of_mem member)
  have edits (g' : SourceFile) : ∀ u ∈ g'.tree?.toList, u.path = g'.path := by
    intro u among
    exact SourceFile.path_of_tree? (Option.mem_toList.mp among)
  have path := SourceFile.path_of_tree? read
  have among : t ∈ before.filterMap SourceFile.tree? ++ after.filterMap SourceFile.tree? := by
    rw [← List.filterMap_append]
    exact List.mem_filterMap.mpr ⟨f, member, read⟩
  obtain ⟨i, i', found, found', number⟩ := exists_places g.tree?.toList
    ({ g with text := text' } : SourceFile).tree?.toList among
  have trees := filterMap_tree? before after g
  have trees' := filterMap_tree? before after { g with text := text' }
  simp only [p, p', ofSources, trees_ofTrees, trees, trees']
  refine ⟨_, mem_members_ofTrees found, _, mem_members_ofTrees found', rfl, rfl, fun differ => ?_⟩
  by_contra neither
  obtain ⟨independent, independent'⟩ := not_or.mp neither
  rw [← path] at independent independent' other
  refine differ (findings_beside_edit (edits g) (edits { g with text := text' })
    (SourceFile.wellFormed_of_tree? read) ?_ ?_ ?_ found found' number ignoreRegions)
  · exact fun _ _ => SourceFile.namesLibrary_of_tree? read
  · exact fun name asked s declared => DependentsGraph.file_ne_of_not_mem (List.mem_of_getElem? found) g.named
      other.symm independent asked declared
  · exact fun name asked s declared => DependentsGraph.file_ne_of_not_mem (List.mem_of_getElem? found') g.named
      other.symm independent' asked declared

/-- A package with one constant. -/
def constantPackage : SourceFile :=
  ⟨"p.vhd", by decide, ownLibrary, Bytes.ofString "package p is\n constant c : bit;\nend package;\n"⟩

/-- An architecture that reads the constant of the package. -/
def constantReader : SourceFile :=
  ⟨"a.vhd", by decide, ownLibrary,
    Bytes.ofString "use work.p.all;\narchitecture a of e is\nsignal s : bit;\nbegin\ns <= c;\nend;\n"⟩

theorem dependents_complete_reader :
    let p := ofSources {} [constantPackage, constantReader]
    let p' := ofSources {} [{ constantPackage with text := [] }, constantReader]
    ([constantPackage, constantReader].map SourceFile.path).Nodup ∧ ∃ t, constantReader.tree? = some t ∧
      ∃ m ∈ p.members, ∃ m' ∈ p'.members, m.1.tree = t ∧ m'.1.tree = t ∧
        (p.findings true m.1 m.2 ≠ p'.findings true m'.1 m'.2 →
          "a.vhd" ∈ (DependentsGraph.ofTrees p.symbols p.trees).dependents "p.vhd" ∨
            "a.vhd" ∈ (DependentsGraph.ofTrees p'.symbols p'.trees).dependents "p.vhd") := by
  have distinct : ([constantPackage, constantReader].map SourceFile.path).Nodup := by decide
  obtain ⟨t, read⟩ := Option.isSome_iff_exists.mp (show constantReader.tree?.isSome = true by
    rw [constantReader, Bytes.ofString_ofList]
    decide +kernel)
  exact ⟨distinct, t, read, dependents_complete {} [] [constantReader] constantPackage [] distinct true constantReader
    (List.mem_singleton_self _) t read⟩

end Project
end DesignLint
