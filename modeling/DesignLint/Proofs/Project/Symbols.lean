import DesignLint.Project.Linking
import DesignLint.Proofs.Lockstep.DesignUnit

/-! What the symbol table of a project holds: under each name, the unit that was declared last. A project is also seen as the
files that it is read from, where files that cannot be read are left out. -/
namespace DesignLint

/-- The units that a file declares for others, in order. -/
def Tree.declared (t : Tree) (file : Nat) : List (String × Symbol) :=
  t.exportedUnits.map fun (name, kind, id) => (name, ⟨kind, t.path, (t.span id).start.line + 1, ⟨file, id⟩⟩)

/-- The units that files declare, which are numbered from `first` on. -/
def declaredBy (trees : List Tree) (first : Nat) : List (String × Symbol) :=
  (trees.zipIdx first).flatMap fun (t, file) => t.declared file

theorem declaredBy_append (trees others : List Tree) (first : Nat) :
    declaredBy (trees ++ others) first = declaredBy trees first ++ declaredBy others (first + trees.length) := by
  rw [declaredBy, List.zipIdx_append, List.flatMap_append, declaredBy, declaredBy]

theorem mem_declaredBy {trees : List Tree} {first : Nat} {entry : String × Symbol}
    (declared : entry ∈ declaredBy trees first) : ∃ t ∈ trees, entry.2.file = t.path := by
  obtain ⟨⟨t, file⟩, member, inside⟩ := List.mem_flatMap.mp declared
  obtain ⟨unit, _, rfl⟩ := List.mem_map.mp inside
  exact ⟨t, List.mem_of_getElem? (List.mem_zipIdx_iff_le_and_getElem?_sub.mp member).2, rfl⟩

namespace SymbolTable

/-- A file's units come on top of what was declared before. -/
theorem get?_register (state : SymbolTable × List Clash) (t : Tree) (file : Nat) (name : String) :
    (register state t file).1.get? name = ((t.declared file).reverse.lookup name).or (state.1.get? name) := by
  have go (units : List (String × SymbolKind × NodeId)) (state : SymbolTable × List Clash) :
      (units.foldl (declare t file) state).1.get? name =
        ((units.map fun (name, kind, id) => ((name, ⟨kind, t.path, (t.span id).start.line + 1, ⟨file, id⟩⟩) :
          String × Symbol)).reverse.lookup name).or (state.1.get? name) := by
    induction units generalizing state with
    | nil => rfl
    | cons unit units ih =>
      obtain ⟨key, kind, id⟩ := unit
      rw [List.foldl_cons, ih, List.map_cons, List.reverse_cons, List.lookup_append, Option.or_assoc]
      congr 1
      by_cases same : name = key
      · subst same
        simp [declare, get?_insert_self]
      · have differs : (name == key) = false := beq_eq_false_iff_ne.mpr same
        simp [declare, get?_insert_of_ne _ _ same, List.lookup_cons, differs]
  exact go t.exportedUnits state

end SymbolTable

namespace Project

theorem get?_ofTrees (settings : LinkSettings) (trees : List Tree) (name : String) :
    (ofTrees settings trees).symbols.get? name = (declaredBy trees firstFile).reverse.lookup name := by
  have go (files : List (Tree × Nat)) (state : SymbolTable × List Clash) :
      (files.foldl (fun state (t, file) => SymbolTable.register state t file) state).1.get? name =
        ((files.flatMap fun (t, file) => t.declared file).reverse.lookup name).or (state.1.get? name) := by
    induction files generalizing state with
    | nil => rfl
    | cons file files ih =>
      rw [List.foldl_cons, ih, SymbolTable.get?_register, List.flatMap_cons, List.reverse_append, List.lookup_append,
        Option.or_assoc]
  exact (go (trees.zipIdx firstFile) ({}, [])).trans (Option.or_none ..)

theorem files_ofTrees (settings : LinkSettings) (trees : List Tree) :
    (ofTrees settings trees).design.files =
      Standard.files ++ (trees.map (linkFile (ofTrees settings trees).symbols settings)).toArray := rfl

/-- The files of a project are its trees with their links, numbered from the first file on. -/
theorem members_ofTrees (settings : LinkSettings) (trees : List Tree) :
    (ofTrees settings trees).members =
      (trees.map (linkFile (ofTrees settings trees).symbols settings)).zipIdx firstFile := by
  have first : Standard.files.toList.length = firstFile := Array.length_toList
  rw [members, files_ofTrees, Array.toList_append, List.drop_left' first]

end Project

/-! ### Sources -/

/-- A file with the library that it belongs to. An empty path stands for no file. -/
structure SourceFile where
  path : String
  named : path ≠ ""
  library : Bytes
  text : Bytes

namespace SourceFile

/-- The tree of the file, if it can be read. -/
def tree? (f : SourceFile) : Option Tree :=
  (Tree.parse f.path f.text).toOption.map fun t => { t with library := f.library }

variable {f : SourceFile} {t : Tree}

theorem tree?_eq_some_iff :
    f.tree? = some t ↔ ∃ u, Tree.parse f.path f.text = .ok u ∧ t = { u with library := f.library } := by
  rw [tree?, Option.map_eq_some_iff]
  cases Tree.parse f.path f.text with
  | error fault => simp [Except.toOption]
  | ok u => simp [Except.toOption, eq_comm]

theorem wellFormed_of_tree? (read : f.tree? = some t) : t.WellFormed := by
  obtain ⟨u, parsed, rfl⟩ := tree?_eq_some_iff.1 read
  exact (Tree.wellFormed_of_parse parsed).1.retree rfl rfl

theorem path_of_tree? (read : f.tree? = some t) : t.path = f.path := by
  obtain ⟨u, parsed, rfl⟩ := tree?_eq_some_iff.1 read
  exact (Tree.path_of_parse parsed :)

theorem namesLibrary_of_tree? (read : f.tree? = some t) {id : Nat} {c : Construct} (known : t.construct? id = some c) :
    c.NamesLibrary := by
  obtain ⟨u, parsed, rfl⟩ := tree?_eq_some_iff.1 read
  exact Tree.namesLibrary_of_parse parsed (show u.construct? id = some c from known)

end SourceFile

namespace Project

/-- Reads and links files. -/
def ofSources (settings : LinkSettings) (files : List SourceFile) : Project :=
  ofTrees settings (files.filterMap SourceFile.tree?)

variable {settings : LinkSettings} {trees : List Tree}

theorem trees_ofTrees (settings : LinkSettings) (trees : List Tree) : (ofTrees settings trees).trees = trees := by
  have tree (t : Tree) : (linkFile (ofTrees settings trees).symbols settings t).tree = t := rfl
  rw [Project.trees, members_ofTrees, ← Function.comp_def DesignFile.tree Prod.fst, ← List.map_map, List.zipIdx_map_fst,
    List.map_map, Function.comp_def]
  simp only [tree, List.map_id']

/-- The file at a position of the list is the file of that number of the design. -/
theorem files_ofTrees_add (settings : LinkSettings) (trees : List Tree) (i : Nat) :
    (ofTrees settings trees).design.files[firstFile + i]? =
      trees[i]?.map (linkFile (ofTrees settings trees).symbols settings) := by
  rw [files_ofTrees, Array.getElem?_append_right (Nat.le_add_right firstFile i)]
  simp [firstFile]

theorem mem_members_ofTrees {t : Tree} {i : Nat} (found : trees[i]? = some t) :
    (linkFile (ofTrees settings trees).symbols settings t, firstFile + i) ∈ (ofTrees settings trees).members := by
  rw [members_ofTrees, List.mem_zipIdx_iff_le_and_getElem?_sub]
  exact ⟨Nat.le_add_right _ _, by simp [found]⟩

end Project
end DesignLint
