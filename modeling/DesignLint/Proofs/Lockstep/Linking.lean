import DesignLint.Proofs.Lockstep.Analysis
import DesignLint.Proofs.Project.Symbols

/-! Linking of outlines. Units are found under keys in lower case, so what a file exports, which packages its use
clauses find and which entity its architecture belongs to are those of its outline. -/
namespace DesignLint

variable {l : Likeness}

theorem Likeness.NameTwin.lower_eq {a b : Bytes} (twin : l.NameTwin a b) : a.lower = b.lower := by
  rw [← lower_name l a, twin, lower_name]

/-- Keys do not depend on the spelling of names. -/
theorem qualify_eq {library library' : Bytes} {names names' : List Bytes} (libraries : l.NameTwin library library')
    (twins : List.Forall₂ l.NameTwin names names') : qualify library names = qualify library' names' :=
  (Likeness.NameTwin.intercalate (Bytes.ofString ".") (.cons libraries twins)).lower_eq

theorem qualify_name (library : Bytes) (names : List Bytes) : qualify library (names.map l.name) = qualify library names := by
  refine qualify_eq (l := l) rfl ?_
  rw [List.forall₂_map_left_iff]
  exact List.forall₂_same.mpr fun name _ => l.name_name name

/-- The key of one name in a library. -/
theorem qualify_unit (library name : Bytes) : qualify (l.name library) [l.name name] = qualify library [name] :=
  qualify_eq (l.name_name library) (.cons (l.name_name name) .nil)

/-- The library may keep its spelling. -/
theorem UnitLookup.Respects.name_eq {units : UnitLookup} (respects : units.Respects l) (library name : Bytes) :
    units library (l.name name) = units library name := by
  rw [← respects, l.name_name, respects]

theorem SymbolTable.entity?_respects (table : SymbolTable) : table.entity?.Respects l := by
  intro library name
  rw [entity?, qualify_unit, entity?]

theorem SymbolTable.package?_respects (table : SymbolTable) : table.package?.Respects l := by
  intro library name
  rw [package?, qualify_unit, package?]

theorem Standard.package?_respects : UnitLookup.Respects l Standard.package? := by
  intro library name
  rw [package?, qualify_unit, package?]

namespace Tree

variable (t : Tree)

@[simp] theorem outline_useClause? :
    (t.outline l).get? Construct.useClause? = fun id => (t.get? Construct.useClause? id).map (UseClause.outline l) :=
  t.outline_get? (Construct.useClause?_outline l)

theorem outline_pick {α : Type} {choose : Construct → Option α} {draw : α → α}
    (outlined : ∀ c, choose (c.outline l) = (choose c).map draw) (ids : List NodeId) :
    (t.outline l).pick choose ids = (t.pick choose ids).map fun (id, a) => (id, draw a) := by
  have each : (fun id => (((t.outline l).construct? id).bind choose).map (id, ·)) =
      fun id => (((t.construct? id).bind choose).map (id, ·)).map fun ((id, a) : NodeId × α) => (id, draw a) := by
    funext id
    have drawn : ((t.outline l).construct? id).bind choose = ((t.construct? id).bind choose).map draw :=
      congrFun (t.outline_get? outlined) id
    rw [drawn, Option.map_map, Option.map_map]
    rfl
  rw [pick, pick, each, List.map_filterMap]

/-- A file exports the units of its outline. -/
theorem outline_exportedUnits : (t.outline l).exportedUnits = t.exportedUnits := by
  have name (id : NodeId) : ((t.outline l).nameOf? id).getD [] = l.name ((t.nameOf? id).getD []) := by
    rw [outline_nameOf?]
    cases t.nameOf? id <;> rfl
  have key (id : NodeId) : qualify t.library [l.name ((t.nameOf? id).getD [])] =
      qualify t.library [(t.nameOf? id).getD []] := qualify_name t.library [_]
  have componentKey (id c : NodeId) :
      qualify t.library [l.name ((t.nameOf? id).getD []), l.name ((t.nameOf? c).getD [])] =
        qualify t.library [(t.nameOf? id).getD [], (t.nameOf? c).getD []] := qualify_name t.library [_, _]
  have components (id : NodeId) : (((t.outline l).get? Construct.package? id).map Package.components).getD [] =
      ((t.get? Construct.package? id).map Package.components).getD [] := by
    simp only [outline_package?]
    cases t.get? Construct.package? id <;> rfl
  have entity_eq : (t.outline l).entity = t.entity := rfl
  have package_eq : (t.outline l).package = t.package := rfl
  have library_eq : (t.outline l).library = t.library := rfl
  simp only [exportedUnits, entity_eq, package_eq, library_eq, name, key, componentKey, components]

end Tree

/-- A use clause finds the package that its outline finds. -/
theorem outline_findPackage (symbols : SymbolTable) (settings : LinkSettings) (t : Tree) (u : UseClause) :
    findPackage symbols settings (t.outline l) (u.outline l) = findPackage symbols settings t u := by
  have library_eq : (t.outline l).library = t.library := rfl
  simp only [findPackage, UseClause.outline, Likeness.sameName_name_left, library_eq]
  split
  · rw [Standard.package?_respects.name_eq, symbols.package?_respects.name_eq]
  · rw [Standard.package?_respects, symbols.package?_respects, Likeness.sameName_name_left]

theorem outline_clause (symbols : SymbolTable) (settings : LinkSettings) (t : Tree) (id : NodeId) :
    ((t.outline l).get? Construct.useClause? id).bind (findPackage symbols settings (t.outline l)) =
      (t.get? Construct.useClause? id).bind (findPackage symbols settings t) := by
  have drawn : (t.outline l).get? Construct.useClause? id = (t.get? Construct.useClause? id).map (UseClause.outline l) :=
    congrFun t.outline_useClause? id
  rw [drawn]
  cases t.get? Construct.useClause? id with
  | none => rw [Option.map_none, Option.bind_none, Option.bind_none]
  | some u => rw [Option.map_some, Option.bind_some, Option.bind_some, outline_findPackage]

/-- Clauses that find the same packages make the same packages visible and leave the same clauses over. -/
theorem foldl_outline_clauses {find find' : UseClause → Option Ref} (found : ∀ u, find (u.outline l) = find' u)
    (clauses : List (NodeId × UseClause)) (state : List Ref × List NodeId) :
    let step (find : UseClause → Option Ref) (state : List Ref × List NodeId) (clause : NodeId × UseClause) :=
      match find clause.2 with
      | some r => (if r ∈ state.1 then state.1 else state.1 ++ [r], state.2)
      | none => (state.1, state.2 ++ [clause.1])
    (clauses.map fun c => (c.1, c.2.outline l)).foldl (step find) state = clauses.foldl (step find') state := by
  intro step
  simp only [List.foldl_map, step, found]

/-- The clauses that name a package are those of the outline. -/
theorem outline_namedClauses (t : Tree) :
    ((t.outline l).pick Construct.useClause? (t.outline l).uses).filter (fun (_, u) => !u.package.isEmpty) =
      ((t.pick Construct.useClause? t.uses).filter fun (_, u) => !u.package.isEmpty).map
        fun c => (c.1, c.2.outline l) := by
  rw [t.outline_pick (Construct.useClause?_outline l), List.filter_map]
  simp only [Function.comp_def, UseClause.outline, Likeness.isEmpty_name]
  rfl

/-- A file sees the packages that its outline sees. -/
theorem outline_linkUses (symbols : SymbolTable) (settings : LinkSettings) (t : Tree) :
    linkUses symbols settings (t.outline l) = linkUses symbols settings t := by
  unfold linkUses
  simp only
  rw [outline_namedClauses]
  exact foldl_outline_clauses (outline_findPackage symbols settings t) _ _

theorem outline_linkEntity (symbols : SymbolTable) (t : Tree) :
    linkEntity symbols (t.outline l) = linkEntity symbols t := by
  have entity_eq : (t.outline l).entity = t.entity := rfl
  have library_eq : (t.outline l).library = t.library := rfl
  rw [linkEntity, linkEntity, Tree.outline_architectureUnit?, entity_eq, library_eq]
  cases t.architectureUnit? with
  | none => rfl
  | some a => simp only [Option.map_some, Option.bind_some, Architecture.outline, symbols.entity?_respects.name_eq]

/-- The links of a file are those of its outline. -/
theorem outline_linkFile (symbols : SymbolTable) (settings : LinkSettings) (t : Tree) :
    linkFile symbols settings (t.outline l) = { linkFile symbols settings t with tree := t.outline l } := by
  simp only [linkFile, outline_linkUses, outline_linkEntity]

namespace Project

/-- Projects of files with one outline have designs of one outline. -/
theorem outline_design_eq {settings : LinkSettings} {trees trees' : List Tree}
    (symbols : (ofTrees settings trees).symbols = (ofTrees settings trees').symbols)
    (outlines : trees.map (Tree.outline l) = trees'.map (Tree.outline l)) :
    (ofTrees settings trees).design.outline l = (ofTrees settings trees').design.outline l := by
  have drawn (symbols : SymbolTable) (trees : List Tree) :
      (trees.map (linkFile symbols settings)).map (fun f => { f with tree := f.tree.outline l }) =
        (trees.map (Tree.outline l)).map (linkFile symbols settings) := by
    rw [List.map_map, List.map_map]
    exact congrArg (trees.map ·) (funext fun t => (outline_linkFile symbols settings t).symm)
  simp only [Design.outline, files_ofTrees, Array.map_append, List.map_toArray, drawn, symbols, outlines]

end Project
end DesignLint
