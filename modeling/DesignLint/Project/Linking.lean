import DesignLint.Project.Symbols
import DesignLint.Standard.Library
import DesignLint.Lint.Check

/-! Linking. Each file gets the packages that its use clauses name and, if it holds an architecture without
its entity, the entity from another file. The predeclared packages stand before the files of the project
and win over project packages of the same name. -/
namespace DesignLint

/-- What decides how files are linked and read. -/
structure LinkSettings where
  rules : InferenceRules := .standard
  /-- Whether use clauses find packages of other libraries of the project. -/
  followLibraries : Bool := true

/-- A linked project. -/
structure Project where
  design : Design
  symbols : SymbolTable
  clashes : List Clash

/-- The package that a use clause names. -/
def findPackage (symbols : SymbolTable) (settings : LinkSettings) (t : Tree) (u : UseClause) :
    Option Ref :=
  let library := if sameName u.library ownLibrary then t.library else u.library
  (Standard.package? library u.package).or
    (if settings.followLibraries || sameName library t.library then symbols.package? library u.package
     else none)

/-- The packages visible in a file, in order and each once, and the use clauses that name none. -/
def linkUses (symbols : SymbolTable) (settings : LinkSettings) (t : Tree) : List Ref × List NodeId :=
  let clauses := (t.pick Construct.useClause? t.uses).filter fun (_, u) => !u.package.isEmpty
  let step (state : List Ref × List NodeId) (clause : NodeId × UseClause) :=
    match findPackage symbols settings t clause.2 with
    | some r => (if r ∈ state.1 then state.1 else state.1 ++ [r], state.2)
    | none => (state.1, state.2 ++ [clause.1])
  clauses.foldl step (Standard.standardPackage.toList, [])

/-- The entity in another file of a file that holds only an architecture. -/
def linkEntity (symbols : SymbolTable) (t : Tree) : Option Ref :=
  if t.entity.isSome then none
  else t.architectureUnit?.bind fun a => symbols.entity? t.library a.entityName

/-- A file with its links. -/
def linkFile (symbols : SymbolTable) (settings : LinkSettings) (t : Tree) : DesignFile :=
  let (packages, unresolved) := linkUses symbols settings t
  { tree := t, rules := settings.rules, packages, unresolved, linked := linkEntity symbols t }

namespace Project

/-- The number of the first file of a project; the predeclared packages come before it. -/
def firstFile : Nat := Standard.files.size

/-- Links the files of a project, in order. -/
def ofTrees (settings : LinkSettings) (trees : List Tree) : Project :=
  let (symbols, clashes) := (trees.zipIdx firstFile).foldl
    (fun state (t, file) => SymbolTable.register state t file) ({}, [])
  { design := ⟨Standard.files ++ (trees.map (linkFile symbols settings)).toArray⟩, symbols, clashes }

/-- The files of the project with their numbers. -/
def members (p : Project) : List (DesignFile × Nat) :=
  (p.design.files.toList.drop firstFile).zipIdx firstFile

/-- The trees of the project's files. -/
def trees (p : Project) : List Tree := p.members.map (·.1.tree)

/-- What the checks need to know about a file. -/
def subject (p : Project) (f : DesignFile) (file : Nat) : Lint.Subject :=
  ⟨p.design, file, f.tree, f.packages, p.symbols.entity?⟩

/-- A finding for each use clause that names no known package. -/
def unresolvedUses (f : DesignFile) : List Diagnostic :=
  (f.tree.pick Construct.useClause? f.unresolved).map fun (id, u) =>
    .ofRule .unresolvedUse f.tree.path
      (Bytes.ofString "package '" ++ u.library ++ Bytes.ofString "." ++ u.package
        ++ Bytes.ofString "' not found")
      (f.tree.span id)

end Project
end DesignLint
