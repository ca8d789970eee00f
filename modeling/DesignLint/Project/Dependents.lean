import DesignLint.Project.Symbols

/-! Which files depend on which. A file depends on the files that declare the packages it uses, the entity of
its architecture and the units it instantiates. The impact of a change is the set of files that depend on
the changed one directly or through others, by distance. -/
namespace DesignLint

/-- The files that a file refers to, in the order of the references. -/
def dependencies (symbols : SymbolTable) (t : Tree) : List String :=
  let fileOf (library name : Bytes) : Option String :=
    let library := if library.isEmpty || sameName library ownLibrary then t.library else library
    (symbols.get? (qualify library [name])).map Symbol.file
  let uses := (t.pick Construct.useClause? t.uses).filterMap fun (_, u) =>
    if u.package.isEmpty then none else fileOf u.library u.package
  let entity := match t.architectureUnit? with
    | some a => if t.entity.isNone then (fileOf t.library a.entityName).toList else []
    | none => []
  let instances := t.bodies.flatMap fun b =>
    (t.pick Construct.instantiation? b.instantiations).filterMap fun (_, i) =>
      fileOf i.library i.unitName
  uses ++ entity ++ instances

/-- For each file the files that depend on it. -/
structure DependentsGraph where
  edges : List (String × List String) := []

namespace DependentsGraph

/-- The files that depend on a file directly, in ascending order. -/
def dependents (g : DependentsGraph) (file : String) : List String :=
  sortedSet ((g.edges.filter (·.1 = file)).flatMap Prod.snd)

/-- All files that depend on something. -/
def all (g : DependentsGraph) : List String := g.edges.flatMap Prod.snd

/-- The files that something depends on, in ascending order. -/
def sources (g : DependentsGraph) : List String :=
  sortedSet ((g.edges.filter fun edge => !edge.2.isEmpty).map Prod.fst)

/-- The graph of a project. A file does not depend on itself. -/
def ofTrees (symbols : SymbolTable) (trees : List Tree) : DependentsGraph :=
  ⟨trees.flatMap fun t => ((dependencies symbols t).filter fun source =>
    source != "" && source != t.path).map fun source => (source, [t.path])⟩

theorem mem_all_of_mem_dependents {g : DependentsGraph} {file other : String}
    (h : other ∈ g.dependents file) : other ∈ g.all := by
  simp only [dependents, mem_sortedSet, List.mem_flatMap, List.mem_filter] at h
  obtain ⟨edge, ⟨inGraph, _⟩, inEdge⟩ := h
  exact List.mem_flatMap.2 ⟨edge, inGraph, inEdge⟩

/-- The files next to a frontier that were not visited before, in ascending order. -/
def nextLevel (g : DependentsGraph) (visited frontier : List String) : List String :=
  sortedSet ((frontier.flatMap g.dependents).filter fun file => !visited.contains file)

theorem mem_nextLevel {g : DependentsGraph} {visited frontier : List String} {file : String} :
    file ∈ g.nextLevel visited frontier ↔
      (∃ source ∈ frontier, file ∈ g.dependents source) ∧ file ∉ visited := by
  simp [nextLevel, mem_sortedSet]

/-- A level that is not empty visits new files. -/
theorem unvisited_lt {g : DependentsGraph} {visited frontier : List String}
    (h : g.nextLevel visited frontier ≠ []) :
    (g.all.filter fun file => !(visited ++ g.nextLevel visited frontier).contains file).length <
      (g.all.filter fun file => !visited.contains file).length := by
  obtain ⟨file, rest, eq⟩ := List.exists_cons_of_ne_nil h
  have new : file ∈ g.nextLevel visited frontier := by simp [eq]
  obtain ⟨⟨source, _, dependent⟩, fresh⟩ := mem_nextLevel.1 new
  have split : (g.all.filter fun file => !(visited ++ g.nextLevel visited frontier).contains file) =
      (g.all.filter fun file => !visited.contains file).filter
        fun file => !(g.nextLevel visited frontier).contains file := by
    rw [List.filter_filter]
    congr 1
    funext file
    simp [Bool.and_comm]
  rw [split, List.length_filter_lt_length_iff_exists]
  exact ⟨file, by simp [mem_all_of_mem_dependents dependent, fresh], by simp [new]⟩

/-- The levels beyond a frontier. -/
def levels (g : DependentsGraph) (visited frontier : List String) : List (List String) :=
  if g.nextLevel visited frontier = [] then []
  else
    g.nextLevel visited frontier ::
      g.levels (visited ++ g.nextLevel visited frontier) (g.nextLevel visited frontier)
termination_by (g.all.filter fun file => !visited.contains file).length
decreasing_by exact unvisited_lt ‹_›

/-- The files that a change of `root` reaches, by distance from one up. -/
def impact (g : DependentsGraph) (root : String) : List (List String) := g.levels [root] [root]

/-- The impact of a change of `root` as text, a line for each distance. -/
def impactReport (g : DependentsGraph) (root : String) : String :=
  "  " ++ root ++ "\n" ++ String.join ((g.impact root).zipIdx.map fun (level, distance) =>
    "    level " ++ toString (distance + 1) ++ " (" ++ toString level.length ++ "): "
      ++ ", ".intercalate level ++ "\n")

end DependentsGraph
end DesignLint
