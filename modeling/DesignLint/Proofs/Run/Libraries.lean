import DesignLint.Proofs.Files.Expand
import DesignLint.Proofs.Run.Scan

/-! The libraries of a run. The first explicit entry that stands for a file gives it its library, and without one the first
library that has it. Paths are listed once; one file can still be listed under two paths, unless all patterns are written
below one directory. -/
namespace DesignLint

/-- The first element of a list for which something holds. -/
def First {α : Type} (holds : α → Prop) (xs : List α) (x : α) : Prop :=
  ∃ before after, xs = before ++ x :: after ∧ holds x ∧ ∀ earlier ∈ before, ¬holds earlier

theorem first_of_find? {α : Type} {holds : α → Bool} {xs : List α} {x : α} (found : xs.find? holds = some x) :
    First (fun y => holds y = true) xs x := by
  obtain ⟨held, before, after, split, earlier⟩ := List.find?_eq_some_iff_append.mp found
  exact ⟨before, after, split, held, by simpa using earlier⟩

theorem First.imp {α : Type} {holds holds' : α → Prop} {xs : List α} {x : α} (first : First holds xs x) (held : holds' x)
    (weaker : ∀ y, holds' y → holds y) : First holds' xs x := by
  obtain ⟨before, after, split, _, earlier⟩ := first
  exact ⟨before, after, split, held, fun y member held => earlier y member (weaker y held)⟩

theorem First.congr {α : Type} {holds holds' : α → Prop} {xs : List α} {x : α} (first : First holds xs x)
    (same : ∀ y, holds y ↔ holds' y) : First holds' xs x := by
  obtain rfl : holds = holds' := funext fun y => propext (same y)
  exact first

theorem First.cons {α : Type} {holds : α → Prop} {xs : List α} {x y : α} (first : First holds xs x) (skipped : ¬holds y) :
    First holds (y :: xs) x := by
  obtain ⟨before, after, rfl, held, earlier⟩ := first
  refine ⟨y :: before, after, rfl, held, fun z member => ?_⟩
  rcases List.mem_cons.mp member with rfl | member
  · exact skipped
  · exact earlier z member

theorem First.mem {α : Type} {holds : α → Prop} {xs : List α} {x : α} (first : First holds xs x) : x ∈ xs ∧ holds x := by
  obtain ⟨before, after, rfl, held, _⟩ := first
  exact ⟨by simp, held⟩

theorem First.unique {α : Type} {holds : α → Prop} {xs : List α} {x y : α} (first : First holds xs x)
    (first' : First holds xs y) : x = y := by
  obtain ⟨before, after, rfl, held, earlier⟩ := first
  obtain ⟨before', after', split, held', earlier'⟩ := first'
  rcases List.append_eq_append_iff.mp split with ⟨middle, shape, rest⟩ | ⟨middle, shape, rest⟩
  · cases middle with
    | nil => exact (List.cons_eq_cons.mp rest).1
    | cons z middle =>
      obtain ⟨rfl, _⟩ := List.cons_eq_cons.mp rest
      exact absurd held (earlier' x (by simp [shape]))
  · cases middle with
    | nil => exact (List.cons_eq_cons.mp rest).1.symm
    | cons z middle =>
      obtain ⟨rfl, _⟩ := List.cons_eq_cons.mp rest
      exact absurd held' (earlier y (by simp [shape]))

theorem lookup_map_pair {α β : Type} [BEq α] [LawfulBEq α] (keys : List α) (value : β) (key : α) :
    (keys.map fun k => (k, value)).lookup key = if keys.contains key then some value else none := by
  induction keys with
  | nil => rfl
  | cons k keys ih =>
    rw [List.map_cons, List.lookup_cons, List.contains_cons, ih]
    cases key == k <;> rfl

namespace Config

variable {c : Config} {w : Workspace} {root file directory : String} {m : Membership}

/-- An explicit entry stands for a file, however the file is written. -/
def StandsFor (w : Workspace) (root file : String) (f : FileSettings) : Prop :=
  ∃ other ∈ w.expand (rooted root f.file), w.absolute other = w.absolute file

/-- How a library has a file. If there are explicit entries, the file may be written in another way. -/
def Has (c : Config) (w : Workspace) (file : String) (l : ResolvedLibrary) : Prop :=
  if c.files = [] then file ∈ l.files else ∃ other ∈ l.files, w.absolute other = w.absolute file

/-- The library of a file: that of the first entry that stands for it, and without one the first that has it. -/
inductive Belongs (c : Config) (w : Workspace) (root file : String) : Membership → Prop where
  | entry {f : FileSettings} : First (StandsFor w root file) c.sourceEntries f →
      Belongs c w root file
        ⟨f.libraryName, f.thirdParty || (c.library? f.libraryName).any LibrarySettings.thirdParty⟩
  | library {l : ResolvedLibrary} : (∀ f ∈ c.sourceEntries, ¬StandsFor w root file f) →
      First (c.Has w file) (c.resolveAll w root) l → Belongs c w root file ⟨l.name, l.thirdParty⟩

/-- A file belongs to one library. -/
theorem Belongs.unique {m' : Membership} (belongs : Belongs c w root file m) (belongs' : Belongs c w root file m') :
    m = m' := by
  cases belongs with
  | entry first =>
    cases belongs' with
    | entry first' => rw [first.unique first']
    | library none _ => exact absurd first.mem.2 (none _ first.mem.1)
  | library none first =>
    cases belongs' with
    | entry first' => exact absurd first'.mem.2 (none _ first'.mem.1)
    | library _ first' => rw [first.unique first']

theorem amongFiles_iff {others : List String} :
    amongFiles w file others = true ↔ ∃ other ∈ others, w.absolute other = w.absolute file := by
  simp [amongFiles]

theorem belongs_membership (entries : c.files ≠ []) {l : ResolvedLibrary} (known : l ∈ c.resolveAll w root)
    (inside : file ∈ l.files) : Belongs c w root file (c.membership w root file) := by
  have stands (f : FileSettings) : amongFiles w file (w.expand (rooted root f.file)) = true ↔ StandsFor w root file f :=
    amongFiles_iff
  have has (l : ResolvedLibrary) : amongFiles w file l.files = true ↔ c.Has w file l := by
    rw [Has, if_neg entries, amongFiles_iff]
  rw [membership]
  split
  · rename_i f found
    exact .entry ((first_of_find? found).congr stands)
  · rename_i none
    have noEntry : ∀ f ∈ c.sourceEntries, ¬StandsFor w root file f := fun f member =>
      (stands f).not.mp (List.find?_eq_none.mp none f member)
    split
    · rename_i l found
      exact .library noEntry ((first_of_find? found).congr has)
    · rename_i missing
      have itself : c.Has w file l := by
        rw [Has, if_neg entries]
        exact ⟨file, inside, rfl⟩
      exact absurd ((has l).mpr itself) (List.find?_eq_none.mp missing l known)

/-- A path that looks like third-party code: the first entry with a pattern that matches it is marked, or there is no such
entry and some marked library has a pattern that does. Neither the root nor what libraries exclude is considered. -/
def LooksThirdParty (c : Config) (path : String) : Prop :=
  (∃ f, First (fun f => f.file ≠ "" ∧ Glob.matchesPath f.file path = true) c.files f ∧ f.thirdParty = true) ∨
    (∀ f ∈ c.files, ¬(f.file ≠ "" ∧ Glob.matchesPath f.file path = true)) ∧
      ∃ l ∈ c.libraryList, l.2.thirdParty = true ∧
        ∃ pattern ∈ l.2.files.getD [], Glob.matchesPath pattern path = true

theorem matchesThirdParty_iff {path : String} : c.matchesThirdParty path = true ↔ c.LooksThirdParty path := by
  have matched (f : FileSettings) : (f.file != "" && Glob.matchesPath f.file path) = true ↔
      f.file ≠ "" ∧ Glob.matchesPath f.file path = true := by simp
  rw [matchesThirdParty]
  split
  · rename_i f found
    have first := (first_of_find? found).congr matched
    constructor
    · exact fun marked => .inl ⟨f, first, marked⟩
    · rintro (⟨f', first', marked⟩ | ⟨none, _⟩)
      · rwa [first.unique first']
      · exact absurd first.mem.2 (none f first.mem.1)
  · rename_i none
    have noEntry : ∀ f ∈ c.files, ¬(f.file ≠ "" ∧ Glob.matchesPath f.file path = true) := fun f member =>
      (matched f).not.mp (List.find?_eq_none.mp none f member)
    constructor
    · intro some
      refine .inr ⟨noEntry, ?_⟩
      simpa using some
    · rintro (⟨f, first, _⟩ | ⟨_, some⟩)
      · exact absurd first.mem.2 (noEntry f first.mem.1)
      · simpa using some

/-- All patterns that say what belongs to a library are written below one directory. -/
def WrittenBelow (c : Config) (root directory : String) : Prop :=
  (∀ l ∈ c.libraryList, ∀ pattern ∈ l.2.files.getD [], Path.Below directory (rooted root pattern)) ∧
    ∀ f ∈ c.sourceEntries, Path.Below directory (rooted root f.file)

/-- A relative pattern of plain segments is written below the root. -/
theorem below_rooted {parts : List String} (root_ne : root ≠ "") (literal : Glob.isPattern (Path.clean root) = false)
    (filled : parts ≠ []) (named : ∀ part ∈ parts, Path.IsName part ∧ ¬['.', '.', '*', '*'] <+: part.toList) :
    Path.Below root (rooted root ("/".intercalate parts)) := by
  have names : ∀ part ∈ parts, Path.IsName part := fun part member => (named part member).1
  have plain : ∀ part ∈ parts, part ≠ "" ∧ '/' ∉ part.toList :=
    fun part member => ⟨(names part member).ne_empty, (names part member).no_slash⟩
  have relative : Path.isAbsolute ("/".intercalate parts) = false := by
    have shown := Path.isAbsolute_text false plain
    rwa [Path.text, if_neg Bool.false_ne_true, if_neg filled] at shown
  have joined : rooted root ("/".intercalate parts) = Path.join (root :: parts) := by
    have written : "/".intercalate [root, "/".intercalate parts] = "/".intercalate (root :: parts) := by
      rw [Path.intercalate_cons root ["/".intercalate parts], Path.intercalate_cons root parts, if_neg (by simp),
        if_neg filled, String.intercalate_singleton]
    rw [rooted, if_neg (by simp [relative])]
    simp [Path.join, root_ne, written]
  exact ⟨literal, parts, named, by rw [joined, Path.join_eq root_ne names]⟩

theorem under_of_mem_expandAll (tree : w.IsTree) {patterns : List String}
    (below : ∀ pattern ∈ patterns, Path.Below directory (rooted root pattern)) (member : file ∈ expandAll w root patterns) :
    Path.Under directory file := by
  obtain ⟨pattern, listed, found⟩ := List.mem_flatMap.mp member
  exact Workspace.under_of_mem_expand tree (below pattern listed) found

theorem under_of_mem_resolve (tree : w.IsTree) (below : c.WrittenBelow root directory) {name : String}
    (member : file ∈ (c.resolve w root name).files) : Path.Under directory file := by
  rcases List.mem_append.mp (mem_sortedSet.mp member) with own | entered
  · cases found : c.library? name with
    | none =>
      rw [found] at own
      contradiction
    | some l =>
      rw [found] at own
      refine under_of_mem_expandAll tree (fun pattern listed => ?_) (List.mem_filter.mp own).1
      obtain ⟨before, after, split, _⟩ := List.lookup_eq_some_iff.mp found
      exact below.1 (name, l) (by simp [split]) pattern listed
  · obtain ⟨f, kept, found⟩ := List.mem_flatMap.mp entered
    exact Workspace.under_of_mem_expand tree (below.2 f (List.mem_filter.mp kept).1) (List.mem_filter.mp found).1

end Config

namespace Scan

variable {c : Config} {w : Workspace} {root file directory : String} {m : Membership} {resolved : List ResolvedLibrary}

theorem first_of_lookup (looked : (resolved.flatMap fun l => l.files.map fun file => (file, Membership.mk l.name
    l.thirdParty)).lookup file = some m) : ∃ l, First (fun l => file ∈ l.files) resolved l ∧ m = ⟨l.name, l.thirdParty⟩ := by
  induction resolved with
  | nil => cases looked
  | cons l resolved ih =>
    rw [List.flatMap_cons, List.lookup_append, lookup_map_pair] at looked
    by_cases inside : file ∈ l.files
    · rw [if_pos (List.contains_iff_mem.mpr inside)] at looked
      exact ⟨l, ⟨[], resolved, rfl, inside, by simp⟩, (Option.some.inj looked).symm⟩
    · rw [if_neg (List.contains_iff_mem.not.mpr inside)] at looked
      obtain ⟨l', first, same⟩ := ih looked
      exact ⟨l', first.cons inside, same⟩

/-- The library that is recorded for a path is the first that lists it. -/
theorem first_of_mem_assign (member : (file, m) ∈ assign resolved) :
    ∃ l, First (fun l => file ∈ l.files) resolved l ∧ m = ⟨l.name, l.thirdParty⟩ := by
  obtain ⟨path, _, found⟩ := List.mem_filterMap.mp member
  obtain ⟨m', looked, ⟨⟩⟩ := Option.map_eq_some_iff.mp found
  exact first_of_lookup looked

theorem mem_assign_of_mem {l : ResolvedLibrary} (known : l ∈ resolved) (inside : file ∈ l.files) :
    ∃ m, (file, m) ∈ assign resolved := by
  have listed : file ∈ (resolved.flatMap fun l => l.files.map fun file => (file, Membership.mk l.name l.thirdParty)).map
      Prod.fst := by
    simp only [List.mem_map, List.mem_flatMap]
    exact ⟨_, ⟨l, known, file, inside, rfl⟩, rfl⟩
  obtain ⟨entry, among, same⟩ := List.mem_map.mp listed
  have found : (List.lookup file _).isSome := List.lookup_isSome_iff.mpr ⟨entry, among, by simp [same]⟩
  obtain ⟨m', looked⟩ := Option.isSome_iff_exists.mp found
  refine ⟨m', List.mem_filterMap.mpr ⟨file, List.mem_eraseDups.mpr listed, ?_⟩⟩
  rw [looked]
  rfl

theorem nodup_assign (resolved : List ResolvedLibrary) : ((assign resolved).map Prod.fst).Nodup := by
  rw [assign, List.map_filterMap]
  refine List.Nodup.filterMap ?_ (nodup_eraseDups _)
  intro file file' path found found'
  obtain ⟨f, looked, rfl⟩ := Option.map_eq_some_iff.mp found
  obtain ⟨_, _, rfl⟩ := Option.map_eq_some_iff.mp looked
  obtain ⟨f', looked', same⟩ := Option.map_eq_some_iff.mp found'
  obtain ⟨_, _, rfl⟩ := Option.map_eq_some_iff.mp looked'
  exact same.symm

theorem mem_libraries {f : String × Membership} (member : f ∈ ((libraries c w root).map assign).getD []) :
    f ∈ assign (c.resolveAll w root) := by
  rw [libraries] at member
  split at member
  · contradiction
  · exact member

/-- Each file that is found through the libraries gets the library it belongs to. -/
theorem belongs_of_mem_assigned (member : (file, m) ∈ assigned c w root) : Config.Belongs c w root file m := by
  rw [assigned] at member
  split at member
  · rename_i noEntries
    rw [List.isEmpty_iff] at noEntries
    obtain ⟨l, first, rfl⟩ := first_of_mem_assign (mem_libraries member)
    refine .library (by simp [Config.sourceEntries, noEntries]) (first.congr fun l => ?_)
    rw [Config.Has, if_pos noEntries]
  · rename_i entries
    obtain ⟨⟨path, found⟩, listed, ⟨⟩⟩ := List.mem_map.mp member
    obtain ⟨l, first, _⟩ := first_of_mem_assign (mem_libraries listed)
    exact Config.belongs_membership (by simpa using entries) first.mem.1 first.mem.2

theorem nodup_assigned (c : Config) (w : Workspace) (root : String) : ((assigned c w root).map Prod.fst).Nodup := by
  have found : ((((libraries c w root).map assign).getD []).map Prod.fst).Nodup := by
    cases libraries c w root with
    | none => exact List.nodup_nil
    | some resolved => exact nodup_assign resolved
  rw [assigned]
  split
  · exact found
  · simpa [Function.comp_def] using found

theorem assigned_eq (noEntries : c.files = []) (member : (file, m) ∈ assigned c w root) :
    assigned c w root = assign (c.resolveAll w root) := by
  rw [assigned, if_pos (by simp [noEntries]), libraries] at member ⊢
  split at member
  · contradiction
  · rename_i looked
    rw [if_neg looked]
    rfl

/-- A path that is recorded for another library than the one its file belongs to denotes a file that is listed under
another path as well. -/
theorem membership_or_twin (member : (file, m) ∈ assigned c w root) : m = c.membership w root file ∨
    ∃ twin m', (twin, m') ∈ assigned c w root ∧ twin ≠ file ∧ w.absolute twin = w.absolute file := by
  by_cases noEntries : c.files = []
  · have known := assigned_eq noEntries member
    rw [known] at member ⊢
    obtain ⟨l, first, rfl⟩ := first_of_mem_assign member
    have none : c.sourceEntries = [] := by simp [Config.sourceEntries, noEntries]
    rw [Config.membership, none, List.find?_nil]
    split
    · contradiction
    · split
      · rename_i l' found
        have first' := (first_of_find? found).congr fun l => Config.amongFiles_iff
        by_cases listed : file ∈ l'.files
        · have first_listed := first'.imp listed fun l inside => ⟨file, inside, rfl⟩
          rw [first.unique first_listed]
          exact .inl rfl
        · obtain ⟨twin, inside, same⟩ := first'.mem.2
          obtain ⟨m', twin_listed⟩ := mem_assign_of_mem first'.mem.1 inside
          refine .inr ⟨twin, m', twin_listed, ?_, same⟩
          rintro rfl
          exact listed inside
      · rename_i missing
        exact absurd (Config.amongFiles_iff.mpr ⟨file, first.mem.2, rfl⟩) (List.find?_eq_none.mp missing l first.mem.1)
  · rw [assigned, if_neg (by simpa using noEntries)] at member
    obtain ⟨_, _, ⟨⟩⟩ := List.mem_map.mp member
    exact .inl rfl

theorem assigned_of_isFile (isFile : w.isFile root = true) : assigned c w root = [] := by
  have none : libraries c w root = none := by simp [libraries, isFile]
  simp [assigned, none]

theorem candidates_of_assigned (listed : assigned c w root ≠ []) :
    candidates c w root = .ok ((assigned c w root).map fun f => (f.1, some f.2)) := by
  have directory : ¬w.isFile root = true := fun isFile => listed (assigned_of_isFile isFile)
  rw [candidates, if_neg directory]
  split
  · rename_i none
    exact absurd none listed
  · rfl

/-- The files of a run are its candidates. -/
theorem of_mem_files {found : List ScannedFile} {f : ScannedFile} (scanned : files c w root = .ok found) (member : f ∈ found) :
    ∃ all, candidates c w root = .ok all ∧ ∃ candidate ∈ all, f = scannedFile c candidate := by
  cases looked : candidates c w root with
  | error fault =>
    rw [files, looked] at scanned
    cases scanned
  | ok all =>
    rw [files, looked] at scanned
    cases scanned
    obtain ⟨candidate, kept, rfl⟩ := List.mem_map.mp (List.mem_mergeSort.mp member)
    exact ⟨all, rfl, candidate, (List.mem_filter.mp kept).1, rfl⟩

theorem of_mem_files_of_assigned {found : List ScannedFile} {f : ScannedFile} (scanned : files c w root = .ok found)
    (listed : assigned c w root ≠ []) (member : f ∈ found) :
    ∃ m, (f.path, m) ∈ assigned c w root ∧ f = scannedFile c (f.path, some m) := by
  obtain ⟨all, looked, candidate, inside, rfl⟩ := of_mem_files scanned member
  cases (candidates_of_assigned listed).symm.trans looked
  obtain ⟨⟨file, m⟩, among, rfl⟩ := List.mem_map.mp inside
  exact ⟨m, among, rfl⟩

/-- The files that are found through the libraries are linted unless their library or entry is marked as third-party, or
their path looks like third-party code. -/
theorem thirdParty_of_files {found : List ScannedFile} (scanned : files c w root = .ok found)
    (listed : assigned c w root ≠ []) : ∀ f ∈ found, ∃ m, Config.Belongs c w root f.path m ∧
      f.library = libraryName (some m) ∧ (f.thirdParty = true ↔ m.thirdParty = true ∨ c.LooksThirdParty f.path) := by
  intro f member
  obtain ⟨m, among, shape⟩ := of_mem_files_of_assigned scanned listed member
  refine ⟨m, belongs_of_mem_assigned among, ?_, ?_⟩
  · rw [shape]
    rfl
  · rw [← Config.matchesThirdParty_iff, ← Bool.or_eq_true, shape]
    rfl

theorem candidates_cases {all : List (String × Option Membership)} (looked : candidates c w root = .ok all) :
    w.isFile root = true ∧ all = [(root, none)] ∨
      (w.isFile root = false ∧ ∃ sources, sourcesBelow w root = .ok sources ∧ all = sources.map fun file => (file, none)) ∨
        assigned c w root ≠ [] ∧ all = (assigned c w root).map fun f => (f.1, some f.2) := by
  by_cases listed : assigned c w root = []
  · rw [candidates] at looked
    split at looked
    · rename_i isFile
      cases looked
      exact .inl ⟨isFile, rfl⟩
    · rename_i directory
      rw [listed] at looked
      cases below : sourcesBelow w root with
      | error fault =>
        rw [below] at looked
        cases looked
      | ok sources =>
        rw [below] at looked
        cases looked
        exact .inr (.inl ⟨by simpa using directory, sources, rfl, rfl⟩)
  · rw [candidates_of_assigned listed] at looked
    cases looked
    exact .inr (.inr ⟨listed, rfl⟩)

/-- The source files below a directory lie below it, and each is found once. -/
theorem of_sourcesBelow (tree : w.IsTree) (directory : w.isFile root = false) {sources : List String}
    (below : sourcesBelow w root = .ok sources) : sources.Nodup ∧ ∀ file ∈ sources, Path.Under root file := by
  rw [sourcesBelow] at below
  split at below
  · cases below
  · rename_i there
    cases below
    have root_ne : root ≠ "" := by
      rintro rfl
      cases there
    have inside {names : List String} (member : names ∈ w.filesBelow root) :
        names ≠ [] ∧ ∀ name ∈ names, Path.IsName name :=
      ⟨tree.ne_nil_of_mem_filesBelow directory member, tree.isName_of_mem_filesBelow member⟩
    constructor
    · refine List.Nodup.filter _ (List.Nodup.map_on ?_ (tree.nodup_filesBelow root))
      intro names member names' member' same
      obtain ⟨filled, named⟩ := inside member
      obtain ⟨filled', named'⟩ := inside member'
      exact Workspace.pathBelow_injective root_ne named named' filled filled' same
    · intro file member
      obtain ⟨names, listed, rfl⟩ := List.mem_map.mp (List.mem_filter.mp member).1
      obtain ⟨filled, named⟩ := inside listed
      exact ⟨names, named, Workspace.pathBelow_eq root_ne named (.inl filled)⟩

/-- A library and a third-party library whose pattern looks like the file of the first, which it excludes. -/
def vendored : Config where
  libraries := some [("own", { files := some ["a.vhd"] }),
    ("vendor", { files := some ["*.vhd"], exclude := ["a.vhd"], thirdParty := true })]

/-- A library whose patterns are written below the root. -/
def plainLibrary : Config where
  libraries := some [("work", { files := some ["*.vhd"] })]

def oneFile : Workspace where
  entries := [(["a.vhd"], .file [])]

theorem files_of_assigned_singleton (listed : assigned c w root = [(file, m)]) (kept : c.ignores file = false) :
    files c w root = .ok [scannedFile c (file, some m)] := by
  have filled : assigned c w root ≠ [] := by simp [listed]
  rw [files, candidates_of_assigned filled, listed]
  simp [Except.map, kept]

/-- The libraries that either configuration makes of the file. -/
theorem resolveAll_oneFile : vendored.resolveAll oneFile "." = [⟨"own", ["a.vhd"], false⟩, ⟨"vendor", [], true⟩] ∧
    plainLibrary.resolveAll oneFile "." = [⟨"work", ["a.vhd"], false⟩] := by
  have names : vendored.libraryNames = ["own", "vendor"] := List.mergeSort_of_pairwise (by decide)
  rw [Config.resolveAll, names]
  constructor <;> decide +kernel

theorem assigned_vendored : assigned vendored oneFile "." = [("a.vhd", ⟨"own", false⟩)] := by
  have looked : libraries vendored oneFile "." = some (vendored.resolveAll oneFile ".") := if_neg (by decide)
  rw [assigned, looked, resolveAll_oneFile.1]
  decide

/-- The file belongs to the first library alone, and it is still taken for third-party code. -/
theorem vendored_thirdParty : ∃ f, files vendored oneFile "." = .ok [f] ∧ f.library = "own" ∧ f.thirdParty = true ∧
    ∃ m, Config.Belongs vendored oneFile "." f.path m ∧ m.thirdParty = false ∧ vendored.LooksThirdParty f.path := by
  have filled : assigned vendored oneFile "." ≠ [] := by simp [assigned_vendored]
  have scanned : files vendored oneFile "." = .ok [⟨"a.vhd", "own", true⟩] :=
    (files_of_assigned_singleton assigned_vendored rfl).trans (congrArg (fun f => Except.ok [f]) (by decide))
  obtain ⟨m, belongs, _, marked⟩ := thirdParty_of_files scanned filled _ List.mem_cons_self
  have own : Config.Belongs vendored oneFile "." "a.vhd" ⟨"own", false⟩ :=
    belongs_of_mem_assigned (by simp [assigned_vendored])
  obtain rfl := belongs.unique own
  exact ⟨_, scanned, rfl, rfl, _, own, rfl, (marked.mp rfl).resolve_left (by decide)⟩

theorem nodup_candidates (tree : w.IsTree) {all : List (String × Option Membership)}
    (looked : candidates c w root = .ok all) : (all.map Prod.fst).Nodup := by
  rcases candidates_cases looked with ⟨_, rfl⟩ | ⟨directory, sources, below, rfl⟩ | ⟨_, rfl⟩
  · exact List.nodup_singleton root
  · simpa [Function.comp_def] using (of_sourcesBelow tree directory below).1
  · simpa [Function.comp_def] using nodup_assigned c w root

theorem under_of_mem_assigned (tree : w.IsTree) (below : c.WrittenBelow root directory)
    (member : (file, m) ∈ assigned c w root) : Path.Under directory file := by
  have found : ∃ m, (file, m) ∈ assign (c.resolveAll w root) := by
    rw [assigned] at member
    split at member
    · exact ⟨m, mem_libraries member⟩
    · obtain ⟨f, listed, ⟨⟩⟩ := List.mem_map.mp member
      exact ⟨f.2, mem_libraries listed⟩
  obtain ⟨m, listed⟩ := found
  obtain ⟨l, first, _⟩ := first_of_mem_assign listed
  obtain ⟨name, _, rfl⟩ := List.mem_map.mp first.mem.1
  exact Config.under_of_mem_resolve tree below first.mem.2

theorem eq_of_absolute_eq {path path' : String} (under : Path.Under directory path) (under' : Path.Under directory path')
    (same : w.absolute path = w.absolute path') : path = path' := by
  have rooted : Path.isAbsolute w.workingPath = true := Path.isAbsolute_append (p := "/") (by decide) _
  exact under.eq_of_absolute_eq rooted under' same

/-- Paths below one directory denote different files. -/
theorem nodup_absolute (w : Workspace) {paths : List String} (distinct : paths.Nodup)
    (under : ∀ path ∈ paths, Path.Under directory path) : (paths.map w.absolute).Nodup :=
  distinct.map_on fun path member path' member' same => eq_of_absolute_eq (under path member) (under path' member') same

theorem nodup_absolute_candidates (tree : w.IsTree) {all : List (String × Option Membership)}
    (looked : candidates c w root = .ok all) (below : assigned c w root = [] ∨ ∃ directory, c.WrittenBelow root directory) :
    ((all.map Prod.fst).map w.absolute).Nodup := by
  have distinct := nodup_candidates tree looked
  rcases candidates_cases looked with ⟨_, rfl⟩ | ⟨root_directory, sources, found, rfl⟩ | ⟨listed, rfl⟩
  · exact List.nodup_singleton _
  · have under : ∀ path ∈ (sources.map fun file => (file, (none : Option Membership))).map Prod.fst, Path.Under root path := by
      simpa using (of_sourcesBelow tree root_directory found).2
    exact nodup_absolute w distinct under
  · obtain ⟨directory, written⟩ := below.resolve_left listed
    have under : ∀ path ∈ ((assigned c w root).map fun f => (f.1, some f.2)).map Prod.fst, Path.Under directory path := by
      intro path member
      obtain ⟨f, among, rfl⟩ := List.mem_map.mp member
      obtain ⟨⟨file, m⟩, entry, rfl⟩ := List.mem_map.mp among
      exact under_of_mem_assigned tree written entry
    exact nodup_absolute w distinct under

/-- The paths of a run are those of its candidates that are not ignored, in ascending order. -/
theorem map_path_files {all : List (String × Option Membership)} (looked : candidates c w root = .ok all)
    {found : List ScannedFile} (scanned : files c w root = .ok found) :
    found.map ScannedFile.path = sortStrings ((all.filter fun f => !c.ignores f.1).map Prod.fst) := by
  have shape : ((all.filter fun f => !c.ignores f.1).map Prod.fst) =
      ((all.filter fun f => !c.ignores f.1).map (scannedFile c)).map ScannedFile.path := by
    rw [List.map_map]
    rfl
  rw [files, looked] at scanned
  cases scanned
  rw [shape, sortStrings]
  exact List.map_mergeSort fun a _ b _ => rfl

/-- Paths are listed once and in order. A file is listed under two paths, and can be taken for one of another library, only if
its patterns are not written below one directory. -/
theorem files_once (tree : w.IsTree) {found : List ScannedFile} (scanned : files c w root = .ok found) :
    (found.map ScannedFile.path).Pairwise (· < ·) ∧
      (assigned c w root ≠ [] → ∀ f ∈ found, ∃ m, f.library = libraryName (some m) ∧
        (m = c.membership w root f.path ∨ ∃ twin m', (twin, m') ∈ assigned c w root ∧ twin ≠ f.path ∧
          w.absolute twin = w.absolute f.path)) ∧
      ((assigned c w root = [] ∨ ∃ directory, c.WrittenBelow root directory) →
        (found.map fun f => w.absolute f.path).Nodup ∧ (assigned c w root ≠ [] → ∀ f ∈ found,
          f.library = libraryName (some (c.membership w root f.path)))) := by
  obtain ⟨all, looked⟩ : ∃ all, candidates c w root = .ok all := by
    cases looked : candidates c w root with
    | error fault =>
      rw [files, looked] at scanned
      cases scanned
    | ok all => exact ⟨all, rfl⟩
  have paths := map_path_files looked scanned
  have kept : ((all.filter fun f => !c.ignores f.1).map Prod.fst).Sublist (all.map Prod.fst) :=
    List.filter_sublist.map _
  refine ⟨?_, fun listed f member => ?_, fun below => ⟨?_, fun listed f member => ?_⟩⟩
  · rw [paths]
    exact pairwise_sortStrings ((nodup_candidates tree looked).sublist kept)
  · obtain ⟨m, among, shape⟩ := of_mem_files_of_assigned scanned listed member
    refine ⟨m, ?_, membership_or_twin among⟩
    rw [shape]
    rfl
  · have distinct := (nodup_absolute_candidates tree looked below).sublist (kept.map w.absolute)
    have shape : (found.map fun f => w.absolute f.path) = (found.map ScannedFile.path).map w.absolute := by
      rw [List.map_map, Function.comp_def]
    rw [shape, paths]
    exact ((List.mergeSort_perm _ _).map w.absolute).nodup_iff.mpr distinct
  · obtain ⟨directory, written⟩ := below.resolve_left listed
    obtain ⟨m, among, shape⟩ := of_mem_files_of_assigned scanned listed member
    rcases membership_or_twin among with rfl | ⟨twin, m', twin_listed, apart, same⟩
    · rw [shape]
      rfl
    · have under := under_of_mem_assigned tree written among
      exact absurd (eq_of_absolute_eq (under_of_mem_assigned tree written twin_listed) under same) apart

theorem isTree_oneFile : oneFile.IsTree where
  distinct := by decide
  named := by
    intro e member
    obtain rfl := List.mem_singleton.mp member
    refine ⟨by decide, fun name inside => ?_⟩
    obtain rfl := List.mem_singleton.mp inside
    exact ⟨by decide, by decide, by decide, by decide⟩
  inside := by decide

/-- Its file is listed once, for its library. -/
theorem plainLibrary_once : oneFile.IsTree ∧ files plainLibrary oneFile "." = .ok [⟨"a.vhd", "work", false⟩] ∧
    plainLibrary.WrittenBelow "." "." ∧ libraryName (some (plainLibrary.membership oneFile "." "a.vhd")) = "work" := by
  have listed : assigned plainLibrary oneFile "." = [("a.vhd", ⟨"work", false⟩)] := by
    have looked : libraries plainLibrary oneFile "." = some (plainLibrary.resolveAll oneFile ".") := if_neg (by decide)
    rw [assigned, looked, resolveAll_oneFile.2]
    decide
  have filled : assigned plainLibrary oneFile "." ≠ [] := by simp [listed]
  have scanned : files plainLibrary oneFile "." = .ok [⟨"a.vhd", "work", false⟩] :=
    (files_of_assigned_singleton listed rfl).trans (congrArg (fun f => Except.ok [f]) (by decide))
  have star : Path.IsName "*.vhd" ∧ ¬['.', '.', '*', '*'] <+: "*.vhd".toList :=
    ⟨⟨by decide, by decide, by decide, by decide⟩, by decide⟩
  have written : plainLibrary.WrittenBelow "." "." := by
    have below : Path.Below "." (Config.rooted "." ("/".intercalate ["*.vhd"])) :=
      Config.below_rooted (by decide) (by decide) (by simp) (by simpa using star)
    rw [String.intercalate_singleton] at below
    refine ⟨fun l member pattern listed => ?_, List.forall_mem_nil _⟩
    obtain rfl := List.mem_singleton.mp member
    obtain rfl := List.mem_singleton.mp listed
    exact below
  obtain ⟨_, _, once⟩ := files_once isTree_oneFile scanned
  have library := (once (.inr ⟨".", written⟩)).2 filled _ List.mem_cons_self
  exact ⟨isTree_oneFile, scanned, written, library.symm⟩

end Scan
end DesignLint
