import DesignLint.Run.Analysis
import DesignLint.Proofs.Project.Symbols
import DesignLint.Proofs.Lint.Findings
import DesignLint.Proofs.Contract.Report

/-! The files of a run and how they read. Every file that is found has a path, so what is said about a file says
which one it is. -/
namespace DesignLint

theorem isSourceName_ne_empty {path : String} (source : isSourceName path = true) : path ≠ "" := by
  rintro rfl
  exact absurd source (by decide)

theorem Workspace.isFile_empty (w : Workspace) : w.isFile "" = false := by
  have missing : w.locate "" = .error .notFound := rfl
  simp [isFile, exists?, status, missing, bind, Except.bind, Except.toOption]

theorem Config.isSource_of_mem_resolve {c : Config} {w : Workspace} {root name file : String}
    (member : file ∈ (c.resolve w root name).files) : isSourceName file = true := by
  rcases List.mem_append.mp (mem_sortedSet.mp member) with own | entered
  · cases found : c.library? name with
    | none => rw [found] at own; contradiction
    | some library =>
      rw [found] at own
      have kept := (List.mem_filter.mp own).2
      exact (Bool.and_eq_true_iff.mp kept).1
  · obtain ⟨entry, _, among⟩ := List.mem_flatMap.mp entered
    exact (List.mem_filter.mp among).2

namespace Scan

variable {c : Config} {w : Workspace} {root : String}

theorem mem_assign {resolved : List ResolvedLibrary} {f : String × Membership} (member : f ∈ assign resolved) :
    ∃ l ∈ resolved, f.1 ∈ l.files := by
  obtain ⟨file, listed, same⟩ := List.mem_filterMap.mp member
  obtain ⟨m, _, rfl⟩ := Option.map_eq_some_iff.mp same
  obtain ⟨entry, among, rfl⟩ := List.mem_map.mp (List.mem_eraseDups.mp listed)
  obtain ⟨l, known, inside⟩ := List.mem_flatMap.mp among
  obtain ⟨file, there, rfl⟩ := List.mem_map.mp inside
  exact ⟨l, known, there⟩

theorem isSource_of_mem_assigned {f : String × Membership} (member : f ∈ assigned c w root) : isSourceName f.1 = true := by
  have found : ∀ f ∈ ((libraries c w root).map assign).getD [], isSourceName f.1 = true := by
    intro f member
    rw [libraries] at member
    split at member
    · contradiction
    · obtain ⟨l, known, there⟩ := mem_assign member
      obtain ⟨name, _, rfl⟩ := List.mem_map.mp known
      exact Config.isSource_of_mem_resolve there
  rw [assigned] at member
  split at member
  · exact found f member
  · obtain ⟨g, listed, rfl⟩ := List.mem_map.mp member
    exact found g listed

theorem isSource_of_mem_sourcesBelow {sources : List String} (below : sourcesBelow w root = .ok sources) :
    ∀ file ∈ sources, isSourceName file = true := by
  rw [sourcesBelow] at below
  split at below
  · contradiction
  · cases below
    exact fun file member => (List.mem_filter.mp member).2

/-- Every candidate is a file under a path. -/
theorem candidate_named {found : List (String × Option Membership)} (looked : candidates c w root = .ok found) :
    ∀ f ∈ found, f.1 ≠ "" := by
  rw [candidates] at looked
  split at looked
  case isTrue isFile =>
    cases looked
    intro f member empty
    obtain rfl := List.mem_singleton.mp member
    rw [show root = "" from empty, Workspace.isFile_empty] at isFile
    contradiction
  case isFalse =>
    split at looked
    · cases below : sourcesBelow w root with
      | error fault => rw [below] at looked; contradiction
      | ok sources =>
        rw [below] at looked
        cases looked
        intro f member
        obtain ⟨file, listed, rfl⟩ := List.mem_map.mp member
        exact isSourceName_ne_empty (isSource_of_mem_sourcesBelow below file listed)
    · cases looked
      intro f member
      obtain ⟨g, listed, rfl⟩ := List.mem_map.mp member
      exact isSourceName_ne_empty (isSource_of_mem_assigned listed)

/-- Every file of a run has a path. -/
theorem named_of_files {found : List ScannedFile} (scanned : files c w root = .ok found) : ∀ f ∈ found, f.path ≠ "" := by
  intro f member
  cases looked : candidates c w root with
  | error fault => rw [files, looked] at scanned; contradiction
  | ok all =>
    rw [files, looked] at scanned
    cases scanned
    obtain ⟨g, kept, rfl⟩ := List.mem_map.mp (List.mem_mergeSort.mp member)
    exact candidate_named looked g (List.mem_filter.mp kept).1

end Scan

theorem TreeFault.message_ne_empty (fault : TreeFault) : fault.message ≠ "" := by
  unfold TreeFault.message
  split
  exact append_ne_empty (append_ne_empty (append_ne_empty (by decide)))

theorem RangeFault.message_ne_empty (fault : RangeFault) : fault.message ≠ "" := by
  unfold RangeFault.message
  iterate 7 refine append_ne_empty ?_
  decide

theorem Fault.message_ne_empty (fault : Fault) : fault.message ≠ "" := by
  cases fault with
  | tree fault => exact fault.message_ne_empty
  | range fault => exact fault.message_ne_empty

theorem ParseFault.message_ne_nil (fault : ParseFault) : fault.message ≠ [] := by
  cases fault with
  | format error =>
    have place : Bytes.ofString (error.path ++ ":" ++ toString (error.coordinate.line + 1) ++ ":"
        ++ toString (error.coordinate.character + 1) ++ ": ") ≠ [] :=
      Bytes.ofString_ne_nil fun empty => absurd (String.append_eq_empty_iff.mp empty).2 (by decide)
    exact fun empty => place (List.append_eq_nil_iff.mp empty).1
  | tree fault => exact Bytes.ofString_ne_nil fault.message_ne_empty
  | outside => exact Bytes.ofString_ne_nil (by decide)
  | stalled => exact Bytes.ofString_ne_nil (by decide)

namespace ScannedFile

variable {w : Workspace} {f : ScannedFile}

/-- A file is read as a tree under its path, or something is said about it. -/
theorem read_cases (w : Workspace) (f : ScannedFile) :
    (∃ t, f.read w = .ok t ∧ t.path = f.path) ∨
      ∃ failed, f.read w = .error failed ∧ failed.file = f.path ∧ failed.kind = FailureKind.parse.word ∧
        failed.message ≠ [] := by
  rw [ScannedFile.read]
  split
  · exact .inr ⟨_, rfl, rfl, rfl, Bytes.ofString_ne_nil (append_ne_empty (by decide))⟩
  · split
    · next parsed => exact .inl ⟨_, rfl, (Tree.path_of_parse parsed :)⟩
    · exact .inr ⟨_, rfl, rfl, rfl, ParseFault.message_ne_nil _⟩

theorem path_of_read {t : Tree} (read : f.read w = .ok t) : t.path = f.path := by
  obtain ⟨t', read', path⟩ | ⟨_, refused, _⟩ := read_cases w f
  · cases read'.symm.trans read
    exact path
  · cases refused.symm.trans read

theorem of_read_error {failed : FailedFile} (read : f.read w = .error failed) :
    failed.file = f.path ∧ failed.kind = FailureKind.parse.word ∧ failed.message ≠ [] := by
  obtain ⟨_, read', _⟩ | ⟨_, refused, said⟩ := read_cases w f
  · cases read'.symm.trans read
  · cases refused.symm.trans read
    exact said

end ScannedFile

namespace ReadFiles

variable {w : Workspace} {files : List ScannedFile}

/-- A tree of a run is that of one of its files. -/
theorem path_of_mem_trees {t : Tree} (member : t ∈ (ofFiles w files).trees) : ∃ f ∈ files, t.path = f.path := by
  obtain ⟨g, among, outcome⟩ := List.mem_filterMap.mp member
  obtain ⟨f, listed, rfl⟩ := List.mem_map.mp among
  refine ⟨f, listed, ?_⟩
  cases read : f.read w with
  | error failed => simp only [read, Except.toOption] at outcome; contradiction
  | ok tree =>
    simp only [read, Except.toOption, Option.some.injEq] at outcome
    subst outcome
    exact ScannedFile.path_of_read read

/-- A file that cannot be read is one of the run, and something is said about it. -/
theorem of_mem_failures {failed : FailedFile} (member : failed ∈ (ofFiles w files).failures) :
    ∃ f ∈ files, failed.file = f.path ∧ failed.kind = FailureKind.parse.word ∧ failed.message ≠ [] := by
  obtain ⟨g, among, outcome⟩ := List.mem_filterMap.mp member
  obtain ⟨f, listed, rfl⟩ := List.mem_map.mp among
  refine ⟨f, listed, ?_⟩
  cases read : f.read w with
  | ok tree => simp only [read] at outcome; contradiction
  | error other =>
    simp only [read, Option.some.injEq] at outcome
    subst outcome
    exact ScannedFile.of_read_error read

end ReadFiles

end DesignLint
