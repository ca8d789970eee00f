import DesignLint.Files.Workspace
import DesignLint.Proofs.Files.Path
import Mathlib.Data.List.Induction

/-! Files and directories form a tree: nothing stands at two places of one name, and what is above an entry is a directory.
Writing, making and removing keep it a tree, so every workspace that starts empty is one. What is written under a path
is read under it. -/
namespace DesignLint.Workspace

structure IsTree (w : Workspace) : Prop where
  distinct : (w.entries.map Prod.fst).Nodup
  named : ∀ e ∈ w.entries, e.1 ≠ [] ∧ ∀ name ∈ e.1, Path.IsName name
  inside : ∀ e ∈ w.entries, e.1.dropLast ≠ [] → (e.1.dropLast, .directory) ∈ w.entries

variable {w w' : Workspace} {path name : String} {place parent names : List String} {entry : FileEntry} {content : Bytes}

theorem isTree_empty (working : List String) : IsTree { working := working } where
  distinct := List.nodup_nil
  named := by simp
  inside := by simp

theorem holds_top : w.entry? [] = some .directory := rfl

theorem holds_of_ne (below : place ≠ []) : w.entry? place = w.entries.lookup place := by
  simp [ entry?, below]

theorem lookup_of_mem {entries : List (List String × FileEntry)} (distinct : (entries.map Prod.fst).Nodup)
    (member : (place, entry) ∈ entries) : entries.lookup place = some entry := by
  induction entries with
  | nil => contradiction
  | cons first rest ih =>
    obtain ⟨fresh, distinct⟩ := List.nodup_cons.mp distinct
    rcases List.mem_cons.mp member with rfl | later
    · exact List.lookup_cons_self
    · have other : place ≠ first.1 := by
        rintro rfl
        exact fresh (List.mem_map.mpr ⟨_, later, rfl⟩)
      rw [List.lookup_cons, beq_eq_false_iff_ne.mpr other]
      exact ih distinct later

namespace IsTree

theorem holds_iff (tree : w.IsTree) (below : place ≠ []) :
    w.entry? place = some entry ↔ (place, entry) ∈ w.entries := by
  rw [holds_of_ne below]
  constructor
  · intro there
    obtain ⟨before, after, split, _⟩ := List.lookup_eq_some_iff.mp there
    rw [split]
    exact List.mem_append_right _ List.mem_cons_self
  · exact lookup_of_mem tree.distinct

theorem directory_iff (tree : w.IsTree) :
    w.entry? place = some .directory ↔ (place ≠ [] → (place, .directory) ∈ w.entries) := by
  by_cases top : place = []
  · simp [top, holds_top]
  · rw [tree.holds_iff top]
    exact ⟨fun member _ => member, fun member => member top⟩

/-- What stands above an entry is a directory. -/
theorem directory_above (tree : w.IsTree) (there : w.entry? (parent ++ [name]) = some entry) :
    w.entry? parent = some .directory := by
  have above := tree.inside _ ((tree.holds_iff (List.concat_ne_nil name parent)).mp there)
  rw [List.dropLast_concat] at above
  exact tree.directory_iff.mpr above

end IsTree

/-! ## Where a path leads -/

/-- A path leads to a directory, or to a name in one. -/
inductive Leads (w : Workspace) : List String → Prop where
  | directory {place : List String} : w.entry? place = some .directory → Leads w place
  | name {parent : List String} {name : String} : w.entry? parent = some .directory → Path.IsName name →
      Leads w (parent ++ [name])

namespace IsTree

theorem leads_enter (tree : w.IsTree) {segment : String} (plain : '/' ∉ segment.toList)
    (entered : w.enter place segment = .ok parent) : w.Leads parent := by
  rw [enter] at entered
  split at entered
  · cases entered
  · cases entered
  · rename_i there
    by_cases stay : segment = "" ∨ segment = "."
    · rw [if_pos (by simpa using stay)] at entered
      cases entered
      exact .directory there
    rw [if_neg (by simpa using stay)] at entered
    by_cases up : segment = ".."
    · rw [if_pos up] at entered
      cases entered
      refine .directory ?_
      cases place using List.reverseRecOn with
      | nil => rfl
      | append_singleton above last =>
        rw [List.dropLast_concat]
        exact tree.directory_above there
    · rw [if_neg up] at entered
      split at entered
      · cases entered
      · cases entered
        exact .name there ⟨fun same => stay (.inl same), fun same => stay (.inr same), up, plain⟩

theorem leads_of_locate (tree : w.IsTree) (located : w.locate path = .ok place) : w.Leads place := by
  have walk (segments : List String) (nonempty : segments ≠ []) (plain : ∀ segment ∈ segments, '/' ∉ segment.toList)
      (start : List String) (walked : segments.foldlM w.enter start = .ok place) : w.Leads place := by
    induction segments generalizing start with
    | nil => contradiction
    | cons segment rest ih =>
      rw [List.foldlM_cons] at walked
      cases entered : w.enter start segment with
      | error e =>
        rw [entered] at walked
        cases walked
      | ok next =>
        rw [entered] at walked
        have further : rest.foldlM w.enter next = .ok place := walked
        cases rest with
        | nil =>
          cases further
          exact tree.leads_enter (plain segment List.mem_cons_self) entered
        | cons _ _ =>
          exact ih (by simp) (fun segment member => plain segment (List.mem_cons_of_mem _ member)) next further
  rw [locate, follow] at located
  split at located
  · cases located
  · split at located
    · cases located
    · split at located
      · cases located
      · exact walk _ (by simp [Path.segments_eq]) (fun _ => Path.no_slash_of_mem_segments) _ located

end IsTree

theorem holds_of_status {e : FileError} (located : w.locate path = .ok place) (failed : w.status path = .error e) :
    w.entry? place = none := by
  rw [status, located] at failed
  cases there : w.entry? place with
  | none => rfl
  | some entry =>
    simp only [bind, Except.bind, there] at failed
    cases failed

/-! ## What stands below a place -/

theorem mem_below : (names, entry) ∈ w.below place ↔ names ≠ [] ∧ (place ++ names, entry) ∈ w.entries := by
  rw [below, List.mem_filterMap]
  constructor
  · rintro ⟨⟨whole, other⟩, member, found⟩
    obtain ⟨inside, shape⟩ := Option.ite_none_right_eq_some.mp found
    simp only [Bool.and_eq_true, List.isPrefixOf_iff_prefix, decide_eq_true_eq] at inside
    obtain ⟨⟨rest, rfl⟩, longer⟩ := inside
    simp only [List.drop_left, Option.some.injEq, Prod.mk.injEq] at shape
    obtain ⟨rfl, rfl⟩ := shape
    refine ⟨?_, member⟩
    rintro rfl
    simp at longer
  · rintro ⟨nonempty, member⟩
    exact ⟨_, member, by simp [List.length_pos_iff.mpr nonempty]⟩

theorem IsTree.isName_of_mem_names (tree : w.IsTree) (member : name ∈ w.names path) : Path.IsName name := by
  rw [Workspace.names] at member
  split at member
  · contradiction
  · obtain ⟨⟨names, entry⟩, inside, found⟩ := List.mem_filterMap.mp (mem_sortStrings.mp member)
    have shape : names = [name] := by
      rcases names with _ | ⟨first, _ | ⟨_, _⟩⟩
      · cases found
      · cases found
        rfl
      · cases found
    subst shape
    exact (tree.named _ (mem_below.mp inside).2).2 name (by simp)

/-- The files below a directory are those that stand there. -/
theorem IsTree.mem_filesBelow (tree : w.IsTree) (located : w.locate path = .ok place)
    (directory : w.entry? place = some .directory) :
    names ∈ w.filesBelow path ↔ ∃ content, w.entry? (place ++ names) = some (.file content) := by
  simp only [filesBelow, located, directory, List.mem_filterMap]
  constructor
  · rintro ⟨⟨found, entry⟩, member, kept⟩
    cases entry with
    | directory => simp at kept
    | file content =>
      cases kept
      obtain ⟨nonempty, member⟩ := mem_below.mp member
      exact ⟨content, (tree.holds_iff (by simp [nonempty])).mpr member⟩
  · rintro ⟨content, there⟩
    have nonempty : names ≠ [] := by
      rintro rfl
      rw [List.append_nil, directory] at there
      cases there
    refine ⟨(names, .file content), mem_below.mpr ⟨nonempty, ?_⟩, rfl⟩
    exact (tree.holds_iff (by simp [nonempty])).mp there

theorem IsTree.pairwise_below (tree : w.IsTree) (place : List String) :
    (w.below place).Pairwise fun e e' => e.1 ≠ e'.1 := by
  refine List.pairwise_filterMap.mpr ((List.pairwise_map.mp tree.distinct).imp ?_)
  rintro ⟨whole, _⟩ ⟨whole', _⟩ apart e found e' found' same
  obtain ⟨inside, ⟨⟩⟩ := Option.ite_none_right_eq_some.mp found
  obtain ⟨inside', ⟨⟩⟩ := Option.ite_none_right_eq_some.mp found'
  simp only [Bool.and_eq_true, List.isPrefixOf_iff_prefix] at inside inside'
  obtain ⟨⟨rest, rfl⟩, _⟩ := inside
  obtain ⟨⟨rest', rfl⟩, _⟩ := inside'
  simp only [List.drop_left] at same
  exact apart (by rw [same])

theorem IsTree.nodup_filesBelow (tree : w.IsTree) (path : String) : (w.filesBelow path).Nodup := by
  rw [filesBelow]
  split
  · exact List.nodup_nil
  · split
    · exact List.nodup_nil
    · simp
    · refine List.pairwise_filterMap.mpr ((tree.pairwise_below _).imp ?_)
      rintro ⟨names, _⟩ ⟨names', _⟩ apart found member found' member'
      obtain ⟨_, ⟨⟩⟩ := Option.ite_none_left_eq_some.mp member
      obtain ⟨_, ⟨⟩⟩ := Option.ite_none_left_eq_some.mp member'
      exact apart

/-- The segments from a place to a file below it are names. -/
theorem IsTree.isName_of_mem_filesBelow (tree : w.IsTree) (member : names ∈ w.filesBelow path) :
    ∀ name ∈ names, Path.IsName name := by
  rw [filesBelow] at member
  split at member
  · contradiction
  · split at member
    · contradiction
    · simp_all
    · obtain ⟨⟨found, entry⟩, inside, kept⟩ := List.mem_filterMap.mp member
      obtain ⟨_, ⟨⟩⟩ := Option.ite_none_left_eq_some.mp kept
      intro name inside'
      exact (tree.named _ (mem_below.mp inside).2).2 name (List.mem_append_right _ inside')

theorem locate_of_locateNew (located : w.locateNew path = .ok place) : w.locate path = .ok place := by
  rw [locateNew] at located
  split at located
  · split at located
    · exact located
    · cases followed : w.follow path _ <;> rw [followed] at located <;> cases located
  · exact located

/-! ## What keeps a tree a tree -/

namespace IsTree

theorem put (tree : w.IsTree) (above : w.entry? parent = some .directory) (named : Path.IsName name)
    (free : entry = .directory ∨ w.entry? (parent ++ [name]) ≠ some .directory) :
    (w.put (parent ++ [name]) entry).IsTree := by
  have above' := tree.directory_iff.mp above
  have mem_put {e : List String × FileEntry} : e ∈ (w.put (parent ++ [name]) entry).entries ↔
      e = (parent ++ [name], entry) ∨ e ∈ w.entries ∧ e.1 ≠ parent ++ [name] := by
    simp [Workspace.put]
  constructor
  · refine List.nodup_cons.mpr ⟨?_, tree.distinct.sublist (List.filter_sublist.map _)⟩
    simp
  · intro e member
    rcases mem_put.mp member with rfl | ⟨old, _⟩
    · refine ⟨by simp, fun other inside => ?_⟩
      rcases List.mem_append.mp inside with inside | last
      · have below' : parent ≠ [] := List.ne_nil_of_mem inside
        exact (tree.named _ (above' below')).2 other inside
      · rwa [List.mem_singleton.mp last]
    · exact tree.named e old
  · intro e member below
    rw [mem_put]
    rcases mem_put.mp member with rfl | ⟨old, _⟩
    · rw [List.dropLast_concat] at below ⊢
      exact .inr ⟨above' below, fun same => by simpa using congrArg List.length same⟩
    · have directory := tree.inside e old below
      by_cases same : e.1.dropLast = parent ++ [name]
      · rw [same] at directory ⊢
        rcases free with rfl | file
        · exact .inl rfl
        · exact absurd ((tree.holds_iff (by simp)).mpr directory) file
      · exact .inr ⟨directory, same⟩

theorem write (tree : w.IsTree) (written : w.write path content = .ok w') : w'.IsTree := by
  rw [Workspace.write] at written
  split at written
  · cases written
  · rename_i place located
    have leads := tree.leads_of_locate (locate_of_locateNew located)
    split at written
    · cases written
    · rename_i file
      cases written
      cases leads with
      | directory there => exact absurd there file
      | name above named => exact tree.put above named (.inr file)
    · cases written
    · cases written

theorem makeEach (tree : w.IsTree) (paths : List String) : (w.makeEach paths).1.IsTree := by
  induction paths generalizing w with
  | nil => exact tree
  | cons path rest ih =>
    rw [Workspace.makeEach]
    split
    · exact ih tree
    · exact tree
    · split
      · exact tree
      · rename_i failed _ place located
        refine ih ?_
        cases tree.leads_of_locate located with
        | directory there =>
          rw [holds_of_status located failed] at there
          cases there
        | name above named => exact tree.put above named (.inl rfl)

theorem makeDirectories (tree : w.IsTree) (path : String) : (w.makeDirectories path).1.IsTree := by
  rw [Workspace.makeDirectories]
  split
  · exact tree
  · exact tree.makeEach _

/-- A tree stays one without some of its entries, as long as those that stay keep what is above them. -/
theorem filter (tree : w.IsTree) {keep : List String × FileEntry → Bool}
    (closed : ∀ e ∈ w.entries, keep e → e.1.dropLast ≠ [] → keep (e.1.dropLast, .directory)) :
    IsTree { w with entries := w.entries.filter keep } where
  distinct := tree.distinct.sublist (List.filter_sublist.map _)
  named := fun e member => tree.named e (List.mem_filter.mp member).1
  inside := fun e member below =>
    have ⟨member, kept⟩ := List.mem_filter.mp member
    List.mem_filter.mpr ⟨tree.inside e member below, closed e member kept below⟩

theorem removeAll (tree : w.IsTree) (path : String) : (w.removeAll path).IsTree := by
  rw [Workspace.removeAll]
  split
  · exact tree
  · rename_i place _
    refine tree.filter fun e _ kept _ => ?_
    simp only [Bool.not_eq_true', Bool.eq_false_iff] at kept ⊢
    intro above
    refine kept (List.isPrefixOf_iff_prefix.mpr ?_)
    exact (List.isPrefixOf_iff_prefix.mp above).trans (List.dropLast_prefix _)

theorem remove (tree : w.IsTree) (removed : w.remove path = .ok w') : w'.IsTree := by
  rw [Workspace.remove] at removed
  split at removed
  · cases removed
  · rename_i place located
    have alone (free : ∀ e ∈ w.entries, e.1.dropLast ≠ [] → e.1.dropLast ≠ place) :
        IsTree { w with entries := w.entries.filter fun e => e.1 != place } :=
      tree.filter fun e member _ below => bne_iff_ne.mpr (free e member below)
    split at removed
    · cases removed
    · split at removed
      · rename_i empty
        cases removed
        refine alone fun e member below same => ?_
        obtain ⟨last, shape⟩ : ∃ last, e.1 = place ++ [last] :=
          ⟨_, by rw [← same, List.dropLast_concat_getLast (tree.named e member).1]⟩
        have below : ([last], e.2) ∈ w.below place := by
          refine List.mem_filterMap.mpr ⟨e, member, ?_⟩
          simp [shape]
        rw [List.isEmpty_iff.mp empty] at below
        contradiction
      · cases removed
    · rename_i content there
      cases removed
      refine alone fun e member below same => ?_
      rw [same] at below
      have directory := (tree.holds_iff below).mpr (same ▸ tree.inside e member (same ▸ below))
      rw [there] at directory
      cases directory

end IsTree

/-! ## Reading what was written -/

theorem holds_put_self (below : place ≠ []) : Workspace.entry? (w.put place entry) place = some entry := by
  rw [holds_of_ne below]
  exact List.lookup_cons_self

theorem holds_put_of_ne {other : List String} (ne : other ≠ place) :
    Workspace.entry? (w.put place entry) other = w.entry? other := by
  have kept : (w.entries.filter fun e => e.1 != place).lookup other = w.entries.lookup other := by
    induction w.entries with
    | nil => rfl
    | cons e rest ih =>
      by_cases same : e.1 = place
      · have apart : (other == e.1) = false := beq_eq_false_iff_ne.mpr (same ▸ ne)
        rw [List.filter_cons_of_neg (by simpa using same), List.lookup_cons, apart, ih]
      · rw [List.filter_cons_of_pos (by simpa using same), List.lookup_cons, List.lookup_cons, ih]
  rw [ entry?, entry?, put, List.lookup_cons, beq_eq_false_iff_ne.mpr ne, kept]

/-- On the way to a place only directories are entered, so it does not matter what is put where there is none. -/
theorem enter_put (free : w.entry? place ≠ some .directory) {here segment there : _}
    (entered : w.enter here segment = .ok there) : (w.put place entry).enter here segment = .ok there := by
  have apart : here ≠ place := by
    rintro rfl
    rw [enter] at entered
    split at entered
    · cases entered
    · cases entered
    · next directory => exact free directory
  rw [enter, holds_put_of_ne apart, ← enter, entered]

theorem follow_put (free : w.entry? place ≠ some .directory) {segments there : List String}
    (followed : w.follow path segments = .ok there) : (w.put place entry).follow path segments = .ok there := by
  have walk (start : List String) (walked : segments.foldlM w.enter start = .ok there) :
      segments.foldlM (w.put place entry).enter start = .ok there := by
    clear followed
    induction segments generalizing start with
    | nil => exact walked
    | cons segment rest ih =>
      rw [List.foldlM_cons] at walked ⊢
      cases entered : w.enter start segment with
      | error e =>
        rw [entered] at walked
        cases walked
      | ok next =>
        rw [entered] at walked
        rw [enter_put free entered]
        exact ih next walked
  rw [follow] at followed ⊢
  split at followed
  · cases followed
  split at followed
  · cases followed
  split at followed
  · cases followed
  · next zero long empty =>
    rw [if_neg zero, if_neg long, if_neg empty]
    exact walk _ followed

theorem locateNew_put (free : w.entry? place ≠ some .directory) {there : List String}
    (located : w.locateNew path = .ok there) : (w.put place entry).locateNew path = .ok there := by
  rw [locateNew] at located ⊢
  split at located
  · split at located
    · next plain => rw [if_pos plain]; exact follow_put free located
    · cases followed : w.follow path _ <;> rw [followed] at located <;> cases located
  · exact follow_put free located

/-- A path under which a file can be made: it leads into a directory, and to no directory. -/
def IsWritable (w : Workspace) (path : String) : Prop :=
  ∃ place, w.locateNew path = .ok place ∧ w.entry? place ≠ some .directory ∧ w.entry? place.dropLast = some .directory

/-- What is written under a path is read under it. -/
theorem IsWritable.exists_write (writable : w.IsWritable path) (content : Bytes) :
    ∃ w', w.write path content = .ok w' ∧ w'.read path = .ok content ∧ w'.IsWritable path := by
  obtain ⟨place, located, free, above⟩ := writable
  have below : place ≠ [] := by
    rintro rfl
    exact free rfl
  have shorter : place.dropLast ≠ place := fun same => by
    have lengths := congrArg List.length same
    rw [List.length_dropLast] at lengths
    have := List.length_pos_iff.mpr below
    omega
  refine ⟨w.put place (.file content), ?_, ?_, place, locateNew_put free located, ?_, ?_⟩
  · rw [write, located]
    simp only [above]
  · have found : (w.put place (.file content)).locate path = .ok place := follow_put free (locate_of_locateNew located)
    rw [read, status, found]
    simp only [bind, Except.bind, holds_put_self below]
    rfl
  · rw [holds_put_self below]
    exact fun same => nomatch same
  · rw [holds_put_of_ne shorter, above]

end DesignLint.Workspace
