import DesignLint.Files.Expand
import DesignLint.Proofs.Files.Glob
import DesignLint.Proofs.Files.Tree

/-! What patterns stand for. What is found lies where the pattern is written, unless the pattern goes up, and a double star
finds each file below its directory once. -/
namespace DesignLint

namespace Path

/-- A pattern that is written below a directory: the directory stands for itself, and no segment goes up, be it only up to a
double star. -/
def Below (directory pattern : String) : Prop :=
  Glob.isPattern (clean directory) = false ∧
    ∃ parts, (∀ part ∈ parts, IsName part ∧ ¬['.', '.', '*', '*'] <+: part.toList) ∧
      pattern = text (isAbsolute directory) (cleanSegments directory ++ parts)

theorem Below.under {directory pattern : String} (below : Below directory pattern) : Under directory pattern := by
  obtain ⟨_, parts, named, rfl⟩ := below
  exact ⟨parts, fun part member => (named part member).1, rfl⟩

end Path

namespace Workspace

variable {w : Workspace} {directory pattern file path part : String} {names parts place found : List String} {rooted : Bool}

/-- The directory and the last segment of a pattern that is written as a clean path. -/
theorem split_text (rooted : Bool) (plain : ∀ part ∈ parts, part ≠ "" ∧ '/' ∉ part.toList) (last : '/' ∉ part.toList) :
    patternDirectory (Path.split (Path.text rooted (parts ++ [part]))).1 = Path.text rooted parts ∧
      (Path.split (Path.text rooted (parts ++ [part]))).2 = part := by
  by_cases none : parts = []
  · subst none
    cases rooted with
    | true =>
      have top : "/" = "" ∨ ∃ before, "/" = before ++ "/" := .inr ⟨"", rfl⟩
      rw [Path.text_concat, if_pos rfl, if_pos rfl, Path.split_eq last top]
      exact ⟨rfl, rfl⟩
    | false =>
      rw [Path.text_concat, if_pos rfl, if_neg (by simp), Path.split_eq last (.inl rfl)]
      exact ⟨rfl, rfl⟩
  · have nonempty := Path.text_ne_empty rooted fun part member => (plain part member).1
    rw [Path.text_concat, if_neg none, Path.split_eq last (.inr ⟨_, rfl⟩)]
    refine ⟨?_, rfl⟩
    have longer : (Path.text rooted parts ++ "/").toList.length ≠ 1 := by
      simpa [String.toList_append, ← String.length_toList] using nonempty
    have other : Path.text rooted parts ++ "/" ≠ "/" := fun same => longer (by rw [same]; rfl)
    have empty : Path.text rooted parts ++ "/" ≠ "" := by simp
    simp [patternDirectory, other, empty, String.toList_append]

theorem under_of_mem_matchesIn (tree : w.IsTree) {last : Glob} {directories : List String}
    (under : ∀ d ∈ directories, Path.Under directory d) (member : file ∈ w.matchesIn last directories) :
    Path.Under directory file := by
  obtain ⟨d, listed, inside⟩ := List.mem_flatMap.mp member
  split at inside
  · obtain ⟨name, kept, rfl⟩ := List.mem_map.mp inside
    have named := tree.isName_of_mem_names (List.mem_filter.mp kept).1
    exact (under d listed).join (by simpa using named)
  · contradiction

/-- What a pattern without double stars finds below a directory it is written below. -/
theorem under_of_mem_globFrom (tree : w.IsTree) (literal : Glob.isPattern (Path.clean directory) = false) (depth : Nat)
    (named : ∀ part ∈ parts, Path.IsName part)
    (globbed : w.globFrom depth (Path.text (Path.isAbsolute directory) (Path.cleanSegments directory ++ parts)) = some found)
    (member : file ∈ found) : Path.Under directory file := by
  induction depth generalizing parts found file with
  | zero => cases globbed
  | succ depth ih =>
    have self : Path.Under directory (Path.text (Path.isAbsolute directory) (Path.cleanSegments directory ++ parts)) :=
      ⟨parts, named, rfl⟩
    rw [globFrom] at globbed
    split at globbed
    · cases globbed
    · split at globbed
      · cases globbed
        split at member
        · rwa [List.mem_singleton.mp member]
        · contradiction
      · rename_i wild
        -- The directory has no wildcards, so the pattern has a segment below it.
        cases parts using List.reverseRecOn with
        | nil =>
          rw [List.append_nil, ← Path.clean_eq, literal] at wild
          simp at wild
        | append_singleton parts last =>
          have named' : ∀ part ∈ parts, Path.IsName part := fun part member => named part (List.mem_append_left _ member)
          have parted := split_text (Path.isAbsolute directory)
            (fun part member => (Path.settled_under directory named').plain part (List.mem_reverse.mpr member))
            (named last (by simp)).no_slash
          rw [List.append_assoc] at parted
          simp only [parted.1, parted.2] at globbed
          split at globbed
          · rename_i directories _ expanded _
            cases globbed
            refine under_of_mem_matchesIn tree ?_ member
            intro d listed
            split at expanded
            · exact ih named' expanded listed
            · cases expanded
              rw [List.mem_singleton.mp listed]
              exact ⟨parts, named', rfl⟩
          · cases globbed

/-! ## Double stars -/

theorem splitDoubleStar_eq_some {chars before after : List Char} (split : splitDoubleStar chars = some (before, after)) :
    chars = before ++ '*' :: '*' :: after := by
  fun_induction splitDoubleStar chars generalizing before with
  | case1 rest =>
    cases split
    rfl
  | case2 c rest _ ih =>
    obtain ⟨⟨before', after'⟩, found, shape⟩ := Option.map_eq_some_iff.mp split
    cases shape
    rw [ih found]
    rfl
  | case3 => cases split

theorem splitDoubleStar_append {before : List Char} (literal : '*' ∉ before) (after : List Char) :
    splitDoubleStar (before ++ '*' :: '*' :: after) = some (before, after) := by
  induction before with
  | nil => rfl
  | cons c before ih =>
    obtain ⟨other, literal⟩ := not_or.mp (List.mem_cons.not.mp literal)
    rw [List.cons_append, splitDoubleStar, ih literal]
    · rfl
    · intro rest same
      exact absurd same (Ne.symm other)

/-- A double star stands in one segment: those before it are all segments of what stands before it. -/
theorem splitAll_doubleStar (before after : List Char) : ∃ init start rest more,
    Path.segments.splitAll before = init ++ [start] ∧
      Path.segments.splitAll (before ++ '*' :: '*' :: after) = init ++ (start ++ '*' :: '*' :: rest) :: more := by
  induction before with
  | nil =>
    cases split : Path.segments.splitAll after with
    | nil => simp [Path.splitAll_eq] at split
    | cons rest more => exact ⟨[], [], rest, more, rfl, by simp [Path.segments.splitAll, split]⟩
  | cons c before ih =>
    obtain ⟨init, start, rest, more, first, whole⟩ := ih
    rw [List.cons_append, Path.segments.splitAll, Path.segments.splitAll, first, whole]
    by_cases slash : c = '/'
    · exact ⟨[] :: init, start, rest, more, by cases init <;> simp [slash], by cases init <;> simp [slash]⟩
    · cases init with
      | nil => exact ⟨[], c :: start, rest, more, by simp [slash], by simp [slash]⟩
      | cons segment init => exact ⟨(c :: segment) :: init, start, rest, more, by simp [slash], by simp [slash]⟩

theorem segments_doubleStar (before after : String) : ∃ init start star more,
    Path.segments before = init ++ [start] ∧ Path.segments (before ++ "**" ++ after) = init ++ star :: more ∧
      start.toList ++ ['*', '*'] <+: star.toList := by
  obtain ⟨init, start, rest, more, first, whole⟩ := splitAll_doubleStar before.toList after.toList
  refine ⟨init.map String.ofList, String.ofList start, String.ofList (start ++ '*' :: '*' :: rest),
    more.map String.ofList, ?_, ?_, ?_⟩
  · simp [Path.segments, Path.segments.go, first]
  · simp [Path.segments, Path.segments.go, String.toList_append, whole]
  · exact ⟨rest, by simp⟩

theorem append_of_not_mem {α : Type} {a : α} {xs ys init more : List α} (fresh : a ∉ xs)
    (same : xs ++ ys = init ++ a :: more) : ∃ middle, init = xs ++ middle ∧ ys = middle ++ a :: more := by
  rcases List.append_eq_append_iff.mp same with ⟨middle, shape, rest⟩ | ⟨middle, shape, rest⟩
  · exact ⟨middle, shape, rest⟩
  · cases middle with
    | nil => exact ⟨[], by simpa using shape.symm, by simpa using rest.symm⟩
    | cons first middle =>
      obtain ⟨rfl, _⟩ := List.cons_eq_cons.mp rest
      exact absurd (shape ▸ by simp) fresh

/-- The directory of a double star lies where the pattern is written. -/
theorem under_clean_before {before after : String} (below : Path.Below directory (before ++ "**" ++ after)) :
    Path.Under directory (Path.clean before) := by
  obtain ⟨literal, parts, named, written⟩ := below
  have lead_settled := Path.settled_cleanSegments directory
  have settled := Path.settled_under directory fun part member => (named part member).1
  have plain : ∀ part ∈ Path.cleanSegments directory ++ parts, part ≠ "" ∧ '/' ∉ part.toList :=
    fun part member => settled.plain part (List.mem_reverse.mpr member)
  have kind : Path.isAbsolute before = Path.isAbsolute directory := by
    rw [← Path.isAbsolute_text (Path.isAbsolute directory) plain, ← written]
    by_cases empty : before = ""
    · subst empty
      simp [Path.isAbsolute, String.toList_append]
    · rw [String.append_assoc, Path.isAbsolute_append empty]
  have nonempty : Path.cleanSegments directory ++ parts ≠ [] := by
    intro none
    have inside : '*' ∈ (before ++ "**" ++ after).toList := by simp [String.toList_append]
    rw [written, none] at inside
    revert inside
    cases Path.isAbsolute directory <;> decide
  obtain ⟨init, start, star, more, first, whole, starred⟩ := segments_doubleStar before after
  rw [written, Path.segments_text _ nonempty fun part member => (plain part member).2, ← List.append_assoc] at whole
  -- The directory has no star, so the segment with the double star is one below it.
  have fresh : star ∉ (if Path.isAbsolute directory then [""] else []) ++ Path.cleanSegments directory := by
    have inside : '*' ∈ star.toList := starred.subset (by simp)
    intro member
    rcases List.mem_append.mp member with top | lead
    · split at top
      · rw [List.mem_singleton.mp top] at inside
        simp at inside
      · contradiction
    · have shown := Path.mem_text (Path.isAbsolute directory) lead inside
      rw [← Path.clean_eq] at shown
      have wild : Glob.isPattern (Path.clean directory) = true := List.any_eq_true.mpr ⟨'*', shown, by decide⟩
      rw [literal] at wild
      cases wild
  obtain ⟨middle, rfl, rfl⟩ := append_of_not_mem fresh whole
  have named' : ∀ part ∈ middle, Path.IsName part := fun part member => (named part (List.mem_append_left _ member)).1
  have walked : (Path.segments before).foldl (Path.push (Path.isAbsolute before)) [] =
      Path.push (Path.isAbsolute directory) (middle.reverse ++ (Path.cleanSegments directory).reverse) start := by
    rw [first, kind, List.foldl_append, List.foldl_append, List.foldl_append, Path.walk_names named']
    rw [← lead_settled.walk_eq]
    cases Path.isAbsolute directory <;> simp [Path.push_empty]
  rw [Path.clean_eq, Path.cleanSegments, walked, kind]
  by_cases stay : start = "" ∨ start = "."
  · refine ⟨middle, named', ?_⟩
    rcases stay with rfl | rfl <;> simp [Path.push_empty, Path.push_here]
  · have name : Path.IsName start := by
      refine ⟨fun same => stay (.inl same), fun same => stay (.inr same), ?_, ?_⟩
      · rintro rfl
        exact (named star (by simp)).2 starred
      · have inside : start ∈ Path.segments before := by simp [first]
        exact Path.no_slash_of_mem_segments inside
    refine ⟨middle ++ [start], fun part member => ?_, by simp [Path.push_name name]⟩
    rcases List.mem_append.mp member with inside | last
    · exact named' part inside
    · rwa [List.mem_singleton.mp last]

/-- The path of what stands below a directory. A directory that is reached itself has to be written cleanly. -/
theorem pathBelow_eq (nonempty : directory ≠ "") (named : ∀ name ∈ names, Path.IsName name)
    (clean : names ≠ [] ∨ Path.clean directory = directory) : pathBelow directory names =
      Path.text (Path.isAbsolute directory) (Path.cleanSegments directory ++ names) := by
  rw [pathBelow]
  by_cases none : names = []
  · subst none
    rw [List.isEmpty_nil, if_pos rfl, List.append_nil, ← Path.clean_eq, clean.resolve_left (by simp)]
  · rw [if_neg (by simpa using none), Path.join_eq nonempty named]

theorem pathBelow_injective (nonempty : directory ≠ "") {names' : List String} (named : ∀ name ∈ names, Path.IsName name)
    (named' : ∀ name ∈ names', Path.IsName name) (below : names ≠ []) (below' : names' ≠ [])
    (same : pathBelow directory names = pathBelow directory names') : names = names' := by
  rw [pathBelow_eq nonempty named (.inl below), pathBelow_eq nonempty named' (.inl below')] at same
  exact List.append_cancel_left (Path.text_injective (Path.settled_under directory named)
    (Path.settled_under directory named') same)

/-- Whatever a pattern finds lies below each directory that the pattern is written below. -/
theorem under_of_mem_expand (tree : w.IsTree) (below : Path.Below directory pattern) (member : file ∈ w.expand pattern) :
    Path.Under directory file := by
  rw [expand, expand?] at member
  split at member
  · rename_i before after split
    have written : pattern = String.ofList before ++ "**" ++ String.ofList after := by
      rw [← String.toList_inj, splitDoubleStar_eq_some split]
      simp [String.toList_append]
    have under := under_clean_before (written ▸ below)
    obtain ⟨names, inside, found⟩ := List.mem_filterMap.mp member
    obtain ⟨_, ⟨⟩⟩ := Option.ite_none_right_eq_some.mp found
    rw [pathBelow]
    split
    · exact under
    · exact under.join (tree.isName_of_mem_filesBelow inside)
  · cases globbed : w.globFrom (pattern.length + 1) pattern with
    | none =>
      rw [globbed] at member
      contradiction
    | some found =>
      rw [globbed] at member
      obtain ⟨literal, parts, named, written⟩ := below
      rw [written] at globbed
      exact under_of_mem_globFrom tree literal _ (fun part inside => (named part inside).1) globbed member

/-! ## Double stars between a directory and a suffix -/

/-- The pattern of all files below a directory whose last segments fit. -/
def doubleStar (base : String) (parts : List String) : String :=
  (if base = "" then "" else base ++ "/") ++ "**/" ++ "/".intercalate parts

/-- A file stands below a directory, at the given names. -/
def FileBelow (w : Workspace) (directory : String) (names : List String) : Prop :=
  ∃ place content, w.locate directory = .ok place ∧ w.entry? place = some .directory ∧
    w.entry? (place ++ names) = some (.file content)

theorem IsTree.mem_filesBelow_iff (tree : w.IsTree) (noFile : w.isFile directory = false) :
    names ∈ w.filesBelow directory ↔ w.FileBelow directory names := by
  cases located : w.locate directory with
  | error e => simp [filesBelow, FileBelow, located]
  | ok place =>
    cases there : w.entry? place with
    | none => simp [filesBelow, FileBelow, located, there]
    | some entry =>
      cases entry with
      | file content =>
        simp [isFile, exists?, isDirectory, status, located, there, bind, Except.bind, Except.toOption, pure,
          Except.pure] at noFile
      | directory => simp [tree.mem_filesBelow located there, FileBelow, located, there]

theorem IsTree.ne_nil_of_mem_filesBelow (tree : w.IsTree) (noFile : w.isFile directory = false)
    (member : names ∈ w.filesBelow directory) : names ≠ [] := by
  rintro rfl
  obtain ⟨place, content, _, there, file⟩ := (tree.mem_filesBelow_iff noFile).mp member
  rw [List.append_nil, there] at file
  cases file

theorem expand_doubleStar_eq {base : String} (literal : Glob.isPattern base = false)
    (segmented : ∀ part ∈ parts, part ≠ "" ∧ '/' ∉ part.toList) (nonempty : parts ≠ []) :
    w.expand (doubleStar base parts) = (w.filesBelow (Path.clean base)).filterMap fun names =>
      if Glob.matchesBelow (if names.isEmpty then "." else "/".intercalate names) ("/".intercalate parts) then
        some (pathBelow (Path.clean base) names) else none := by
  have noStar : '*' ∉ (if base = "" then "" else base ++ "/").toList := by
    intro star
    split at star
    · simp at star
    · rw [String.toList_append, List.mem_append] at star
      rcases star with inside | slash
      · have wild : Glob.isPattern base = true := List.any_eq_true.mpr ⟨'*', inside, by decide⟩
        rw [literal] at wild
        cases wild
      · exact absurd slash (by decide)
  have written : (doubleStar base parts).toList = (if base = "" then "" else base ++ "/").toList ++
      '*' :: '*' :: '/' :: ("/".intercalate parts).toList := by
    simp [doubleStar, String.toList_append]
  have directory : Path.clean (if base = "" then "" else base ++ "/") = Path.clean base := by
    split
    · rename_i empty
      rw [empty]
    · rename_i base_ne
      exact Path.clean_slash base_ne
  have suffix_ne : "/".intercalate parts ≠ "" :=
    fun empty => nonempty ((Path.intercalate_eq_empty fun part member => (segmented part member).1).mp empty)
  rw [expand, expand?, written, splitDoubleStar_append noStar]
  simp only [Option.getD_some, globBelow, String.ofList_toList, String.toList_ofList, directory, List.head?_cons, List.drop_succ_cons, List.drop_zero,
    beq_self_eq_true, if_true, suffix_ne, decide_false, Bool.false_or]

/-- The last names match the segments, one by one. -/
def MatchesEnd (parts names : List String) : Prop :=
  ∃ above ending, names = above ++ ending ∧
    List.Forall₂ (fun part name => Glob.isMatch (Bytes.ofString part) (Bytes.ofString name)) parts ending

/-- What the search asks of the names of a file. One segment is compared with the last name. Several are compared with
all names and with as many of the last bytes of the path as they have themselves. -/
def Found : (parts names : List String) → Prop
  | [part], names => MatchesEnd [part] names
  | parts, names =>
    let wanted := Bytes.ofString ("/".intercalate parts)
    let path := Bytes.ofString ("/".intercalate names)
    Glob.isMatch wanted path ∨
      ∃ front ending, path = front ++ ending ∧ front ≠ [] ∧ ending.length = wanted.length ∧ Glob.isMatch wanted ending

theorem found_singleton (above : List String) (last : String) : Found [part] (above ++ [last]) ↔
    Glob.isMatch (Bytes.ofString part) (Bytes.ofString last) := by
  constructor
  · rintro ⟨front, ending, shape, fits⟩
    obtain ⟨name, none, matched, done, rfl⟩ := List.forall₂_cons_left_iff.mp fits
    obtain rfl := List.forall₂_nil_left_iff.mp done
    obtain ⟨_, same⟩ := List.append_inj' shape rfl
    rwa [List.head_eq_of_cons_eq same]
  · intro matched
    exact ⟨above, [last], rfl, .cons matched .nil⟩

theorem drop_iff {α : Type} (holds : List α → Prop) (xs : List α) (n : Nat) :
    n < xs.length ∧ holds (xs.drop (xs.length - n)) ↔
      ∃ front ending, xs = front ++ ending ∧ front ≠ [] ∧ ending.length = n ∧ holds ending := by
  constructor
  · rintro ⟨shorter, held⟩
    refine ⟨_, _, (List.take_append_drop (xs.length - n) xs).symm, ?_, ?_, held⟩
    · refine List.ne_nil_of_length_pos ?_
      rw [List.length_take]
      omega
    · rw [List.length_drop]
      omega
  · rintro ⟨front, ending, rfl, filled, rfl, held⟩
    have front_pos := List.length_pos_iff.mpr filled
    have start : (front ++ ending).length - ending.length = front.length := by simp
    rw [start, List.drop_left]
    exact ⟨by simpa using front_pos, held⟩

theorem matchesBelow_iff (segmented : ∀ part ∈ parts, part ≠ "" ∧ '/' ∉ part.toList) (nonempty : parts ≠ [])
    (named : ∀ name ∈ names, Path.IsName name) (filled : names ≠ []) :
    Glob.matchesBelow ("/".intercalate names) ("/".intercalate parts) ↔ Found parts names := by
  have noLead : (("/".intercalate parts).toList.head? == some '/') = false := by
    have relative := Path.isAbsolute_text false segmented
    rwa [Path.text, if_neg Bool.false_ne_true, if_neg nonempty] at relative
  simp only [Glob.matchesBelow, noLead, Bool.false_eq_true, if_false]
  cases parts with
  | nil => exact absurd rfl nonempty
  | cons part parts =>
    cases parts with
    | nil =>
      have noSlash : (Bytes.ofString part).contains Glob.slash = false := by
        simpa [Glob.slash_mem_ofString] using (segmented part List.mem_cons_self).2
      obtain ⟨above, last, rfl⟩ := (List.eq_nil_or_concat names).resolve_left filled
      have last_named := named last (by simp)
      rw [List.concat_eq_append, String.intercalate_singleton, noSlash, Bool.not_false, if_pos rfl, Path.base_concat last_named.ne_empty last_named.no_slash,
        found_singleton]
    | cons next parts =>
      have slash : (Bytes.ofString ("/".intercalate (part :: next :: parts))).contains Glob.slash = true := by
        simp [Glob.slash_mem_ofString, String.intercalate_cons_cons, String.toList_append]
      rw [slash, if_neg (by simp), Bool.or_eq_true, Bool.and_eq_true, decide_eq_true_iff]
      exact or_congr_right (drop_iff (fun ending => Glob.isMatch _ ending = true) _ _)

/-- A double star finds each file below its directory once, and finds those it asks for. -/
theorem expand_doubleStar {base : String} (tree : w.IsTree) (literal : Glob.isPattern base = false)
    (directory : w.isFile (Path.clean base) = false) (segmented : ∀ part ∈ parts, part ≠ "" ∧ '/' ∉ part.toList)
    (nonempty : parts ≠ []) :
    (w.expand (doubleStar base parts)).Nodup ∧
      (∀ file, file ∈ w.expand (doubleStar base parts) ↔ ∃ names, w.FileBelow (Path.clean base) names ∧
        file = Path.join (Path.clean base :: names) ∧ Found parts names) ∧
      ((∀ part ∈ parts, '[' ∉ part.toList ∧ '\\' ∉ part.toList) → ∀ text : Bytes,
        Glob.isMatch (Bytes.ofString ("/".intercalate parts)) text ↔
          List.Forall₂ (fun part segment => Glob.isMatch (Bytes.ofString part) segment) parts
            (List.splitOn Glob.slash text)) := by
  have base_ne : Path.clean base ≠ "" := (Path.under_clean base).ne_empty
  have inside {names : List String} (member : names ∈ w.filesBelow (Path.clean base)) :
      names ≠ [] ∧ ∀ name ∈ names, Path.IsName name :=
    ⟨tree.ne_nil_of_mem_filesBelow directory member, tree.isName_of_mem_filesBelow member⟩
  rw [expand_doubleStar_eq literal segmented nonempty]
  refine ⟨?_, fun file => ?_, fun plain text => ?_⟩
  · refine List.pairwise_filterMap.mpr ((tree.nodup_filesBelow _).imp_of_mem ?_)
    intro names names' member member' apart file found file' found' same
    obtain ⟨_, ⟨⟩⟩ := Option.ite_none_right_eq_some.mp found
    obtain ⟨_, ⟨⟩⟩ := Option.ite_none_right_eq_some.mp found'
    obtain ⟨filled, named⟩ := inside member
    obtain ⟨filled', named'⟩ := inside member'
    exact apart (pathBelow_injective base_ne named named' filled filled' same)
  · rw [List.mem_filterMap]
    refine exists_congr fun names => ?_
    rw [tree.mem_filesBelow_iff directory]
    refine and_congr_right fun member => ?_
    obtain ⟨filled, named⟩ := inside ((tree.mem_filesBelow_iff directory).mpr member)
    have nonempty_names : names.isEmpty = false := by simpa using filled
    rw [pathBelow, nonempty_names, Option.ite_none_right_eq_some]
    simp [matchesBelow_iff segmented nonempty named filled, and_comm, eq_comm]
  · rw [Glob.ofString_intercalate, Glob.isMatch_segments (by simpa using nonempty), List.forall₂_map_left_iff]
    rintro _ listed
    obtain ⟨part, member, rfl⟩ := List.mem_map.mp listed
    obtain ⟨part_ne, part_free⟩ := segmented part member
    have filled : Bytes.ofString part ≠ [] := by
      intro empty
      refine part_ne (Bytes.ofString_injective ?_)
      rw [empty]
      rfl
    exact ⟨Glob.plain_ofString (plain part member).1 (plain part member).2, filled, Glob.slash_mem_ofString.not.mpr part_free⟩

/-- A file whose name is longer than the segment that it matches. -/
def longName : Workspace where
  entries := [(["base", "x", "sub", "ff.vhd"], .file []), (["base", "x", "sub"], .directory), (["base", "x"], .directory),
    (["base"], .directory)]

theorem isTree_longName : longName.IsTree where
  distinct := by decide
  named := by
    have plain : ∀ e ∈ longName.entries, e.1 ≠ [] ∧ ∀ name ∈ e.1, (name ≠ "" ∧ name ≠ "." ∧ name ≠ "..") ∧ '/' ∉ name.toList := by
      decide
    intro e member
    obtain ⟨filled, names⟩ := plain e member
    refine ⟨filled, fun name inside => ?_⟩
    obtain ⟨⟨ne_empty, ne_here, ne_up⟩, no_slash⟩ := names name inside
    exact ⟨ne_empty, ne_here, ne_up, no_slash⟩
  inside := by decide

/-- Its last names match the segments, and it is not found. -/
theorem longName_not_found : MatchesEnd ["sub", "*.vhd"] ["x", "sub", "ff.vhd"] ∧
    longName.FileBelow "base" ["x", "sub", "ff.vhd"] ∧
      Path.join ["base", "x", "sub", "ff.vhd"] ∉ longName.expand (doubleStar "base" ["sub", "*.vhd"]) := by
  have segmented : ∀ part ∈ ["sub", "*.vhd"], part ≠ "" ∧ '/' ∉ part.toList := by decide
  have located : longName.locate "base" = .ok ["base"] := by decide
  have clean : Path.clean "base" = "base" := by decide
  have noFile : longName.isFile (Path.clean "base") = false := by decide
  obtain ⟨_, found, _⟩ := expand_doubleStar isTree_longName (show Glob.isPattern "base" = false by decide) noFile segmented
    (by decide)
  refine ⟨⟨["x"], ["sub", "ff.vhd"], rfl, by decide⟩, ⟨["base"], [], located, rfl, rfl⟩, fun listed => ?_⟩
  rw [found, clean] at listed
  obtain ⟨names, ⟨place, content, there, -, file⟩, -, matched⟩ := listed
  obtain rfl := Except.ok.inj (located.symm.trans there)
  have only : names = ["x", "sub", "ff.vhd"] := by
    have member := (isTree_longName.holds_iff (by simp)).mp file
    exact (show names = ["x", "sub", "ff.vhd"] ∧ content = [] by simpa [longName] using member).1
  subst only
  have missed : ¬(Glob.isMatch (Bytes.ofString "sub/*.vhd") (Bytes.ofString "x/sub/ff.vhd") ∨
      9 < 12 ∧ Glob.isMatch (Bytes.ofString "sub/*.vhd") ((Bytes.ofString "x/sub/ff.vhd").drop 3)) := by decide
  exact missed (matched.imp_right (drop_iff (fun ending => Glob.isMatch _ ending = true) _ _).mpr)

end Workspace
end DesignLint
