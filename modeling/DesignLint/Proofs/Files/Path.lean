import DesignLint.Files.Path
import Mathlib.Data.List.Basic

/-! Clean paths. A path is clean if it is written with no more than its segments: some steps up at the start, unless it is
absolute, and then names. Clean paths below one directory differ in their names, and still do so once a working
directory is put before them. -/
namespace DesignLint.Path

/-- What an entry of a directory can be called. -/
structure IsName (name : String) : Prop where
  ne_empty : name ≠ ""
  ne_here : name ≠ "."
  ne_up : name ≠ ".."
  no_slash : '/' ∉ name.toList

variable {p directory file name part segment working : String} {rooted : Bool} {parts names names' lead done : List String}

/-! ## Segments -/

theorem splitAll_eq (chars : List Char) : segments.splitAll chars = chars.splitOn '/' := by
  induction chars with
  | nil => rfl
  | cons c rest ih =>
    rw [segments.splitAll, ih, List.splitOn_cons_eq_if_modifyHead]
    cases split : rest.splitOn '/' with
    | nil => simp at split
    | cons segment more => by_cases slash : c = '/' <;> simp [slash]

theorem segments_eq (p : String) : segments p = (p.toList.splitOn '/').map String.ofList := by
  rw [segments, segments.go, splitAll_eq]

theorem segments_append (a b : String) : segments (a ++ "/" ++ b) = segments a ++ segments b := by
  have slash : (a ++ "/" ++ b).toList = a.toList ++ '/' :: b.toList := by simp [String.toList_append]
  rw [segments_eq, slash, List.splitOn_append_cons_self, List.map_append, segments_eq, segments_eq]

theorem no_slash_of_mem_segments (member : segment ∈ segments p) : '/' ∉ segment.toList := by
  have plain (chars : List Char) : ∀ piece ∈ chars.splitOn '/', '/' ∉ piece := by
    induction chars with
    | nil => simp
    | cons c rest ih =>
      rw [List.splitOn_cons_eq_if_modifyHead]
      by_cases slash : c = '/'
      · simpa [slash] using ih
      · cases split : rest.splitOn '/' with
        | nil => simp at split
        | cons piece more =>
          rw [split] at ih
          simpa [slash, Ne.symm slash] using ih
  rw [segments_eq] at member
  obtain ⟨chars, inside, rfl⟩ := List.mem_map.mp member
  rw [String.toList_ofList]
  exact plain _ chars inside

theorem segments_intercalate (nonempty : parts ≠ []) (plain : ∀ part ∈ parts, '/' ∉ part.toList) :
    segments ("/".intercalate parts) = parts := by
  have joined : ("/".intercalate parts).toList = ['/'].intercalate (parts.map String.toList) := String.toList_intercalate
  rw [segments_eq, joined, List.splitOn_intercalate]
  · simp [Function.comp_def]
  · simpa using plain
  · simpa using nonempty

/-! ## Clean paths -/

/-- A path that is written with the given segments. -/
def text (rooted : Bool) (parts : List String) : String :=
  if rooted then "/" ++ "/".intercalate parts else if parts = [] then "." else "/".intercalate parts

/-- The segments of a clean path, the last of them first: names, and then steps up, none of them if it is absolute. -/
def Settled (rooted : Bool) (done : List String) : Prop :=
  ∃ names ups, done = names ++ List.replicate ups ".." ∧ (rooted = true → ups = 0) ∧ ∀ name ∈ names, IsName name

theorem settled_nil : Settled rooted [] := ⟨[], 0, rfl, fun _ => rfl, by simp⟩

theorem Settled.append (settled : Settled rooted done) (named : ∀ name ∈ names, IsName name) :
    Settled rooted (names ++ done) := by
  obtain ⟨names', ups, rfl, high, named'⟩ := settled
  refine ⟨names ++ names', ups, (List.append_assoc ..).symm, high, fun name member => ?_⟩
  exact (List.mem_append.mp member).elim (named name) (named' name)

theorem push_empty (rooted : Bool) (done : List String) : push rooted done "" = done := rfl

theorem push_here (rooted : Bool) (done : List String) : push rooted done "." = done := rfl

theorem push_name (named : IsName name) : push rooted done name = name :: done := by
  simp [push, named.ne_empty, named.ne_here, named.ne_up]

theorem push_up_nil (rooted : Bool) : push rooted [] ".." = if rooted then [] else [".."] := rfl

theorem push_up_up (rooted : Bool) (done : List String) : push rooted (".." :: done) ".." = ".." :: ".." :: done := rfl

theorem push_up_name (named : IsName name) : push rooted (name :: done) ".." = done := if_neg named.ne_up

/-- A step up takes back the last name. Where there is none it is kept, unless the path is absolute. -/
theorem Settled.push_up (settled : Settled rooted done) : Settled rooted (Path.push rooted done "..") := by
  obtain ⟨names, ups, rfl, high, named⟩ := settled
  cases names with
  | cons last names =>
    have named' : ∀ name ∈ names, IsName name := fun name member => named name (List.mem_cons_of_mem _ member)
    exact ⟨names, ups, push_up_name (named last List.mem_cons_self), high, named'⟩
  | nil =>
    cases ups with
    | zero =>
      cases rooted with
      | true => exact settled_nil
      | false => exact ⟨[], 1, rfl, by simp, by simp⟩
    | succ ups =>
      exact ⟨[], ups + 2, push_up_up rooted _, fun absolute => absurd (high absolute) (Nat.succ_ne_zero ups), by simp⟩

theorem Settled.push (settled : Settled rooted done) (plain : '/' ∉ segment.toList) :
    Settled rooted (Path.push rooted done segment) := by
  by_cases empty : segment = ""
  · rwa [empty, push_empty]
  by_cases here : segment = "."
  · rwa [here, push_here]
  by_cases up : segment = ".."
  · rw [up]
    exact settled.push_up
  · have named : IsName segment := ⟨empty, here, up, plain⟩
    have single : ∀ name ∈ [segment], IsName name := by simpa using named
    rw [push_name named]
    exact settled.append single

theorem Settled.walk (settled : Settled rooted done) (plain : ∀ part ∈ parts, '/' ∉ part.toList) :
    Settled rooted (parts.foldl (Path.push rooted) done) := by
  induction parts generalizing done with
  | nil => exact settled
  | cons part parts ih =>
    exact ih (settled.push (plain part List.mem_cons_self)) fun part member => plain part (List.mem_cons_of_mem _ member)

theorem settled_cleanSegments (p : String) : Settled (isAbsolute p) (cleanSegments p).reverse := by
  rw [cleanSegments, List.reverse_reverse]
  exact settled_nil.walk fun _ => no_slash_of_mem_segments

theorem Settled.plain (settled : Settled rooted done) : ∀ part ∈ done, part ≠ "" ∧ '/' ∉ part.toList := by
  obtain ⟨names, ups, rfl, _, named⟩ := settled
  intro part member
  rcases List.mem_append.mp member with inside | up
  · exact ⟨(named part inside).ne_empty, (named part inside).no_slash⟩
  · obtain rfl := List.eq_of_mem_replicate up
    decide

theorem walk_names (named : ∀ name ∈ names, IsName name) :
    names.foldl (push rooted) done = names.reverse ++ done := by
  induction names generalizing done with
  | nil => rfl
  | cons name names ih =>
    rw [List.foldl_cons, push_name (named name List.mem_cons_self),
      ih fun name member => named name (List.mem_cons_of_mem _ member), List.reverse_cons, List.append_assoc,
      List.singleton_append]

theorem walk_ups (ups more : Nat) :
    (List.replicate ups "..").foldl (push false) (List.replicate more "..") = List.replicate (ups + more) ".." := by
  induction ups generalizing more with
  | zero => simp
  | succ ups ih =>
    have step : push false (List.replicate more "..") ".." = List.replicate (more + 1) ".." := by
      cases more with
      | zero => exact push_up_nil false
      | succ more => exact push_up_up false _
    rw [List.replicate_succ, List.foldl_cons, step, ih, Nat.add_right_comm, Nat.add_assoc]

/-- Walking along clean segments keeps them all. -/
theorem Settled.walk_eq (settled : Settled rooted parts.reverse) : parts.foldl (Path.push rooted) [] = parts.reverse := by
  obtain ⟨names, ups, shape, high, named⟩ := settled
  have named' : ∀ name ∈ names.reverse, IsName name := fun name member => named name (List.mem_reverse.mp member)
  have parts_eq : parts = List.replicate ups ".." ++ names.reverse := by
    rw [← List.reverse_reverse parts, shape, List.reverse_append, List.reverse_replicate]
  rw [shape, parts_eq, List.foldl_append, walk_names named', List.reverse_reverse]
  congr 1
  cases rooted with
  | false => exact walk_ups ups 0
  | true =>
    rw [high rfl]
    rfl

theorem segments_text (rooted : Bool) (nonempty : parts ≠ []) (plain : ∀ part ∈ parts, '/' ∉ part.toList) :
    segments (text rooted parts) = (if rooted then [""] else []) ++ parts := by
  cases rooted with
  | true =>
    have slash : text true parts = "" ++ "/" ++ "/".intercalate parts := by simp [text]
    rw [slash, segments_append, segments_intercalate nonempty plain]
    rfl
  | false => simp [text, nonempty, segments_intercalate nonempty plain]

/-- A walk along a path passes its segments. What else is written means nothing. -/
theorem walk_text {start : Bool} (plain : ∀ part ∈ parts, '/' ∉ part.toList) :
    (segments (text start parts)).foldl (push rooted) done = parts.foldl (push rooted) done := by
  by_cases none : parts = []
  · subst none
    cases start with
    | true => exact (push_empty rooted _).trans (push_empty rooted done)
    | false => exact push_here rooted done
  · rw [segments_text start none plain, List.foldl_append]
    cases start with
    | true => rw [if_pos rfl, List.foldl_cons, push_empty, List.foldl_nil]
    | false => rfl

theorem isAbsolute_append (nonempty : p ≠ "") (rest : String) : isAbsolute (p ++ rest) = isAbsolute p := by
  cases chars : p.toList with
  | nil => exact absurd (String.toList_eq_nil_iff.mp chars) nonempty
  | cons c more => simp [isAbsolute, String.toList_append, chars]

theorem isAbsolute_of_no_slash (plain : '/' ∉ p.toList) : isAbsolute p = false := by
  cases chars : p.toList with
  | nil => simp [isAbsolute, chars]
  | cons c more =>
    rw [chars] at plain
    simp only [isAbsolute, chars, List.head?_cons]
    exact beq_eq_false_iff_ne.mpr fun same => plain (by simp [Option.some.inj same])

theorem intercalate_cons (name : String) (names : List String) :
    "/".intercalate (name :: names) = name ++ (if names = [] then "" else "/" ++ "/".intercalate names) := by
  cases names with
  | nil => simp
  | cons next names => simp [String.intercalate_cons_cons, String.append_assoc]

theorem isAbsolute_text (rooted : Bool) (plain : ∀ part ∈ parts, part ≠ "" ∧ '/' ∉ part.toList) : isAbsolute (text rooted parts) = rooted := by
  cases rooted with
  | true => exact isAbsolute_append (p := "/") (by decide) _
  | false =>
    cases parts with
    | nil => rfl
    | cons part parts =>
      have first := plain part List.mem_cons_self
      rw [text, if_neg (by simp), if_neg (by simp), intercalate_cons, isAbsolute_append first.1]
      exact isAbsolute_of_no_slash first.2

theorem cleanSegments_text (settled : Settled rooted parts.reverse) : cleanSegments (text rooted parts) = parts := by
  have plain : ∀ part ∈ parts, part ≠ "" ∧ '/' ∉ part.toList :=
    fun part member => settled.plain part (List.mem_reverse.mpr member)
  rw [cleanSegments, isAbsolute_text rooted plain, walk_text fun part member => (plain part member).2, settled.walk_eq,
    List.reverse_reverse]

theorem intercalate_eq_empty (plain : ∀ part ∈ parts, part ≠ "") : "/".intercalate parts = "" ↔ parts = [] := by
  cases parts with
  | nil => simp
  | cons part parts => simp [intercalate_cons, plain part List.mem_cons_self]

theorem text_ne_empty (rooted : Bool) (plain : ∀ part ∈ parts, part ≠ "") : text rooted parts ≠ "" := by
  intro empty
  rw [text] at empty
  split at empty
  · simp at empty
  · split at empty
    · exact absurd empty (by decide)
    · rename_i nonempty
      exact nonempty ((intercalate_eq_empty plain).mp empty)

theorem clean_eq (p : String) : clean p = text (isAbsolute p) (cleanSegments p) := by
  have plain : ∀ part ∈ cleanSegments p, part ≠ "" := fun part member =>
    ((settled_cleanSegments p).plain part (List.mem_reverse.mpr member)).1
  simp only [clean, text, intercalate_eq_empty plain]

theorem clean_text (settled : Settled rooted parts.reverse) : clean (text rooted parts) = text rooted parts := by
  have plain : ∀ part ∈ parts, part ≠ "" ∧ '/' ∉ part.toList :=
    fun part member => settled.plain part (List.mem_reverse.mpr member)
  rw [clean_eq, isAbsolute_text rooted plain, cleanSegments_text settled]

theorem text_injective (settled : Settled rooted parts.reverse) {parts' : List String}
    (settled' : Settled rooted parts'.reverse) (same : text rooted parts = text rooted parts') : parts = parts' := by
  rw [← cleanSegments_text settled, same, cleanSegments_text settled']

theorem mem_text (rooted : Bool) {c : Char} (member : part ∈ parts) (inside : c ∈ part.toList) :
    c ∈ (text rooted parts).toList := by
  have joined : c ∈ ("/".intercalate parts).toList := by
    induction parts with
    | nil => contradiction
    | cons first rest ih =>
      rw [intercalate_cons, String.toList_append, List.mem_append]
      rcases List.mem_cons.mp member with rfl | later
      · exact .inl inside
      · right
        rw [if_neg (List.ne_nil_of_mem later), String.toList_append, List.mem_append]
        exact .inr (ih later)
  have nonempty : parts ≠ [] := List.ne_nil_of_mem member
  cases rooted with
  | true =>
    rw [text, if_pos rfl, String.toList_append, List.mem_append]
    exact .inr joined
  | false =>
    rw [text, if_neg (by simp), if_neg nonempty]
    exact joined

theorem cleanSegments_append (nonempty : working ≠ "") (p : String) : cleanSegments (working ++ "/" ++ p) =
    ((segments p).foldl (push (isAbsolute working)) (cleanSegments working).reverse).reverse := by
  rw [cleanSegments, segments_append, List.foldl_append, String.append_assoc, isAbsolute_append nonempty, cleanSegments,
    List.reverse_reverse]

theorem clean_slash (nonempty : p ≠ "") : clean (p ++ "/") = clean p := by
  have shape : p ++ "/" = p ++ "/" ++ "" := by simp
  rw [clean_eq, clean_eq, shape, cleanSegments_append nonempty, String.append_assoc, isAbsolute_append nonempty,
    show segments "" = [""] from rfl, List.foldl_cons, push_empty, List.foldl_nil, List.reverse_reverse]

theorem clean_clean (p : String) : clean (clean p) = clean p := by
  rw [clean_eq p, clean_text (settled_cleanSegments p)]

/-- The last segment of a path and what stands before it. -/
theorem text_concat (part : String) : text rooted (parts ++ [part]) =
    (if parts = [] then (if rooted then "/" else "") else text rooted parts ++ "/") ++ part := by
  by_cases none : parts = []
  · cases rooted <;> simp [none, text]
  · have joined := String.intercalate_append_of_ne_nil (s := "/") none (List.cons_ne_nil part [])
    cases rooted <;> simp [none, text, joined, String.append_assoc]

/-- What stands at the end of a path behind the last slash. -/
theorem takeWhile_reverse (plain : '/' ∉ file.toList) (ends : directory = "" ∨ ∃ before, directory = before ++ "/") :
    (directory ++ file).toList.reverse.takeWhile (· ≠ '/') = file.toList.reverse ∧
      (directory ++ file).toList.reverse.dropWhile (· ≠ '/') = directory.toList.reverse := by
  have plain' : ∀ c ∈ file.toList.reverse, decide (c ≠ '/') = true := by
    intro c inside
    refine decide_eq_true ?_
    rintro rfl
    exact plain (List.mem_reverse.mp inside)
  rw [String.toList_append, List.reverse_append, List.takeWhile_append_of_pos plain', List.dropWhile_append_of_pos plain']
  rcases ends with rfl | ⟨before, rfl⟩
  · simp
  · simp [String.toList_append]

theorem split_eq (plain : '/' ∉ file.toList) (ends : directory = "" ∨ ∃ before, directory = before ++ "/") :
    split (directory ++ file) = (directory, file) := by
  obtain ⟨taken, left⟩ := takeWhile_reverse plain ends
  simp only [split, taken, left, List.reverse_reverse, String.ofList_toList]

theorem base_eq (nonempty : file ≠ "") (plain : '/' ∉ file.toList)
    (ends : directory = "" ∨ ∃ before, directory = before ++ "/") : base (directory ++ file) = file := by
  have taken := (takeWhile_reverse plain ends).1
  have filled : directory ++ file ≠ "" := by simp [nonempty]
  -- The path ends in a character that is no slash.
  have last : (directory ++ file).toList.reverse.dropWhile (· = '/') = (directory ++ file).toList.reverse := by
    cases chars : file.toList.reverse with
    | nil => exact absurd (by simpa using chars) nonempty
    | cons c rest =>
      have c_slash : c ≠ '/' := fun same => plain (List.mem_reverse.mp (by simp [chars, same]))
      simp [String.toList_append, chars, c_slash]
  rw [base, if_neg filled, last]
  split
  · rename_i none
    exact absurd (by simpa [and_comm] using none) filled
  · rw [taken, List.reverse_reverse, String.ofList_toList]

/-- The last name of a path of names. -/
theorem base_concat (nonempty : part ≠ "") (plain : '/' ∉ part.toList) :
    base ("/".intercalate (parts ++ [part])) = part := by
  have written : text false (parts ++ [part]) = _ := text_concat part
  rw [text, if_neg Bool.false_ne_true, if_neg (by simp)] at written
  rw [written]
  refine base_eq nonempty plain ?_
  split
  · exact .inl rfl
  · exact .inr ⟨_, rfl⟩

/-! ## Paths below a directory -/

theorem join_eq (nonempty : directory ≠ "") (named : ∀ name ∈ names, IsName name) :
    join (directory :: names) = text (isAbsolute directory) (cleanSegments directory ++ names) := by
  have written : "/".intercalate (directory :: names) =
      directory ++ (if names = [] then "" else "/" ++ "/".intercalate names) := intercalate_cons ..
  have split : segments ("/".intercalate (directory :: names)) = segments directory ++ names := by
    rw [written]
    by_cases none : names = []
    · simp [none]
    · rw [if_neg none, ← String.append_assoc, segments_append,
        segments_intercalate none fun name member => (named name member).no_slash]
  have joined : join (directory :: names) = clean ("/".intercalate (directory :: names)) := by
    simp [join, nonempty]
  rw [joined, clean_eq, cleanSegments, split, written, isAbsolute_append nonempty, List.foldl_append, walk_names named,
    List.reverse_append, List.reverse_reverse, cleanSegments]

/-- A clean path at a directory or below it. -/
def Under (directory p : String) : Prop :=
  ∃ names, (∀ name ∈ names, IsName name) ∧ p = text (isAbsolute directory) (cleanSegments directory ++ names)

theorem settled_under (directory : String) (named : ∀ name ∈ names, IsName name) :
    Settled (isAbsolute directory) (cleanSegments directory ++ names).reverse := by
  rw [List.reverse_append]
  exact (settled_cleanSegments directory).append fun name member => named name (List.mem_reverse.mp member)

theorem Under.ne_empty (under : Under directory p) : p ≠ "" := by
  obtain ⟨names, named, rfl⟩ := under
  refine text_ne_empty _ fun part member => ?_
  exact ((settled_under directory named).plain part (List.mem_reverse.mpr member)).1

theorem under_clean (directory : String) : Under directory (clean directory) :=
  ⟨[], by simp, by rw [List.append_nil, clean_eq]⟩

theorem Under.join (under : Under directory p) (named : ∀ name ∈ names, IsName name) :
    Under directory (Path.join (p :: names)) := by
  have nonempty := under.ne_empty
  obtain ⟨names', named', rfl⟩ := under
  have settled := settled_under directory named'
  refine ⟨names' ++ names, fun name member => (List.mem_append.mp member).elim (named' name) (named name), ?_⟩
  rw [join_eq nonempty named, isAbsolute_text _ fun part member => settled.plain part (List.mem_reverse.mpr member),
    cleanSegments_text settled, List.append_assoc]

/-- What a working directory puts before a path depends only on the directory above it. -/
theorem exists_absolute_eq (rooted_working : isAbsolute working = true) (directory : String) :
    ∃ lead, Settled true lead.reverse ∧ ∀ names, (∀ name ∈ names, IsName name) →
      absolute working (text (isAbsolute directory) (cleanSegments directory ++ names)) = text true (lead ++ names) := by
  have known := settled_cleanSegments directory
  have shown (names : List String) (named : ∀ name ∈ names, IsName name) :
      isAbsolute (text (isAbsolute directory) (cleanSegments directory ++ names)) = isAbsolute directory :=
    isAbsolute_text _ fun part member => (settled_under directory named).plain part (List.mem_reverse.mpr member)
  cases kind : isAbsolute directory with
  | true =>
    rw [kind] at known
    refine ⟨cleanSegments directory, known, fun names named => ?_⟩
    have fixed := clean_text (settled_under directory named)
    have start := shown names named
    rw [kind] at fixed start
    rw [absolute, if_pos start, fixed]
  | false =>
    have plain : ∀ part ∈ cleanSegments directory, '/' ∉ part.toList :=
      fun part member => (known.plain part (List.mem_reverse.mpr member)).2
    have walked : Settled true ((cleanSegments directory).foldl (push true) (cleanSegments working).reverse) :=
      (rooted_working ▸ settled_cleanSegments working).walk plain
    refine ⟨((cleanSegments directory).foldl (push true) (cleanSegments working).reverse).reverse, by
      rwa [List.reverse_reverse], fun names named => ?_⟩
    have nonempty : working ≠ "" := by
      rintro rfl
      exact absurd rooted_working (by decide)
    have start := shown names named
    rw [kind] at start
    have parts : ∀ part ∈ cleanSegments directory ++ names, '/' ∉ part.toList := fun part member =>
      (List.mem_append.mp member).elim (plain part) fun inside => (named part inside).no_slash
    have joined : join [working, text false (cleanSegments directory ++ names)] =
        clean (working ++ "/" ++ text false (cleanSegments directory ++ names)) := by
      simp [join, nonempty, String.append_assoc]
    rw [absolute, if_neg (by simp [start]), joined, clean_eq, cleanSegments_append nonempty, String.append_assoc,
      isAbsolute_append nonempty, rooted_working, walk_text parts, List.foldl_append, walk_names named, List.reverse_append,
      List.reverse_reverse]

/-- Below one directory, different clean paths lead to different places. -/
theorem Under.eq_of_absolute_eq {q : String} (rooted_working : isAbsolute working = true) (under : Under directory p)
    (under' : Under directory q) (same : absolute working p = absolute working q) : p = q := by
  obtain ⟨lead, settled, moved⟩ := exists_absolute_eq rooted_working directory
  obtain ⟨names, named, rfl⟩ := under
  obtain ⟨names', named', rfl⟩ := under'
  rw [moved names named, moved names' named'] at same
  have extended {names : List String} (named : ∀ name ∈ names, IsName name) : Settled true (lead ++ names).reverse := by
    rw [List.reverse_append]
    exact settled.append fun name member => named name (List.mem_reverse.mp member)
  have names_eq := List.append_cancel_left (text_injective (extended named) (extended named') same)
  rw [names_eq]

end DesignLint.Path
