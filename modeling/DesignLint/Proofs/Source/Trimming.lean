import DesignLint.Proofs.Source.Session

/-! Trimming. The white space at the end of a range is walked over from behind, a byte at a time, until the start is reached or
a byte of another kind stands before the end. Where this stops there is no choice. A range that was checked when it was made
can be moved afterwards, and before the walk only its order and its upper end are checked again: the walk asks for a byte before
the text exactly if the range starts there and holds nothing but white space. -/
namespace DesignLint

/-- The byte at a place, which is missing before the text and behind it. -/
def Bytes.byte? (text : Bytes) (place : Int) : Option UInt8 := if place < 0 then none else text[place.toNat]?

/-- Nothing but white space stands from one place of a text up to another. -/
def Trimmable (text : Bytes) (low high : Int) : Prop :=
  ∀ place, low ≤ place → place < high → ∃ b ∈ text.byte? place, isTrimmable b = true

/-- A place where a range ends once the white space at its end is left out: nothing else stands from there to the old end, and
before it the range starts or another byte stands. -/
structure EndsTrimmed (text : Bytes) (start stop place : Int) : Prop where
  start_le : start ≤ place
  le_stop : place ≤ stop
  trimmable : Trimmable text place stop
  stands : place = start ∨ ∃ b ∈ text.byte? (place - 1), isTrimmable b = false

/-- A range that starts before the text and holds nothing but white space. -/
structure RunsOff (text : Bytes) (start stop : Int) : Prop where
  before : start < 0
  nonempty : start < stop
  trimmable : Trimmable text 0 stop

/-- Goes back over white space, asking for one byte after the other. -/
def walkBack (text : Bytes) (start stop : Int) : Except PlaceFault Int :=
  if start < stop then
    match text.byte? (stop - 1) with
    | none => .error .beforeText
    | some b => if isTrimmable b then walkBack text start (stop - 1) else .ok stop
  else .ok stop
termination_by (stop - start).toNat

variable {text : Bytes} {start stop place place' low high : Int} {b : UInt8}

/-! ### Bytes of a text -/

theorem Bytes.byte?_natCast (text : Bytes) (n : Nat) : text.byte? n = text[n]? := by
  rw [byte?, if_neg (by omega), Int.toNat_natCast]

theorem Bytes.nonneg_of_byte? (found : text.byte? place = some b) : 0 ≤ place := by
  rw [byte?] at found
  split at found
  · cases found
  · omega

/-- Below the end of a text a byte can only be missing before the text. -/
theorem Bytes.neg_of_byte? (inside : place < text.length) (missing : text.byte? place = none) : place < 0 := by
  by_contra nonneg
  rw [byte?, if_neg nonneg, List.getElem?_eq_none_iff] at missing
  omega

/-! ### The trimmed end -/

theorem Trimmable.behind (trimmable : Trimmable text low (high - 1)) (found : text.byte? (high - 1) = some b)
    (white : isTrimmable b = true) : Trimmable text low high := by
  intro place above below
  rcases Int.lt_or_eq_of_le (Int.le_sub_one_of_lt below) with earlier | rfl
  · exact trimmable place above earlier
  · exact ⟨b, found, white⟩

theorem trimmable_empty (text : Bytes) (crossed : high ≤ low) : Trimmable text low high :=
  fun _ above below => absurd (Int.lt_of_lt_of_le below crossed) (Int.not_lt.mpr above)

/-- No other byte stands between places with nothing but white space between them. -/
theorem Trimmable.not_stands (trimmable : Trimmable text low high) (above : low ≤ place) (below : place < high) :
    ¬ ∃ b ∈ text.byte? place, isTrimmable b = false := by
  rintro ⟨b, found, solid⟩
  obtain ⟨b', found', white⟩ := trimmable place above below
  cases Option.mem_unique found found'
  exact Bool.noConfusion (solid.symm.trans white)

namespace EndsTrimmed

theorem le (trimmed : EndsTrimmed text start stop place) (other : EndsTrimmed text start stop place') : place' ≤ place := by
  by_contra later
  rw [Int.not_le] at later
  rcases other.stands with same | stands
  · exact absurd trimmed.start_le (by omega)
  · exact trimmed.trimmable.not_stands (by omega) (by have := other.le_stop; omega) stands

theorem unique (trimmed : EndsTrimmed text start stop place) (other : EndsTrimmed text start stop place') : place' = place :=
  Int.le_antisymm (trimmed.le other) (other.le trimmed)

theorem behind (trimmed : EndsTrimmed text start (stop - 1) place) (found : text.byte? (stop - 1) = some b)
    (white : isTrimmable b = true) : EndsTrimmed text start stop place where
  start_le := trimmed.start_le
  le_stop := by have := trimmed.le_stop; omega
  trimmable := trimmed.trimmable.behind found white
  stands := trimmed.stands

/-- A trimmed range is trimmed. -/
theorem again (trimmed : EndsTrimmed text start stop place) : EndsTrimmed text start place place where
  start_le := trimmed.start_le
  le_stop := Int.le_refl place
  trimmable := trimmable_empty text (Int.le_refl place)
  stands := trimmed.stands

end EndsTrimmed

theorem RunsOff.behind (off : RunsOff text start (stop - 1)) (found : text.byte? (stop - 1) = some b)
    (white : isTrimmable b = true) : RunsOff text start stop where
  before := off.before
  nonempty := by have := off.nonempty; omega
  trimmable := off.trimmable.behind found white

/-- A range that runs off the text has no trimmed end. -/
theorem RunsOff.not_endsTrimmed (off : RunsOff text start stop) : ¬ EndsTrimmed text start stop place := by
  intro trimmed
  rcases trimmed.stands with rfl | ⟨b, found, solid⟩
  · obtain ⟨b, found, _⟩ := trimmed.trimmable place (Int.le_refl place) off.nonempty
    exact absurd (Bytes.nonneg_of_byte? found) (Int.not_le.mpr off.before)
  · have nonneg := Bytes.nonneg_of_byte? found
    have le_stop := trimmed.le_stop
    exact off.trimmable.not_stands nonneg (by omega) ⟨b, found, solid⟩

/-! ### The walk -/

/-- Going back over a range that does not end behind the text leads to its trimmed end or off the front of the text. -/
theorem walkBack_cases (ordered : start ≤ stop) (inside : stop ≤ text.length) :
    (∃ place, walkBack text start stop = .ok place ∧ EndsTrimmed text start stop place) ∨
      walkBack text start stop = .error .beforeText ∧ RunsOff text start stop := by
  fun_induction walkBack text start stop with
  | case1 stop more missing =>
    have front : stop - 1 < 0 := Bytes.neg_of_byte? (by omega) missing
    exact .inr ⟨rfl, by omega, more, trimmable_empty text (by omega)⟩
  | case2 stop more b found white ih =>
    rcases ih (by omega) (by omega) with ⟨place, run, trimmed⟩ | ⟨run, off⟩
    · exact .inl ⟨place, run, trimmed.behind found white⟩
    · exact .inr ⟨run, off.behind found white⟩
  | case3 stop more b found solid =>
    exact .inl ⟨stop, rfl, ordered, Int.le_refl stop, trimmable_empty text (Int.le_refl stop),
      .inr ⟨b, found, Bool.eq_false_iff.mpr solid⟩⟩
  | case4 stop none_left =>
    exact .inl ⟨stop, rfl, ordered, Int.le_refl stop, trimmable_empty text (Int.le_refl stop), .inl (by omega)⟩

theorem trimmedEnd_start (text : Bytes) (start : Nat) : trimmedEnd text start start = start := by
  simp [trimmedEnd, Bytes.slice]

/-- Leaving out white space from behind, seen from the last byte. -/
theorem trimmedEnd_succ {start stop : Nat} (ordered : start ≤ stop) (found : text[stop]? = some b) :
    trimmedEnd text start (stop + 1) = if isTrimmable b then trimmedEnd text start stop else stop + 1 := by
  have bound : stop < text.length := (List.getElem?_eq_some_iff.mp found).1
  have longer : text.slice start (stop + 1) = text.slice start stop ++ [b] := by
    rw [Bytes.slice, Nat.sub_add_comm ordered, List.take_add_one, List.getElem?_drop, Nat.add_sub_cancel' ordered, found]
    rfl
  rw [trimmedEnd, longer, List.reverse_append, List.reverse_singleton, List.singleton_append, List.dropWhile_cons]
  split
  · rfl
  · rw [List.length_cons, List.length_reverse, Bytes.slice, List.length_take, List.length_drop]
    omega

/-- A range of a text that was in order when it was made is trimmed within the text. -/
theorem trimmedEnd?_natCast {start stop : Nat} (ordered : start ≤ stop) (inside : stop ≤ text.length) :
    trimmedEnd? text start stop = .ok (trimmedEnd text start stop) := by
  rw [trimmedEnd?, if_neg (by simp; omega), if_pos (by simp)]
  split
  · rename_i same
    rw [← Int.ofNat.inj same, trimmedEnd_start]
  · rfl

theorem trimmedEnd?_before {stop : Nat} (before : start < 0) (inside : stop ≤ text.length) :
    trimmedEnd? text start stop =
      if trimmedEnd text 0 stop = 0 then .error .beforeText else .ok (trimmedEnd text 0 stop) := by
  rw [trimmedEnd?, if_neg (by simp; omega), if_neg (by simp; omega), Int.toNat_natCast]
  cases trimmedEnd text 0 stop <;> rfl

theorem trimmedEnd?_self (inside : stop ≤ text.length) : trimmedEnd? text stop stop = .ok stop := by
  rw [trimmedEnd?, if_neg (by simp; omega), if_pos (by simp), if_pos rfl]

theorem trimmedEnd?_front (more : start < stop) (front : stop ≤ 0) : trimmedEnd? text start stop = .error .beforeText := by
  rw [trimmedEnd?, if_neg (by simp; omega), if_neg (by simp; omega), Int.toNat_of_nonpos front, trimmedEnd_start]
  rfl

/-- The last byte of a range decides whether its end moves. -/
theorem trimmedEnd?_step (more : start < stop) (found : text.byte? (stop - 1) = some b) :
    trimmedEnd? text start stop = if isTrimmable b then trimmedEnd? text start (stop - 1) else .ok stop := by
  obtain ⟨n, last⟩ := Int.eq_ofNat_of_zero_le (Bytes.nonneg_of_byte? found)
  obtain rfl : stop = (n + 1 : Nat) := by omega
  rw [last] at found ⊢
  rw [Bytes.byte?_natCast] at found
  have bound : n < text.length := (List.getElem?_eq_some_iff.mp found).1
  rcases Int.lt_or_le start 0 with before | nonneg
  · rw [trimmedEnd?_before before bound, trimmedEnd?_before before (Nat.le_of_lt bound), trimmedEnd_succ (Nat.zero_le n) found]
    split <;> rfl
  · obtain ⟨m, rfl⟩ := Int.eq_ofNat_of_zero_le nonneg
    have ordered : m ≤ n := by omega
    rw [trimmedEnd?_natCast (by omega) bound, trimmedEnd?_natCast ordered (Nat.le_of_lt bound), trimmedEnd_succ ordered found]
    split <;> rfl

/-- Once order and upper end are checked, trimming is the walk. -/
theorem trimmedEnd?_eq_walkBack (ordered : start ≤ stop) (inside : stop ≤ text.length) :
    trimmedEnd? text start stop = walkBack text start stop := by
  fun_induction walkBack text start stop with
  | case1 stop more missing =>
    have front : stop - 1 < 0 := Bytes.neg_of_byte? (by omega) missing
    exact trimmedEnd?_front more (by omega)
  | case2 stop more b found white ih => rw [trimmedEnd?_step more found, if_pos white, ih (by omega) (by omega)]
  | case3 stop more b found solid => rw [trimmedEnd?_step more found, if_neg solid]
  | case4 stop none_left =>
    obtain rfl : start = stop := by omega
    exact trimmedEnd?_self inside

/-! ### What trimming answers -/

theorem trimmedEnd?_refused (refused : text.length < stop ∨ stop < start) :
    trimmedEnd? text start stop = .error (.range ⟨.trim, start, stop, text.length⟩) := by
  rw [trimmedEnd?, if_pos (by simpa using refused)]

theorem trimmedEnd?_cases (text : Bytes) (start stop : Int) :
    (text.length < stop ∨ stop < start) ∧
        trimmedEnd? text start stop = .error (.range ⟨.trim, start, stop, text.length⟩) ∨
      RunsOff text start stop ∧ trimmedEnd? text start stop = .error .beforeText ∨
      ∃ place, stop ≤ text.length ∧ EndsTrimmed text start stop place ∧ trimmedEnd? text start stop = .ok place := by
  by_cases refused : text.length < stop ∨ stop < start
  · exact .inl ⟨refused, trimmedEnd?_refused refused⟩
  · obtain ⟨inside, ordered⟩ := not_or.mp refused
    rw [Int.not_lt] at inside ordered
    rw [trimmedEnd?_eq_walkBack ordered inside]
    rcases walkBack_cases ordered inside with ⟨place, run, trimmed⟩ | ⟨run, off⟩
    · exact .inr (.inr ⟨place, inside, trimmed, run⟩)
    · exact .inr (.inl ⟨off, run⟩)

theorem trimmedEnd?_of_endsTrimmed (inside : stop ≤ text.length) (trimmed : EndsTrimmed text start stop place) :
    trimmedEnd? text start stop = .ok place := by
  rcases trimmedEnd?_cases text start stop with ⟨refused, _⟩ | ⟨off, _⟩ | ⟨other, _, trimmed', run⟩
  · have := trimmed.start_le.trans trimmed.le_stop
    omega
  · exact absurd trimmed off.not_endsTrimmed
  · rw [run, trimmed.unique trimmed']

namespace Source.Session

/-- The ends of every range are two positions of the session. -/
def HoldsRanges (s : Session) : Prop :=
  ∀ name first last, (name, first, last) ∈ s.ranges → first < last ∧ last < s.positions.size

/-- A later session in which one position was moved, and nothing else has changed. A position that stands there already
remembers what it did. -/
structure MovesOnly (s s' : Session) (handle : Nat) (offset : Int) : Prop where
  text_eq : s'.text = s.text
  names_eq : s'.names = s.names
  ranges_eq : s'.ranges = s.ranges
  size_eq : s'.positions.size = s.positions.size
  others : ∀ other, other ≠ handle → s'.peek other = s.peek other
  moved : s'.peek handle = if offset = (s.peek handle).offset then s.peek handle else .ofOffset offset

variable {s s' : Session} {handle first last : Nat} {name : String} {c : Coordinate}

/-! ### Ranges of a session -/

/-- Positions may change and new ones may be added. -/
theorem HoldsRanges.mono (holds : s.HoldsRanges) (ranges_eq : s'.ranges = s.ranges)
    (size_le : s.positions.size ≤ s'.positions.size) : s'.HoldsRanges := by
  intro name first last member
  obtain ⟨before, bound⟩ := holds name first last (ranges_eq ▸ member)
  exact ⟨before, bound.trans_le size_le⟩

theorem HoldsRanges.put (holds : s.HoldsRanges) (handle : Nat) (p : Position) : (s.put handle p).HoldsRanges :=
  holds.mono rfl (Array.size_setIfInBounds ..).ge

theorem HoldsRanges.addPosition (holds : s.HoldsRanges) (name : String) (offset : Int) :
    (s.addPosition name offset).HoldsRanges :=
  holds.mono rfl (by simp [Session.addPosition])

theorem HoldsRanges.readCoordinate (holds : s.HoldsRanges) (found : s.readCoordinate handle = .ok (c, s')) : s'.HoldsRanges := by
  rw [Session.readCoordinate] at found
  split at found
  · cases found
    exact holds.put _ _
  · cases found

theorem HoldsRanges.readSpan (holds : s.HoldsRanges) (first last : Nat) : (s.readSpan first last).2.HoldsRanges := by
  rw [Session.readSpan]
  split
  · exact holds
  · rename_i start s₁ read
    split
    · exact holds.readCoordinate read
    · rename_i stop s₂ read'
      exact (holds.readCoordinate read).readCoordinate read'

theorem HoldsRanges.onPosition {act : Nat → Position → Session × Answer} (holds : s.HoldsRanges)
    (held : ∀ handle p, (act handle p).1.HoldsRanges) : (s.onPosition name act).1.HoldsRanges := by
  rw [Session.onPosition]
  split
  · exact holds
  · exact held _ _

theorem HoldsRanges.onRange {act : Nat → Nat → Session × Answer} (holds : s.HoldsRanges)
    (held : ∀ first last, (act first last).1.HoldsRanges) : (s.onRange name act).1.HoldsRanges := by
  rw [Session.onRange]
  split
  · exact holds
  · exact held _ _

theorem HoldsRanges.moved (holds : s.HoldsRanges) (handle : Nat) (result : Except RangeFault Position) :
    (s.moved handle result).1.HoldsRanges := by
  cases result with
  | error fault => exact holds
  | ok p => exact holds.put handle p

theorem HoldsRanges.run (holds : s.HoldsRanges) (command : Command) : (s.run command).1.HoldsRanges := by
  cases command with
  | coordinate offset => exact holds
  | offset place => exact holds
  | label place => exact holds
  | setText text => exact holds
  | newPosition name offset => exact holds.addPosition name offset
  | get name =>
    refine holds.onPosition fun handle p => ?_
    split
    · exact holds
    · rename_i read
      exact holds.readCoordinate read
  | getOffset name => exact holds.onPosition fun _ _ => holds
  | setOffset name offset => exact holds.onPosition fun handle p => holds.put handle _
  | setLine name line => exact holds.onPosition fun handle p => holds.moved handle _
  | setCharacter name character => exact holds.onPosition fun handle p => holds.moved handle _
  | newRange name start stop =>
    rw [Session.run]
    split
    · exact holds
    · rintro name' first last (_ | ⟨_, member⟩)
      · simp [Session.addPosition]
      · exact (holds.addPosition (name ++ ".start") start).addPosition (name ++ ".end") stop name' first last member
  | span name =>
    refine holds.onRange fun first last => ?_
    have held := holds.readSpan first last
    split <;> rename_i read <;> rwa [read] at held
  | length name => exact holds.onRange fun _ _ => holds
  | trim name =>
    refine holds.onRange fun first last => ?_
    dsimp only
    split
    · exact holds
    · split
      · exact holds
      · exact holds.put last _
  | locate name =>
    refine holds.onRange fun first last => ?_
    have held := holds.readSpan first last
    split <;> rename_i read <;> rwa [read] at held

theorem HoldsRanges.after (holds : s.HoldsRanges) (commands : List Command) : (s.after commands).HoldsRanges := by
  induction commands generalizing s with
  | nil => exact holds
  | cons command commands ih => exact ih (holds.run command)

theorem holdsRanges_start (text : Bytes) : (Session.start text).HoldsRanges := nofun

/-! ### Trimming a range of a session -/

theorem peek_put_same (bound : handle < s.positions.size) (p : Position) : (s.put handle p).peek handle = p := by
  rw [Session.peek, Session.put, Array.getD_eq_getD_getElem?, Array.getElem?_setIfInBounds_self_of_lt bound, Option.getD_some]

theorem peek_put_other {other : Nat} (different : other ≠ handle) (p : Position) :
    (s.put handle p).peek other = s.peek other := by
  rw [Session.peek, Session.put, Array.getD_eq_getD_getElem?, Array.getElem?_setIfInBounds_ne different.symm,
    ← Array.getD_eq_getD_getElem?, Session.peek]

theorem movesOnly_put (bound : handle < s.positions.size) (offset : Int) :
    s.MovesOnly (if offset = (s.peek handle).offset then s else s.put handle (.ofOffset offset)) handle offset := by
  split
  · rename_i stays
    exact ⟨rfl, rfl, rfl, rfl, fun _ _ => rfl, (if_pos stays).symm⟩
  · rename_i moves
    refine ⟨rfl, rfl, rfl, Array.size_setIfInBounds .., fun other different => peek_put_other different _, ?_⟩
    rw [peek_put_same bound, if_neg moves]

theorem MovesOnly.offset_eq {offset : Int} (moves : s.MovesOnly s' handle offset) : (s'.peek handle).offset = offset := by
  rw [moves.moved]
  split
  · rename_i stays
    exact stays.symm
  · rfl

theorem run_trim_error {fault : PlaceFault} (known : s.findRange? name = some (first, last))
    (failed : trimmedEnd? s.text (s.peek first).offset (s.peek last).offset = .error fault) :
    s.run (.trim name) = (s, .fault fault) := by
  simp only [Session.run, Session.onRange, known, failed]

theorem run_trim_ok {place : Int} (known : s.findRange? name = some (first, last))
    (trimmed : trimmedEnd? s.text (s.peek first).offset (s.peek last).offset = .ok place) :
    s.run (.trim name) = (if place = (s.peek last).offset then s else s.put last (.ofOffset place),
      .offsets (s.peek first).offset place) := by
  simp only [Session.run, Session.onRange, known, trimmed, Position.setOffset]

/-- Trimming a range once more finds its end where it stands. -/
theorem run_trim_again {place : Int} (known : s.findRange? name = some (first, last)) (apart : first ≠ last)
    (inside : (s.peek last).offset ≤ s.text.length)
    (trimmed : EndsTrimmed s.text (s.peek first).offset (s.peek last).offset place) (moves : s.MovesOnly s' last place) :
    s'.run (.trim name) = (s', .offsets (s.peek first).offset place) := by
  have known' : s'.findRange? name = some (first, last) := by rw [findRange?, moves.ranges_eq, ← known, findRange?]
  have start_eq : s'.peek first = s.peek first := moves.others first apart
  have below : place ≤ s.text.length := trimmed.le_stop.trans inside
  have answer : trimmedEnd? s'.text (s'.peek first).offset (s'.peek last).offset = .ok place := by
    rw [moves.text_eq, start_eq, moves.offset_eq]
    exact trimmedEnd?_of_endsTrimmed below trimmed.again
  rw [run_trim_ok known' answer, if_pos moves.offset_eq.symm, start_eq]

/-- Whatever was asked of a session, a range of it is trimmed in one of three ways. If it ends behind the text or before its
start, trimming is refused for that reason, and nothing has changed. If it starts before the text and holds nothing but white
space, a byte before the text is asked for, and nothing has changed either. Otherwise its end alone moves, to the only place with
white space from there to the old end and with the start or another byte before it. Trimming it again answers the same and changes
nothing. -/
theorem trim_exact (text : Bytes) (commands : List Command) (name : String) (first last : Nat)
    (known : ((Session.start text).after commands).findRange? name = some (first, last)) :
    let s := (Session.start text).after commands
    let start := (s.peek first).offset
    let stop := (s.peek last).offset
    let outcome := s.run (.trim name)
    ((s.text.length < stop ∨ stop < start) ∧ outcome = (s, .fault (.range ⟨.trim, start, stop, s.text.length⟩)) ∨
        RunsOff s.text start stop ∧ outcome = (s, .fault .beforeText) ∨
        ∃ place, stop ≤ s.text.length ∧ EndsTrimmed s.text start stop place ∧
          (∀ other, EndsTrimmed s.text start stop other → other = place) ∧
          outcome.2 = .offsets start place ∧ outcome.1.peek first = s.peek first ∧ s.MovesOnly outcome.1 last place) ∧
      outcome.1.run (.trim name) = outcome := by
  intro s start stop outcome
  have holds : s.HoldsRanges := (holdsRanges_start text).after commands
  obtain ⟨_, _, listed, _⟩ := List.lookup_eq_some_iff.mp known
  obtain ⟨before, bound⟩ := holds name first last (listed ▸ List.mem_append_right _ List.mem_cons_self)
  rcases trimmedEnd?_cases s.text start stop with ⟨refused, failed⟩ | ⟨off, failed⟩ | ⟨place, inside, trimmed, run⟩
  · have run : outcome = (s, _) := run_trim_error known failed
    exact ⟨.inl ⟨refused, run⟩, by rw [run]; exact run⟩
  · have run : outcome = (s, _) := run_trim_error known failed
    exact ⟨.inr (.inl ⟨off, run⟩), by rw [run]; exact run⟩
  · have run : outcome = (_, .offsets start place) := run_trim_ok known run
    have moves : s.MovesOnly outcome.1 last place := by
      rw [run]
      exact movesOnly_put bound place
    have again : outcome.1.run (.trim name) = (outcome.1, .offsets start place) :=
      run_trim_again known (Nat.ne_of_lt before) inside trimmed moves
    have answer : outcome.2 = .offsets start place := by rw [run]
    refine ⟨.inr (.inr ⟨place, inside, trimmed, fun _ => trimmed.unique, answer, ?_, moves⟩), ?_⟩
    · exact moves.others first (Nat.ne_of_lt before)
    · rw [again, ← answer]

/-- A range is moved to start before the text and to end at the end of its second line. With a letter in front it is trimmed
behind the letter; without one it runs off the text. -/
theorem trim_exact_moved :
    let moves : List Command := [.newRange "r" 1 2, .setOffset "r.start" (-1), .setLine "r.end" 1]
    let s := (Session.start [97, 32, 10, 32]).after moves
    let blank := (Session.start [32, 32, 10, 32]).after moves
    s.findRange? "r" = some (0, 1) ∧ s.positions = #[⟨-1, none⟩, ⟨4, some ⟨1, 2⟩⟩] ∧
      (s.run (.trim "r")).2 = .offsets (-1) 1 ∧ (∀ place, EndsTrimmed [97, 32, 10, 32] (-1) 4 place ↔ place = 1) ∧
      blank.findRange? "r" = some (0, 1) ∧ blank.positions = #[⟨-1, none⟩, ⟨4, some ⟨1, 2⟩⟩] ∧
      RunsOff [32, 32, 10, 32] (-1) 4 ∧ blank.run (.trim "r") = (blank, .fault .beforeText) := by
  intro moves s blank
  have known : s.findRange? "r" = some (0, 1) := by decide
  have known' : blank.findRange? "r" = some (0, 1) := by decide
  have answer : (s.run (.trim "r")).2 = .offsets (-1) 1 := rfl
  have answer' : (blank.run (.trim "r")).2 = .fault .beforeText := rfl
  refine ⟨known, by decide, answer, ?_, known', by decide, ?_⟩
  · rcases (trim_exact _ moves "r" 0 1 known).1 with ⟨_, run⟩ | ⟨_, run⟩ | ⟨place, _, trimmed, unique, run, _⟩
    · cases answer.symm.trans (congrArg Prod.snd run)
    · cases answer.symm.trans (congrArg Prod.snd run)
    · cases answer.symm.trans run
      refine fun other => ⟨unique other, ?_⟩
      rintro rfl
      exact trimmed
  · rcases (trim_exact _ moves "r" 0 1 known').1 with ⟨_, run⟩ | ⟨off, run⟩ | ⟨place, _, _, _, run, _⟩
    · cases answer'.symm.trans (congrArg Prod.snd run)
    · exact ⟨off, run⟩
    · cases answer'.symm.trans run

end Source.Session
end DesignLint
