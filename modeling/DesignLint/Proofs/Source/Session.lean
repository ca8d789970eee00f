import DesignLint.Proofs.Source.Coordinate
import DesignLint.Source.Session

/-! What the positions of a session remember. Offset and coordinate take turns in leading a position; while a text stays as
it is, a coordinate that is remembered leads to the offset beside it, and a request that fails loses none. -/
namespace DesignLint

/-- A remembered coordinate leads to the offset, which lies in the text. It need not be the coordinate of the offset: one that
was set outside its line is kept as it was set. -/
def Position.Coherent (text : Bytes) (p : Position) : Prop :=
  ∀ c, p.cached = some c → p.offset = Coordinate.toOffset text c ∧ 0 ≤ p.offset ∧ p.offset ≤ text.length

/-- A position that has not moved and still remembers what it did. -/
structure Position.Recalls (p p' : Position) : Prop where
  offset_eq : p'.offset = p.offset
  cached_eq : ∀ c, p.cached = some c → p'.cached = some c

namespace Position

variable {text : Bytes} {p p' p'' : Position} {c : Coordinate}

theorem Recalls.refl (p : Position) : p.Recalls p := ⟨rfl, fun _ => id⟩

theorem Recalls.trans (first : p.Recalls p') (next : p'.Recalls p'') : p.Recalls p'' :=
  ⟨next.offset_eq.trans first.offset_eq, fun c known => next.cached_eq c (first.cached_eq c known)⟩

theorem coherent_ofOffset (text : Bytes) (offset : Int) : (ofOffset offset).Coherent text := nofun

theorem coherent_setCoordinate (text : Bytes) (c : Coordinate) : (setCoordinate text c).Coherent text := by
  rintro _ ⟨⟩
  exact ⟨rfl, Int.natCast_nonneg _, Int.ofNat_le.mpr (Coordinate.toOffset_le text c)⟩

/-- Asking for the coordinate keeps the offset and what is remembered already; what is remembered from then on fits to both. -/
theorem coordinate_ok (coherent : p.Coherent text) (found : p.coordinate text = .ok (c, p')) :
    p'.Coherent text ∧ p.Recalls p' := by
  rw [coordinate] at found
  cases cached : p.cached with
  | some known =>
    rw [cached] at found
    cases found
    exact ⟨coherent, .refl p⟩
  | none =>
    rw [cached] at found
    by_cases outside : (decide (p.offset < 0) || decide (p.offset > text.length)) = true
    · simp only [Coordinate.ofOffset?, if_pos outside] at found
      cases found
    · simp only [Coordinate.ofOffset?, if_neg outside] at found
      cases found
      simp only [Bool.or_eq_true, decide_eq_true_eq, not_or, Int.not_lt] at outside
      obtain ⟨nonneg, le⟩ := outside
      refine ⟨?_, rfl, fun c known => (Option.some_ne_none c (known.symm.trans cached)).elim⟩
      rintro _ ⟨⟩
      refine ⟨?_, nonneg, le⟩
      rw [Coordinate.toOffset_ofOffset (by omega), Int.toNat_of_nonneg nonneg]

theorem coherent_setLine {line : Int} (moved : p.setLine text line = .ok p') : p'.Coherent text := by
  rw [setLine] at moved
  cases found : p.coordinate text with
  | error fault =>
    rw [found] at moved
    cases moved
  | ok known =>
    rw [found] at moved
    cases moved
    exact coherent_setCoordinate text _

theorem coherent_setCharacter {character : Int} (moved : p.setCharacter text character = .ok p') : p'.Coherent text := by
  rw [setCharacter] at moved
  cases found : p.coordinate text with
  | error fault =>
    rw [found] at moved
    cases moved
  | ok known =>
    rw [found] at moved
    cases moved
    exact coherent_setCoordinate text _

end Position

namespace Source

/-- All positions of a session are coherent. -/
def Session.Coherent (s : Session) : Prop := ∀ p ∈ s.positions, p.Coherent s.text

/-- A later session in which nothing has moved, and in which all is remembered that was. -/
structure Session.Recalls (s s' : Session) : Prop where
  text_eq : s'.text = s.text
  names_eq : s'.names = s.names
  ranges_eq : s'.ranges = s.ranges
  size_eq : s'.positions.size = s.positions.size
  positions : ∀ handle, (s.peek handle).Recalls (s'.peek handle)

namespace Session

variable {s s' s'' : Session} {handle : Nat} {p : Position} {c : Coordinate} {command : Command} {fault : PlaceFault}

theorem Recalls.refl (s : Session) : s.Recalls s :=
  ⟨rfl, rfl, rfl, rfl, fun _ => .refl _⟩

theorem Recalls.trans (first : s.Recalls s') (next : s'.Recalls s'') : s.Recalls s'' where
  text_eq := next.text_eq.trans first.text_eq
  names_eq := next.names_eq.trans first.names_eq
  ranges_eq := next.ranges_eq.trans first.ranges_eq
  size_eq := next.size_eq.trans first.size_eq
  positions handle := (first.positions handle).trans (next.positions handle)

theorem Coherent.peek (coherent : s.Coherent) (handle : Nat) : (s.peek handle).Coherent s.text := by
  rw [Session.peek, Array.getD_eq_getD_getElem?]
  cases found : s.positions[handle]? with
  | none => exact Position.coherent_ofOffset _ _
  | some p => exact coherent p (Array.mem_of_getElem? found)

theorem Coherent.put (coherent : s.Coherent) (fits : p.Coherent s.text) (handle : Nat) : (s.put handle p).Coherent := by
  intro q member
  rcases Array.mem_or_eq_of_mem_setIfInBounds member with old | rfl
  · exact coherent q old
  · exact fits

theorem Recalls.put (recalls : (s.peek handle).Recalls p) : s.Recalls (s.put handle p) := by
  refine ⟨rfl, rfl, rfl, Array.size_setIfInBounds .., fun other => ?_⟩
  rw [Session.peek, Session.peek, Session.put, Array.getD_eq_getD_getElem?, Array.getD_eq_getD_getElem?,
    Array.getElem?_setIfInBounds]
  split
  · rename_i same
    subst same
    rw [Session.peek, Array.getD_eq_getD_getElem?] at recalls
    split
    · exact recalls
    · rename_i outside
      rw [Array.getElem?_eq_none (Nat.le_of_not_lt outside)]
      exact .refl _
  · exact .refl _

/-! ### Reading -/

theorem readCoordinate_ok (coherent : s.Coherent) (found : s.readCoordinate handle = .ok (c, s')) :
    s'.Coherent ∧ s.Recalls s' := by
  rw [readCoordinate] at found
  split at found
  · rename_i known p read
    cases found
    obtain ⟨fits, recalls⟩ := Position.coordinate_ok (coherent.peek handle) read
    exact ⟨coherent.put fits handle, .put recalls⟩
  · cases found

/-- The start of a range is remembered even if its end cannot be read. -/
theorem readSpan_any (coherent : s.Coherent) (first last : Nat) :
    (s.readSpan first last).2.Coherent ∧ s.Recalls (s.readSpan first last).2 := by
  rw [readSpan]
  split
  · exact ⟨coherent, .refl s⟩
  · rename_i start s₁ read
    obtain ⟨coherent₁, recalls₁⟩ := readCoordinate_ok coherent read
    split
    · exact ⟨coherent₁, recalls₁⟩
    · rename_i stop s₂ read
      obtain ⟨coherent₂, recalls₂⟩ := readCoordinate_ok coherent₁ read
      exact ⟨coherent₂, recalls₁.trans recalls₂⟩

/-! ### Requests -/

/-- What a request does to the positions of a session: they stay coherent, and if the request fails nothing has moved. -/
structure Keeps (s : Session) (outcome : Session × Answer) : Prop where
  text_eq : outcome.1.text = s.text
  coherent : outcome.1.Coherent
  recalls : ∀ fault, outcome.2 = .fault fault → s.Recalls outcome.1

theorem Keeps.same (coherent : s.Coherent) (answer : Answer) : s.Keeps (s, answer) := ⟨rfl, coherent, fun _ _ => .refl s⟩

theorem Keeps.onPosition {name : String} {act : Nat → Position → Session × Answer} (coherent : s.Coherent)
    (kept : ∀ handle p, s.Keeps (act handle p)) : s.Keeps (s.onPosition name act) := by
  rw [Session.onPosition]
  split
  · exact .same coherent _
  · exact kept _ _

theorem Keeps.onRange {name : String} {act : Nat → Nat → Session × Answer} (coherent : s.Coherent)
    (kept : ∀ first last, s.Keeps (act first last)) : s.Keeps (s.onRange name act) := by
  rw [Session.onRange]
  split
  · exact .same coherent _
  · exact kept _ _

theorem Keeps.moved {result : Except RangeFault Position} (coherent : s.Coherent)
    (fits : ∀ p, result = .ok p → p.Coherent s.text) : s.Keeps (s.moved handle result) := by
  cases result with
  | error fault => exact .same coherent _
  | ok p =>
    refine ⟨rfl, coherent.put (fits p rfl) handle, fun fault failed => ?_⟩
    unfold Session.moved at failed
    cases cached : p.cached <;> simp [cached] at failed

theorem Coherent.addPosition (coherent : s.Coherent) (name : String) (offset : Int) : (s.addPosition name offset).Coherent := by
  intro p member
  rcases Array.mem_push.mp member with old | rfl
  · exact coherent p old
  · exact Position.coherent_ofOffset _ _

theorem run_keeps (coherent : s.Coherent) (fixed : ∀ text, command ≠ .setText text) : s.Keeps (s.run command) := by
  cases command with
  | coordinate offset => exact .same coherent _
  | offset place => exact .same coherent _
  | label place => exact .same coherent _
  | setText text => exact absurd rfl (fixed text)
  | newPosition name offset => exact ⟨rfl, coherent.addPosition name offset, nofun⟩
  | get name =>
    refine .onPosition coherent fun handle p => ?_
    split
    · exact .same coherent _
    · rename_i c s' read
      obtain ⟨coherent', recalls⟩ := readCoordinate_ok coherent read
      exact ⟨recalls.text_eq, coherent', nofun⟩
  | getOffset name => exact .onPosition coherent fun handle p => .same coherent _
  | setOffset name offset =>
    exact .onPosition coherent fun handle p => ⟨rfl, coherent.put (Position.coherent_ofOffset _ _) handle, nofun⟩
  | setLine name line =>
    exact .onPosition coherent fun handle p => .moved coherent fun p' => Position.coherent_setLine
  | setCharacter name character =>
    exact .onPosition coherent fun handle p => .moved coherent fun p' => Position.coherent_setCharacter
  | newRange name start stop =>
    rw [run]
    split
    · exact .same coherent _
    · exact ⟨rfl, (coherent.addPosition (name ++ ".start") start).addPosition (name ++ ".end") stop, nofun⟩
  | span name =>
    refine .onRange coherent fun first last => ?_
    have kept := readSpan_any coherent first last
    split <;> rename_i read <;> rw [read] at kept
    · exact ⟨kept.2.text_eq, kept.1, nofun⟩
    · exact ⟨kept.2.text_eq, kept.1, fun _ _ => kept.2⟩
  | length name => exact .onRange coherent fun first last => .same coherent _
  | trim name =>
    refine .onRange coherent fun first last => ?_
    dsimp only
    split
    · exact .same coherent _
    · rename_i stop' trimmed
      refine ⟨?_, ?_, nofun⟩
      · split <;> rfl
      · split
        · exact coherent
        · exact coherent.put (Position.coherent_ofOffset _ _) last
  | locate name =>
    refine .onRange coherent fun first last => ?_
    have kept := readSpan_any coherent first last
    split <;> rename_i read <;> rw [read] at kept
    · exact ⟨kept.2.text_eq, kept.1, nofun⟩
    · exact ⟨kept.2.text_eq, kept.1, fun _ _ => kept.2⟩

/-! ### Runs -/

/-- The session after some requests. -/
def after (s : Session) (commands : List Command) : Session := commands.foldl (fun s command => (s.run command).1) s

/-- Further requests are answered by the session after those before. -/
theorem runAll_append (s : Session) (commands more : List Command) :
    s.runAll (commands ++ more) = s.runAll commands ++ (s.after commands).runAll more := by
  induction commands generalizing s with
  | nil => rfl
  | cons command commands ih => exact congrArg _ (ih _)

theorem after_coherent (coherent : s.Coherent) {commands : List Command} (fixed : ∀ text, .setText text ∉ commands) :
    (s.after commands).text = s.text ∧ (s.after commands).Coherent := by
  induction commands generalizing s with
  | nil => exact ⟨rfl, coherent⟩
  | cons command commands ih =>
    have kept := run_keeps coherent fun text same => fixed text (same ▸ List.mem_cons_self)
    obtain ⟨text_eq, coherent'⟩ := ih kept.coherent fun text member => fixed text (List.mem_cons_of_mem _ member)
    exact ⟨text_eq.trans kept.text_eq, coherent'⟩

theorem coherent_start (text : Bytes) : (start text).Coherent := by
  intro p member
  exact absurd member (Array.not_mem_empty p)

/-- Over a text that stays as it is, whatever is asked of a session and however often it fails, a coordinate that a position
remembers leads to its offset, which lies in the text; and a request that fails moves no position and makes none forget. -/
theorem positions_coherent (text : Bytes) (commands : List Command) (fixed : ∀ other, .setText other ∉ commands) :
    ((start text).after commands).text = text ∧ ((start text).after commands).Coherent ∧
      ∀ command fault, (((start text).after commands).run command).2 = .fault fault →
        ((start text).after commands).Recalls (((start text).after commands).run command).1 := by
  obtain ⟨text_eq, coherent⟩ := after_coherent (coherent_start text) fixed
  refine ⟨text_eq, coherent, fun command fault failed => ?_⟩
  refine (run_keeps coherent ?_).recalls fault failed
  rintro other rfl
  cases failed

/-- A position is set to a line past the text and keeps that line; then its offset is moved out of the text and its
coordinate cannot be read. -/
theorem positions_coherent_moved :
    let commands : List Command := [.newPosition "p" 1, .setLine "p" 7, .newPosition "q" 0, .setOffset "q" 99]
    (∀ other, .setText other ∉ commands) ∧
      ((start [97, 10, 98]).after commands).positions = #[⟨3, some ⟨7, 1⟩⟩, ⟨99, none⟩] ∧
      (((start [97, 10, 98]).after commands).run (.get "q")).2 = .fault (.range ⟨.coordinate, 99, 99, 3⟩) ∧
      ((start [97, 10, 98]).after commands).Coherent ∧
      ((start [97, 10, 98]).after commands).Recalls (((start [97, 10, 98]).after commands).run (.get "q")).1 := by
  intro commands
  have fixed : ∀ other, .setText other ∉ commands := by simp [commands]
  obtain ⟨_, coherent, recalls⟩ := positions_coherent [97, 10, 98] commands fixed
  have failed : (((start [97, 10, 98]).after commands).run (.get "q")).2 = .fault (.range ⟨.coordinate, 99, 99, 3⟩) := rfl
  exact ⟨fixed, by decide, failed, coherent, recalls _ _ failed⟩

end Session
end Source
end DesignLint
