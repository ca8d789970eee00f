import DesignLint.Proofs.Token.Lossless
import DesignLint.Proofs.Text.Lowered
import DesignLint.Proofs.Reader.Phrase

/-! Names with points. A selected name has one base: its first component that is not one of the libraries it starts with.
What comes after the base is an element or is left out. This is how the names of a phrase are described here, place by
place, by what stands to the left of the place and by the token behind it; a pass over the tokens finds the same, as long as
library names lead the names they stand in. -/
namespace DesignLint

theorem head?_lower {b : UInt8} (ascii : b < 0x80) (rest : Bytes) :
    (Bytes.lower (b :: rest)).toList.head? = some (lowerChar (Char.ofNat b.toNat)) := by
  simp [Bytes.lower, Bytes.chars, Bytes.units, Bytes.head, ascii]

/-- A name of a text is not a point. -/
theorem point_of_tokenize {text : Bytes} {tokens : List Token} (read : tokenize text = .ok tokens) :
    ∀ t ∈ tokens, t.word = "." → t.isName = false := by
  intro t member point
  cases named : t.isName with
  | false => rfl
  | true =>
    have worded := (tokenize_tokensOf read).worded t member
    obtain ⟨b, rest, same, opens⟩ := Lexer.head_of_mem_identifier (identifier_of_tokenize read member named)
    obtain ⟨ascii, other⟩ := forall_byte (p := fun b => (Lexer.isLetter b || Lexer.isBackslash b) = true →
      b < 0x80 ∧ lowerChar (Char.ofNat b.toNat) ≠ '.') (by decide +kernel) b opens
    have first := head?_lower ascii rest
    rw [← same, ← worded, point] at first
    exact absurd (Option.some.inj first).symm other

/-- The bracket depth behind a token. -/
def Token.depthBehind (t : Token) (depth : Nat) : Nat :=
  if t.opens then depth + 1 else if t.closes then depth - 1 else depth

namespace Phrase

/-- The bracket depth behind tokens, which are given from the nearest to the first. -/
def depthOf : List Token → Nat
  | [] => 0
  | t :: before => t.depthBehind (depthOf before)

/-- Whether a token names something: it is no reserved word, no attribute behind a tick, and no formal or choice before an
arrow inside brackets. -/
def counts (before : List Token) (t next : Token) : Bool :=
  t.isName && !before.head?.any (·.kind = .tick) && !(depthOf before > 0 && next.word = "=>")

/-- Whether a token that names something is the name of a library and stands before a point. -/
def namesLibrary (libraries : List String) (before : List Token) (t next : Token) : Bool :=
  counts before t next && next.word = "." && libraries.contains t.word

/-- Whether a component can be the first one of its name that is no library: there is no point before it, or one behind a
library that leads the name. -/
def leads (libraries : List String) : List Token → Bool
  | [] => true
  | [point] => point.word != "."
  | point :: t :: before => point.word != "." || namesLibrary libraries before t point && leads libraries before

/-- What a component is recorded as: nothing if it is a leading library, the base as what its depth asks for, and every
later component as an element where nothing is written. -/
def nameAt (libraries : List String) (writeDepth : Option Nat) (before : List Token) (t next : Token) : Option Occurrence :=
  if !counts before t next then none
  else if leads libraries before then
    if namesLibrary libraries before t next then none
    else if writeDepth = some (depthOf before) then some (.write t) else some (.read t false)
  else if writeDepth = some (depthOf before) then none else some (.read t true)

/-- Whether the last token that names something is the name of a library before a point. -/
def inLibrary (libraries : List String) : List Token → Token → Bool
  | [], _ => false
  | t :: before, next =>
    if counts before t next then namesLibrary libraries before t next else inLibrary libraries before t

/-- What the pass over the tokens makes of one of them. -/
def useAt (libraries : List String) (writeDepth : Option Nat) (before : List Token) (t next : Token) : Option Occurrence :=
  if !counts before t next then none
  else if namesLibrary libraries before t next then none
  else if writeDepth = some (depthOf before) then
    if before.head?.any (·.word = ".") && !inLibrary libraries before t then none else some (.write t)
  else some (.read t (before.head?.any (·.word = ".") && !inLibrary libraries before t))

/-- A token of a phrase with the tokens around it, those before it from the nearest to the first. -/
structure Place where
  before : List Token
  token : Token
  after : List Token

/-- The places of tokens that stand behind others. -/
def placesFrom : List Token → List Token → List Place
  | _, [] => []
  | before, t :: after => ⟨before, t, after⟩ :: placesFrom (t :: before) after

/-- The places of a phrase. -/
def places (p : Phrase) : List Place := placesFrom [] p.tokens

/-- The token behind a place. -/
def next (p : Phrase) (x : Place) : Token := x.after.headD p.follow

/-- What the places of a phrase are recorded as. -/
def named (libraries : List String) (writeDepth : Option Nat) (p : Phrase) : List Occurrence :=
  p.places.filterMap fun x => nameAt libraries writeDepth x.before x.token (p.next x)

theorem mem_placesFrom {before tokens : List Token} {x : Place} : x ∈ placesFrom before tokens ↔
    ∃ front, tokens = front ++ x.token :: x.after ∧ x.before = front.reverse ++ before := by
  induction tokens generalizing before with
  | nil => simp [placesFrom]
  | cons t tokens ih =>
    rw [placesFrom, List.mem_cons, ih]
    constructor
    · rintro (rfl | ⟨front, rfl, before_eq⟩)
      · exact ⟨[], rfl, rfl⟩
      · exact ⟨t :: front, rfl, by rw [before_eq, List.reverse_cons, List.append_assoc]; rfl⟩
    · rintro ⟨front, split, before_eq⟩
      cases front with
      | nil =>
        cases split
        cases x
        exact .inl (congrArg (Place.mk · _ _) before_eq)
      | cons u front =>
        cases split
        exact .inr ⟨front, rfl, by rw [before_eq, List.reverse_cons, List.append_assoc]; rfl⟩

theorem placesFrom_append (before front back : List Token) : placesFrom before (front ++ back) =
    (placesFrom before front).map (fun x => { x with after := x.after ++ back }) ++
      placesFrom (front.reverse ++ before) back := by
  induction front generalizing before with
  | nil => rfl
  | cons t front ih =>
    rw [List.cons_append, placesFrom, placesFrom, ih, List.map_cons, List.reverse_cons, List.append_assoc]
    rfl

theorem forall_placesFrom_append {p : List Token → Prop} {before front back : List Token} :
    (∀ x ∈ placesFrom before (front ++ back), p x.before) ↔
      (∀ x ∈ placesFrom before front, p x.before) ∧
        ∀ x ∈ placesFrom (front.reverse ++ before) back, p x.before := by
  rw [placesFrom_append, List.forall_mem_append, List.forall_mem_map]

theorem opens_not_isName {t : Token} (opens : t.opens = true) : t.isName = false := by
  simp only [Token.opens, Bool.and_eq_true, decide_eq_true_eq] at opens
  simp [Token.isName, opens.1]

theorem closes_not_isName {t : Token} (closes : t.closes = true) : t.isName = false := by
  simp only [Token.closes, Bool.and_eq_true, decide_eq_true_eq] at closes
  simp [Token.isName, closes.1]

theorem counts_of_not_isName {t : Token} (other : t.isName = false) (before : List Token) (next : Token) :
    counts before t next = false := by
  rw [counts, other, Bool.false_and, Bool.false_and]

/-- The pass decides at each place by the nearest token before it, the depth there, and whether the last name was a
library. -/
theorem walk_eq (p : Phrase) (libraries : List String) (writeDepth : Option Nat) (before tokens : List Token)
    (afterLibrary : Bool) (last : inLibrary libraries before (tokens.headD p.follow) = afterLibrary) :
    occurrences.walk libraries writeDepth p before.head? (depthOf before) afterLibrary tokens =
      (placesFrom before tokens).filterMap fun x => useAt libraries writeDepth x.before x.token (p.next x) := by
  induction tokens generalizing before afterLibrary with
  | nil => rfl
  | cons t rest ih =>
    rw [List.headD_cons] at last
    have ih := ih (t :: before) _ rfl
    rw [List.head?_cons, depthOf, inLibrary, Token.depthBehind, last] at ih
    rw [placesFrom, List.filterMap_cons, occurrences.walk, ← ih, useAt, next, last]
    dsimp only
    generalize rest.headD p.follow = following
    cases opens : t.opens with
    | true => simp [counts_of_not_isName (opens_not_isName opens)]
    | false =>
      cases closes : t.closes with
      | true => simp [counts_of_not_isName (closes_not_isName closes)]
      | false =>
        have skipped : (!t.isName || before.head?.any (·.kind = .tick) || (depthOf before > 0 && following.word = "=>")) =
            !counts before t following := by
          simp only [counts, Bool.not_and, Bool.not_not, Bool.not_or]
        rw [skipped]
        cases counted : counts before t following with
        | false => simp
        | true =>
          have library : namesLibrary libraries before t following =
              (following.word = "." && libraries.contains t.word) := by
            rw [namesLibrary, counted, Bool.true_and]
          rw [library]
          cases pointed : (following.word = "." && libraries.contains t.word : Bool) with
          | true => simp
          | false =>
            by_cases writes : writeDepth = some (depthOf before)
            · cases selected : (before.head?.any (·.word = ".") && !afterLibrary) <;> simp [writes]
            · simp [writes]

/-- A pass over the tokens of a phrase records each place by itself. -/
theorem occurrences_eq (p : Phrase) (libraries : List String) (writeDepth : Option Nat) :
    p.occurrences libraries writeDepth =
      p.places.filterMap fun x => useAt libraries writeDepth x.before x.token (p.next x) :=
  walk_eq p libraries writeDepth [] p.tokens false rfl

/-- Every name of a library before a point leads the name it stands in, and behind the point comes a component. -/
def LibrariesLead (libraries : List String) (p : Phrase) : Prop :=
  ∀ x ∈ p.places, namesLibrary libraries x.before x.token (p.next x) = true →
    leads libraries x.before = true ∧
      match x.after with
      | point :: t :: after => counts (point :: x.token :: x.before) t (after.headD p.follow) = true
      | _ => False

instance (libraries : List String) (p : Phrase) : Decidable (p.LibrariesLead libraries) :=
  have each (x : Place) : Decidable (match x.after with
      | point :: t :: after => counts (point :: x.token :: x.before) t (after.headD p.follow) = true
      | _ => False) := by
    split <;> infer_instance
  List.decidableBAll _ _

variable {libraries : List String} {writeDepth : Option Nat} {before : List Token} {t next : Token}

theorem leads_of_not_point {point : Token} (other : point.word ≠ ".") (before : List Token) :
    leads libraries (point :: before) = true := by
  cases before with
  | nil => simpa [leads] using other
  | cons t before => simp [leads, other]

/-- Behind a point a component leads only if the point is behind a leading library. -/
theorem leads_behind {point : Token} (isPoint : point.word = ".") : leads libraries (point :: before) = true ↔
    ∃ t left, before = t :: left ∧ namesLibrary libraries left t point = true ∧ leads libraries left = true := by
  cases before with
  | nil => simp [leads, isPoint]
  | cons t before =>
    rw [leads, isPoint, bne_self_eq_false, Bool.false_or, Bool.and_eq_true]
    constructor
    · intro both
      exact ⟨t, before, rfl, both⟩
    · rintro ⟨_, _, ⟨⟩, both⟩
      exact both

theorem namesLibrary_counts (known : namesLibrary libraries before t next = true) : counts before t next = true := by
  simp only [namesLibrary, Bool.and_eq_true] at known
  exact known.1.1

theorem namesLibrary_point (known : namesLibrary libraries before t next = true) : next.word = "." := by
  simp only [namesLibrary, Bool.and_eq_true, decide_eq_true_eq] at known
  exact known.1.2

theorem mem_places {p : Phrase} {x : Place} :
    x ∈ p.places ↔ p.tokens = x.before.reverse ++ x.token :: x.after := by
  rw [places, mem_placesFrom]
  constructor
  · rintro ⟨front, split, before_eq⟩
    rw [split, before_eq, List.append_nil, List.reverse_reverse]
  · intro split
    exact ⟨x.before.reverse, split, by rw [List.append_nil, List.reverse_reverse]⟩

section Lead

variable {p : Phrase}

/-- Where library names lead, a token that stands behind a library with no name in between is the point of the library or
the component behind that point. -/
theorem LibrariesLead.near (lead : p.LibrariesLead libraries) {u : Token} {after : List Token}
    (split : p.tokens = before.reverse ++ u :: after) (known : inLibrary libraries before u = true) :
    (∃ t left, before = t :: left ∧ namesLibrary libraries left t u = true) ∨
      counts before u (after.headD p.follow) = true ∧ leads libraries before = true := by
  induction before generalizing u after with
  | nil => contradiction
  | cons v before ih =>
    rw [inLibrary] at known
    have split' : p.tokens = before.reverse ++ v :: u :: after := by simpa using split
    cases counted : counts before v u with
    | true =>
      rw [if_pos counted] at known
      exact .inl ⟨v, before, rfl, known⟩
    | false =>
      rw [if_neg (by simp [counted])] at known
      rcases ih split' known with ⟨t, left, rfl, library⟩ | ⟨counted', _⟩
      · have place : (⟨left, t, v :: u :: after⟩ : Place) ∈ p.places := mem_places.mpr (by simpa using split')
        obtain ⟨leading, behind⟩ := lead _ place library
        exact .inr ⟨behind, (leads_behind (namesLibrary_point library)).mpr ⟨t, left, rfl, library, leading⟩⟩
      · rw [List.headD_cons, counted] at counted'
        contradiction

variable (points : ∀ t ∈ p.tokens, t.word = "." → t.isName = false)

include points

/-- Where library names lead, a component behind a point is an element unless the point is behind a leading library. -/
theorem LibrariesLead.selected_eq (lead : p.LibrariesLead libraries) {after : List Token}
    (split : p.tokens = before.reverse ++ t :: after) (counted : counts before t (after.headD p.follow) = true) :
    (before.head?.any (·.word = ".") && !inLibrary libraries before t) = !leads libraries before := by
  cases before with
  | nil => rfl
  | cons point before =>
    rw [List.head?_cons, Option.any_some]
    by_cases isPoint : point.word = "."
    · have other : point.isName = false := points point (by simp [split]) isPoint
      rw [decide_eq_true isPoint, Bool.true_and, Bool.not_inj_iff, Bool.eq_iff_iff]
      constructor
      · intro known
        rcases lead.near split known with ⟨_, _, _, library⟩ | ⟨_, leading⟩
        · have named : t.isName = true := by
            simp only [counts, Bool.and_eq_true] at counted
            exact counted.1.1
          rw [points t (by simp [split]) (namesLibrary_point library)] at named
          contradiction
        · exact leading
      · intro leading
        obtain ⟨u, left, rfl, library, _⟩ := (leads_behind isPoint).mp leading
        rw [inLibrary, counts_of_not_isName other, if_neg Bool.false_ne_true, inLibrary,
          if_pos (namesLibrary_counts library), library]
    · rw [leads_of_not_point isPoint, decide_eq_false isPoint]
      rfl

theorem LibrariesLead.useAt_eq (lead : p.LibrariesLead libraries) {after : List Token}
    (split : p.tokens = before.reverse ++ t :: after) : useAt libraries writeDepth before t (after.headD p.follow) =
      nameAt libraries writeDepth before t (after.headD p.follow) := by
  rw [useAt, nameAt]
  cases counted : counts before t (after.headD p.follow) with
  | false => rfl
  | true =>
    rw [lead.selected_eq points split counted]
    cases library : namesLibrary libraries before t (after.headD p.follow) with
    | true => simp [(lead ⟨before, t, after⟩ (mem_places.mpr split) library).1]
    | false => cases leads libraries before <;> simp

/-- Where library names lead, the pass finds the names of the phrase. -/
theorem LibrariesLead.occurrences_eq_named (lead : p.LibrariesLead libraries) (writeDepth : Option Nat) :
    p.occurrences libraries writeDepth = p.named libraries writeDepth := by
  rw [occurrences_eq, named]
  apply List.filterMap_congr
  rintro ⟨before, t, after⟩ place
  exact lead.useAt_eq points (mem_places.mp place)

end Lead

/-- What a token is recorded as: the occurrences of the phrase are those before it, this one, and those behind it. -/
def RecordedAs (libraries : List String) (writeDepth : Option Nat) (p : Phrase) (before after : List Token)
    (here : Option Occurrence) : Prop :=
  ∃ earlier later, p.occurrences libraries writeDepth = earlier ++ here.toList ++ later ∧
    (earlier.map Occurrence.token).Sublist before ∧ (later.map Occurrence.token).Sublist after

theorem useAt_token {o : Occurrence} (used : useAt libraries writeDepth before t next = some o) : o.token = t := by
  unfold useAt at used
  split at used
  · contradiction
  split at used
  · contradiction
  split at used
  · split at used
    · contradiction
    · cases used
      rfl
  · cases used
    rfl

theorem tokens_placesFrom (before tokens : List Token) : (placesFrom before tokens).map Place.token = tokens := by
  induction tokens generalizing before with
  | nil => rfl
  | cons t tokens ih => rw [placesFrom, List.map_cons, ih]

theorem map_token_sublist {use : Place → Option Occurrence} (follows : ∀ x o, use x = some o → o.token = x.token)
    (xs : List Place) : ((xs.filterMap use).map Occurrence.token).Sublist (xs.map Place.token) := by
  induction xs with
  | nil => exact .slnil
  | cons x xs ih =>
    rw [List.filterMap_cons, List.map_cons]
    cases found : use x with
    | none => exact ih.cons _
    | some o =>
      rw [List.map_cons, follows x o found]
      exact ih.cons_cons _

theorem recordedAs_useAt (p : Phrase) (libraries : List String) (writeDepth : Option Nat) {front after : List Token}
    (split : p.tokens = front ++ t :: after) :
    p.RecordedAs libraries writeDepth front after
      (useAt libraries writeDepth front.reverse t (after.headD p.follow)) := by
  have follows : ∀ x o, useAt libraries writeDepth x.before x.token (p.next x) = some o → o.token = x.token :=
    fun _ _ used => useAt_token used
  have earlier := map_token_sublist follows
    ((placesFrom [] front).map fun x => { x with after := x.after ++ t :: after })
  have later := map_token_sublist follows (placesFrom (t :: front.reverse) after)
  rw [List.map_map, show Place.token ∘ (fun x : Place => { x with after := x.after ++ t :: after }) = Place.token from rfl,
    tokens_placesFrom] at earlier
  rw [tokens_placesFrom] at later
  refine ⟨_, _, ?_, earlier, later⟩
  rw [occurrences_eq, places, split, placesFrom_append, List.filterMap_append, List.append_nil, placesFrom,
    List.filterMap_cons, List.append_assoc]
  congr 1
  rw [next]
  cases useAt libraries writeDepth front.reverse t (after.headD p.follow) <;> rfl

end Phrase

/-- Tokens in which every bracket is closed. -/
inductive Balanced : List Token → Prop where
  | nil : Balanced []
  | plain {t : Token} {rest : List Token} (opens : t.opens = false) (closes : t.closes = false) (more : Balanced rest) :
      Balanced (t :: rest)
  | group {first last : Token} {inner rest : List Token} (opens : first.opens = true) (inside : Balanced inner)
      (closes : last.closes = true) (more : Balanced rest) : Balanced (first :: inner ++ last :: rest)

/-- A single name: an identifier with selections and bracketed indices behind it. -/
inductive SingleName : List Token → Prop where
  | base {t : Token} (named : t.isName = true) : SingleName [t]
  | select {name : List Token} {point t : Token} (whole : SingleName name)
      (isPoint : point.kind = .delimiter ∧ point.word = ".")
      (opens : t.opens = false) (closes : t.closes = false) : SingleName (name ++ [point, t])
  | index {name inner : List Token} {first last : Token} (whole : SingleName name) (opens : first.opens = true)
      (inside : Balanced inner) (closes : last.closes = true) : SingleName (name ++ (first :: inner ++ [last]))

theorem closes_not_opens {t : Token} (closes : t.closes = true) : t.opens = false := by
  simp only [Token.closes, Bool.and_eq_true, Bool.or_eq_true, decide_eq_true_eq] at closes
  rcases closes with ⟨_, word | word⟩ <;> simp [Token.opens, word]

namespace Phrase

@[simp] theorem depthOf_nil : depthOf [] = 0 := rfl

theorem depthOf_plain {t : Token} (opens : t.opens = false) (closes : t.closes = false) (before : List Token) :
    depthOf (t :: before) = depthOf before := by
  simp [depthOf, Token.depthBehind, opens, closes]

theorem depthOf_opens {t : Token} (opens : t.opens = true) (before : List Token) :
    depthOf (t :: before) = depthOf before + 1 := by
  simp [depthOf, Token.depthBehind, opens]

theorem depthOf_closes {t : Token} (closes : t.closes = true) (before : List Token) :
    depthOf (t :: before) = depthOf before - 1 := by
  simp [depthOf, Token.depthBehind, closes, closes_not_opens closes]

end Phrase

/-- Behind tokens in which every bracket is closed the depth is what it was. -/
theorem Balanced.depthOf_eq {tokens : List Token} (balanced : Balanced tokens) (before : List Token) :
    Phrase.depthOf (tokens.reverse ++ before) = Phrase.depthOf before := by
  induction balanced generalizing before with
  | nil => rfl
  | plain opens closes _ ih =>
    rw [List.reverse_cons, List.append_assoc, ih]
    exact Phrase.depthOf_plain opens closes before
  | group opens _ closes _ inside more =>
    simp only [List.reverse_append, List.reverse_cons, List.append_assoc, List.cons_append, List.nil_append, more]
    rw [Phrase.depthOf_closes closes, inside, Phrase.depthOf_opens opens, Nat.add_sub_cancel]

/-- And between them it is not less. -/
theorem Balanced.le_depthOf {tokens : List Token} (balanced : Balanced tokens) (before : List Token) :
    ∀ x ∈ Phrase.placesFrom before tokens, Phrase.depthOf before ≤ Phrase.depthOf x.before := by
  induction balanced generalizing before with
  | nil => simp [Phrase.placesFrom]
  | @plain t _ opens closes _ ih =>
    have deeper := ih (t :: before)
    rw [Phrase.depthOf_plain opens closes] at deeper
    exact List.forall_mem_cons.mpr ⟨Nat.le_refl _, deeper⟩
  | @group first last inner rest opens inside closes _ ih more =>
    have opened : Phrase.depthOf (first :: before) = Phrase.depthOf before + 1 := Phrase.depthOf_opens opens before
    have behind : Phrase.depthOf ((first :: inner).reverse ++ before) = Phrase.depthOf before + 1 := by
      rw [List.reverse_cons, List.append_assoc, List.singleton_append, inside.depthOf_eq, opened]
    have closed : Phrase.depthOf (last :: ((first :: inner).reverse ++ before)) = Phrase.depthOf before := by
      rw [Phrase.depthOf_closes closes, behind, Nat.add_sub_cancel]
    have within := ih (first :: before)
    have beyond := more (last :: ((first :: inner).reverse ++ before))
    rw [opened] at within
    rw [closed] at beyond
    apply (Phrase.forall_placesFrom_append (p := fun b => Phrase.depthOf before ≤ Phrase.depthOf b)).mpr
    constructor
    · exact List.forall_mem_cons.mpr ⟨Nat.le_refl _, fun x place => Nat.le_of_succ_le (within x place)⟩
    · exact List.forall_mem_cons.mpr ⟨Nat.le_of_succ_le behind.ge, beyond⟩

/-- The token of an occurrence that is written. -/
def Occurrence.written? : Occurrence → Option Token
  | .write t => some t
  | .read _ _ => none

namespace Phrase

variable {libraries : List String} {writeDepth : Option Nat} {before : List Token} {t next : Token}

/-- The tokens that are written in a phrase. -/
def written (libraries : List String) (writeDepth : Option Nat) (p : Phrase) : List Token :=
  p.places.filterMap fun x => (nameAt libraries writeDepth x.before x.token (p.next x)).bind Occurrence.written?

theorem written_eq (libraries : List String) (writeDepth : Option Nat) (p : Phrase) :
    p.written libraries writeDepth = (p.named libraries writeDepth).filterMap Occurrence.written? := by
  rw [written, named, List.filterMap_filterMap]

theorem written_append (libraries : List String) (writeDepth : Option Nat) (front back : List Token) (follow : Token) :
    written libraries writeDepth ⟨front ++ back, follow⟩ = written libraries writeDepth ⟨front, back.headD follow⟩ ++
      (placesFrom front.reverse back).filterMap fun x =>
        (nameAt libraries writeDepth x.before x.token (x.after.headD follow)).bind Occurrence.written? := by
  have next_eq (x : Place) : (x.after ++ back).headD follow = x.after.headD (back.headD follow) := by
    cases x.after <;> rfl
  rw [written, written, places, places, placesFrom_append, List.filterMap_append, List.filterMap_map, List.append_nil]
  simp only [next, Function.comp_def, next_eq]

theorem nameAt_of_not_isName (other : t.isName = false) : nameAt libraries writeDepth before t next = none := by
  rw [nameAt, counts_of_not_isName other]
  rfl

theorem nameAt_of_library (leading : leads libraries before = true)
    (library : namesLibrary libraries before t next = true) : nameAt libraries writeDepth before t next = none := by
  simp [nameAt, namesLibrary_counts library, leading, library]

/-- A component that does not lead is not written. -/
theorem written?_of_not_leads (behind : leads libraries before = false) :
    (nameAt libraries writeDepth before t next).bind Occurrence.written? = none := by
  rw [nameAt, behind]
  split
  · rfl
  · split <;> rename_i other <;> first | contradiction | skip
    split <;> rfl

/-- Nor is a name at another depth. -/
theorem written?_of_depth (other : writeDepth ≠ some (depthOf before)) :
    (nameAt libraries writeDepth before t next).bind Occurrence.written? = none := by
  rw [nameAt, if_neg other, if_neg other]
  split
  · rfl
  · split
    · split <;> rfl
    · rfl

end Phrase

variable {libraries : List String}

theorem point_plain {point : Token} (isPoint : point.kind = .delimiter ∧ point.word = ".") :
    point.opens = false ∧ point.closes = false ∧ point.isName = false := by
  simp [Token.opens, Token.closes, Token.isName, isPoint.1, isPoint.2]

open Phrase

theorem isName_plain {t : Token} (named : t.isName = true) : t.opens = false ∧ t.closes = false := by
  simp only [Token.isName, Bool.and_eq_true, decide_eq_true_eq] at named
  simp [Token.opens, Token.closes, named.1]

/-- A place where nothing is written adds nothing. -/
theorem filterMap_eq_nil_of_forall {follow : Token} {xs : List Place}
    (none_ : ∀ x ∈ xs, ∀ next, (nameAt libraries (some 0) x.before x.token next).bind Occurrence.written? = none) :
    (xs.filterMap fun x =>
      (nameAt libraries (some 0) x.before x.token (x.after.headD follow)).bind Occurrence.written?) = [] :=
  List.filterMap_eq_nil_iff.mpr fun x place => none_ x place _

/-- Every bracket of a single name is closed. -/
theorem SingleName.depthOf_eq {name : List Token} (single : SingleName name) : depthOf name.reverse = 0 := by
  induction single with
  | base named => exact depthOf_plain (isName_plain named).1 (isName_plain named).2 []
  | @select name point t _ isPoint opens closes ih =>
    obtain ⟨opens', closes', _⟩ := point_plain isPoint
    rw [show (name ++ [point, t]).reverse = t :: point :: name.reverse by simp, depthOf_plain opens closes,
      depthOf_plain opens' closes', ih]
  | @index name inner first last _ opens inside closes ih =>
    rw [show (name ++ (first :: inner ++ [last])).reverse = last :: (inner.reverse ++ first :: name.reverse) by simp,
      depthOf_closes closes, inside.depthOf_eq, depthOf_opens opens, ih]

theorem written_select {name : List Token} {point t : Token} (isPoint : point.kind = .delimiter ∧ point.word = ".")
    (follow : Token) :
    written libraries (some 0) ⟨name ++ [point, t], follow⟩ = written libraries (some 0) ⟨name, point⟩ ++
      ((nameAt libraries (some 0) (point :: name.reverse) t follow).bind Occurrence.written?).toList := by
  rw [written_append, placesFrom, placesFrom, placesFrom, List.filterMap_cons_none]
  · rfl
  · exact congrArg (Option.bind · _) (nameAt_of_not_isName (point_plain isPoint).2.2)

/-- An index adds nothing to what is written. -/
theorem written_index {name inner : List Token} {first last : Token} (outside : depthOf name.reverse = 0)
    (opens : first.opens = true) (inside : Balanced inner) (closes : last.closes = true) (follow : Token) :
    written libraries (some 0) ⟨name ++ (first :: inner ++ [last]), follow⟩ = written libraries (some 0) ⟨name, first⟩ := by
  have opened : depthOf (first :: name.reverse) = 1 := by rw [depthOf_opens opens, outside]
  have bracketed : ∀ x ∈ placesFrom name.reverse (first :: inner ++ [last]), ∀ next,
      (nameAt libraries (some 0) x.before x.token next).bind Occurrence.written? = none := by
    intro x place next
    rw [List.cons_append, placesFrom, placesFrom_append] at place
    rcases List.mem_cons.mp place with rfl | place
    · exact congrArg (Option.bind · _) (nameAt_of_not_isName (opens_not_isName opens))
    rcases List.mem_append.mp place with place | place
    · obtain ⟨y, bracketed, rfl⟩ := List.mem_map.mp place
      have deep := inside.le_depthOf _ y bracketed
      rw [opened] at deep
      refine written?_of_depth fun same => ?_
      rw [← Option.some.inj same] at deep
      contradiction
    · obtain rfl := List.mem_singleton.mp place
      exact congrArg (Option.bind · _) (nameAt_of_not_isName (closes_not_isName closes))
  rw [written_append, filterMap_eq_nil_of_forall bracketed, List.append_nil]
  rfl

/-- A single name is written at most once, and not at all where it is made of leading libraries. -/
theorem SingleName.written_base {name : List Token} (single : SingleName name) :
    (∀ follow, (written libraries (some 0) ⟨name, follow⟩).length ≤ 1) ∧
      ∀ point : Token, point.word = "." → leads libraries (point :: name.reverse) = true →
        written libraries (some 0) ⟨name, point⟩ = [] := by
  induction single with
  | @base t named =>
    constructor
    · exact fun follow => List.length_filterMap_le _ _
    · intro point isPoint leading
      obtain ⟨_, _, ⟨⟩, library, _⟩ := (leads_behind isPoint).mp leading
      show List.filterMap _ [(⟨[], t, []⟩ : Place)] = []
      rw [List.filterMap_cons_none]
      · rfl
      · exact congrArg (Option.bind · _) (nameAt_of_library rfl library)
  | @select name point t whole isPoint opens closes ih =>
    obtain ⟨once, never⟩ := ih
    constructor
    · intro follow
      rw [written_select isPoint]
      cases leading : leads libraries (point :: name.reverse) with
      | true =>
        rw [never point isPoint.2 leading, List.nil_append]
        exact Option.length_toList_le
      | false =>
        rw [written?_of_not_leads leading, Option.toList_none, List.append_nil]
        exact once point
    · intro point' isPoint' leading
      rw [show (name ++ [point, t]).reverse = t :: point :: name.reverse by simp] at leading
      obtain ⟨_, _, ⟨⟩, library, leading⟩ := (leads_behind isPoint').mp leading
      rw [written_select isPoint, nameAt_of_library leading library, never point isPoint.2 leading]
      rfl
  | @index name inner first last whole opens inside closes ih =>
    constructor
    · exact fun follow => written_index whole.depthOf_eq opens inside closes follow ▸ ih.1 first
    · intro point isPoint leading
      rw [show (name ++ (first :: inner ++ [last])).reverse = last :: (inner.reverse ++ first :: name.reverse) by simp]
        at leading
      obtain ⟨_, _, ⟨⟩, library, _⟩ := (leads_behind isPoint).mp leading
      have counted := namesLibrary_counts library
      rw [counts_of_not_isName (closes_not_isName closes)] at counted
      contradiction

/-- What a component is recorded as that is not the base of its name. -/
def Phrase.laterAt (writeDepth : Option Nat) (before : List Token) (t next : Token) : Option Occurrence :=
  if counts before t next && writeDepth != some (depthOf before) then some (.read t true) else none

theorem Phrase.nameAt_of_not_leads {writeDepth : Option Nat} {before : List Token} {t next : Token}
    (behind : leads libraries before = false) :
    nameAt libraries writeDepth before t next = laterAt writeDepth before t next := by
  rw [nameAt, laterAt, behind]
  cases counts before t next with
  | false => rfl
  | true => by_cases writes : writeDepth = some (depthOf before) <;> simp [writes]

/-- What the base of a name is recorded as. -/
def Phrase.baseAt (writeDepth : Option Nat) (before : List Token) (t : Token) : Occurrence :=
  if writeDepth = some (depthOf before) then .write t else .read t false

/-- What the pass makes of a component that no leading library stands before. -/
theorem Phrase.useAt_of_point {writeDepth : Option Nat} {point : Token} {before : List Token} {t next : Token}
    (isPoint : point.word = ".") (other : namesLibrary libraries (point :: before) t next = false) :
    useAt libraries writeDepth (point :: before) t next =
      if inLibrary libraries (point :: before) t then
        if counts (point :: before) t next then some (baseAt writeDepth (point :: before) t) else none
      else laterAt writeDepth (point :: before) t next := by
  rw [useAt, laterAt, other, List.head?_cons, Option.any_some, decide_eq_true isPoint, Bool.true_and]
  cases counts (point :: before) t next with
  | false => simp
  | true =>
    cases inLibrary libraries (point :: before) t <;>
      by_cases writes : writeDepth = some (depthOf (point :: before)) <;> simp [writes, baseAt]

theorem Phrase.exists_point_of_not_leads {before : List Token} (behind : leads libraries before = false) :
    ∃ point left, before = point :: left ∧ point.word = "." := by
  cases before with
  | nil => contradiction
  | cons point left =>
    refine ⟨point, left, rfl, ?_⟩
    by_contra other
    rw [leads_of_not_point other] at behind
    contradiction

/-- Dotted names have one base. In a phrase whose library names lead the names they stand in, a component behind a point is
recorded as an element or not at all, unless the point is behind the leading libraries of the name; and a single name is
written at most once. Without this condition the same holds of every component that is no library name before a point and
before which the last name is none; and where the last name is one, the component is taken for a base. -/
theorem Phrase.dotted_names_have_one_base {text : Bytes} {tokens front back : List Token} {p : Phrase}
    (read : tokenize text = .ok tokens) (slice : tokens = front ++ p.tokens ++ p.follow :: back)
    (libraries : List String) (writeDepth : Option Nat) :
    (p.LibrariesLead libraries →
      (∀ before t after, p.tokens = before ++ t :: after → leads libraries before.reverse = false →
        p.RecordedAs libraries writeDepth before after (laterAt writeDepth before.reverse t (after.headD p.follow))) ∧
      (SingleName p.tokens → writeDepth = some 0 →
        ((p.occurrences libraries writeDepth).filterMap Occurrence.written?).length ≤ 1)) ∧
    ∀ before t after, p.tokens = before ++ t :: after → leads libraries before.reverse = false →
      namesLibrary libraries before.reverse t (after.headD p.follow) = false →
      (inLibrary libraries before.reverse t = false →
        p.RecordedAs libraries writeDepth before after (laterAt writeDepth before.reverse t (after.headD p.follow))) ∧
      (inLibrary libraries before.reverse t = true → counts before.reverse t (after.headD p.follow) = true →
        p.RecordedAs libraries writeDepth before after (some (baseAt writeDepth before.reverse t))) := by
  have points : ∀ t ∈ p.tokens, t.word = "." → t.isName = false := fun t member =>
    point_of_tokenize read t (by simp [slice, member])
  constructor
  · intro lead
    constructor
    · intro before t after split behind
      have recorded := p.recordedAs_useAt libraries writeDepth split
      rwa [lead.useAt_eq points (by rwa [List.reverse_reverse]), nameAt_of_not_leads behind] at recorded
    · rintro single rfl
      rw [lead.occurrences_eq_named points, ← written_eq]
      exact single.written_base.1 p.follow
  · intro before t after split behind other
    have recorded := p.recordedAs_useAt libraries writeDepth split
    obtain ⟨point, left, before_eq, isPoint⟩ := exists_point_of_not_leads behind
    rw [before_eq] at recorded other ⊢
    rw [useAt_of_point isPoint other] at recorded
    constructor
    · intro outside
      rwa [outside] at recorded
    · intro inside counted
      rwa [inside, counted] at recorded

deriving instance DecidableEq for Token

/-- What stands behind a target. -/
def behindTarget (offset : Nat) : List Token :=
  [.ofText .identifier (Bytes.ofString "x") (offset + 3), .ofText .delimiter (Bytes.ofString ";") (offset + 4),
    .endOfText (offset + 5)]

/-- A target in a package of a library, with an index and an element. -/
def packagedTarget : Phrase where
  tokens :=
    [.ofText .identifier (Bytes.ofString "lib") 0, .ofText .delimiter (Bytes.ofString ".") 3,
      .ofText .identifier (Bytes.ofString "pack") 4, .ofText .delimiter (Bytes.ofString "(") 8,
      .ofText .identifier (Bytes.ofString "i") 9, .ofText .delimiter (Bytes.ofString ")") 10,
      .ofText .delimiter (Bytes.ofString ".") 11, .ofText .identifier (Bytes.ofString "field") 12]
  follow := .ofText .delimiter (Bytes.ofString "<=") 18

/-- A target with an element that has the name of a library. -/
def recordTarget : Phrase where
  tokens :=
    [.ofText .identifier (Bytes.ofString "r") 0, .ofText .delimiter (Bytes.ofString ".") 1,
      .ofText .identifier (Bytes.ofString "lib") 2, .ofText .delimiter (Bytes.ofString ".") 5,
      .ofText .identifier (Bytes.ofString "field") 6]
  follow := .ofText .delimiter (Bytes.ofString "<=") 12

theorem packagedTarget_single : SingleName packagedTarget.tokens := by
  simp only [packagedTarget, Token.ofText, Bytes.lower_ofString]
  exact show SingleName ((([_] ++ [_, _]) ++ (_ :: [_] ++ [_])) ++ [_, _]) from
    .select (.index (.select (.base (by decide)) (by decide) (by decide) (by decide)) (by decide)
      (.plain (by decide) (by decide) .nil) (by decide)) (by decide) (by decide) (by decide)

/-- The first target is written once and its element is left out. The second one is written at its last element too, since
the name before it is taken for a library. -/
theorem targets_have_one_base :
    (packagedTarget.LibrariesLead ["lib"] ∧ SingleName packagedTarget.tokens ∧
      ((packagedTarget.occurrences ["lib"] (some 0)).filterMap Occurrence.written?).length ≤ 1 ∧
      packagedTarget.RecordedAs ["lib"] (some 0) (packagedTarget.tokens.take 7) [] none) ∧
    recordTarget.RecordedAs ["lib"] (some 0) (recordTarget.tokens.take 4) []
      (some (.write (.ofText .identifier (Bytes.ofString "field") 6))) := by
  have read : tokenize (Bytes.ofString "lib.pack(i).field <= x;") =
      .ok ([] ++ packagedTarget.tokens ++ packagedTarget.follow :: behindTarget 18) :=
    eq_ok_of_toOption (by rw [Bytes.ofString_ofList]; decide +kernel)
  have read' : tokenize (Bytes.ofString "r.lib.field <= x;") =
      .ok ([] ++ recordTarget.tokens ++ recordTarget.follow :: behindTarget 12) :=
    eq_ok_of_toOption (by rw [Bytes.ofString_ofList]; decide +kernel)
  have lead : packagedTarget.LibrariesLead ["lib"] := by decide +kernel
  obtain ⟨later, once⟩ := (Phrase.dotted_names_have_one_base read rfl ["lib"] (some 0)).1 lead
  have stray := (Phrase.dotted_names_have_one_base read' rfl ["lib"] (some 0)).2 (recordTarget.tokens.take 4)
    (.ofText .identifier (Bytes.ofString "field") 6) [] rfl (by decide +kernel) (by decide +kernel)
  have element := later (packagedTarget.tokens.take 7) (.ofText .identifier (Bytes.ofString "field") 12) [] rfl
    (by decide +kernel)
  rw [Phrase.laterAt, if_neg (by decide +kernel)] at element
  have base := stray.2 (by decide +kernel) (by decide +kernel)
  rw [Phrase.baseAt, if_pos (by decide +kernel)] at base
  exact ⟨⟨lead, packagedTarget_single, once packagedTarget_single rfl, element⟩, base⟩

end DesignLint
