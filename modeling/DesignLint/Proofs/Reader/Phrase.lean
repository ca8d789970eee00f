import DesignLint.Reader.Phrase
import DesignLint.Proofs.Reader.Building

/-! Phrases and the occurrences in them. A phrase takes the tokens up to the one that ends it and never the
end of the text. Its occurrences become parts of one owner, reads and writes in the order of the text. -/
namespace DesignLint

/-- An occurrence that is read. -/
def Occurrence.IsRead : Occurrence → Prop
  | .read _ _ => True
  | .write _ => False

/-- Tokens that have been read, in the order of the text, behind all marks of `owner`. An association alone may have marks at
them already. -/
structure ReaderState.Awaits (s : ReaderState) (tokens : List Token) (owner : Nat) (found : List Token) : Prop where
  seen : ∀ t ∈ found, s.Seen owner t
  sublist : found.Sublist tokens
  behind : s.tree.role? owner ≠ some .mapping → ∀ (i : Nat) (mark : Node), s.tree.node? i = some mark →
    mark.construct.role.isMark = true → mark.parent = some owner → ∀ t ∈ found, mark.stop ≤ t.offset

/-- Parts that are the given writes and reads and nothing else. -/
def Part.Uses (parts : List Part) (writes reads : List NodeId) : Prop :=
  ∀ role, Part.pick role parts = match role with
    | .read => reads
    | .write => writes
    | _ => []

namespace Phrase

/-- A phrase and what is left are the tokens, and the end of the text is not in the phrase. -/
theorem split_spec (stops : Token → Bool) (depth : Nat) (tokens : List Token) :
    (split stops depth tokens).1 ++ (split stops depth tokens).2 = tokens ∧
      ∀ t ∈ (split stops depth tokens).1, t.kind ≠ .endOfText := by
  fun_induction split stops depth tokens with
  | case1 => exact ⟨rfl, by simp⟩
  | case2 => exact ⟨rfl, by simp⟩
  | case3 depth t rest open_ _ taken left found ih =>
    rw [found] at ih
    refine ⟨congrArg (t :: ·) ih.1, List.forall_mem_cons.mpr ⟨fun last => open_ ?_, ih.2⟩⟩
    simp [last]

theorem split_append (stops : Token → Bool) (depth : Nat) (tokens : List Token) :
    (split stops depth tokens).1 ++ (split stops depth tokens).2 = tokens := (split_spec stops depth tokens).1

theorem split_significant (stops : Token → Bool) (depth : Nat) (tokens : List Token) :
    ∀ t ∈ (split stops depth tokens).1, t.kind ≠ .endOfText := (split_spec stops depth tokens).2

/-- The occurrences of a phrase stand at its tokens, in their order. Reserved words do not occur, and where nothing is
written, everything is read. -/
theorem walk_spec (p : Phrase) (libraries : List String) (writeDepth : Option Nat) (previous : Option Token)
    (depth : Nat) (afterLibrary : Bool) (tokens : List Token) :
    ((occurrences.walk libraries writeDepth p previous depth afterLibrary tokens).map Occurrence.token).Sublist
        tokens ∧
      ∀ o ∈ occurrences.walk libraries writeDepth p previous depth afterLibrary tokens,
        o.token.isName = true ∧ (writeDepth = none → o.IsRead) := by
  fun_induction occurrences.walk libraries writeDepth p previous depth afterLibrary tokens with
  | case1 => exact ⟨.slnil, by simp⟩
  | case2 _ _ _ t _ _ ih => exact ⟨ih.1.cons t, ih.2⟩
  | case3 _ _ _ t _ _ _ ih => exact ⟨ih.1.cons t, ih.2⟩
  | case4 _ _ _ t _ _ _ _ _ ih => exact ⟨ih.1.cons t, ih.2⟩
  | case5 _ _ _ t _ _ _ _ _ _ ih => exact ⟨ih.1.cons t, ih.2⟩
  | case6 _ _ _ t _ _ _ _ _ _ _ _ _ _ ih => exact ⟨ih.1.cons t, ih.2⟩
  | case7 _ _ _ t _ _ _ _ counted _ _ _ _ _ ih =>
    have isName : t.isName = true := by_contra fun other => counted (by simp [other])
    refine ⟨ih.1.cons_cons t, List.forall_mem_cons.mpr ⟨⟨isName, ?_⟩, ih.2⟩⟩
    rintro rfl
    contradiction
  | case8 _ _ _ t _ _ _ _ counted _ _ _ _ ih =>
    have isName : t.isName = true := by_contra fun other => counted (by simp [other])
    exact ⟨ih.1.cons_cons t, List.forall_mem_cons.mpr ⟨⟨isName, fun _ => trivial⟩, ih.2⟩⟩

theorem walk_sublist (p : Phrase) (libraries : List String) (writeDepth : Option Nat) (previous : Option Token)
    (depth : Nat) (afterLibrary : Bool) (tokens : List Token) :
    ((occurrences.walk libraries writeDepth p previous depth afterLibrary tokens).map Occurrence.token).Sublist
      tokens := (p.walk_spec libraries writeDepth previous depth afterLibrary tokens).1

theorem walk_isName (p : Phrase) (libraries : List String) (writeDepth : Option Nat) (previous : Option Token)
    (depth : Nat) (afterLibrary : Bool) (tokens : List Token) :
    ∀ o ∈ occurrences.walk libraries writeDepth p previous depth afterLibrary tokens, o.token.isName = true :=
  fun o member => ((p.walk_spec libraries writeDepth previous depth afterLibrary tokens).2 o member).1

theorem walk_isRead (p : Phrase) (libraries : List String) (previous : Option Token) (depth : Nat)
    (afterLibrary : Bool) (tokens : List Token) :
    ∀ o ∈ occurrences.walk libraries none p previous depth afterLibrary tokens, o.IsRead :=
  fun o member => ((p.walk_spec libraries none previous depth afterLibrary tokens).2 o member).2 rfl

theorem isWrite_of_none {p : Phrase} {libraries : List String} :
    ∀ o ∈ p.occurrences libraries none, o.isWrite = false := by
  intro o member
  have isRead := p.walk_isRead _ _ _ _ _ o member
  cases o with
  | read => rfl
  | write => contradiction

theorem behindFormal_sublist (rest : List Token) : (behindFormal rest).Sublist rest := by
  have joined := split_append (["=>", ","].contains ·.word) 0 rest
  rw [behindFormal]
  split
  · rename_i arrow later found
    rw [found] at joined
    split
    · conv_rhs => rw [← joined]
      exact (List.sublist_cons_self arrow later).trans (List.sublist_append_right _ _)
    · exact .refl rest
  · exact .refl rest

/-- An actual takes tokens of the text in their order. -/
theorem IsActual.sublist {tokens : List Token} {start : Nat} {p : Phrase} (actual : p.IsActual tokens start) :
    p.tokens.Sublist tokens := by
  obtain ⟨before, rest, later, rfl, _, split⟩ := actual
  have joined := split_append ([","].contains ·.word) 0 (behindFormal rest)
  rw [split] at joined
  have taken : p.tokens.Sublist (behindFormal rest) := joined ▸ List.sublist_append_left _ _
  exact (taken.trans (behindFormal_sublist rest)).trans (List.sublist_append_right before rest)

end Phrase

/-- Both records of an actual follow the order of the text. -/
theorem Tree.Associates.records {t : Tree} {tokens : List Token} {id start : Nat} {m : Mapping}
    (associates : t.Associates tokens id start m) : t.Records tokens id m.ifInput ∧
      t.Records tokens id m.ifOutputReads ∧ t.Records tokens id m.ifOutputWrites := by
  obtain ⟨libraries, p, actual, inputs, writes, reads⟩ := associates
  have walked (writeDepth : Option Nat) :
      ((p.occurrences libraries writeDepth).map Occurrence.token).Sublist tokens :=
    (p.walk_sublist _ _ _ _ _ _).trans actual.sublist
  exact ⟨⟨_, walked none, inputs⟩, ⟨_, (List.filter_sublist.map _).trans (walked _), reads⟩,
    ⟨_, (List.filter_sublist.map _).trans (walked _), writes⟩⟩

variable {text : Bytes} {tokens : List Token} {s s₁ s₂ : ReaderState} {owner : Nat}

/-- The tokens that are left always hold the end of the text. -/
theorem Ready.exists_endOfText (ready : Ready text tokens s) : ∃ t ∈ s.rest, t.kind = .endOfText := by
  obtain ⟨before, split, _⟩ := ready.cursor
  obtain ⟨significant, closed, _⟩ := ready.tokensOf.closed
  have last := congrArg List.getLast? split
  rw [closed, List.getLast?_concat, List.getLast?_append_of_ne_nil _ ready.unpassed] at last
  exact ⟨_, List.mem_of_getLast? last.symm, rfl⟩

/-- No mark is the file. -/
theorem Ready.mark_pos (ready : Ready text tokens s) {i : Nat} {mark : Node} (known : s.tree.node? i = some mark)
    (isMark : mark.construct.role.isMark = true) : 0 < i := by
  rw [← Construct.isSome_quoted?] at isMark
  obtain ⟨name, quotes⟩ := Option.isSome_iff_exists.mp isMark
  exact (ready.marked.quoted i mark name known quotes).1

/-- What awaits being recorded still does after the cursor has moved on. -/
theorem Steps.awaits {found : List Token} (steps : Steps text tokens s s₁) (awaits : s.Awaits tokens owner found) :
    s₁.Awaits tokens owner found where
  seen t member := steps.seen (awaits.seen t member)
  sublist := awaits.sublist
  behind := by
    rw [steps.tree_eq]
    exact awaits.behind

/-- What stands in an association may be recorded once more. -/
theorem Adds.awaits {found : List Token} {parts : List Part} (adds : Adds text tokens s s₁ owner parts)
    (ready : Ready text tokens s) (association : s.tree.role? owner = some .mapping)
    (awaits : s.Awaits tokens owner found) : s₁.Awaits tokens owner found where
  seen t member := adds.seen ready adds.grows.owner_lt (awaits.seen t member)
  sublist := awaits.sublist
  behind other := by
    rw [Tree.role?, adds.grows.construct?_old owner adds.grows.owner_lt] at other
    exact absurd association other

theorem ReaderState.Awaits.of_sublist {found fewer : List Token} (awaits : s.Awaits tokens owner found)
    (sublist : fewer.Sublist found) : s.Awaits tokens owner fewer where
  seen t member := awaits.seen t (sublist.subset member)
  sublist := sublist.trans awaits.sublist
  behind other i mark known isMark parent t member := awaits.behind other i mark known isMark parent t (sublist.subset member)

namespace Reader

theorem phrase_split_ends (ready : Ready text tokens s) (stops : Token → Bool) :
    Ends text (phrase stops) s fun p s' => (Steps text tokens s s' ∧ (∀ owner, s'.Awaits tokens owner p.tokens) ∧
      (p.tokens = [] ∨ s'.left < s.left)) ∧
      ∃ later, Phrase.split stops 0 s.rest = (p.tokens, p.follow :: later) ∧ s'.rest = p.follow :: later := by
  unfold phrase
  refine .get_bind ?_
  have joined := Phrase.split_append stops 0 s.rest
  have significant := Phrase.split_significant stops 0 s.rest
  generalize Phrase.split stops 0 s.rest = halves at joined significant ⊢
  obtain ⟨taken, rest⟩ := halves
  simp only at joined significant ⊢
  obtain ⟨before, split, last⟩ := ready.cursor
  have moved : Ready text tokens
      { s with rest, lastStop := (taken.getLast?.map Token.stop).or s.lastStop } := by
    refine ⟨ready.tokensOf, ⟨before ++ taken, ?_, ?_⟩, ?_, ready.text_eq, ready.rooted, ready.shallow, ?_, ready.faithful,
      ready.marked⟩
    · rw [split, ← joined, List.append_assoc]
    · rw [last, List.getLast?_append]
      cases taken.getLast? <;> rfl
    · rintro rfl
      obtain ⟨t, member, ended⟩ := ready.exists_endOfText
      rw [← joined, List.append_nil] at member
      exact significant t member ended
    · exact ready.spans.forward fun u member => joined ▸ List.mem_append_right taken member
  have left_eq : s.left = taken.length + rest.length := by rw [ReaderState.left, ← joined, List.length_append]
  have left_le : rest.length ≤ s.left := by omega
  refine .modify_bind ((peek_ends moved).bind ?_)
  rintro follow s' ⟨rfl, head⟩
  obtain ⟨later, rest_eq⟩ := List.head?_eq_some_iff.mp head
  refine .pure ⟨⟨⟨moved, left_le, rfl, ready.past_of_le moved left_le⟩, ?_, ?_⟩, later, congrArg (taken, ·) rest_eq, rest_eq⟩
  · intro owner
    have ahead (t : Token) (member : t ∈ taken) : t ∈ s.rest := joined ▸ List.mem_append_left rest member
    refine ⟨fun t member => ?_, ?_, fun _ i mark known isMark _ t member => ?_⟩
    · exact ⟨fun above known => ready.spans.begun owner above known t (ahead t member),
        ready.past_of_read joined.symm rfl member⟩
    · rw [split, ← joined]
      exact (List.sublist_append_left taken rest).trans (List.sublist_append_right before _)
    · exact ready.spans.ended i mark (ready.mark_pos known isMark) known t (ahead t member)
  · cases taken with
    | nil => exact .inl rfl
    | cons t taken =>
      refine .inr ?_
      simp only [List.length_cons] at left_eq
      show rest.length < s.left
      omega

theorem phrase_ends (ready : Ready text tokens s) (stops : Token → Bool) :
    Ends text (phrase stops) s fun p s' => Steps text tokens s s' ∧ (∀ owner, s'.Awaits tokens owner p.tokens) ∧
      (p.tokens = [] ∨ s'.left < s.left) :=
  (phrase_split_ends ready stops).mono fun _ _ found => found.1

theorem phraseUpTo_ends (ready : Ready text tokens s) (words : List String) :
    Ends text (phraseUpTo words) s fun p s' => Steps text tokens s s' ∧ (∀ owner, s'.Awaits tokens owner p.tokens) ∧
      (p.tokens = [] ∨ s'.left < s.left) :=
  phrase_ends ready _

theorem skipPast_ends (ready : Ready text tokens s) {word : String} (nonempty : word ≠ "") :
    Ends text (skipPast word) s fun _ s' => Steps text tokens s s' ∧ s'.left < s.left := by
  unfold skipPast
  refine (phraseUpTo_ends ready _).discard_bind ?_
  rintro _ s₁ ⟨steps₁, _⟩
  refine (skip_ends steps₁.ready nonempty).mono ?_
  rintro _ s₂ ⟨steps₂, forward₂⟩
  exact ⟨steps₁.trans steps₂, Nat.lt_of_lt_of_le forward₂ steps₁.left_le⟩

theorem textOf_ends (p : Phrase) : Ends text (textOf p) s fun _ s' => s' = s := .get_bind (.pure rfl)

/-- Recording the first of some occurrences leaves the others to be recorded. -/
theorem attachMark_ends (ready : Ready text tokens s) (owner_lt : owner < s.tree.nodes.size) {t : Token}
    {others : List Token} (awaits : s.Awaits tokens owner (t :: others)) (named : t.isName = true) {c : Construct}
    (quotes : c.quoted? = some t.text) :
    Ends text (attachToken owner t c) s fun id s' => id = s.tree.nodes.size ∧
      Opens text tokens s s' owner t.offset t.stop c ∧
      Adds text tokens s s' owner [(c.role, s.tree.nodes.size)] ∧ s'.Awaits tokens owner others := by
  have isMark : c.role.isMark = true := by rw [← Construct.isSome_quoted?, quotes, Option.isSome_some]
  have seen := awaits.seen t List.mem_cons_self
  have marked : ({ s.tree with nodes := s.tree.nodes.push ⟨some owner, t.offset, t.stop, c⟩ } : Tree).Marked tokens := by
    refine ready.marked.push ready.rooted owner_lt rfl (fun name quotes' => ?_) fun _ other i a known mark parent => ?_
    · rw [quotes] at quotes'
      cases quotes'
      exact ⟨t, awaits.sublist.subset List.mem_cons_self, named, rfl, rfl, rfl⟩
    · exact awaits.behind other i a known mark parent t List.mem_cons_self
  refine (attachSeen_ends ready owner_lt seen c (.inr isMark) marked).mono ?_
  rintro _ s₁ ⟨rfl, opens, settles⟩
  have adds := opens.leaf ready settles (Construct.bare_of_isLeaf (Role.isLeaf_of_isMark isMark)) (Role.ne_use_of_isMark isMark)
  refine ⟨rfl, opens, adds, fun u member => adds.seen ready owner_lt (awaits.seen u (List.mem_cons_of_mem t member)),
    (List.sublist_cons_self t others).trans awaits.sublist, fun other i mark known mark' parent u member => ?_⟩
  rw [opens.tree_eq, Tree.Marked.role?_push owner_lt] at other
  rw [opens.tree_eq, Tree.node?_push] at known
  split at known
  · cases known
    exact (List.pairwise_cons.mp (ready.tokensOf.ordered.sublist awaits.sublist)).1 u member
  · exact awaits.behind other i mark known mark' parent u (List.mem_cons_of_mem t member)

/-- Recording occurrences adds one part for each, and the two lists that come back are its writes and its
reads. -/
theorem record_marks_ends (ready : Ready text tokens s) (owner_lt : owner < s.tree.nodes.size)
    {os : List Occurrence} (awaits : s.Awaits tokens owner (os.map Occurrence.token))
    (named : ∀ o ∈ os, o.token.isName = true) :
    Ends text (record owner os) s fun found s' => (s'.left = s.left ∧
      ∃ parts, Adds text tokens s s' owner parts ∧ Part.Uses parts found.1 found.2 ∧
        ((∀ o ∈ os, o.IsRead) → parts = Part.all .read found.2)) ∧ s'.libraryNames = s.libraryNames ∧
      List.Forall₂ (s'.tree.Marks owner) (os.filter Occurrence.isWrite) found.1 ∧
      List.Forall₂ (s'.tree.Marks owner) (os.filter (!·.isWrite)) found.2 := by
  induction os generalizing s with
  | nil =>
    refine .pure ⟨⟨rfl, [], (Steps.refl ready).adds owner_lt, ?_, fun _ => rfl⟩, rfl, .nil, .nil⟩
    intro role
    cases role <;> rfl
  | cons o os ih =>
    obtain ⟨here, others⟩ := List.forall_mem_cons.mp named
    cases o with
    | write t =>
      refine (attachMark_ends ready owner_lt awaits here rfl).bind ?_
      rintro id s₁ ⟨rfl, opens, one, awaits₁⟩
      refine (ih opens.ready (Nat.lt_of_lt_of_le owner_lt one.size_le) awaits₁ others).bind ?_
      rintro ⟨writes, reads⟩ s₂ ⟨⟨same, parts, more, uses, _⟩, libraries, written, read⟩
      have marks : s₂.tree.Marks owner (.write t) s.tree.nodes.size := (more.grows.old _ opens.new_lt).trans opens.node?
      refine .pure ⟨⟨same.trans opens.left_eq, _, one.trans more ready, ?_, ?_⟩,
        libraries.trans opens.libraries_eq, .cons marks written, read⟩
      · intro role
        rw [Part.pick_append, uses role]
        cases role <;> simp [Construct.role]
      · intro allRead
        exact absurd (allRead _ List.mem_cons_self) (fun h => h)
    | read t isElement =>
      refine (attachMark_ends ready owner_lt awaits here rfl).bind ?_
      rintro id s₁ ⟨rfl, opens, one, awaits₁⟩
      refine (ih opens.ready (Nat.lt_of_lt_of_le owner_lt one.size_le) awaits₁ others).bind ?_
      rintro ⟨writes, reads⟩ s₂ ⟨⟨same, parts, more, uses, reading⟩, libraries, written, read⟩
      have marks : s₂.tree.Marks owner (.read t isElement) s.tree.nodes.size :=
        (more.grows.old _ opens.new_lt).trans opens.node?
      refine .pure ⟨⟨same.trans opens.left_eq, _, one.trans more ready, ?_, ?_⟩,
        libraries.trans opens.libraries_eq, written, .cons marks read⟩
      · intro role
        rw [Part.pick_append, uses role]
        cases role <;> simp [Construct.role]
      · intro allRead
        rw [reading fun o member => allRead o (List.mem_cons_of_mem _ member)]
        rfl

/-- The nodes of the occurrences of a phrase stand at their tokens. -/
theorem occurrences_marks_ends (ready : Ready text tokens s) (owner_lt : owner < s.tree.nodes.size)
    (writeDepth : Option Nat) {p : Phrase} (awaits : s.Awaits tokens owner p.tokens) :
    Ends text (occurrences owner writeDepth p) s fun found s' => (s'.left = s.left ∧
      ∃ parts, Adds text tokens s s' owner parts ∧ Part.Uses parts found.1 found.2 ∧
        (writeDepth = none → parts = Part.all .read found.2)) ∧ s'.libraryNames = s.libraryNames ∧
      List.Forall₂ (s'.tree.Marks owner) ((p.occurrences s.libraryNames writeDepth).filter Occurrence.isWrite) found.1 ∧
      List.Forall₂ (s'.tree.Marks owner) ((p.occurrences s.libraryNames writeDepth).filter (!·.isWrite)) found.2 := by
  unfold occurrences
  refine .get_bind ((record_marks_ends ready owner_lt (awaits.of_sublist (Phrase.walk_sublist p _ _ _ _ _ _))
    (Phrase.walk_isName p _ _ _ _ _ _)).mono ?_)
  · rintro _ _ ⟨⟨same, parts, adds, uses, reading⟩, marks⟩
    refine ⟨⟨same, parts, adds, uses, ?_⟩, marks⟩
    rintro rfl
    exact reading (Phrase.walk_isRead p _ _ _ _ _)

theorem occurrences_ends (ready : Ready text tokens s) (owner_lt : owner < s.tree.nodes.size)
    (writeDepth : Option Nat) {p : Phrase} (awaits : s.Awaits tokens owner p.tokens) :
    Ends text (occurrences owner writeDepth p) s fun found s' => s'.left = s.left ∧
      ∃ parts, Adds text tokens s s' owner parts ∧ Part.Uses parts found.1 found.2 ∧
        (writeDepth = none → parts = Part.all .read found.2) :=
  (occurrences_marks_ends ready owner_lt writeDepth awaits).mono fun _ _ found => found.1

/-- Of a phrase in which nothing is written every occurrence is a read. -/
theorem reads_marks_ends (ready : Ready text tokens s) (owner_lt : owner < s.tree.nodes.size)
    {p : Phrase} (awaits : s.Awaits tokens owner p.tokens) :
    Ends text (reads owner p) s fun ids s' => (s'.left = s.left ∧
      Adds text tokens s s' owner (Part.all .read ids)) ∧ s'.libraryNames = s.libraryNames ∧
      List.Forall₂ (s'.tree.Marks owner) (p.occurrences s.libraryNames none) ids := by
  unfold reads
  refine (occurrences_marks_ends ready owner_lt none awaits).bind ?_
  rintro ⟨writes, reads⟩ s₁ ⟨⟨same, parts, adds, _, reading⟩, libraries, _, read⟩
  rw [reading rfl] at adds
  refine .pure ⟨⟨same, adds⟩, libraries, ?_⟩
  rwa [List.filter_eq_self.mpr] at read
  intro o member
  rw [Phrase.isWrite_of_none o member]
  rfl

theorem reads_ends (ready : Ready text tokens s) (owner_lt : owner < s.tree.nodes.size)
    {p : Phrase} (awaits : s.Awaits tokens owner p.tokens) :
    Ends text (reads owner p) s fun ids s' => s'.left = s.left ∧
      Adds text tokens s s' owner (Part.all .read ids) :=
  (reads_marks_ends ready owner_lt awaits).mono fun _ _ found => found.1

theorem expression_ends (ready : Ready text tokens s) (owner_lt : owner < s.tree.nodes.size)
    (words : List String) :
    Ends text (expression owner words) s fun ids s' =>
      Adds text tokens s s' owner (Part.all .read ids) := by
  unfold expression
  refine (phraseUpTo_ends ready words).bind ?_
  rintro p s₁ ⟨steps₁, awaits, _⟩
  refine (reads_ends steps₁.ready (steps₁.tree_eq ▸ owner_lt) (awaits owner)).mono ?_
  rintro ids s₂ ⟨_, adds⟩
  exact steps₁.then_adds adds

end Reader
end DesignLint
