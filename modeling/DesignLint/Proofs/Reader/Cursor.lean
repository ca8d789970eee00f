import DesignLint.Proofs.Reader.Outcome
import DesignLint.Proofs.Reader.Spans
import DesignLint.Proofs.Reader.Actuals

/-! The cursor. A reader that is ready stands somewhere in the tokens of its text, remembers where the token
before it ended, and holds a tree in which no chain of parents is longer than one step more than a walk
may go and no node reaches behind the next token. Readers that only move the cursor step forward and leave the tree
alone. -/
namespace DesignLint

/-- A state that a reader of a text may be started in. -/
structure Ready (text : Bytes) (tokens : List Token) (s : ReaderState) : Prop where
  tokensOf : TokensOf text tokens
  cursor : ∃ before, tokens = before ++ s.rest ∧ s.lastStop = before.getLast?.map Token.stop
  unpassed : s.rest ≠ []
  text_eq : s.tree.text = text
  rooted : s.tree.Rooted
  shallow : ∀ id : Nat, id < s.tree.nodes.size → s.tree.depth id ≤ maxDepth + 1
  spans : s.tree.Spans tokens s.rest
  faithful : s.tree.Faithful tokens
  marked : s.tree.Marked tokens

/-- The next token is the end of the text. -/
def ReaderState.AtEnd (s : ReaderState) : Prop := ∃ t, s.rest.head? = some t ∧ t.kind = .endOfText

/-- The last token that was read ends at the offset or behind it. -/
def ReaderState.Past (s : ReaderState) (offset : Nat) : Prop := ∃ stop, s.lastStop = some stop ∧ offset ≤ stop

/-- The cursor moved from `s` to `s'`, or stayed, and nothing else happened. -/
structure Steps (text : Bytes) (tokens : List Token) (s s' : ReaderState) : Prop where
  ready : Ready text tokens s'
  left_le : s'.left ≤ s.left
  tree_eq : s'.tree = s.tree
  past : ∀ {n : Nat}, s.Past n → s'.Past n

/-- A node that begins and ends before the end of the last token. -/
def ReaderState.Passed (s : ReaderState) (node : Node) : Prop := s.Past node.start ∧ s.Past node.stop

/-- Every node but the file has been passed. -/
def ReaderState.Clear (s : ReaderState) : Prop :=
  ∀ (i : Nat) (node : Node), 0 < i → s.tree.node? i = some node → s.Passed node

/-- Whether a construct of this role may reach up to the next token when its reader is done. -/
def Role.isLoose : Role → Bool
  | clause | mapping => true
  | _ => false

/-- Every node but the file and those of loose roles has been passed. -/
def ReaderState.Settled (s : ReaderState) : Prop :=
  ∀ (i : Nat) (node : Node), 0 < i → s.tree.node? i = some node → node.construct.role.isLoose = false → s.Passed node

/-- A token at which a part of `owner` may begin. -/
structure ReaderState.Met (s : ReaderState) (owner : Nat) (t : Token) : Prop where
  after : ∀ above, s.tree.node? owner = some above → above.start ≤ t.offset
  before : ∀ u ∈ s.rest, t.offset ≤ u.offset

/-- A token that has been read and may be a part of `owner`. -/
structure ReaderState.Seen (s : ReaderState) (owner : Nat) (t : Token) : Prop where
  after : ∀ above, s.tree.node? owner = some above → above.start ≤ t.offset
  past : s.Past t.stop

variable {text : Bytes} {tokens : List Token} {s s₁ s₂ : ReaderState}

/-- Of tokens in order, the last one ends last. -/
theorem Token.stop_le_of_getLast? {read : List Token} {t last : Token}
    (ordered : read.Pairwise fun a b => a.stop ≤ b.offset) (ends : read.getLast? = some last) (member : t ∈ read) :
    t.stop ≤ last.stop := by
  obtain ⟨early, rfl⟩ := List.getLast?_eq_some_iff.mp ends
  rcases List.mem_append.mp member with before | here
  · have := (List.pairwise_append.mp ordered).2.2 t before last (List.mem_singleton_self last)
    simp only [Token.stop] at this ⊢
    omega
  · rw [List.mem_singleton.mp here]

theorem ReaderState.Clear.settled (clear : s.Clear) : s.Settled := fun i node positive known _ =>
  clear i node positive known

theorem ReaderState.Past.le {n m : Nat} (past : s.Past n) (le : m ≤ n) : s.Past m := by
  obtain ⟨stop, last, reached⟩ := past
  exact ⟨stop, last, Nat.le_trans le reached⟩

theorem ReaderState.Past.le_last {n last : Nat} (past : s.Past n) (lastStop : s.lastStop = some last) : n ≤ last := by
  obtain ⟨stop, same, reached⟩ := past
  rw [lastStop] at same
  cases same
  exact reached

namespace Ready

theorem exists_head (ready : Ready text tokens s) : ∃ t, s.rest.head? = some t := by
  cases rest : s.rest with
  | nil => exact absurd rest ready.unpassed
  | cons t _ => exact ⟨t, rfl⟩

theorem rest_subset (ready : Ready text tokens s) : ∀ t ∈ s.rest, t ∈ tokens := by
  obtain ⟨before, split, _⟩ := ready.cursor
  intro t member
  rw [split]
  exact List.mem_append_right before member

theorem head_mem (ready : Ready text tokens s) {t : Token} (head : s.rest.head? = some t) : t ∈ tokens :=
  ready.rest_subset t (List.mem_of_head? head)

theorem left_le (ready : Ready text tokens s) : s.left ≤ tokens.length := by
  obtain ⟨before, split, _⟩ := ready.cursor
  rw [split, ReaderState.left, List.length_append]
  omega

theorem ordered_rest (ready : Ready text tokens s) : s.rest.Pairwise fun a b => a.stop ≤ b.offset := by
  obtain ⟨before, split, _⟩ := ready.cursor
  have ordered := ready.tokensOf.ordered
  rw [split] at ordered
  exact (List.pairwise_append.mp ordered).2.1

/-- The last token that was read ends before the next one. -/
theorem lastStop_le (ready : Ready text tokens s) {stop : Nat} (last : s.lastStop = some stop) :
    ∀ u ∈ s.rest, stop ≤ u.offset := by
  obtain ⟨before, split, ends⟩ := ready.cursor
  have ordered := ready.tokensOf.ordered
  rw [split] at ordered
  rw [ends] at last
  obtain ⟨t, found, rfl⟩ := Option.map_eq_some_iff.mp last
  exact (List.pairwise_append.mp ordered).2.2 t (List.mem_of_getLast? found)

/-- Between two places of the cursor stand the tokens that were read. -/
theorem passage (ready : Ready text tokens s) (ready₁ : Ready text tokens s₁) (le : s₁.left ≤ s.left) :
    ∃ read, s.rest = read ++ s₁.rest ∧ s₁.lastStop = (read.getLast?.map Token.stop).or s.lastStop := by
  obtain ⟨before, split, last⟩ := ready.cursor
  obtain ⟨before₁, split₁, last₁⟩ := ready₁.cursor
  have joined : before₁ ++ s₁.rest = before ++ s.rest := split₁.symm.trans split
  rcases List.append_eq_append_iff.mp joined with ⟨back, same, rest⟩ | ⟨read, same, rest⟩
  · -- Nothing can have been given back.
    have length := congrArg List.length rest
    rw [List.length_append] at length
    simp only [ReaderState.left] at le
    obtain rfl : back = [] := List.length_eq_zero_iff.mp (by omega)
    rw [List.append_nil] at same
    refine ⟨[], by simpa using rest.symm, ?_⟩
    rw [last, last₁, same]
    rfl
  · refine ⟨read, rest, ?_⟩
    rw [last₁, last, same, List.getLast?_append]
    cases read.getLast? <;> rfl

theorem rest_subset_of_le (ready : Ready text tokens s) (ready₁ : Ready text tokens s₁) (le : s₁.left ≤ s.left) :
    ∀ u ∈ s₁.rest, u ∈ s.rest := by
  obtain ⟨read, split, _⟩ := ready.passage ready₁ le
  intro u member
  rw [split]
  exact List.mem_append_right read member

theorem past_of_le (ready : Ready text tokens s) (ready₁ : Ready text tokens s₁) (le : s₁.left ≤ s.left) {n : Nat}
    (past : s.Past n) : s₁.Past n := by
  obtain ⟨read, split, last₁⟩ := ready.passage ready₁ le
  obtain ⟨stop, last, reached⟩ := past
  cases ends : read.getLast? with
  | none => exact ⟨stop, by rw [last₁, ends, last]; rfl, reached⟩
  | some u =>
    have member : u ∈ s.rest := by
      rw [split]
      exact List.mem_append_left _ (List.mem_of_getLast? ends)
    have := ready.lastStop_le last u member
    exact ⟨u.stop, by rw [last₁, ends]; rfl, by simp only [Token.stop]; omega⟩

/-- Where the cursor has not moved, nothing has been read. -/
theorem unmoved (ready : Ready text tokens s) (ready₁ : Ready text tokens s₁) (same : s₁.left = s.left) :
    s₁.rest = s.rest ∧ s₁.lastStop = s.lastStop := by
  obtain ⟨read, split, last⟩ := ready.passage ready₁ (Nat.le_of_eq same)
  have length := congrArg List.length split
  rw [List.length_append] at length
  simp only [ReaderState.left] at same
  obtain rfl : read = [] := List.length_eq_zero_iff.mp (by omega)
  exact ⟨split.symm, last⟩

/-- Every token is left to read or ends before the last one that was read. -/
theorem left_or_passed (ready : Ready text tokens s) {last : Nat} (lastStop : s.lastStop = some last) :
    ∀ u ∈ tokens, u ∈ s.rest ∨ u.stop ≤ last := by
  obtain ⟨before, split, ends⟩ := ready.cursor
  have ordered := ready.tokensOf.ordered
  rw [split] at ordered
  rw [ends] at lastStop
  obtain ⟨t, found, rfl⟩ := Option.map_eq_some_iff.mp lastStop
  intro u member
  rw [split] at member
  rcases List.mem_append.mp member with read | left
  · exact .inr (Token.stop_le_of_getLast? (List.pairwise_append.mp ordered).1 found read)
  · exact .inl left

/-- A token that was read on the way to `s₁` has been passed there. -/
theorem past_of_read (ready : Ready text tokens s) {read : List Token} (split : s.rest = read ++ s₁.rest)
    (last : s₁.lastStop = (read.getLast?.map Token.stop).or s.lastStop) {t : Token} (member : t ∈ read) :
    s₁.Past t.stop := by
  have ordered := ready.ordered_rest
  rw [split] at ordered
  cases ends : read.getLast? with
  | none =>
    rw [List.getLast?_eq_none_iff.mp ends] at member
    contradiction
  | some u =>
    exact ⟨u.stop, by rw [last, ends]; rfl, Token.stop_le_of_getLast? (List.pairwise_append.mp ordered).1 ends member⟩

/-- Once the cursor has moved on, the token that was next has been read. -/
theorem past_head (ready : Ready text tokens s) (ready₁ : Ready text tokens s₁) (lt : s₁.left < s.left) {t : Token}
    (head : s.rest.head? = some t) : s₁.Past t.stop := by
  obtain ⟨read, split, last⟩ := ready.passage ready₁ (Nat.le_of_lt lt)
  refine ready.past_of_read split last ?_
  cases read with
  | nil =>
    rw [List.nil_append] at split
    rw [ReaderState.left, ReaderState.left, split] at lt
    exact absurd lt (Nat.lt_irrefl _)
  | cons first others =>
    rw [split] at head
    obtain rfl : first = t := Option.some.inj head
    exact List.mem_cons_self

/-- What lies before every token that is left lies before the end of the next token that is read. -/
theorem past_of_lt (ready : Ready text tokens s) (ready₁ : Ready text tokens s₁) (lt : s₁.left < s.left) {n : Nat}
    (before : ∀ u ∈ s.rest, n ≤ u.offset) : s₁.Past n := by
  obtain ⟨t, head⟩ := ready.exists_head
  have := before t (List.mem_of_head? head)
  exact (ready.past_head ready₁ lt head).le (by simp only [Token.stop]; omega)

theorem met (ready : Ready text tokens s) {t : Token} (head : s.rest.head? = some t) (owner : Nat) : s.Met owner t where
  after above known := ready.spans.begun owner above known t (List.mem_of_head? head)
  before u member := by
    have ordered := ready.ordered_rest
    obtain ⟨rest, split⟩ := List.head?_eq_some_iff.mp head
    rw [split] at ordered member
    obtain rfl | later := List.mem_cons.mp member
    · exact Nat.le_refl _
    · have := (List.pairwise_cons.mp ordered).1 u later
      simp only [Token.stop] at this
      omega

theorem offset_le (ready : Ready text tokens s) {t : Token} (member : t ∈ tokens) :
    t.offset ≤ text.length := by
  have := ready.tokensOf.inside t member
  simp only [Token.stop] at this
  omega

theorem eq_endOfText (ready : Ready text tokens s) {t : Token} (member : t ∈ tokens)
    (last : t.kind = .endOfText) : t = Token.endOfText text.length := by
  obtain ⟨significant, closed, other⟩ := ready.tokensOf.closed
  rw [closed] at member
  rcases List.mem_append.mp member with member | member
  · exact absurd last (other t member)
  · exact List.mem_singleton.mp member

/-- Only the end of the text has an empty word among those that are asked for. -/
theorem not_atEnd_of_word (ready : Ready text tokens s) {t : Token} (head : s.rest.head? = some t)
    {words : List String} (nonempty : "" ∉ words) (seen : words.contains t.word = true) : ¬s.AtEnd := by
  rintro ⟨other, head', last⟩
  rw [head] at head'
  cases head'
  rw [ready.eq_endOfText (ready.head_mem head) last] at seen
  exact nonempty (by simpa [Token.endOfText] using seen)

/-- Reading a token other than the end of the text leaves a state that is ready. -/
theorem advance (ready : Ready text tokens s) {t : Token} {rest : List Token} (head : s.rest = t :: rest)
    (significant : t.kind ≠ .endOfText) :
    Ready text tokens { s with rest, lastStop := some t.stop } where
  tokensOf := ready.tokensOf
  cursor := by
    obtain ⟨before, split, _⟩ := ready.cursor
    refine ⟨before ++ [t], ?_, ?_⟩
    · rw [split, head, List.append_assoc, List.singleton_append]
    · rw [List.getLast?_append]
      rfl
  unpassed := by
    -- The tokens end in the end of the text, so `t` is not the last one.
    rintro rfl
    obtain ⟨before, split, _⟩ := ready.cursor
    obtain ⟨others, closed, _⟩ := ready.tokensOf.closed
    rw [head, closed] at split
    have last := congrArg List.getLast? split
    rw [List.getLast?_concat, List.getLast?_concat] at last
    cases last
    exact significant rfl
  text_eq := ready.text_eq
  rooted := ready.rooted
  shallow := ready.shallow
  spans := by
    refine ready.spans.forward fun u member => ?_
    rw [head]
    exact List.mem_cons_of_mem t member
  faithful := ready.faithful
  marked := ready.marked

end Ready

namespace Steps

theorem refl (ready : Ready text tokens s) : Steps text tokens s s := ⟨ready, Nat.le_refl _, rfl, fun past => past⟩

theorem trans (first : Steps text tokens s s₁) (next : Steps text tokens s₁ s₂) : Steps text tokens s s₂ :=
  ⟨next.ready, Nat.le_trans next.left_le first.left_le, next.tree_eq.trans first.tree_eq,
    fun past => next.past (first.past past)⟩

theorem met (steps : Steps text tokens s s₁) (ready : Ready text tokens s) {owner : Nat} {t : Token}
    (met : s.Met owner t) : s₁.Met owner t where
  after := steps.tree_eq ▸ met.after
  before u member := met.before u (ready.rest_subset_of_le steps.ready steps.left_le u member)

theorem seen (steps : Steps text tokens s s₁) {owner : Nat} {t : Token} (seen : s.Seen owner t) : s₁.Seen owner t where
  after := steps.tree_eq ▸ seen.after
  past := steps.past seen.past

theorem settled (steps : Steps text tokens s s₁) (settled : s.Settled) : s₁.Settled := by
  intro i node positive known tight
  rw [steps.tree_eq] at known
  have passed := settled i node positive known tight
  exact ⟨steps.past passed.1, steps.past passed.2⟩

/-- Reading a token leaves every node behind. -/
theorem clear (steps : Steps text tokens s s₁) (ready : Ready text tokens s) (forward : s₁.left < s.left) :
    s₁.Clear := by
  intro i node positive known
  rw [steps.tree_eq] at known
  exact ⟨ready.past_of_lt steps.ready forward (ready.spans.begun i node known),
    ready.past_of_lt steps.ready forward (ready.spans.ended i node positive known)⟩

theorem seen_head (steps : Steps text tokens s s₁) (ready : Ready text tokens s) (forward : s₁.left < s.left)
    {t : Token} (head : s.rest.head? = some t) (owner : Nat) : s₁.Seen owner t where
  after := by
    rw [steps.tree_eq]
    exact (ready.met head owner).after
  past := ready.past_head steps.ready forward head

end Steps

namespace Reader

theorem peekAt_ends (ready : Ready text tokens s) (n : Nat) :
    Ends text (peekAt n) s fun t s' => s' = s ∧ t ∈ tokens ∧ (n = 0 → s.rest.head? = some t) := by
  unfold peekAt
  refine .get_bind ?_
  split
  · rename_i t found
    refine .pure ⟨rfl, ready.rest_subset t (List.mem_of_getElem? found), ?_⟩
    rintro rfl
    rw [List.head?_eq_getElem?, found]
  · rename_i beyond
    split
    · rename_i t last
      refine .pure ⟨rfl, ready.rest_subset t (List.mem_of_getLast? last), ?_⟩
      rintro rfl
      obtain ⟨t, head⟩ := ready.exists_head
      rw [List.head?_eq_getElem?, beyond] at head
      contradiction
    · rename_i none_
      exact absurd (List.getLast?_eq_none_iff.mp none_) ready.unpassed

theorem peek_ends (ready : Ready text tokens s) :
    Ends text peek s fun t s' => s' = s ∧ s.rest.head? = some t :=
  (peekAt_ends ready 0).mono fun _ _ found => ⟨found.1, found.2.2 rfl⟩

theorem next_ends (ready : Ready text tokens s) :
    Ends text next s fun t s' => Steps text tokens s s' ∧ s.rest.head? = some t ∧
      (t.kind ≠ .endOfText → s'.left < s.left) := by
  unfold next
  refine .get_bind ?_
  split
  · rename_i nothing
    exact absurd nothing ready.unpassed
  · rename_i t rest head
    split
    · rename_i last
      exact .pure ⟨.refl ready, by rw [head]; rfl, fun other => absurd last other⟩
    · rename_i significant
      have shorter : rest.length < s.left := by rw [ReaderState.left, head]; simp
      have ready₁ := ready.advance head significant
      refine .modify_bind (.pure ⟨⟨ready₁, Nat.le_of_lt shorter, rfl, ?_⟩, ?_, fun _ => shorter⟩)
      · exact ready.past_of_le ready₁ (Nat.le_of_lt shorter)
      · rw [head]
        rfl

/-- What is next after a token was read. The end of the text stays where it is. -/
theorem next_rest_ends (ready : Ready text tokens s) : Ends text next s fun t s' =>
    if t.kind = .endOfText then s'.rest.head? = some t else s.rest = t :: s'.rest := by
  unfold next
  refine .get_bind ?_
  split
  · rename_i nothing
    exact absurd nothing ready.unpassed
  · rename_i t rest head
    split
    · rename_i last
      exact .pure (by rw [if_pos last, head]; rfl)
    · rename_i significant
      exact .modify_bind (.pure (by rw [if_neg significant, head]))

/-- A message about the place of the next token that names none. -/
theorem failWith_ends {α : Type} {post : α → ReaderState → Prop} (ready : Ready text tokens s) {message : Bytes}
    (plain : message.NamesNothing) : Ends text (failWith message) s post := by
  unfold failWith
  refine (peek_ends ready).bind ?_
  rintro t s' ⟨rfl, head⟩
  exact ⟨tokens, ready.tokensOf.lexed, .plain (ready.head_mem head) plain⟩

theorem fail_ends {α : Type} {post : α → ReaderState → Prop} (ready : Ready text tokens s) {message : String}
    (plain : (Bytes.ofString message).endsPlainly = true) : Ends text (fail message) s post :=
  failWith_ends ready (Bytes.namesNothing_of_endsPlainly plain)

/-- The next token is not what is expected. -/
theorem failExpecting_ends {α : Type} {post : α → ReaderState → Prop} (ready : Ready text tokens s) (what : String)
    {found : Token} (head : s.rest.head? = some found) : Ends text (failExpecting what found) s post := by
  unfold failExpecting fail failWith
  refine (peek_ends ready).bind ?_
  rintro t s' ⟨rfl, head'⟩
  obtain rfl : t = found := Option.some.inj (head'.symm.trans head)
  exact ⟨tokens, ready.tokensOf.lexed, .here what (ready.head_mem head)⟩

/-- The token that was read is not what was expected, and the message is about the place of the next one. -/
theorem failLate_ends {α : Type} {post : α → ReaderState → Prop} (ready : Ready text tokens s)
    (ready₁ : Ready text tokens s₁) {what : String} (known : what ∈ lateWords) {found : Token}
    (rest : if found.kind = .endOfText then s₁.rest.head? = some found else s.rest = found :: s₁.rest) :
    Ends text (failExpecting what found) s₁ post := by
  split at rest
  · exact failExpecting_ends ready₁ what rest
  · rename_i significant
    unfold failExpecting fail failWith
    refine (peek_ends ready₁).bind ?_
    rintro next s' ⟨rfl, head⟩
    obtain ⟨after, after_eq⟩ := List.head?_eq_some_iff.mp head
    obtain ⟨before, split, _⟩ := ready.cursor
    rw [rest, after_eq] at split
    exact ⟨tokens, ready.tokensOf.lexed, .late known significant split⟩

theorem sees_ends (ready : Ready text tokens s) (words : List String) :
    Ends text (sees words) s fun seen s' => s' = s ∧
      ∃ t, s.rest.head? = some t ∧ seen = words.contains t.word := by
  unfold sees
  refine (peek_ends ready).bind ?_
  rintro t s' ⟨rfl, head⟩
  exact .pure ⟨rfl, t, head, rfl⟩

theorem seesSecond_ends (ready : Ready text tokens s) (words : List String) :
    Ends text (seesSecond words) s fun _ s' => s' = s := by
  unfold seesSecond
  refine (peekAt_ends ready 1).bind ?_
  rintro t s' ⟨rfl, _⟩
  exact .pure rfl

theorem atEnd_ends (ready : Ready text tokens s) :
    Ends text atEnd s fun ended s' => s' = s ∧ (ended = false → ¬s.AtEnd) := by
  unfold atEnd
  refine (peek_ends ready).bind ?_
  rintro t s' ⟨rfl, head⟩
  refine .pure ⟨rfl, ?_⟩
  rintro open_ ⟨other, head', last⟩
  rw [head] at head'
  cases head'
  simp [last] at open_

/-- What it takes to see a word: the next token is not the end of the text. -/
theorem sees_word_ends (ready : Ready text tokens s) {words : List String} (nonempty : "" ∉ words) :
    Ends text (sees words) s fun seen s' => s' = s ∧ (seen = true → ¬s.AtEnd) :=
  (sees_ends ready words).mono fun _ _ ⟨same, _, head, seen⟩ =>
    ⟨same, fun yes => ready.not_atEnd_of_word head nonempty (seen ▸ yes)⟩

theorem seesName_head_ends (ready : Ready text tokens s) :
    Ends text seesName s fun seen s' => s' = s ∧ ∃ t, s.rest.head? = some t ∧ seen = t.isName := by
  unfold seesName
  refine (peek_ends ready).bind ?_
  rintro t s' ⟨rfl, head⟩
  exact .pure ⟨rfl, t, head, rfl⟩

theorem seesName_ends (ready : Ready text tokens s) :
    Ends text seesName s fun seen s' => s' = s ∧ (seen = true → ¬s.AtEnd) := by
  refine (seesName_head_ends ready).mono ?_
  rintro seen s' ⟨rfl, t, head, rfl⟩
  refine ⟨rfl, ?_⟩
  rintro named ⟨other, head', last⟩
  rw [head] at head'
  cases head'
  simp [Token.isName, last] at named

/-- Reading a token that is not the end of the text moves the cursor. -/
theorem next_forward_ends (ready : Ready text tokens s) (more : ¬s.AtEnd) :
    Ends text next s fun t s' => Steps text tokens s s' ∧ s'.left < s.left ∧ s.rest.head? = some t :=
  (next_ends ready).mono fun t _ ⟨steps, head, forward⟩ =>
    ⟨steps, forward fun last => more ⟨t, head, last⟩, head⟩

/-- A word is accepted and read, or nothing happens. -/
theorem accept_cases_ends (ready : Ready text tokens s) {words : List String} (nonempty : "" ∉ words) :
    Ends text (accept words) s fun accepted s' =>
      accepted = true ∧ Steps text tokens s s' ∧ s'.left < s.left ∨ accepted = false ∧ s' = s := by
  unfold accept
  refine (sees_word_ends ready nonempty).bind ?_
  rintro seen s' ⟨rfl, more⟩
  refine .ite (fun yes => ?_) fun _ => .pure (.inr ⟨rfl, rfl⟩)
  refine (next_forward_ends ready (more yes)).discard_bind ?_
  rintro _ s' ⟨steps, forward, _⟩
  exact .pure (.inl ⟨rfl, steps, forward⟩)

/-- What is accepted is the next token. -/
theorem accept_head_ends (ready : Ready text tokens s) {words : List String} (nonempty : "" ∉ words) {t : Token}
    {later : List Token} (head : s.rest = t :: later) :
    Ends text (accept words) s fun accepted s' => accepted = words.contains t.word ∧
      s'.rest = if accepted then later else s.rest := by
  unfold accept
  refine (sees_ends ready words).bind ?_
  rintro seen s' ⟨rfl, u, here, rfl⟩
  rw [head] at here
  cases here
  refine .ite (fun yes => ?_) fun no => .pure ⟨no.symm, rfl⟩
  have other : t.kind ≠ .endOfText := fun last => ready.not_atEnd_of_word (by rw [head]; rfl) nonempty yes ⟨t, by rw [head]; rfl, last⟩
  have moved : Ends text next s' fun _ s' => s'.rest = later := by
    unfold next
    refine .get_bind ?_
    rw [head]
    exact .split (fun last => absurd last other) fun _ => .modify_bind (.pure rfl)
  exact moved.discard_bind fun _ s' rest => .pure ⟨yes.symm, rest⟩

theorem accept_ends (ready : Ready text tokens s) {words : List String} (nonempty : "" ∉ words) :
    Ends text (accept words) s fun accepted s' => Steps text tokens s s' ∧
      (accepted = true → s'.left < s.left) := by
  refine (accept_cases_ends ready nonempty).mono ?_
  rintro _ _ (⟨rfl, steps, forward⟩ | ⟨rfl, rfl⟩)
  · exact ⟨steps, fun _ => forward⟩
  · exact ⟨.refl ready, by simp⟩

theorem ifAccepted_ends {α : Type} (post : α → ReaderState → Prop) {otherwise : α} {x : Reader α}
    (ready : Ready text tokens s) {words : List String} (nonempty : "" ∉ words)
    (yes : ∀ s', Steps text tokens s s' → s'.left < s.left → Ends text x s' post)
    (no : ∀ s', Steps text tokens s s' → post otherwise s') :
    Ends text (ifAccepted words otherwise x) s post := by
  unfold ifAccepted
  refine (accept_ends ready nonempty).bind ?_
  rintro accepted s' ⟨steps, forward⟩
  exact .ite (fun taken => yes s' steps (forward taken)) fun _ => .pure (no s' steps)

theorem expect_ends (ready : Ready text tokens s) {word : String} (nonempty : word ≠ "") :
    Ends text (expect word) s fun t s' => Steps text tokens s s' ∧ s'.left < s.left ∧
      s.rest.head? = some t := by
  unfold expect
  refine (sees_word_ends ready (by simpa using nonempty.symm)).bind ?_
  rintro seen s' ⟨rfl, more⟩
  refine .ite (fun yes => next_forward_ends ready (more yes)) fun _ => ?_
  refine (peek_ends ready).bind ?_
  rintro t s' ⟨rfl, head⟩
  exact failExpecting_ends ready _ head

theorem skip_ends (ready : Ready text tokens s) {word : String} (nonempty : word ≠ "") :
    Ends text (skip word) s fun _ s' => Steps text tokens s s' ∧ s'.left < s.left :=
  .discard ((expect_ends ready nonempty).mono fun _ _ ⟨steps, forward, _⟩ => ⟨steps, forward⟩)

theorem name_ends (ready : Ready text tokens s) :
    Ends text name s fun t s' => Steps text tokens s s' ∧ s'.left < s.left ∧ ∀ owner, s'.Seen owner t := by
  unfold name
  refine (seesName_ends ready).bind ?_
  rintro seen s' ⟨rfl, more⟩
  refine .ite (fun yes => ?_) fun _ => ?_
  · exact (next_forward_ends ready (more yes)).mono fun t _ ⟨steps, forward, head⟩ =>
      ⟨steps, forward, steps.seen_head ready forward head⟩
  · refine (peek_ends ready).bind ?_
    rintro t s' ⟨rfl, head⟩
    exact failExpecting_ends ready _ head

/-- What is read as a name is one of the text. -/
theorem name_named_ends (ready : Ready text tokens s) :
    Ends text name s fun t _ => t ∈ tokens ∧ t.isName = true := by
  unfold name
  refine (seesName_head_ends ready).bind ?_
  rintro named s' ⟨rfl, t, head, rfl⟩
  refine .ite (fun yes => ?_) fun _ => ?_
  · refine (next_ends ready).mono ?_
    rintro u s' ⟨_, head', _⟩
    obtain rfl : t = u := Option.some.inj (head.symm.trans head')
    exact ⟨ready.head_mem head, yes⟩
  · refine (peek_ends ready).bind ?_
    rintro t s' ⟨rfl, head⟩
    exact failExpecting_ends ready _ head

theorem optionalName_ends (ready : Ready text tokens s) :
    Ends text optionalName s fun _ s' => Steps text tokens s s' := by
  unfold optionalName
  refine (seesName_ends ready).bind ?_
  rintro seen s' ⟨rfl, _⟩
  refine .ite (fun _ => .discard ?_) fun _ => .pure (.refl ready)
  exact (next_ends ready).mono fun _ _ ⟨steps, _⟩ => steps

theorem nameList_ends (ready : Ready text tokens s) :
    Ends text nameList s fun names s' => Steps text tokens s s' ∧ s'.left < s.left ∧ names ≠ [] ∧
      ∀ t ∈ names, ∀ owner, s'.Seen owner t := by
  unfold nameList
  refine (name_ends ready).bind ?_
  rintro first s₁ ⟨steps₁, forward₁, first_seen⟩
  refine (Ends.loop (fun names s' => Steps text tokens s₁ s' ∧ ∀ t ∈ names, ∀ owner, s'.Seen owner t)
    (fun others s' => Steps text tokens s₁ s' ∧ ∀ t ∈ others, ∀ owner, s'.Seen owner t) ?_
    ⟨.refl steps₁.ready, by simp⟩).bind ?_
  · rintro names s₂ ⟨steps₂, seen⟩
    refine (accept_ends steps₂.ready (by decide)).bind ?_
    rintro accepted s₃ ⟨steps₃, forward₃⟩
    have seen₃ : ∀ t ∈ names, ∀ owner, s₃.Seen owner t := fun t member owner =>
      steps₃.seen (seen t member owner)
    refine .ite (fun yes => ?_) fun _ => .pure ⟨steps₂.trans steps₃, by simpa using seen₃⟩
    refine (name_ends steps₃.ready).bind ?_
    rintro t s₄ ⟨steps₄, forward₄, here⟩
    refine .pure ⟨⟨steps₂.trans (steps₃.trans steps₄), ?_⟩, Nat.lt_trans forward₄ (forward₃ yes)⟩
    exact List.forall_mem_cons.mpr ⟨here, fun u member owner => steps₄.seen (seen₃ u member owner)⟩
  · rintro others s₂ ⟨steps₂, seen⟩
    refine .pure ⟨steps₁.trans steps₂, Nat.lt_of_le_of_lt steps₂.left_le forward₁, by simp, ?_⟩
    exact List.forall_mem_cons.mpr ⟨fun owner => steps₂.seen (first_seen owner), seen⟩

theorem selectedName_ends (ready : Ready text tokens s) :
    Ends text selectedName s fun _ s' => Steps text tokens s s' ∧ s'.left < s.left := by
  unfold selectedName
  refine (name_ends ready).bind ?_
  rintro first s₁ ⟨steps₁, forward₁, _⟩
  refine (Ends.loop (fun _ s' => Steps text tokens s₁ s') (fun _ s' => Steps text tokens s₁ s') ?_ (.refl steps₁.ready)).bind ?_
  · intro parts s₂ steps₂
    refine (accept_ends steps₂.ready (by decide)).bind ?_
    rintro accepted s₃ ⟨steps₃, forward₃⟩
    refine .ite (fun yes => ?_) fun _ => .pure (steps₂.trans steps₃)
    refine (accept_ends steps₃.ready (by decide)).bind ?_
    rintro isAll s₄ ⟨steps₄, _⟩
    have steps := steps₂.trans (steps₃.trans steps₄)
    refine .ite (fun _ => .pure steps) fun _ => ?_
    refine (name_ends steps.ready).bind ?_
    rintro t s₅ ⟨steps₅, forward₅, _⟩
    have := forward₃ yes
    have := steps₄.left_le
    exact .pure ⟨steps.trans steps₅, by omega⟩
  · intro others s₂ steps₂
    exact .pure ⟨steps₁.trans steps₂, Nat.lt_of_le_of_lt steps₂.left_le forward₁⟩

theorem label_ends (ready : Ready text tokens s) :
    Ends text label s fun _ s' => Steps text tokens s s' := by
  unfold label
  refine (seesName_ends ready).bind ?_
  rintro named s' ⟨rfl, _⟩
  refine (seesSecond_ends ready _).bind ?_
  rintro second s' rfl
  refine .ite (fun _ => ?_) fun _ => .pure (.refl ready)
  refine (next_ends ready).bind ?_
  rintro t s₁ ⟨steps₁, _⟩
  refine (next_ends steps₁.ready).discard_bind ?_
  rintro _ s₂ ⟨steps₂, _⟩
  exact .pure (steps₁.trans steps₂)

theorem optionalDesignator_ends (ready : Ready text tokens s) :
    Ends text optionalDesignator s fun _ s' => Steps text tokens s s' := by
  unfold optionalDesignator
  refine (seesName_ends ready).bind ?_
  rintro named s' ⟨rfl, _⟩
  refine (peek_ends ready).bind ?_
  rintro t s' ⟨rfl, _⟩
  refine .ite (fun _ => .discard ?_) fun _ => .pure (.refl ready)
  exact (next_ends ready).mono fun _ _ ⟨steps, _⟩ => steps

theorem acceptEach_ends (ready : Ready text tokens s) {words : List String} (nonempty : "" ∉ words) :
    Ends text (words.forM fun word => discard (accept [word])) s fun _ s' => Steps text tokens s s' := by
  induction words generalizing s with
  | nil => exact .pure (.refl ready)
  | cons word words ih =>
    rw [List.mem_cons, not_or] at nonempty
    change Ends text (discard (accept [word]) >>= fun _ => words.forM fun word => discard (accept [word])) s _
    refine (accept_ends ready (by simpa using nonempty.1)).discard_bind ?_
    rintro _ s₁ ⟨steps₁, _⟩
    exact (ih steps₁.ready nonempty.2).mono fun _ _ steps => steps₁.trans steps

theorem endOf_ends (ready : Ready text tokens s) {words : List String} (nonempty : "" ∉ words) :
    Ends text (endOf words) s fun _ s' => Steps text tokens s s' ∧ s'.left < s.left := by
  unfold endOf
  refine (skip_ends ready (by decide)).bind ?_
  rintro _ s₁ ⟨steps₁, forward₁⟩
  refine (acceptEach_ends steps₁.ready nonempty).bind ?_
  intro _ s₂ steps₂
  refine (optionalDesignator_ends steps₂.ready).bind ?_
  intro _ s₃ steps₃
  refine (skip_ends steps₃.ready (by decide)).mono ?_
  rintro _ s₄ ⟨steps₄, _⟩
  have steps := steps₂.trans (steps₃.trans steps₄)
  exact ⟨steps₁.trans steps, Nat.lt_of_le_of_lt steps.left_le forward₁⟩

end Reader
end DesignLint
