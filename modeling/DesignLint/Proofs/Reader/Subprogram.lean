import DesignLint.Proofs.Reader.Group

/-! Subprograms. Their bodies are read over: the cursor moves on, the tree stays. Nested subprograms are read
over through a reader of their own, whose nesting never runs out, since every level reads at least one
token. -/
namespace DesignLint.Reader

variable {text : Bytes} {tokens : List Token} {s s₁ : ReaderState} {owner : Nat}

/-- A reader that is started before the end of the text reads on and leaves the tree alone. -/
def ReadsOver (text : Bytes) (tokens : List Token) (limit : Nat) (x : Reader Unit) : Prop :=
  ∀ s, Ready text tokens s → s.left ≤ limit → ¬s.AtEnd →
    Ends text x s fun _ s' => Steps text tokens s s' ∧ s'.left < s.left

theorem aliasDeclaration_ends (ready : Ready text tokens s) :
    Ends text aliasDeclaration s fun t s' => Steps text tokens s s' ∧ s'.left < s.left ∧ ∀ owner, s'.Seen owner t := by
  unfold aliasDeclaration
  refine (skip_ends ready (by decide)).bind ?_
  rintro _ s₁ ⟨steps₁, forward₁⟩
  refine (next_ends steps₁.ready).bind ?_
  rintro n s₂ ⟨steps₂, head, _⟩
  refine (skipPast_ends steps₂.ready (by decide)).bind ?_
  rintro _ s₃ ⟨steps₃, forward₃⟩
  have later := steps₂.trans steps₃
  refine .pure ⟨steps₁.trans later, Nat.lt_of_le_of_lt later.left_le forward₁, ?_⟩
  exact later.seen_head steps₁.ready (Nat.lt_of_lt_of_le forward₃ steps₂.left_le) head

theorem skipBody_ends {nested : Reader Unit} (ready : Ready text tokens s)
    (reads : ReadsOver text tokens s.left nested) :
    Ends text (skipBody nested) s fun _ s' => Steps text tokens s s' := by
  unfold skipBody
  refine (Ends.loop (fun _ s' => Steps text tokens s s') (fun _ s' => Steps text tokens s s') ?_
    (.refl ready)).bind fun _ s₁ steps₁ => ?_
  · intro _ s₁ steps₁
    refine (sees_word_ends steps₁.ready (by decide)).bind ?_
    rintro begins s' ⟨rfl, _⟩
    refine .ite (fun _ => .pure steps₁) fun _ => ?_
    refine (atEnd_ends steps₁.ready).bind ?_
    rintro ended s' ⟨rfl, more⟩
    refine .ite (fun _ => fail_ends steps₁.ready (by decide)) fun open_ => ?_
    refine (sees_word_ends steps₁.ready (by decide)).bind ?_
    rintro starts s' ⟨rfl, _⟩
    refine .ite (fun _ => ?_) fun _ => ?_
    · refine (reads _ steps₁.ready steps₁.left_le (more open_)).bind ?_
      rintro _ s₂ ⟨steps₂, forward⟩
      exact .pure ⟨steps₁.trans steps₂, forward⟩
    · refine (next_forward_ends steps₁.ready (more open_)).discard_bind ?_
      rintro _ s₂ ⟨steps₂, forward, _⟩
      exact .pure ⟨steps₁.trans steps₂, forward⟩
  refine (next_ends steps₁.ready).discard_bind ?_
  rintro _ s₂ ⟨steps₂, _⟩
  refine Ends.loop (fun _ s' => Steps text tokens s s') (fun _ s' => Steps text tokens s s') ?_
    (steps₁.trans steps₂)
  intro _ s₃ steps₃
  refine (next_ends steps₃.ready).bind ?_
  rintro t s₄ ⟨steps₄, _, forward₄⟩
  refine .split (fun _ => fail_ends steps₄.ready (by decide)) fun significant => ?_
  refine .split (fun _ => ?_) fun _ => .pure ⟨steps₃.trans steps₄, forward₄ significant⟩
  refine (accept_ends steps₄.ready (by decide)).bind ?_
  rintro closes s₅ ⟨steps₅, _⟩
  have steps := steps₃.trans (steps₄.trans steps₅)
  refine .ite (fun _ => .pure ⟨steps, Nat.lt_of_le_of_lt steps₅.left_le (forward₄ significant)⟩) fun _ => ?_
  refine (skipPast_ends steps.ready (by decide)).bind ?_
  rintro _ s₆ ⟨steps₆, _⟩
  exact .pure (steps.trans steps₆)

/-- An optional word and then a token: before the end of the text, this reads on. -/
theorem accept_next_forward (ready : Ready text tokens s) (more : ¬s.AtEnd) {words : List String}
    (nonempty : "" ∉ words) :
    Ends text (accept words) s fun _ s' => Steps text tokens s s' ∧ (s'.left < s.left ∨ ¬s'.AtEnd) := by
  refine (accept_cases_ends ready nonempty).mono ?_
  rintro _ s' (⟨_, steps, forward⟩ | ⟨_, rfl⟩)
  · exact ⟨steps, .inl forward⟩
  · exact ⟨.refl ready, .inr more⟩

theorem skipSubprogram_ends (nesting : Nat) (ready : Ready text tokens s) (enough : s.left < nesting)
    (more : ¬s.AtEnd) :
    Ends text (skipSubprogram nesting) s fun _ s' => Steps text tokens s s' ∧ s'.left < s.left := by
  induction nesting generalizing s with
  | zero => exact absurd enough (Nat.not_lt_zero _)
  | succ nesting ih =>
    unfold skipSubprogram
    refine (accept_next_forward ready more (by decide)).discard_bind ?_
    rintro _ s₁ ⟨steps₁, onward⟩
    refine (next_ends steps₁.ready).discard_bind ?_
    rintro t s₂ ⟨steps₂, head, forward₂⟩
    have forward : s₂.left < s.left := by
      have := steps₁.left_le
      rcases onward with forward | open_
      · exact Nat.lt_of_le_of_lt steps₂.left_le forward
      · exact Nat.lt_of_lt_of_le (forward₂ fun last => open_ ⟨t, head, last⟩) this
    refine (next_ends steps₂.ready).discard_bind ?_
    rintro _ s₃ ⟨steps₃, _⟩
    refine (phraseUpTo_ends steps₃.ready _).discard_bind ?_
    rintro _ s₄ ⟨steps₄, _⟩
    refine (accept_ends steps₄.ready (by decide)).bind ?_
    rintro ended s₅ ⟨steps₅, _⟩
    have later := (steps₃.trans steps₄).trans steps₅
    have steps := (steps₁.trans steps₂).trans later
    have forward := Nat.lt_of_le_of_lt later.left_le forward
    refine .ite (fun _ => .pure ⟨steps, forward⟩) fun _ => ?_
    refine (skip_ends steps.ready (by decide)).bind ?_
    rintro _ s₆ ⟨steps₆, _⟩
    have steps := steps.trans steps₆
    have forward := Nat.lt_of_le_of_lt steps₆.left_le forward
    refine (sees_word_ends steps.ready (by decide)).bind ?_
    rintro instance_ s' ⟨rfl, _⟩
    refine .ite (fun _ => ?_) fun _ => ?_
    · refine (skipPast_ends steps.ready (by decide)).mono ?_
      rintro _ s₇ ⟨steps₇, _⟩
      exact ⟨steps.trans steps₇, Nat.lt_of_le_of_lt steps₇.left_le forward⟩
    · -- The body is read from a later token, so one level less is enough for what is nested in it.
      have reads : ReadsOver text tokens s'.left (skipSubprogram nesting) :=
        fun s₇ ready₇ le open_ => ih ready₇ (by omega) open_
      refine (skipBody_ends steps.ready reads).mono ?_
      intro _ s₇ steps₇
      exact ⟨steps.trans steps₇, Nat.lt_of_le_of_lt steps₇.left_le forward⟩

theorem nestedSubprogram_ends (ready : Ready text tokens s) (more : ¬s.AtEnd) :
    Ends text nestedSubprogram s fun _ s' => Steps text tokens s s' ∧ s'.left < s.left :=
  .get_bind (skipSubprogram_ends _ ready (Nat.lt_succ_self _) more)

theorem designator_ends (ready : Ready text tokens s) :
    Ends text designator s fun _ s' => Steps text tokens s s' ∧ s'.left < s.left := by
  unfold designator
  refine ((next_ends ready).and (next_rest_ends ready)).bind ?_
  rintro n s₁ ⟨⟨steps₁, _, forward₁⟩, rest⟩
  refine .ite (fun _ => failLate_ends ready steps₁.ready (by decide) rest) fun named => .pure ⟨steps₁, forward₁ ?_⟩
  intro last
  simp [last] at named

theorem subprogramRest_ends (ready : Ready text tokens s) :
    Ends text subprogramRest s fun _ s' => Steps text tokens s s' := by
  unfold subprogramRest
  refine (sees_word_ends ready (by decide)).bind ?_
  rintro isBody s' ⟨rfl, _⟩
  refine (seesSecond_ends ready _).bind ?_
  rintro isNew s' rfl
  refine .ite (fun _ => ?_) fun _ => ?_
  · refine (skipPast_ends ready (by decide)).bind ?_
    rintro _ s₁ ⟨steps₁, _⟩
    exact .pure steps₁
  refine (phraseUpTo_ends ready _).discard_bind ?_
  rintro _ s₁ ⟨steps₁, _⟩
  refine (ifAccepted_ends (fun _ s' => Steps text tokens s₁ s') steps₁.ready (by decide) ?_
    fun _ steps => steps).bind fun returnType s₂ steps₂ => ?_
  · intro s₂ steps₂ _
    refine (phraseUpTo_ends steps₂.ready _).bind ?_
    rintro p s₃ ⟨steps₃, _⟩
    refine (textOf_ends p).mono ?_
    rintro _ _ rfl
    exact steps₂.trans steps₃
  refine (accept_ends steps₂.ready (by decide)).bind ?_
  rintro ended s₃ ⟨steps₃, _⟩
  have steps := steps₁.trans (steps₂.trans steps₃)
  refine .ite (fun _ => .pure steps) fun _ => ?_
  refine (skip_ends steps.ready (by decide)).bind ?_
  rintro _ s₄ ⟨steps₄, _⟩
  have reads : ReadsOver text tokens s₄.left nestedSubprogram :=
    fun s₅ ready₅ _ open_ => nestedSubprogram_ends ready₅ open_
  refine (skipBody_ends steps₄.ready reads).bind fun _ s₅ steps₅ => ?_
  exact .pure ((steps.trans steps₄).trans steps₅)

theorem subprogram_ends (ready : Ready text tokens s) (owner_lt : owner < s.tree.nodes.size) (more : ¬s.AtEnd) :
    Ends text (subprogram owner) s fun id s' => Adds text tokens s s' owner [(.function, id)] ∧
      s'.left < s.left := by
  unfold subprogram
  refine (peek_ends ready).bind ?_
  rintro start s ⟨rfl, head⟩
  refine (accept_next_forward ready more (by decide)).discard_bind ?_
  rintro _ s₁ ⟨steps₁, onward⟩
  have met := steps₁.met ready (ready.met head owner)
  refine (begin_ends steps₁.ready (steps₁.tree_eq ▸ owner_lt) met _ (by trivial)).bind ?_
  rintro id s₂ ⟨rfl, opens⟩
  refine (sees_word_ends opens.ready (by decide)).bind ?_
  rintro isProcedure s₂ ⟨rfl, _⟩
  refine (next_ends opens.ready).discard_bind ?_
  rintro t s₃ ⟨steps₃, head₃, forward₃⟩
  have forward : s₃.left < s.left := by
    rcases onward with forward | open_
    · have := steps₃.left_le
      have := opens.left_eq
      omega
    · have := forward₃ fun last => open_ ⟨t, opens.rest_eq ▸ head₃, last⟩
      have := opens.left_eq
      have := steps₁.left_le
      omega
  refine (designator_ends steps₃.ready).bind ?_
  rintro n s₄ ⟨steps₄, forward₄⟩
  refine (subprogramRest_ends steps₄.ready).bind fun returnType s₅ steps₅ => ?_
  have later := steps₄.trans steps₅
  have inner := (steps₃.trans later).adds opens.new_lt
  have forward := Nat.lt_of_le_of_lt later.left_le forward
  have clear := later.clear steps₃.ready (Nat.lt_of_le_of_lt steps₅.left_le forward₄)
  refine (opens.complete_ends inner steps₁.ready clear (by rfl) (by rfl)
    (Construct.holds_nil_of_isLeaf rfl) .nil Role.noConfusion (by rfl) (.inl (by trivial))).bind ?_
  rintro _ s₆ ⟨adds, same⟩
  exact .pure ⟨steps₁.then_adds adds, same ▸ forward⟩

end DesignLint.Reader
