import DesignLint.Reader.Concurrent
import DesignLint.Proofs.Reader.Sequential

/-! Concurrent statements. The statements of a body are parts of the unit around it, and a body lists them by
kind after its declarations. Generate statements nest level by level, as sequential statements do. -/
namespace DesignLint

/-- Parts that a body lists and, apart from them, use clauses only. -/
def Part.Fill (parts : List Part) (b : Body) : Prop :=
  ∀ role, role ≠ .use → Part.pick role parts = b.members role

theorem Part.Declare.fill {parts : List Part} {d : Declarations} (declare : Part.Declare parts d)
    (outside : d.locals = []) : Part.Fill parts (Body.declare {} d) := by
  intro role other
  rw [declare role other]
  cases role <;> simp [Declarations.members, Body.members, Body.declare, outside]

namespace Part.Uses

variable {parts : List Part}

theorem holds_mapping {m : Mapping}
    (uses : Part.Uses parts m.ifOutputWrites (m.formal ++ m.ifInput ++ m.ifOutputReads)) :
    (Construct.mapping m).Holds parts := by
  refine ⟨by simp [Construct.statements], fun role _ => ?_, fun _ => nofun⟩
  rw [uses role]
  cases role <;> simp [Construct.members, Construct.statements]

theorem tight {writes reads : List NodeId} (uses : Part.Uses parts writes reads) : Part.Tight parts :=
  .of_pick (uses .clause) (uses .mapping)

end Part.Uses

namespace Reader

variable {text : Bytes} {tokens : List Token} {s s₁ s₂ : ReaderState} {parent : Nat} {t : Token}

theorem bracketed_ends (ready : Ready text tokens s) (parent_lt : parent < s.tree.nodes.size) :
    Ends text (bracketed parent) s fun ids s' => Adds text tokens s s' parent (Part.all .read ids) := by
  unfold bracketed
  refine ifAccepted_ends _ ready (by decide) ?_ fun _ steps => steps.adds parent_lt
  intro s₁ steps₁ _
  refine (phrase_ends steps₁.ready _).bind ?_
  rintro p s₂ ⟨steps₂, awaits, _⟩
  have steps := steps₁.trans steps₂
  refine (reads_ends steps.ready (steps.tree_eq ▸ parent_lt) (awaits _)).bind ?_
  rintro ids s₃ ⟨_, adds₃⟩
  refine (skip_ends adds₃.ready (by decide)).bind ?_
  rintro _ s₄ ⟨steps₄, _⟩
  exact .pure ((steps.then_adds adds₃).steps steps₄)

theorem process_ends (ready : Ready text tokens s) (parent_lt : parent < s.tree.nodes.size)
    (met : s.Met parent t) (label : Bytes) :
    Ends text (process parent t label) s fun id s' => s'.left < s.left ∧
      Adds text tokens s s' parent [(.process, id)] := by
  unfold process
  refine (begin_ends ready parent_lt met _ (by trivial)).bind ?_
  rintro id s₁ ⟨rfl, opens⟩
  refine (accept_ends opens.ready (by decide)).discard_bind ?_
  rintro _ s₂ ⟨steps₂, _⟩
  refine (skip_ends steps₂.ready (by decide)).bind ?_
  rintro _ s₃ ⟨steps₃, forward₃⟩
  have before := steps₂.trans steps₃
  refine (bracketed_ends before.ready (before.tree_eq ▸ opens.new_lt)).bind fun sensitivity s₄ adds₄ => ?_
  refine (accept_ends adds₄.ready (by decide)).discard_bind ?_
  rintro _ s₅ ⟨steps₅, _⟩
  have sensed := (before.then_adds adds₄).steps steps₅
  refine (declarations_ends sensed.ready (sensed.grows.toExtends.isRegion (opens.isRegion rfl)) true).bind ?_
  rintro d s₆ ⟨_, declared, adds₆, declare⟩
  refine (skip_ends adds₆.ready (by decide)).bind ?_
  rintro _ s₇ ⟨steps₇, _⟩
  have declaredTo := (sensed.trans adds₆ opens.ready).steps steps₇
  refine (statements_ends _ s₇ steps₇.ready (Nat.lt_of_lt_of_le opens.new_lt declaredTo.size_le)
    (Nat.le_add_right _ _)).bind ?_
  rintro body s₈ ⟨present, adds₈⟩
  refine (endOf_ends adds₈.ready (by decide)).bind ?_
  rintro _ s₉ ⟨steps₉, forward₉⟩
  have inner := (declaredTo.trans adds₈ opens.ready).steps steps₉
  have forward : s₉.left < s.left := by
    have := steps₂.left_le
    have := adds₄.left_le
    have := steps₅.left_le
    have := adds₆.left_le
    have := steps₇.left_le
    have := adds₈.left_le
    have := steps₉.left_le
    have := opens.left_eq
    omega
  refine (opens.complete_ends inner ready (steps₉.clear adds₈.ready forward₉) (by rfl) (by rfl) ?_ .nil Role.noConfusion (by rfl) (.inl (by trivial))).bind ?_
  · refine ⟨present, fun role listed => ?_, fun _ => nofun⟩
    have other : role ≠ .use := by
      rintro rfl
      simp [Construct.lists] at listed
    rw [Part.pick_append, Part.pick_append, declare role other]
    revert listed
    cases role <;> simp [Construct.lists, Construct.members, Construct.statements, Declarations.members]
  · rintro _ s₁₀ ⟨adds, same⟩
    exact .pure ⟨same ▸ forward, adds⟩

/-- Without an arrow the cursor goes back to where the search for a formal began. -/
theorem formalPart_ends (ready : Ready text tokens s) (parent_lt : parent < s.tree.nodes.size) :
    Ends text (formalPart parent) s fun ids s' => Adds text tokens s s' parent (Part.all .read ids) ∧
      s'.rest = behindFormal s.rest ∧ s'.tree.Records tokens parent ids := by
  unfold formalPart
  refine .get_bind ((phrase_split_ends ready _).bind ?_)
  rintro p s₁ ⟨⟨steps₁, awaits, _⟩, later, split, rest₁⟩
  refine ((accept_ends steps₁.ready (by decide)).and (accept_head_ends steps₁.ready (by decide) rest₁)).bind ?_
  rintro named s₂ ⟨⟨steps₂, _⟩, isArrow, rest₂⟩
  have steps := steps₁.trans steps₂
  refine .ite (fun yes => ?_) fun no => ?_
  · refine (reads_marks_ends steps.ready (steps.tree_eq ▸ parent_lt) (steps₂.awaits (awaits _))).mono ?_
    rintro ids s₃ ⟨⟨same, adds₃⟩, _, marks⟩
    refine ⟨steps.then_adds adds₃, ?_, _, (Phrase.walk_sublist p _ _ _ _ _ _).trans (awaits parent).sublist, marks⟩
    have arrow : p.follow.word = "=>" := by simpa using isArrow.symm.trans yes
    rw [(steps.ready.unmoved adds₃.ready same).1, rest₂, yes, if_pos rfl, behindFormal, split]
    exact (if_pos arrow).symm
  · have back : Steps text tokens s { s₂ with rest := s.rest, lastStop := s.lastStop } :=
      ⟨⟨ready.tokensOf, ready.cursor, ready.unpassed, steps.ready.text_eq, steps.ready.rooted,
        steps.ready.shallow, steps.tree_eq ▸ ready.spans, steps.ready.faithful, steps.ready.marked⟩, Nat.le_refl _,
        steps.tree_eq, fun past => past⟩
    refine .modify_bind (.pure ⟨back.adds parent_lt, ?_, [], List.nil_sublist tokens, .nil⟩)
    have other : p.follow.word ≠ "=>" := by simpa using isArrow.symm.trans no
    rw [behindFormal, split]
    exact (if_neg other).symm

/-- An association that takes no token ends with the token before it. -/
theorem completeGap_ends {last : Nat} (ready : Ready text tokens s) {id : Nat}
    (known : s.tree.node? id = some ⟨some parent, t.offset, t.offset, .mapping {}⟩)
    (head : s.rest.head? = some t) (lastStop : s.lastStop = some last)
    (below : ∀ above, s.tree.node? parent = some above → above.start ≤ last) :
    Ends text (complete id (.mapping {})) s fun _ s' =>
      Redraws text tokens s s' id ⟨some parent, t.offset, last, .mapping {}⟩ := by
  unfold complete finish
  have plain (u : Tree) : u.Fits tokens id t.offset (.mapping {}) := .inl rfl
  refine (become_ends ready known (by rfl) (Nat.le_refl _) rfl (plain _)).bind fun _ s₁ redraws => .get_bind ?_
  simp only [redraws.last_eq, lastStop]
  have gap : Node.Ordered tokens ⟨some parent, t.offset, last, .mapping {}⟩ := by
    refine .inr ⟨rfl, fun u member => ?_⟩
    rcases ready.left_or_passed lastStop u member with left | passed
    · exact .inr ((ready.met head id).before u left)
    · exact .inl passed
  refine redraws.trans (Redraws.ofModify redraws.ready redraws.drawn rfl rfl rfl gap ?_ ?_ rfl (plain _))
  · rw [redraws.rest_eq]
    exact fun _ => ready.lastStop_le lastStop
  · rintro p above owns here
    cases owns
    by_cases same : parent = id
    · subst same
      rw [redraws.drawn] at here
      cases here
      exact below _ known
    · exact below above ((redraws.redrawn.other parent same).symm.trans here)

/-- An association has a part, or has read a token, or it is empty and stands between two tokens. -/
theorem completeMapping_ends {parts : List Part} {m : Mapping} (ready : Ready text tokens s)
    (head : s.rest.head? = some t) (opens : Opens text tokens s s₁ parent t.offset t.offset (.mapping {}))
    (inner : Adds text tokens s₁ s₂ s.tree.nodes.size parts) (settled : s.Settled)
    (below : ∀ above, s.tree.node? parent = some above → s.Past above.start)
    (uses : Part.Uses parts m.ifOutputWrites (m.formal ++ m.ifInput ++ m.ifOutputReads))
    (fits : s₂.tree.Fits tokens s.tree.nodes.size t.offset (.mapping m)) :
    Ends text (complete s.tree.nodes.size (.mapping m)) s₂ fun _ s' =>
      Adds text tokens s s' parent [(.mapping, s.tree.nodes.size)] := by
  have settled₂ : s₂.Settled := inner.settles (opens.settled settled (absurd · Bool.noConfusion))
  have inside := opens.inside_of_tight inner settled₂ (Part.Uses.tight uses)
  by_cases begun : s₂.Past t.offset
  · refine (opens.complete_tight_ends inner ready settled₂ begun (Part.Uses.tight uses) (by rfl) (by rfl)
      (Part.Uses.holds_mapping uses) (fun _ member => nomatch member) Role.noConfusion rfl fits).mono ?_
    exact fun _ _ ⟨adds, _⟩ => adds
  have known := opens.node?_after inner
  have empty : parts = [] := by
    refine List.eq_nil_iff_forall_not_mem.mpr ?_
    rintro ⟨role, i⟩ member
    rw [← inner.grows.added_eq] at member
    obtain ⟨_, above, _⟩ := Tree.mem_partsFrom.mp member
    obtain ⟨child, found, owns⟩ := Option.bind_eq_some_iff.mp above
    have starts := (inner.ready.spans.below i child _ _ found owns known).1
    exact begun ((inside i child found owns).1.le starts)
  subst empty
  obtain rfl : m = {} := by
    have reads := uses .read
    have writes := uses .write
    simp only [Part.pick_nil, List.nil_eq, List.append_eq_nil_iff] at reads writes
    obtain ⟨⟨formal, ifInput⟩, ifOutputReads⟩ := reads
    cases m
    simp_all
  -- Nothing was read, so the cursor stands where the association began.
  have unmoved : s₂.left = s.left := by
    have le := inner.left_le
    rw [opens.left_eq] at le
    refine Nat.le_antisymm le (Nat.le_of_not_lt fun moved => begun ?_)
    exact ready.past_of_lt inner.ready moved (ready.met head parent).before
  obtain ⟨rest_eq, last_eq⟩ := ready.unmoved inner.ready unmoved
  have parent_known (above : Node) (here : s₂.tree.node? parent = some above) : s.tree.node? parent = some above := by
    rw [← opens.extend.old parent opens.owner_lt, ← inner.grows.old parent (Nat.lt_trans opens.owner_lt opens.new_lt)]
    exact here
  obtain ⟨last, lastStop, _⟩ := below _ (Array.getElem?_eq_getElem opens.owner_lt)
  refine (completeGap_ends inner.ready known (rest_eq ▸ head) (last_eq.trans lastStop) fun above here =>
    (below above (parent_known above here)).le_last lastStop).mono fun _ s₃ redraws => ?_
  refine opens.close ready inner redraws rfl rfl (Part.Uses.holds_mapping uses) .nil ?_ Role.noConfusion fun _ => ?_
  · refine redraws.covers fun i child found owns => ?_
    have passed := inside i child found owns
    exact ⟨passed.1.le_last (last_eq.trans lastStop), passed.2.le_last (last_eq.trans lastStop)⟩
  · exact redraws.settled settled₂ fun tight => absurd tight (by simp [Construct.role, Role.isLoose])

theorem association_ends (ready : Ready text tokens s) (parent_lt : parent < s.tree.nodes.size) (settled : s.Settled)
    (below : ∀ above, s.tree.node? parent = some above → s.Past above.start) :
    Ends text (association parent) s fun id s' => Adds text tokens s s' parent [(.mapping, id)] := by
  unfold association
  refine (peek_ends ready).bind ?_
  rintro start s ⟨rfl, head⟩
  refine (begin_ends ready parent_lt (ready.met head parent) _ (by trivial)).bind ?_
  rintro id s₁ ⟨rfl, opens⟩
  refine (formalPart_ends opens.ready opens.new_lt).bind ?_
  rintro formal s₂ ⟨adds₂, rest₂, records₂⟩
  refine ((accept_ends adds₂.ready (by decide)).and (accept_cases_ends adds₂.ready (by decide))).bind ?_
  rintro isOpen s₃ ⟨⟨steps₃, _⟩, opened⟩
  have named := adds₂.steps steps₃
  have id_lt₃ := Nat.lt_of_lt_of_le opens.new_lt named.size_le
  refine .ite (fun _ => ?_) fun closed => ?_
  · refine (completeMapping_ends ready head opens named settled below
      (by simpa using Part.Uses.all_read formal)
      (.inr (.inr ⟨_, rfl, steps₃.tree_eq ▸ records₂, .inl ⟨rfl, rfl, rfl⟩⟩))).bind fun _ s₄ adds => ?_
    exact .pure adds
  obtain rfl : s₃ = s₂ := by
    rcases opened with ⟨yes, _⟩ | ⟨_, same⟩
    · rw [closed] at yes
      contradiction
    · exact same
  refine (phrase_split_ends named.ready _).bind ?_
  rintro actual s₄ ⟨⟨steps₄, awaits, _⟩, later, split, _⟩
  have isActual : actual.IsActual tokens start.offset := by
    obtain ⟨before, whole, _⟩ := ready.cursor
    refine ⟨before, s.rest, later, whole, by rw [head, Option.map_some], ?_⟩
    rw [rest₂, opens.rest_eq] at split
    exact split
  have id_lt₄ : s.tree.nodes.size < s₄.tree.nodes.size := steps₄.tree_eq ▸ id_lt₃
  refine (reads_marks_ends steps₄.ready id_lt₄ (awaits _)).bind ?_
  rintro ifInput s₅ ⟨⟨_, adds₅⟩, libraries₅, inputs⟩
  have asInput := named.trans (steps₄.then_adds adds₅) opens.ready
  have again : s₄.tree.role? s.tree.nodes.size = some .mapping := by
    rw [Tree.role?, steps₄.tree_eq, named.grows.construct?_old _ opens.new_lt, opens.construct?]
    rfl
  refine (occurrences_marks_ends asInput.ready (Nat.lt_of_lt_of_le opens.new_lt asInput.size_le) _
    (adds₅.awaits steps₄.ready again (awaits _))).bind ?_
  rintro ⟨ifOutputWrites, ifOutputReads⟩ s₆ ⟨⟨_, parts, adds₆, uses, _⟩, _, written, read⟩
  have inner := asInput.trans adds₆ opens.ready
  rw [libraries₅] at written read
  have old₆ (i : Nat) (node : Node) (known : s₅.tree.node? i = some node) : s₆.tree.node? i = some node :=
    (adds₆.grows.old i (Tree.lt_size_of_node? known)).trans known
  have associates : s₆.tree.Associates tokens s.tree.nodes.size start.offset ⟨formal, ifInput, ifOutputReads, ifOutputWrites⟩ :=
    ⟨_, actual, isActual, inputs.imp fun _ _ marks => marks.mono fun i node known _ => old₆ i node known, written, read⟩
  have records : s₆.tree.Records tokens s.tree.nodes.size formal := by
    refine records₂.mono fun i node known _ => old₆ i node ?_
    rw [adds₅.grows.old i (steps₄.tree_eq ▸ Tree.lt_size_of_node? known), steps₄.tree_eq]
    exact known
  refine (completeMapping_ends ready head opens inner settled below ?_
    (.inr (.inr ⟨_, rfl, records, .inr associates⟩))).bind fun _ s₇ adds => ?_
  · simpa using ((Part.Uses.all_read formal).append (.all_read ifInput)).append uses
  · exact .pure adds

theorem associationMap_ends (ready : Ready text tokens s) (parent_lt : parent < s.tree.nodes.size) :
    Ends text (associationMap parent) s fun id s' => Adds text tokens s s' parent [(.map, id)] := by
  unfold associationMap
  refine (expect_ends ready (by decide)).bind ?_
  rintro start s₁ ⟨steps₁, forward₁, head⟩
  refine (begin_ends steps₁.ready (steps₁.tree_eq ▸ parent_lt) (steps₁.met ready (ready.met head parent)) _ (by trivial)).bind ?_
  rintro id s₂ ⟨rfl, opens⟩
  -- The map begins at a bracket that has been read.
  have past₁ : s₁.Past start.offset := (ready.past_head steps₁.ready forward₁ head).le (Nat.le_add_right _ _)
  have settled : s₂.Settled := opens.settled (steps₁.clear ready forward₁).settled fun _ => ⟨past₁, past₁⟩
  refine (Ends.loop (fun ids s' => Adds text tokens s₂ s' s₁.tree.nodes.size (Part.all .mapping ids))
    (fun ids s' => Adds text tokens s₂ s' s₁.tree.nodes.size (Part.all .mapping ids)) ?_
    ((Steps.refl opens.ready).adds opens.new_lt)).bind fun mappings s₃ adds₃ => ?_
  · intro mappings s₃ adds₃
    refine (association_ends adds₃.ready (Nat.lt_of_lt_of_le opens.new_lt adds₃.size_le) (adds₃.settles settled)
      fun above here => ?_).bind fun id s₄ adds₄ => ?_
    · rw [opens.node?_after adds₃] at here
      cases here
      exact adds₃.past opens.ready ((ReaderState.past_congr opens.last_eq).mpr past₁)
    have adds := adds₃.trans adds₄ opens.ready
    rw [show [(Role.mapping, id)] = Part.all .mapping [id] from rfl, ← Part.all_append] at adds
    refine (accept_ends adds.ready (by decide)).bind ?_
    rintro separated s₅ ⟨steps₅, forward₅⟩
    refine .ite (fun again => .pure ⟨adds.steps steps₅, ?_⟩) fun _ => .pure (adds.steps steps₅)
    exact Nat.lt_of_lt_of_le (forward₅ again) adds₄.left_le
  refine (skip_ends adds₃.ready (by decide)).bind ?_
  rintro _ s₄ ⟨steps₄, forward₄⟩
  have inner := adds₃.steps steps₄
  refine (opens.complete_ends inner steps₁.ready (steps₄.clear adds₃.ready forward₄) (by rfl) (by rfl) ?_ .nil Role.noConfusion (by rfl) (.inl (by trivial))).bind ?_
  · refine ⟨by simp [Construct.statements], fun role _ => ?_, fun _ => nofun⟩
    cases role <;> simp [Construct.members, Construct.statements]
  · rintro _ s₅ ⟨adds, _⟩
    exact .pure (steps₁.then_adds adds)

theorem optionalMap_ends {word : String} (nonempty : "" ∉ [word]) (ready : Ready text tokens s)
    (parent_lt : parent < s.tree.nodes.size) :
    Ends text (optionalMap word parent) s fun id s' =>
      Adds text tokens s s' parent (Part.all .map id.toList) := by
  unfold optionalMap
  refine ifAccepted_ends _ ready nonempty ?_ fun _ steps => steps.adds parent_lt
  intro s₁ steps₁ _
  refine (skip_ends steps₁.ready (by decide)).bind ?_
  rintro _ s₂ ⟨steps₂, _⟩
  have steps := steps₁.trans steps₂
  refine (associationMap_ends steps.ready (steps.tree_eq ▸ parent_lt)).bind fun id s₃ adds₃ => ?_
  exact .pure (steps.then_adds adds₃)

theorem optionalArchitecture_ends (ready : Ready text tokens s) :
    Ends text optionalArchitecture s fun _ s' => Steps text tokens s s' := by
  unfold optionalArchitecture
  refine ifAccepted_ends _ ready (by decide) ?_ fun _ steps => steps
  intro s₁ steps₁ _
  refine (name_ends steps₁.ready).discard_bind ?_
  rintro _ s₂ ⟨steps₂, _⟩
  refine (skip_ends steps₂.ready (by decide)).mono ?_
  rintro _ s₃ ⟨steps₃, _⟩
  exact (steps₁.trans steps₂).trans steps₃

theorem instantiatedUnit_ends (ready : Ready text tokens s) :
    Ends text instantiatedUnit s fun _ s' => Steps text tokens s s' ∧ s'.left < s.left := by
  unfold instantiatedUnit
  refine (accept_ends ready (by decide)).bind ?_
  rintro isEntity s₁ ⟨steps₁, _⟩
  refine .ite (fun _ => ?_) fun _ => ?_
  · refine (selectedName_ends steps₁.ready).bind ?_
    rintro parts s₂ ⟨steps₂, forward₂⟩
    refine (optionalArchitecture_ends steps₂.ready).bind fun _ s₃ steps₃ => ?_
    refine .pure ⟨(steps₁.trans steps₂).trans steps₃, ?_⟩
    have := steps₁.left_le
    have := steps₃.left_le
    omega
  refine (accept_ends steps₁.ready (by decide)).bind ?_
  rintro isConfiguration s₂ ⟨steps₂, _⟩
  have steps := steps₁.trans steps₂
  refine .ite (fun _ => ?_) fun _ => ?_
  · refine (selectedName_ends steps.ready).bind ?_
    rintro parts s₃ ⟨steps₃, forward₃⟩
    exact .pure ⟨steps.trans steps₃, Nat.lt_of_lt_of_le forward₃ steps.left_le⟩
  · refine (accept_ends steps.ready (by decide)).discard_bind ?_
    rintro _ s₃ ⟨steps₃, _⟩
    have steps := steps.trans steps₃
    refine (name_ends steps.ready).bind ?_
    rintro n s₄ ⟨steps₄, forward₄, _⟩
    exact .pure ⟨steps.trans steps₄, Nat.lt_of_lt_of_le forward₄ steps.left_le⟩

theorem instantiation_ends (ready : Ready text tokens s) (parent_lt : parent < s.tree.nodes.size)
    (met : s.Met parent t) (label : Bytes) :
    Ends text (instantiation parent t label) s fun id s' => s'.left < s.left ∧
      Adds text tokens s s' parent [(.instantiation, id)] := by
  unfold instantiation
  refine (begin_ends ready parent_lt met _ (by trivial)).bind ?_
  rintro id s₁ ⟨rfl, opens⟩
  refine (instantiatedUnit_ends opens.ready).bind ?_
  rintro ⟨kind, library, unitName⟩ s₂ ⟨steps₂, forward₂⟩
  refine (optionalMap_ends (by decide) steps₂.ready (steps₂.tree_eq ▸ opens.new_lt)).bind
    fun genericMap s₃ adds₃ => ?_
  have first := steps₂.then_adds adds₃
  refine (optionalMap_ends (by decide) first.ready (Nat.lt_of_lt_of_le opens.new_lt first.size_le)).bind
    fun portMap s₄ adds₄ => ?_
  refine (skip_ends adds₄.ready (by decide)).bind ?_
  rintro _ s₅ ⟨steps₅, forward₅⟩
  have both := first.trans adds₄ opens.ready
  have forward : s₅.left < s.left := by
    have := both.left_le
    have := opens.left_eq
    omega
  refine (opens.complete_ends (both.steps steps₅) ready (steps₅.clear adds₄.ready forward₅) (by rfl) (by rfl) ?_ .nil Role.noConfusion (by rfl) (.inl (by trivial))).bind ?_
  · refine ⟨by simp [Construct.statements], fun role _ => ?_, fun _ => nofun⟩
    cases role <;> simp [Construct.members, Construct.statements]
  · rintro _ s₆ ⟨adds, same⟩
    exact .pure ⟨same ▸ forward, adds⟩

/-- What the readers of concurrent statements add to a body: it lists the new parts after those that it has, and
its assignments are assignments. -/
def BodyGrows (text : Bytes) (tokens : List Token) (parent : Nat) (s : ReaderState) (b b' : Body)
    (s' : ReaderState) : Prop :=
  ∃ parts, Adds text tokens s s' parent parts ∧
    (∀ role, b'.members role = b.members role ++ Part.pick role parts) ∧ s'.tree.Assigns b'.assignments

/-- A reader of the statements of a body that stands deep enough for the levels that are left. -/
def Bodies (text : Bytes) (tokens : List Token) (levels : Nat) (read : BodyReader) : Prop :=
  ∀ parent b s, Ready text tokens s → parent < s.tree.nodes.size → maxDepth + 2 ≤ levels + s.tree.depth parent →
    s.tree.Assigns b.assignments → Ends text (read parent b) s (BodyGrows text tokens parent s b)

theorem generateDeclarations_ends (ready : Ready text tokens s) (region : s.tree.IsRegion parent) :
    Ends text (generateDeclarations parent) s fun b s' => ∃ parts, Adds text tokens s s' parent parts ∧
      Part.Fill parts b ∧ b.assignments = [] := by
  unfold generateDeclarations
  refine (sees_word_ends ready (by decide)).bind ?_
  rintro declares s ⟨rfl, _⟩
  refine .ite (fun _ => ?_) fun _ => ?_
  · refine (declarations_ends ready region false).bind ?_
    rintro d s₁ ⟨outside, parts, adds₁, declare⟩
    refine (skip_ends adds₁.ready (by decide)).bind ?_
    rintro _ s₂ ⟨steps₂, _⟩
    exact .pure ⟨parts, adds₁.steps steps₂, declare.fill (outside rfl), rfl⟩
  · refine (accept_ends ready (by decide)).discard_bind ?_
    rintro _ s₁ ⟨steps₁, _⟩
    refine .pure ⟨[], steps₁.adds region.lt_size, fun role _ => ?_, rfl⟩
    cases role <;> rfl

theorem alternativeEnd_ends (ready : Ready text tokens s) :
    Ends text alternativeEnd s fun _ s' => Steps text tokens s s' := by
  unfold alternativeEnd
  refine (sees_word_ends ready (by decide)).bind ?_
  rintro ends s ⟨rfl, _⟩
  refine (seesSecond_ends ready _).bind ?_
  rintro closes s rfl
  refine .ite (fun _ => ?_) fun _ => .pure (.refl ready)
  exact (endOf_ends ready (by decide)).mono fun _ _ ⟨steps, _⟩ => steps

theorem generateBody_ends {body : BodyReader} {levels : Nat} (bodies : Bodies text tokens levels body)
    (ready : Ready text tokens s) (region : s.tree.IsRegion parent)
    (enough : maxDepth + 2 ≤ levels + s.tree.depth parent) :
    Ends text (generateBody body parent) s fun b s' => ∃ parts, Adds text tokens s s' parent parts ∧
      Part.Fill parts b ∧ s'.tree.Assigns b.assignments := by
  have parent_lt := region.lt_size
  unfold generateBody
  refine (generateDeclarations_ends ready region).bind ?_
  rintro declared s₁ ⟨parts₁, adds₁, fill₁, nothing⟩
  refine (bodies parent declared s₁ adds₁.ready (Nat.lt_of_lt_of_le parent_lt adds₁.size_le)
    ((adds₁.depth_eq parent_lt).symm ▸ enough) (nothing ▸ .nil)).bind ?_
  rintro b s₂ ⟨parts₂, adds₂, members, simple⟩
  refine (alternativeEnd_ends adds₂.ready).bind fun _ s₃ steps₃ => ?_
  refine .pure ⟨parts₁ ++ parts₂, (adds₁.trans adds₂ ready).steps steps₃, fun role other => ?_,
    steps₃.tree_eq ▸ simple⟩
  rw [Part.pick_append, fill₁ role other, members role]

/-- A generate statement or block holds the reads of its bounds or condition and then its body. -/
theorem holds_generate {g : Generate} {parts : List Part} (fill : Part.Fill parts g.body) :
    (Construct.generate g).Holds (Part.all .read (g.bounds ++ g.condition) ++ parts) := by
  refine ⟨by simp [Construct.statements], fun role listed => ?_, fun _ => nofun⟩
  have other : role ≠ .use := by
    rintro rfl
    simp [Construct.lists] at listed
  rw [Part.pick_append, fill role other]
  cases role <;> simp [Construct.members, Body.members]

theorem forGenerate_ends {body : BodyReader} {levels : Nat} (bodies : Bodies text tokens levels body)
    (ready : Ready text tokens s) (parent_lt : parent < s.tree.nodes.size) (met : s.Met parent t)
    (enough : maxDepth + 2 ≤ levels + (s.tree.depth parent + 1)) (label : Bytes) :
    Ends text (forGenerate body parent t label) s fun id s' => s'.left < s.left ∧
      Adds text tokens s s' parent [(.generate, id)] := by
  unfold forGenerate
  refine (begin_ends ready parent_lt met _ (by trivial)).bind ?_
  rintro id s₁ ⟨rfl, opens⟩
  refine (skip_ends opens.ready (by decide)).bind ?_
  rintro _ s₂ ⟨steps₂, forward₂⟩
  refine (name_ends steps₂.ready).bind ?_
  rintro n s₃ ⟨steps₃, _⟩
  refine (skip_ends steps₃.ready (by decide)).bind ?_
  rintro _ s₄ ⟨steps₄, _⟩
  have before := (steps₂.trans steps₃).trans steps₄
  refine (expression_ends before.ready (before.tree_eq ▸ opens.new_lt) _).bind fun bounds s₅ adds₅ => ?_
  refine (skip_ends adds₅.ready (by decide)).bind ?_
  rintro _ s₆ ⟨steps₆, forward₆⟩
  have bounded := (before.then_adds adds₅).steps steps₆
  have depth_eq : s₆.tree.depth s.tree.nodes.size = s.tree.depth parent + 1 :=
    (bounded.depth_eq opens.new_lt).trans opens.depth_eq
  refine (generateBody_ends bodies bounded.ready (bounded.grows.toExtends.isRegion (opens.isRegion rfl))
    (depth_eq ▸ enough)).bind ?_
  rintro inner s₇ ⟨parts, adds₇, fill, simple⟩
  refine (endOf_ends adds₇.ready (by decide)).bind ?_
  rintro _ s₈ ⟨steps₈, forward₈⟩
  have filled := bounded.trans adds₇ opens.ready
  have forward : s₈.left < s.left := by
    have := filled.left_le
    have := opens.left_eq
    omega
  refine (opens.complete_ends (filled.steps steps₈) ready (steps₈.clear adds₇.ready forward₈) (by rfl) (by rfl) ?_
    (steps₈.tree_eq ▸ simple) Role.noConfusion (by rfl) (.inl (by trivial))).bind ?_
  · simpa using holds_generate (g := ⟨label, .forRange, n.text, bounds, [], inner⟩) fill
  · rintro _ s₉ ⟨adds, same⟩
    exact .pure ⟨same ▸ forward, adds⟩

theorem branchCondition_ends (ready : Ready text tokens s) (parent_lt : parent < s.tree.nodes.size)
    (conditional : Bool) :
    Ends text (branchCondition parent conditional) s fun ids s' =>
      Adds text tokens s s' parent (Part.all .read ids) := by
  unfold branchCondition
  exact .ite (fun _ => expression_ends ready parent_lt _) fun _ => .pure ((Steps.refl ready).adds parent_lt)

theorem generateBranch_ends {body : BodyReader} {levels : Nat} (bodies : Bodies text tokens levels body)
    (ready : Ready text tokens s) (parent_lt : parent < s.tree.nodes.size) (met : s.Met parent t)
    (enough : maxDepth + 2 ≤ levels + (s.tree.depth parent + 1)) (label : Bytes) (conditional : Bool) :
    Ends text (generateBranch body parent t label conditional) s fun id s' => s'.left < s.left ∧
      Adds text tokens s s' parent [(.generate, id)] := by
  unfold generateBranch
  refine (begin_ends ready parent_lt met _ (by trivial)).bind ?_
  rintro id s₁ ⟨rfl, opens⟩
  refine (Reader.label_ends opens.ready).discard_bind fun _ s₂ steps₂ => ?_
  refine (branchCondition_ends steps₂.ready (steps₂.tree_eq ▸ opens.new_lt) conditional).bind
    fun condition s₃ adds₃ => ?_
  refine (skip_ends adds₃.ready (by decide)).bind ?_
  rintro _ s₄ ⟨steps₄, forward₄⟩
  have tested := (steps₂.then_adds adds₃).steps steps₄
  have depth_eq : s₄.tree.depth s.tree.nodes.size = s.tree.depth parent + 1 :=
    (tested.depth_eq opens.new_lt).trans opens.depth_eq
  refine (generateBody_ends bodies tested.ready (tested.grows.toExtends.isRegion (opens.isRegion rfl))
    (depth_eq ▸ enough)).bind ?_
  rintro inner s₅ ⟨parts, adds₅, fill, simple⟩
  have forward : s₅.left < s.left := by
    have := steps₂.left_le
    have := adds₃.left_le
    have := adds₅.left_le
    have := opens.left_eq
    omega
  -- A branch may end with its last statement, but it has no clause or association of its own.
  have clear := steps₄.clear adds₃.ready forward₄
  have begun := adds₅.past tested.ready (opens.begun tested clear)
  have tight : Part.Tight (Part.all .read condition ++ parts) :=
    (Part.Tight.all rfl condition).append (.of_pick (fill .clause Role.noConfusion) (fill .mapping Role.noConfusion))
  refine (opens.complete_tight_ends (tested.trans adds₅ opens.ready) ready (adds₅.settles clear.settled) begun tight
    (by rfl) (by rfl) ?_ (by exact simple) Role.noConfusion (by rfl) (.inl (by trivial))).bind ?_
  · exact holds_generate (g := ⟨label, .condition, [], [], condition, inner⟩) fill
  · rintro _ s₆ ⟨adds, same⟩
    exact .pure ⟨same ▸ forward, adds⟩

theorem elseBranch_ends {body : BodyReader} {levels : Nat} (bodies : Bodies text tokens levels body)
    (ready : Ready text tokens s) (parent_lt : parent < s.tree.nodes.size)
    (enough : maxDepth + 2 ≤ levels + (s.tree.depth parent + 1)) (label : Bytes) :
    Ends text (elseBranch body parent label) s fun ids s' =>
      Adds text tokens s s' parent (Part.all .generate ids) := by
  unfold elseBranch
  refine (sees_word_ends ready (by decide)).bind ?_
  rintro otherwise s ⟨rfl, _⟩
  refine .ite (fun _ => ?_) fun _ => .pure ((Steps.refl ready).adds parent_lt)
  refine (next_ends ready).bind ?_
  rintro word s₁ ⟨steps₁, head, _⟩
  refine (generateBranch_ends bodies steps₁.ready (steps₁.tree_eq ▸ parent_lt)
    (steps₁.met ready (ready.met head parent)) (steps₁.depth_eq.symm ▸ enough) label false).bind ?_
  rintro id s₂ ⟨_, adds₂⟩
  exact .pure (steps₁.then_adds adds₂)

theorem ifGenerate_ends {body : BodyReader} {levels : Nat} (bodies : Bodies text tokens levels body)
    (ready : Ready text tokens s) (parent_lt : parent < s.tree.nodes.size) (met : s.Met parent t)
    (enough : maxDepth + 2 ≤ levels + (s.tree.depth parent + 1)) (label : Bytes) :
    Ends text (ifGenerate body parent t label) s fun ids s' => s'.left < s.left ∧
      Adds text tokens s s' parent (Part.all .generate ids) := by
  unfold ifGenerate
  refine (skip_ends ready (by decide)).bind ?_
  rintro _ s₁ ⟨steps₁, forward₁⟩
  have parent_lt₁ : parent < s₁.tree.nodes.size := steps₁.tree_eq ▸ parent_lt
  have enough₁ : maxDepth + 2 ≤ levels + (s₁.tree.depth parent + 1) := steps₁.depth_eq.symm ▸ enough
  refine (generateBranch_ends bodies steps₁.ready parent_lt₁ (steps₁.met ready met) enough₁ label true).bind ?_
  rintro first s₂ ⟨_, adds₂⟩
  refine (Ends.loop (fun ids s' => Adds text tokens s₁ s' parent (Part.all .generate ids))
    (fun ids s' => Adds text tokens s₁ s' parent (Part.all .generate ids)) ?_ adds₂).bind
    fun branches s₃ adds₃ => ?_
  · intro branches s₃ adds₃
    refine (sees_word_ends adds₃.ready (by decide)).bind ?_
    rintro more s₃ ⟨rfl, _⟩
    refine .ite (fun _ => ?_) fun _ => .pure adds₃
    refine (next_ends adds₃.ready).bind ?_
    rintro word s₄ ⟨steps₄, head, _⟩
    have adds₄ := adds₃.steps steps₄
    have depth_eq := adds₄.depth_eq parent_lt₁
    refine (generateBranch_ends bodies adds₄.ready (Nat.lt_of_lt_of_le parent_lt₁ adds₄.size_le)
      (steps₄.met adds₃.ready (adds₃.ready.met head parent)) (by omega) label true).bind ?_
    rintro id s₅ ⟨forward₅, adds₅⟩
    refine .pure ⟨?_, Nat.lt_of_lt_of_le forward₅ steps₄.left_le⟩
    rw [Part.all_append]
    exact adds₄.trans adds₅ steps₁.ready
  have depth_eq := adds₃.depth_eq parent_lt₁
  refine (elseBranch_ends bodies adds₃.ready (Nat.lt_of_lt_of_le parent_lt₁ adds₃.size_le) (by omega) label).bind
    fun last s₄ adds₄ => ?_
  refine (endOf_ends adds₄.ready (by decide)).bind ?_
  rintro _ s₅ ⟨steps₅, _⟩
  have adds := (adds₃.trans adds₄ steps₁.ready).steps steps₅
  rw [← Part.all_append] at adds
  exact .pure ⟨Nat.lt_of_le_of_lt adds.left_le forward₁, steps₁.then_adds adds⟩

theorem skipCaseGenerate_ends (ready : Ready text tokens s) :
    Ends text skipCaseGenerate s fun _ s' => Steps text tokens s s' ∧ s'.left < s.left := by
  unfold skipCaseGenerate
  refine Ends.loop (fun _ s' => Steps text tokens s s') _ ?_ (.refl ready)
  intro depth s₁ steps₁
  refine (next_ends steps₁.ready).bind ?_
  rintro t s₂ ⟨steps₂, _, forward₂⟩
  refine .split (fun _ => fail_ends steps₂.ready (by decide)) fun significant => ?_
  have forward := forward₂ significant
  have steps := steps₁.trans steps₂
  refine (sees_word_ends steps.ready (by decide)).bind ?_
  rintro generates s₂ ⟨rfl, _⟩
  refine .ite (fun _ => ?_) fun _ => ?_
  · refine (next_ends steps.ready).discard_bind ?_
    rintro _ s₃ ⟨steps₃, _⟩
    have forward := Nat.lt_of_le_of_lt steps₃.left_le forward
    have steps := steps.trans steps₃
    refine .split (fun _ => ?_) fun _ => .pure ⟨steps, forward⟩
    refine (optionalName_ends steps.ready).bind fun _ s₄ steps₄ => ?_
    refine (skip_ends steps₄.ready (by decide)).bind ?_
    rintro _ s₅ ⟨steps₅, _⟩
    have later := steps₄.trans steps₅
    refine .pure ⟨steps.trans later, ?_⟩
    have := later.left_le
    have := steps₁.left_le
    omega
  · exact .split (fun _ => .pure ⟨steps, forward⟩) fun _ => .pure ⟨steps, forward⟩

theorem blockHeader_ends (ready : Ready text tokens s) :
    Ends text blockHeader s fun _ s' => Steps text tokens s s' := by
  unfold blockHeader
  refine Ends.loop (fun _ s' => Steps text tokens s s') _ ?_ (.refl ready)
  intro _ s₁ steps₁
  refine (sees_word_ends steps₁.ready (by decide)).bind ?_
  rintro more s₁ ⟨rfl, _⟩
  refine .ite (fun _ => ?_) fun _ => .pure steps₁
  refine (skipPast_ends steps₁.ready (by decide)).bind ?_
  rintro _ s₂ ⟨steps₂, forward₂⟩
  exact .pure ⟨steps₁.trans steps₂, forward₂⟩

theorem block_ends {body : BodyReader} {levels : Nat} (bodies : Bodies text tokens levels body)
    (ready : Ready text tokens s) (parent_lt : parent < s.tree.nodes.size) (met : s.Met parent t)
    (enough : maxDepth + 2 ≤ levels + (s.tree.depth parent + 1)) (label : Bytes) :
    Ends text (block body parent t label) s fun id s' => s'.left < s.left ∧
      Adds text tokens s s' parent [(.generate, id)] := by
  unfold block
  refine (begin_ends ready parent_lt met _ (by trivial)).bind ?_
  rintro id s₁ ⟨rfl, opens⟩
  refine (skip_ends opens.ready (by decide)).bind ?_
  rintro _ s₂ ⟨steps₂, forward₂⟩
  refine (bracketed_ends steps₂.ready (steps₂.tree_eq ▸ opens.new_lt)).bind fun condition s₃ adds₃ => ?_
  refine (accept_ends adds₃.ready (by decide)).discard_bind ?_
  rintro _ s₄ ⟨steps₄, _⟩
  refine (blockHeader_ends steps₄.ready).bind fun _ s₅ steps₅ => ?_
  have headed := (steps₂.then_adds adds₃).steps (steps₄.trans steps₅)
  refine (declarations_ends headed.ready (headed.grows.toExtends.isRegion (opens.isRegion rfl)) false).bind ?_
  rintro d s₆ ⟨outside, declared, adds₆, declare⟩
  refine (skip_ends adds₆.ready (by decide)).bind ?_
  rintro _ s₇ ⟨steps₇, forward₇⟩
  have declaredTo := (headed.trans adds₆ opens.ready).steps steps₇
  have depth_eq : s₇.tree.depth s.tree.nodes.size = s.tree.depth parent + 1 :=
    (declaredTo.depth_eq opens.new_lt).trans opens.depth_eq
  refine (bodies _ _ s₇ steps₇.ready (Nat.lt_of_lt_of_le opens.new_lt declaredTo.size_le)
    (depth_eq ▸ enough) .nil).bind ?_
  rintro inner s₈ ⟨parts, adds₈, members, simple⟩
  refine (endOf_ends adds₈.ready (by decide)).bind ?_
  rintro _ s₉ ⟨steps₉, forward₉⟩
  have filled := (declaredTo.trans adds₈ opens.ready).steps steps₉
  have forward : s₉.left < s.left := by
    have := (headed.trans adds₆ opens.ready).left_le
    have := adds₈.left_le
    have := steps₉.left_le
    have := opens.left_eq
    omega
  have fill : Part.Fill (declared ++ parts) inner := by
    intro role other
    rw [Part.pick_append, members role, declare.fill (outside rfl) role other]
  refine (opens.complete_ends filled ready (steps₉.clear adds₈.ready forward₉) (by rfl) (by rfl) ?_
    (steps₉.tree_eq ▸ simple) Role.noConfusion (by rfl) (.inl (by trivial))).bind ?_
  · rw [List.append_assoc]
    exact holds_generate (g := ⟨label, .block, [], [], condition, inner⟩) fill
  · rintro _ s₁₀ ⟨adds, same⟩
    exact .pure ⟨same ▸ forward, adds⟩

/-- What a reader of one concurrent statement adds to a body. -/
def BodyRead (text : Bytes) (tokens : List Token) (parent : Nat) (s : ReaderState) (b b' : Body)
    (s' : ReaderState) : Prop :=
  s'.left < s.left ∧ BodyGrows text tokens parent s b b' s'

theorem concurrentList_ends {statement : NodeId → Body → Reader Body} {levels : Nat}
    (each : ∀ parent b s, Ready text tokens s → parent < s.tree.nodes.size →
      maxDepth + 2 ≤ levels + s.tree.depth parent → s.tree.Assigns b.assignments →
        Ends text (statement parent b) s (BodyRead text tokens parent s b)) :
    Bodies text tokens levels (concurrentList statement) := by
  intro parent b s ready parent_lt enough simple
  unfold concurrentList
  refine Ends.loop (BodyGrows text tokens parent s b) _ ?_ ?_
  · rintro b₁ s₁ ⟨parts₁, adds₁, members₁, simple₁⟩
    refine (sees_word_ends adds₁.ready (by decide)).bind ?_
    rintro closes s₁ ⟨rfl, _⟩
    refine .ite (fun _ => .pure ⟨parts₁, adds₁, members₁, simple₁⟩) fun _ => ?_
    refine (atEnd_ends adds₁.ready).bind ?_
    rintro ended s₁ ⟨rfl, _⟩
    refine .ite (fun _ => fail_ends adds₁.ready (by decide)) fun _ => ?_
    refine (each parent b₁ s₁ adds₁.ready (Nat.lt_of_lt_of_le parent_lt adds₁.size_le)
      ((adds₁.depth_eq parent_lt).symm ▸ enough) simple₁).bind ?_
    rintro b₂ s₂ ⟨forward, parts₂, adds₂, members₂, simple₂⟩
    refine .pure ⟨⟨parts₁ ++ parts₂, adds₁.trans adds₂ ready, fun role => ?_, simple₂⟩, forward⟩
    rw [members₂, members₁, Part.pick_append, List.append_assoc]
  · refine ⟨[], (Steps.refl ready).adds parent_lt, fun role => ?_, simple⟩
    rw [Part.pick_nil, List.append_nil]

/-- A statement that is listed under one role. -/
theorem listed_ends {α : Type} {x : Reader α} (role : Role) (idsOf : α → List NodeId) {b : Body} {add : α → Body}
    (steps : Steps text tokens s s₁) (simple : s₁.tree.Assigns b.assignments)
    (read : Ends text x s₁ fun a s' => s'.left < s₁.left ∧ Adds text tokens s₁ s' parent (Part.all role (idsOf a)) ∧
      (role = .statement → s'.tree.Assigns (idsOf a)))
    (members : ∀ a r, (add a).members r = b.members r ++ if role = r then idsOf a else []) :
    Ends text (x >>= fun a => pure (add a)) s₁ (BodyRead text tokens parent s b) := by
  refine read.bind ?_
  rintro a s₂ ⟨forward, adds, assigns⟩
  refine .pure ⟨Nat.lt_of_lt_of_le forward steps.left_le, _, steps.then_adds adds, fun r => ?_, ?_⟩
  · rw [members a r, Part.pick_all]
  · have listed : (add a).assignments = b.assignments ++ if role = .statement then idsOf a else [] :=
      members a .statement
    rw [listed]
    refine (adds.grows.assigns simple).append ?_
    split
    · exact assigns ‹_›
    · exact .nil

/-- A statement that is no assignment. -/
theorem listedOther_ends {α : Type} {x : Reader α} (role : Role) (idsOf : α → List NodeId) {b : Body}
    {add : α → Body} (steps : Steps text tokens s s₁) (simple : s₁.tree.Assigns b.assignments)
    (read : Ends text x s₁ fun a s' => s'.left < s₁.left ∧ Adds text tokens s₁ s' parent (Part.all role (idsOf a)))
    (members : ∀ a r, (add a).members r = b.members r ++ if role = r then idsOf a else [])
    (other : role ≠ .statement) :
    Ends text (x >>= fun a => pure (add a)) s₁ (BodyRead text tokens parent s b) :=
  listed_ends role idsOf steps simple
    (read.mono fun _ _ ⟨forward, adds⟩ => ⟨forward, adds, fun same => absurd same other⟩) members

theorem concurrentStatement_ends (levels parent : Nat) (b : Body) (s : ReaderState) (ready : Ready text tokens s)
    (parent_lt : parent < s.tree.nodes.size) (enough : maxDepth + 2 ≤ levels + s.tree.depth parent)
    (simple : s.tree.Assigns b.assignments) :
    Ends text (concurrentStatement levels parent b) s (BodyRead text tokens parent s b) := by
  induction levels generalizing parent b s with
  | zero =>
    have := ready.shallow parent parent_lt
    omega
  | succ levels ih =>
    have bodies : Bodies text tokens levels (concurrentList (concurrentStatement levels)) :=
      concurrentList_ends ih
    unfold concurrentStatement
    refine (peek_ends ready).bind ?_
    rintro start s ⟨rfl, head⟩
    refine (label_ends ready).bind fun label s₁ steps₁ => ?_
    have met₁ := steps₁.met ready (ready.met head parent)
    have parent_lt₁ : parent < s₁.tree.nodes.size := steps₁.tree_eq ▸ parent_lt
    have enough₁ : maxDepth + 2 ≤ levels + (s₁.tree.depth parent + 1) := by
      have same : s₁.tree.depth parent = s.tree.depth parent := steps₁.depth_eq
      omega
    have simple₁ : s₁.tree.Assigns b.assignments := steps₁.tree_eq ▸ simple
    refine (sees_word_ends steps₁.ready (by decide)).bind ?_
    rintro postponed s₁ ⟨rfl, _⟩
    refine (sees_word_ends steps₁.ready (by decide)).bind ?_
    rintro isProcess s₁ ⟨rfl, _⟩
    refine (seesSecond_ends steps₁.ready _).bind ?_
    rintro second s₁ rfl
    refine .ite (fun _ => ?_) fun _ => ?_
    · refine listedOther_ends .process (fun id => [id]) steps₁ simple₁ (process_ends steps₁.ready parent_lt₁ met₁ label) ?_ (by decide)
      intro id r
      cases r <;> simp [Body.members]
    refine (sees_word_ends steps₁.ready (by decide)).bind ?_
    rintro isUnit s₁ ⟨rfl, _⟩
    refine (seesName_ends steps₁.ready).bind ?_
    rintro named s₁ ⟨rfl, _⟩
    refine (seesSecond_ends steps₁.ready _).bind ?_
    rintro mapped s₁ rfl
    refine .ite (fun _ => ?_) fun _ => ?_
    · refine listedOther_ends .instantiation (fun id => [id]) steps₁ simple₁
        (instantiation_ends steps₁.ready parent_lt₁ met₁ label) ?_ (by decide)
      intro id r
      cases r <;> simp [Body.members]
    refine (sees_word_ends steps₁.ready (by decide)).bind ?_
    rintro isFor s₁ ⟨rfl, _⟩
    refine .ite (fun _ => ?_) fun _ => ?_
    · refine listedOther_ends .generate (fun id => [id]) steps₁ simple₁
        (forGenerate_ends bodies steps₁.ready parent_lt₁ met₁ enough₁ label) ?_ (by decide)
      intro id r
      cases r <;> simp [Body.members]
    refine (sees_word_ends steps₁.ready (by decide)).bind ?_
    rintro isIf s₁ ⟨rfl, _⟩
    refine .ite (fun _ => ?_) fun _ => ?_
    · refine listedOther_ends .generate (fun ids => ids) steps₁ simple₁
        (ifGenerate_ends bodies steps₁.ready parent_lt₁ met₁ enough₁ label) ?_ (by decide)
      intro ids r
      cases r <;> simp [Body.members]
    refine (sees_word_ends steps₁.ready (by decide)).bind ?_
    rintro isCase s₁ ⟨rfl, _⟩
    refine .ite (fun _ => ?_) fun _ => ?_
    · refine (skipCaseGenerate_ends steps₁.ready).bind ?_
      rintro _ s₂ ⟨steps₂, forward₂⟩
      refine .pure ⟨Nat.lt_of_lt_of_le forward₂ steps₁.left_le, [], (steps₁.trans steps₂).adds parent_lt, ?_,
        steps₂.tree_eq ▸ simple₁⟩
      simp
    refine (sees_word_ends steps₁.ready (by decide)).bind ?_
    rintro isBlock s₁ ⟨rfl, _⟩
    refine .ite (fun _ => ?_) fun _ => ?_
    · refine listedOther_ends .generate (fun id => [id]) steps₁ simple₁
        (block_ends bodies steps₁.ready parent_lt₁ met₁ enough₁ label) ?_ (by decide)
      intro id r
      cases r <;> simp [Body.members]
    refine (sees_word_ends steps₁.ready (by decide)).bind ?_
    rintro isSelected s₁ ⟨rfl, _⟩
    refine (seesSecond_ends steps₁.ready _).bind ?_
    rintro selects s₁ rfl
    refine .ite (fun _ => ?_) fun _ => ?_
    · refine (accept_ends steps₁.ready (by decide)).discard_bind ?_
      rintro _ s₂ ⟨steps₂, _⟩
      refine listed_ends .statement (fun id => [id]) (steps₁.trans steps₂) (steps₂.tree_eq ▸ simple₁)
        ((selectedAssignment_ends steps₂.ready (steps₂.tree_eq ▸ parent_lt₁) (steps₂.met steps₁.ready met₁) label).mono
          fun _ _ ⟨⟨forward, adds⟩, assigns⟩ => ⟨forward, adds, fun _ => assigns⟩) ?_
      intro id r
      cases r <;> simp [Body.members]
    · refine (accept_ends steps₁.ready (by decide)).discard_bind ?_
      rintro _ s₂ ⟨steps₂, _⟩
      refine listed_ends .statement (fun id => [id]) (steps₁.trans steps₂) (steps₂.tree_eq ▸ simple₁)
        ((simpleStatement_ends steps₂.ready (steps₂.tree_eq ▸ parent_lt₁) (steps₂.met steps₁.ready met₁) label).mono
          fun _ _ ⟨⟨forward, adds⟩, assigns⟩ => ⟨forward, adds, fun _ => assigns⟩) ?_
      intro id r
      cases r <;> simp [Body.members]

theorem concurrentStatements_ends : Bodies text tokens (maxDepth + 2) concurrentStatements :=
  concurrentList_ends (concurrentStatement_ends (maxDepth + 2))

end Reader
end DesignLint
