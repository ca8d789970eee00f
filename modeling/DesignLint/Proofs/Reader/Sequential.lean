import DesignLint.Reader.Sequential
import DesignLint.Proofs.Reader.Declaration

/-! Sequential statements. A statement adds one part to the construct around it, or none for a null statement.
Compound statements read the statements inside them with one level less; since the chain of parents grows
by at least one with every level, the levels last as long as the chain may. -/
namespace DesignLint

variable {text : Bytes} {tokens : List Token} {s s₁ s₂ : ReaderState} {parent : Nat} {t u : Token}

/-- Trimming stops at the latest behind a byte that is no white space. -/
theorem le_trimmedEnd {text : Bytes} {start last limit : Nat} {b : UInt8} (first : start ≤ last) (before : last ≤ limit)
    (inside : last ≤ text.length) (ends : (text.take last).getLast? = some b) (solid : isTrimmable b = false) :
    last ≤ trimmedEnd text start limit := by
  obtain ⟨n, rfl⟩ := Nat.exists_eq_add_of_le first
  obtain ⟨m, rfl⟩ := Nat.exists_eq_add_of_le before
  have split : text.slice start (start + n + m) = (text.drop start).take n ++ (text.drop (start + n)).take m := by
    rw [Bytes.slice, show start + n + m - start = n + m by omega, List.take_add, List.drop_drop]
  cases n with
  | zero => exact Nat.le_add_right _ _
  | succ n =>
    have length : ((text.drop start).take (n + 1)).length = n + 1 := by
      rw [List.length_take, List.length_drop]
      omega
    rw [List.take_add, List.getLast?_append_of_ne_nil _ (List.ne_nil_of_length_eq_add_one length)] at ends
    obtain ⟨early, shape⟩ := List.getLast?_eq_some_iff.mp ends
    rw [shape, List.length_append, List.length_singleton] at length
    rw [trimmedEnd, split, shape, List.reverse_append, List.reverse_append, List.reverse_singleton,
      List.singleton_append, List.dropWhile_append]
    split
    · rw [List.dropWhile_cons_of_neg (by simp [solid]), List.length_cons, List.length_reverse]
      omega
    · rw [List.length_append, List.length_cons, List.length_reverse]
      omega

theorem trimmedEnd_le {text : Bytes} {start limit : Nat} (le : start ≤ limit) : trimmedEnd text start limit ≤ limit := by
  have dropped := (List.dropWhile_sublist isTrimmable (l := (text.slice start limit).reverse)).length_le
  have taken : (text.slice start limit).length ≤ limit - start := List.length_take_le _ _
  rw [List.length_reverse] at dropped
  rw [trimmedEnd]
  omega

/-- The last token that was read does not end in white space. -/
theorem Ready.solid (ready : Ready text tokens s) {last : Nat} (lastStop : s.lastStop = some last) :
    ∃ b, (text.take last).getLast? = some b ∧ isTrimmable b = false := by
  obtain ⟨before, split, ends⟩ := ready.cursor
  obtain ⟨significant, closed, other⟩ := ready.tokensOf.closed
  rw [ends] at lastStop
  obtain ⟨t, found, rfl⟩ := Option.map_eq_some_iff.mp lastStop
  have member := List.mem_of_getLast? found
  refine ready.tokensOf.solid t (split ▸ List.mem_append_left _ member) (other t ?_)
  obtain nothing | ⟨rest, u, shape⟩ := List.eq_nil_or_concat s.rest
  · exact absurd nothing ready.unpassed
  · rw [shape, closed, List.concat_eq_append, ← List.append_assoc] at split
    rw [(List.append_inj' split rfl).1]
    exact List.mem_append_left rest member

theorem Reader.endTrimmed_ends {id last : Nat} {node : Node} (ready : Ready text tokens s)
    (known : s.tree.node? id = some node) (head : s.rest.head? = some t) (lastStop : s.lastStop = some last)
    (begun : node.start ≤ last) (branch : node.construct.role.isMark = false) :
    Ends text (endTrimmed id t.offset) s fun _ s' => ∃ stop, last ≤ stop ∧
      Redraws text tokens s s' id { node with stop } := by
  unfold endTrimmed
  refine .get_bind ?_
  have limit := ready.lastStop_le lastStop t (List.mem_of_head? head)
  have inside := ready.offset_le (ready.head_mem head)
  obtain ⟨b, ends, solid⟩ := ready.solid lastStop
  have placed : ∃ stop : Nat, trimmedEnd? s.tree.text node.start t.offset = .ok stop ∧ last ≤ stop ∧ stop ≤ t.offset := by
    rw [trimmedEnd?, if_neg, if_pos, ready.text_eq]
    · split
      · exact ⟨t.offset, rfl, limit, Nat.le_refl _⟩
      · refine ⟨_, rfl, ?_, trimmedEnd_le (by simp only [Int.toNat_natCast]; omega)⟩
        exact le_trimmedEnd (by simpa using begun) limit (by omega) ends solid
    · simp
    · rw [ready.text_eq]
      simp only [Bool.or_eq_true, decide_eq_true_eq]
      omega
  obtain ⟨stop, placed, reached, le⟩ := placed
  simp only [known, Option.elim_some, placed, Int.toNat_natCast]
  refine (endAt_ends ready known (Nat.le_trans begun reached) (fun u member => ?_) branch).mono fun _ _ redraws => ?_
  · exact Nat.le_trans le ((ready.met head id).before u member)
  · exact ⟨stop, reached, redraws⟩

namespace Part.Uses

variable {a b : List Part} {writes writes' reads reads' : List NodeId}

theorem all_read (ids : List NodeId) : Uses (Part.all .read ids) [] ids := by
  intro role
  cases role <;> simp

theorem append (first : Uses a writes reads) (next : Uses b writes' reads') :
    Uses (a ++ b) (writes ++ writes') (reads ++ reads') := by
  intro role
  rw [Part.pick_append, first role, next role]
  cases role <;> simp

theorem holds_assignment {statement : Assignment} (uses : Uses a statement.writes statement.reads) :
    (Construct.assignment statement).Holds a := by
  refine ⟨by simp [Construct.statements], fun role _ => ?_, fun _ => nofun⟩
  rw [uses role]
  cases role <;> simp [Construct.members, Construct.statements]

end Part.Uses

namespace Reader

/-- A reader of one statement. -/
def StatementRead (text : Bytes) (tokens : List Token) (parent : Nat) (s : ReaderState) (id : NodeId)
    (s' : ReaderState) : Prop :=
  s'.left < s.left ∧ Adds text tokens s s' parent [(.statement, id)]

/-- A reader of one simple statement. -/
def AssignmentRead (text : Bytes) (tokens : List Token) (parent : Nat) (s : ReaderState) (id : NodeId)
    (s' : ReaderState) : Prop :=
  StatementRead text tokens parent s id s' ∧ s'.tree.Assigns [id]

/-- A reader of the statements inside a construct that stands deep enough for the levels that are left. -/
def Block (text : Bytes) (tokens : List Token) (levels : Nat) (block : BlockReader) : Prop :=
  ∀ parent s, Ready text tokens s → parent < s.tree.nodes.size → maxDepth + 2 ≤ levels + s.tree.depth parent →
    Ends text (block parent) s fun body s' => none ∉ body ∧
      Adds text tokens s s' parent (Part.all .statement body.reduceOption)

/-- Completing an assignment whose parts are its writes and reads. -/
theorem completeAssignment_ends {start stop : Nat} {parts : List Part} {a : Assignment} (ready : Ready text tokens s)
    (opens : Opens text tokens s s₁ parent start stop (.assignment {}))
    (inner : Adds text tokens s₁ s₂ s.tree.nodes.size parts) (clear : s₂.Clear) (forward : s₂.left < s.left)
    (uses : Part.Uses parts a.writes a.reads) :
    Ends text (complete s.tree.nodes.size (.assignment a) >>= fun _ => pure s.tree.nodes.size) s₂
      (AssignmentRead text tokens parent s) := by
  refine (opens.complete_inside_ends ready inner clear.settled (opens.begun inner clear) (inner.inside clear) (by rfl) rfl
    uses.holds_assignment .nil Role.noConfusion (by rfl) (.inl (by trivial))).bind ?_
  rintro _ s₃ ⟨adds, same, drawn⟩
  refine .pure ⟨⟨same ▸ forward, adds⟩, ?_⟩
  intro id member
  rw [List.mem_singleton.mp member, drawn]
  rfl

theorem optionalLoopName_ends (ready : Ready text tokens s) :
    Ends text optionalLoopName s fun _ s' => Steps text tokens s s' := by
  unfold optionalLoopName
  refine (seesName_ends ready).bind ?_
  rintro named s ⟨rfl, _⟩
  refine (seesSecond_ends ready _).bind ?_
  rintro second s rfl
  refine .ite (fun _ => .discard ?_) fun _ => .pure (.refl ready)
  exact (next_ends ready).mono fun _ _ ⟨steps, _⟩ => steps

theorem exitStatement_ends (ready : Ready text tokens s) (parent_lt : parent < s.tree.nodes.size)
    (met : s.Met parent t) (label : Bytes) :
    Ends text (exitStatement parent t label) s (AssignmentRead text tokens parent s) := by
  unfold exitStatement
  refine (begin_ends ready parent_lt met _ (by trivial)).bind ?_
  rintro id s₁ ⟨rfl, opens⟩
  refine (next_ends opens.ready).discard_bind ?_
  rintro _ s₂ ⟨steps₂, _⟩
  refine (optionalLoopName_ends steps₂.ready).bind fun _ s₃ steps₃ => ?_
  have before := steps₂.trans steps₃
  have id_lt : s.tree.nodes.size < s₃.tree.nodes.size := before.tree_eq ▸ opens.new_lt
  refine (ifAccepted_ends (fun ids s' => Adds text tokens s₃ s' s.tree.nodes.size (Part.all .read ids))
    steps₃.ready (by decide) ?_ ?_).bind fun condition s₄ adds₄ => ?_
  · intro s₄ steps₄ _
    exact (expression_ends steps₄.ready (steps₄.tree_eq ▸ id_lt) _).mono fun _ _ adds => steps₄.then_adds adds
  · exact fun _ steps => steps.adds id_lt
  refine (skip_ends adds₄.ready (by decide)).bind ?_
  rintro _ s₅ ⟨steps₅, forward₅⟩
  have inner := (before.then_adds adds₄).steps steps₅
  refine completeAssignment_ends ready opens inner (steps₅.clear adds₄.ready forward₅) ?_ (.all_read _)
  have := before.left_le
  have := adds₄.left_le
  have := opens.left_eq
  omega

theorem simpleStatement_ends (ready : Ready text tokens s) (parent_lt : parent < s.tree.nodes.size)
    (met : s.Met parent t) (label : Bytes) :
    Ends text (simpleStatement parent t label) s (AssignmentRead text tokens parent s) := by
  unfold simpleStatement
  refine (begin_ends ready parent_lt met _ (by trivial)).bind ?_
  rintro id s₁ ⟨rfl, opens⟩
  have start_eq := opens.left_eq
  refine (accept_ends opens.ready (by decide)).bind ?_
  rintro plain s₂ ⟨steps₂, _⟩
  have id_lt₂ : s.tree.nodes.size < s₂.tree.nodes.size := steps₂.tree_eq ▸ opens.new_lt
  refine .ite (fun _ => ?_) fun _ => ?_
  · refine (expression_ends steps₂.ready id_lt₂ _).bind fun used s₃ adds₃ => ?_
    refine (skip_ends adds₃.ready (by decide)).bind ?_
    rintro _ s₄ ⟨steps₄, forward₄⟩
    have inner := steps₂.then_adds adds₃
    refine completeAssignment_ends ready opens (inner.steps steps₄) (steps₄.clear adds₃.ready forward₄) ?_ (.all_read _)
    have := inner.left_le
    omega
  refine (phraseUpTo_ends steps₂.ready _).bind ?_
  rintro target s₃ ⟨steps₃, awaits, _⟩
  have before := steps₂.trans steps₃
  refine (sees_word_ends before.ready (by decide)).bind ?_
  rintro assigns s₃ ⟨rfl, _⟩
  refine .ite (fun _ => ?_) fun _ => ?_
  · refine (next_ends before.ready).bind ?_
    rintro sign s₄ ⟨steps₄, _⟩
    have before := before.trans steps₄
    refine (occurrences_ends before.ready (before.tree_eq ▸ opens.new_lt) _ (steps₄.awaits (awaits _))).bind ?_
    rintro ⟨writes, indices⟩ s₅ ⟨_, parts, adds₅, uses, _⟩
    refine (expression_ends adds₅.ready (Nat.lt_of_lt_of_le adds₅.grows.owner_lt adds₅.size_le) _).bind
      fun used s₆ adds₆ => ?_
    refine (skip_ends adds₆.ready (by decide)).bind ?_
    rintro _ s₇ ⟨steps₇, forward₇⟩
    have inner := before.then_adds (adds₅.trans adds₆ before.ready)
    refine completeAssignment_ends ready opens (inner.steps steps₇) (steps₇.clear adds₆.ready forward₇) ?_
      (by simpa using uses.append (.all_read used))
    have := inner.left_le
    omega
  · refine (reads_ends before.ready (before.tree_eq ▸ opens.new_lt) (awaits _)).bind ?_
    rintro used s₄ ⟨_, adds₄⟩
    refine (skip_ends adds₄.ready (by decide)).bind ?_
    rintro _ s₅ ⟨steps₅, forward₅⟩
    have inner := before.then_adds adds₄
    refine completeAssignment_ends ready opens (inner.steps steps₅) (steps₅.clear adds₄.ready forward₅) ?_ (.all_read _)
    have := inner.left_le
    omega

theorem assignmentSign_ends (ready : Ready text tokens s) :
    Ends text assignmentSign s fun _ s' => Steps text tokens s s' := by
  unfold assignmentSign
  refine (sees_word_ends ready (by decide)).bind ?_
  rintro isVariable s ⟨rfl, _⟩
  refine (accept_ends ready (by decide)).bind ?_
  rintro assigns s₁ ⟨steps₁, _⟩
  refine .ite (fun _ => .pure steps₁) fun _ => ?_
  refine (peek_ends steps₁.ready).bind ?_
  rintro found s₁ ⟨rfl, head⟩
  exact failExpecting_ends steps₁.ready _ head

theorem selectedAssignment_ends (ready : Ready text tokens s) (parent_lt : parent < s.tree.nodes.size)
    (met : s.Met parent t) (label : Bytes) :
    Ends text (selectedAssignment parent t label) s (AssignmentRead text tokens parent s) := by
  unfold selectedAssignment
  refine (begin_ends ready parent_lt met _ (by trivial)).bind ?_
  rintro id s₁ ⟨rfl, opens⟩
  refine (skip_ends opens.ready (by decide)).bind ?_
  rintro _ s₂ ⟨steps₂, forward₂⟩
  refine (expression_ends steps₂.ready (steps₂.tree_eq ▸ opens.new_lt) _).bind fun selector s₃ adds₃ => ?_
  refine (skip_ends adds₃.ready (by decide)).bind ?_
  rintro _ s₄ ⟨steps₄, _⟩
  refine (accept_ends steps₄.ready (by decide)).discard_bind ?_
  rintro _ s₅ ⟨steps₅, _⟩
  refine (phraseUpTo_ends steps₅.ready _).bind ?_
  rintro target s₆ ⟨steps₆, awaits, _⟩
  refine (assignmentSign_ends steps₆.ready).bind fun isVariable s₇ steps₇ => ?_
  have selected := (steps₂.then_adds adds₃).steps (((steps₄.trans steps₅).trans steps₆).trans steps₇)
  have id_lt₇ := Nat.lt_of_lt_of_le opens.new_lt selected.size_le
  refine (occurrences_ends selected.ready id_lt₇ _ (steps₇.awaits (awaits _))).bind ?_
  rintro ⟨writes, indices⟩ s₈ ⟨_, parts, adds₈, uses, _⟩
  refine (expression_ends adds₈.ready (Nat.lt_of_lt_of_le id_lt₇ adds₈.size_le) _).bind fun used s₉ adds₉ => ?_
  refine (skip_ends adds₉.ready (by decide)).bind ?_
  rintro _ s₁₀ ⟨steps₁₀, forward₁₀⟩
  have inner := ((selected.trans adds₈ opens.ready).trans adds₉ opens.ready).steps steps₁₀
  refine completeAssignment_ends ready opens inner (steps₁₀.clear adds₉.ready forward₁₀) ?_ ?_
  · have := selected.left_le
    have := adds₈.left_le
    have := adds₉.left_le
    have := steps₁₀.left_le
    have := adds₃.left_le
    have := opens.left_eq
    have := (((steps₄.trans steps₅).trans steps₆).trans steps₇).left_le
    omega
  · simpa using ((Part.Uses.all_read selector).append uses).append (.all_read used)

theorem ifClause_ends {block : BlockReader} {levels : Nat} (blocks : Block text tokens levels block)
    (ready : Ready text tokens s) (parent_lt : parent < s.tree.nodes.size) (met : s.Met parent t)
    (enough : maxDepth + 2 ≤ levels + (s.tree.depth parent + 1)) :
    Ends text (ifClause block parent t) s fun id s' => s'.left < s.left ∧
      Adds text tokens s s' parent [(.clause, id)] := by
  unfold ifClause
  refine (begin_ends ready parent_lt met _ (by trivial)).bind ?_
  rintro id s₁ ⟨rfl, opens⟩
  refine (phraseUpTo_ends opens.ready _).bind ?_
  rintro p s₂ ⟨steps₂, awaits, _⟩
  refine (reads_ends steps₂.ready (steps₂.tree_eq ▸ opens.new_lt) (awaits _)).bind ?_
  rintro condition s₃ ⟨_, adds₃⟩
  refine (textOf_ends p).bind ?_
  rintro conditionText s₃ rfl
  refine (skip_ends adds₃.ready (by decide)).bind ?_
  rintro _ s₄ ⟨steps₄, forward₄⟩
  have tested := (steps₂.then_adds adds₃).steps steps₄
  have depth_eq : s₄.tree.depth s.tree.nodes.size = s.tree.depth parent + 1 :=
    (tested.depth_eq opens.new_lt).trans opens.depth_eq
  refine (blocks _ s₄ steps₄.ready (Nat.lt_of_lt_of_le opens.new_lt tested.size_le)
    (depth_eq ▸ enough)).bind ?_
  rintro body s₅ ⟨present, adds₅⟩
  have inner := tested.trans adds₅ opens.ready
  have forward : s₅.left < s.left := by
    have := (steps₂.then_adds adds₃).left_le
    have := adds₅.left_le
    have := opens.left_eq
    omega
  -- Everything up to `then` was passed there, and the statements are passed as they are read.
  have clear := steps₄.clear adds₃.ready forward₄
  have settled := adds₅.settles clear.settled
  obtain ⟨last, lastStop, begun⟩ := adds₅.past steps₄.ready (opens.begun tested clear)
  refine (become_ends inner.ready (opens.node?_after inner) (by rfl) opens.ordered (by rfl) (.inl (by trivial))).bind fun _ s₆ redraws => ?_
  refine (peek_ends redraws.ready).bind ?_
  rintro follow s₆ ⟨rfl, head⟩
  refine (endTrimmed_ends redraws.ready redraws.drawn head (redraws.last_eq.trans lastStop) begun (by rfl)).bind ?_
  rintro _ s₇ ⟨stop', reached, trimmed⟩
  have drawnUp := redraws.trans trimmed
  have tight : Part.Tight (Part.all .read condition ++ Part.all .statement body.reduceOption) :=
    .append (.all rfl _) (.all rfl _)
  refine .pure ⟨drawnUp.left_eq ▸ forward, opens.close ready inner drawnUp rfl rfl
    ⟨present, fun role _ => ?_, fun _ => Option.some.inj⟩ .nil ?_ Role.noConfusion ?_⟩
  · cases role <;> simp [Construct.members, Construct.statements]
  · refine drawnUp.covers fun i child found parent => ?_
    have passed := opens.inside_of_tight inner settled tight i child found parent
    exact ⟨Nat.le_trans (passed.1.le_last lastStop) reached, Nat.le_trans (passed.2.le_last lastStop) reached⟩
  · exact fun _ => drawnUp.settled settled fun loose => absurd loose (by simp [Construct.role, Role.isLoose])

theorem ifStatement_ends {block : BlockReader} {levels : Nat} (blocks : Block text tokens levels block)
    (ready : Ready text tokens s) (parent_lt : parent < s.tree.nodes.size) (met : s.Met parent t)
    (enough : maxDepth + 2 ≤ levels + (s.tree.depth parent + 1)) (label : Bytes) :
    Ends text (ifStatement block parent t label) s (StatementRead text tokens parent s) := by
  unfold ifStatement
  refine (begin_ends ready parent_lt met _ (by trivial)).bind ?_
  rintro id s₁ ⟨rfl, opens⟩
  refine (expect_ends opens.ready (by decide)).bind ?_
  rintro word s₂ ⟨steps₂, forward₂, head⟩
  have id_lt₂ : s.tree.nodes.size < s₂.tree.nodes.size := steps₂.tree_eq ▸ opens.new_lt
  have depth_eq : s₂.tree.depth s.tree.nodes.size = s.tree.depth parent + 1 :=
    steps₂.depth_eq.trans opens.depth_eq
  refine (Ends.loop
    (fun (state : Token × List NodeId) s' => s'.Met s.tree.nodes.size state.1 ∧
      Adds text tokens s₂ s' s.tree.nodes.size (Part.all .clause state.2))
    (fun clauses s' => Adds text tokens s₂ s' s.tree.nodes.size (Part.all .clause clauses)) ?_ ?_).bind
    fun clauses s₃ adds₃ => ?_
  · rintro ⟨word, clauses⟩ s₃ ⟨met, adds₃⟩
    have depth_eq₃ := (adds₃.depth_eq id_lt₂).trans depth_eq
    refine (ifClause_ends blocks adds₃.ready (Nat.lt_of_lt_of_le id_lt₂ adds₃.size_le) met
      (by omega)).bind ?_
    rintro clause s₄ ⟨forward₄, adds₄⟩
    have adds := adds₃.trans adds₄ steps₂.ready
    rw [show [(Role.clause, clause)] = Part.all .clause [clause] from rfl, ← Part.all_append] at adds
    refine (sees_word_ends adds₄.ready (by decide)).bind ?_
    rintro more s₄ ⟨rfl, open_⟩
    refine .ite (fun yes => ?_) fun _ => .pure adds
    refine (next_forward_ends adds₄.ready (open_ yes)).bind ?_
    rintro next s₅ ⟨steps₅, forward₅, head₅⟩
    exact .pure ⟨⟨steps₅.met adds₄.ready (adds₄.ready.met head₅ _), adds.steps steps₅⟩, Nat.lt_trans forward₅ forward₄⟩
  · exact ⟨steps₂.met opens.ready (opens.ready.met head _), (Steps.refl steps₂.ready).adds id_lt₂⟩
  have id_lt₃ := Nat.lt_of_lt_of_le id_lt₂ adds₃.size_le
  have depth_eq₃ := (adds₃.depth_eq id_lt₂).trans depth_eq
  refine (ifAccepted_ends (fun otherwise s' => none ∉ otherwise ∧
      Adds text tokens s₃ s' s.tree.nodes.size (Part.all .statement otherwise.reduceOption))
    adds₃.ready (by decide) ?_ ?_).bind ?_
  · intro s₄ steps₄ _
    have depth_eq₄ := steps₄.depth_eq.trans depth_eq₃
    refine (blocks _ s₄ steps₄.ready (steps₄.tree_eq ▸ id_lt₃) (by omega)).mono ?_
    rintro body s₅ ⟨present, adds₅⟩
    exact ⟨present, steps₄.then_adds adds₅⟩
  · exact fun _ steps => ⟨by simp, steps.adds id_lt₃⟩
  rintro otherwise s₄ ⟨present, adds₄⟩
  refine (endOf_ends adds₄.ready (by decide)).bind ?_
  rintro _ s₅ ⟨steps₅, forward₅⟩
  have inner := (steps₂.then_adds (adds₃.trans adds₄ steps₂.ready)).steps steps₅
  have forward : s₅.left < s.left := by
    have := ((adds₃.trans adds₄ steps₂.ready).steps steps₅).left_le
    have := opens.left_eq
    omega
  refine (opens.complete_ends inner ready (steps₅.clear adds₄.ready forward₅) (by rfl) (by rfl) ?_ .nil Role.noConfusion (by rfl) (.inl (by trivial))).bind ?_
  · refine ⟨present, fun role _ => ?_, fun _ => Option.some.inj⟩
    cases role <;> simp [Construct.members, Construct.statements]
  · rintro _ s₆ ⟨adds, same⟩
    exact .pure ⟨same ▸ forward, adds⟩

theorem caseArm_ends {block : BlockReader} {levels : Nat} (blocks : Block text tokens levels block)
    (ready : Ready text tokens s) (parent_lt : parent < s.tree.nodes.size)
    (enough : maxDepth + 2 ≤ levels + (s.tree.depth parent + 1)) :
    Ends text (caseArm block parent) s fun id s' => s'.left < s.left ∧
      Adds text tokens s s' parent [(.arm, id)] := by
  unfold caseArm
  refine (next_ends ready).bind ?_
  rintro word s₁ ⟨steps₁, head, _⟩
  refine (begin_ends steps₁.ready (steps₁.tree_eq ▸ parent_lt)
    (steps₁.met ready (ready.met head parent)) _ (by trivial)).bind ?_
  rintro id s₂ ⟨rfl, opens⟩
  refine (expression_ends opens.ready opens.new_lt _).bind fun choices s₃ adds₃ => ?_
  refine (skip_ends adds₃.ready (by decide)).bind ?_
  rintro _ s₄ ⟨steps₄, forward₄⟩
  have chosen := adds₃.steps steps₄
  have depth_eq : s₄.tree.depth s₁.tree.nodes.size = s.tree.depth parent + 1 := by
    rw [chosen.depth_eq opens.new_lt, opens.depth_eq, steps₁.depth_eq]
  refine (blocks _ s₄ steps₄.ready (Nat.lt_of_lt_of_le opens.new_lt chosen.size_le)
    (depth_eq ▸ enough)).bind ?_
  rintro body s₅ ⟨present, adds₅⟩
  have inner := chosen.trans adds₅ opens.ready
  have forward : s₅.left < s.left := by
    have := steps₁.left_le
    have := adds₃.left_le
    have := adds₅.left_le
    have := opens.left_eq
    omega
  have clear := steps₄.clear adds₃.ready forward₄
  refine (opens.complete_tight_ends inner steps₁.ready (adds₅.settles clear.settled)
    (adds₅.past steps₄.ready (opens.begun chosen clear)) ((Part.Tight.all rfl choices).append (.all rfl _)) (by rfl)
    (by rfl) ?_ .nil Role.noConfusion (by rfl) (.inl (by trivial))).bind ?_
  · refine ⟨present, fun role _ => ?_, fun _ => Option.some.inj⟩
    cases role <;> simp [Construct.members, Construct.statements]
  · rintro _ s₆ ⟨adds, same⟩
    exact .pure ⟨same ▸ forward, steps₁.then_adds adds⟩

theorem caseStatement_ends {block : BlockReader} {levels : Nat} (blocks : Block text tokens levels block)
    (ready : Ready text tokens s) (parent_lt : parent < s.tree.nodes.size) (met : s.Met parent t)
    (enough : maxDepth + 2 ≤ levels + (s.tree.depth parent + 1)) (label : Bytes) :
    Ends text (caseStatement block parent t label) s (StatementRead text tokens parent s) := by
  unfold caseStatement
  refine (begin_ends ready parent_lt met _ (by trivial)).bind ?_
  rintro id s₁ ⟨rfl, opens⟩
  refine (skip_ends opens.ready (by decide)).bind ?_
  rintro _ s₂ ⟨steps₂, forward₂⟩
  refine (accept_ends steps₂.ready (by decide)).discard_bind ?_
  rintro _ s₃ ⟨steps₃, _⟩
  have before := steps₂.trans steps₃
  refine (expression_ends before.ready (before.tree_eq ▸ opens.new_lt) _).bind fun selector s₄ adds₄ => ?_
  refine (skip_ends adds₄.ready (by decide)).bind ?_
  rintro _ s₅ ⟨steps₅, _⟩
  have selected := (before.then_adds adds₄).steps steps₅
  have id_lt₅ := Nat.lt_of_lt_of_le opens.new_lt selected.size_le
  have depth_eq : s₅.tree.depth s.tree.nodes.size = s.tree.depth parent + 1 :=
    (selected.depth_eq opens.new_lt).trans opens.depth_eq
  refine (Ends.loop (fun arms s' => Adds text tokens s₅ s' s.tree.nodes.size (Part.all .arm arms))
    (fun arms s' => Adds text tokens s₅ s' s.tree.nodes.size (Part.all .arm arms)) ?_
    ((Steps.refl steps₅.ready).adds id_lt₅)).bind fun arms s₆ adds₆ => ?_
  · intro arms s₆ adds₆
    refine (sees_word_ends adds₆.ready (by decide)).bind ?_
    rintro more s₆ ⟨rfl, _⟩
    refine .ite (fun _ => ?_) fun _ => .pure adds₆
    have depth_eq₆ := (adds₆.depth_eq id_lt₅).trans depth_eq
    refine (caseArm_ends blocks adds₆.ready (Nat.lt_of_lt_of_le id_lt₅ adds₆.size_le) (by omega)).bind ?_
    rintro arm s₇ ⟨forward₇, adds₇⟩
    refine .pure ⟨?_, forward₇⟩
    rw [Part.all_append]
    exact adds₆.trans adds₇ steps₅.ready
  refine (skip_ends adds₆.ready (by decide)).bind ?_
  rintro _ s₇ ⟨steps₇, _⟩
  refine (skip_ends steps₇.ready (by decide)).bind ?_
  rintro _ s₈ ⟨steps₈, _⟩
  refine (accept_ends steps₈.ready (by decide)).discard_bind ?_
  rintro _ s₉ ⟨steps₉, _⟩
  refine (optionalName_ends steps₉.ready).bind fun _ s₁₀ steps₁₀ => ?_
  refine (skip_ends steps₁₀.ready (by decide)).bind ?_
  rintro _ s₁₁ ⟨steps₁₁, forward₁₁⟩
  have closing := (((steps₇.trans steps₈).trans steps₉).trans steps₁₀).trans steps₁₁
  have inner := (selected.trans adds₆ opens.ready).steps closing
  have forward : s₁₁.left < s.left := by
    have := steps₁₀.left_le
    have := steps₉.left_le
    have := steps₈.left_le
    have := steps₇.left_le
    have := (selected.trans adds₆ opens.ready).left_le
    have := opens.left_eq
    omega
  refine (opens.complete_ends inner ready (steps₁₁.clear steps₁₀.ready forward₁₁) (by rfl) (by rfl) ?_ .nil Role.noConfusion (by rfl) (.inl (by trivial))).bind ?_
  · refine ⟨by simp [Construct.statements], fun role _ => ?_, fun _ => Option.some.inj⟩
    cases role <;> simp [Construct.members, Construct.statements]
  · rintro _ s₁₂ ⟨adds, same⟩
    exact .pure ⟨same ▸ forward, adds⟩

theorem iteration_ends (ready : Ready text tokens s) (parent_lt : parent < s.tree.nodes.size) :
    Ends text (iteration parent) s fun found s' =>
      Adds text tokens s s' parent (Part.all .read found.2) := by
  unfold iteration
  refine (accept_ends ready (by decide)).bind ?_
  rintro ranges s₁ ⟨steps₁, _⟩
  refine .ite (fun _ => ?_) fun _ => ?_
  · refine (name_ends steps₁.ready).bind ?_
    rintro n s₂ ⟨steps₂, _⟩
    refine (skip_ends steps₂.ready (by decide)).bind ?_
    rintro _ s₃ ⟨steps₃, _⟩
    have steps := (steps₁.trans steps₂).trans steps₃
    refine (expression_ends steps.ready (steps.tree_eq ▸ parent_lt) _).bind fun bounds s₄ adds₄ => ?_
    exact .pure (steps.then_adds adds₄)
  refine (accept_ends steps₁.ready (by decide)).bind ?_
  rintro loops s₂ ⟨steps₂, _⟩
  have steps := steps₁.trans steps₂
  refine .ite (fun _ => ?_) fun _ => .pure (steps.adds parent_lt)
  refine (expression_ends steps.ready (steps.tree_eq ▸ parent_lt) _).bind fun bounds s₃ adds₃ => ?_
  exact .pure (steps.then_adds adds₃)

theorem loopStatement_ends {block : BlockReader} {levels : Nat} (blocks : Block text tokens levels block)
    (ready : Ready text tokens s) (parent_lt : parent < s.tree.nodes.size) (met : s.Met parent t)
    (enough : maxDepth + 2 ≤ levels + (s.tree.depth parent + 1)) (label : Bytes) :
    Ends text (loopStatement block parent t label) s (StatementRead text tokens parent s) := by
  unfold loopStatement
  refine (begin_ends ready parent_lt met _ (by trivial)).bind ?_
  rintro id s₁ ⟨rfl, opens⟩
  refine (iteration_ends opens.ready opens.new_lt).bind ?_
  rintro ⟨iterator, bounds⟩ s₂ adds₂
  refine (skip_ends adds₂.ready (by decide)).bind ?_
  rintro _ s₃ ⟨steps₃, forward₃⟩
  have bounded := adds₂.steps steps₃
  have depth_eq : s₃.tree.depth s.tree.nodes.size = s.tree.depth parent + 1 :=
    (bounded.depth_eq opens.new_lt).trans opens.depth_eq
  refine (blocks _ s₃ steps₃.ready (Nat.lt_of_lt_of_le opens.new_lt bounded.size_le) (depth_eq ▸ enough)).bind ?_
  rintro body s₄ ⟨present, adds₄⟩
  refine (endOf_ends adds₄.ready (by decide)).bind ?_
  rintro _ s₅ ⟨steps₅, forward₅⟩
  have filled := bounded.trans adds₄ opens.ready
  have forward : s₅.left < s.left := by
    have := filled.left_le
    have := opens.left_eq
    omega
  refine (opens.complete_ends (filled.steps steps₅) ready (steps₅.clear adds₄.ready forward₅) (by rfl)
    (by rfl) ?_ .nil Role.noConfusion (by rfl) (.inl (by trivial))).bind ?_
  · refine ⟨present, fun role _ => ?_, fun _ => Option.some.inj⟩
    cases role <;> simp [Construct.members, Construct.statements]
  · rintro _ s₆ ⟨adds, same⟩
    exact .pure ⟨same ▸ forward, adds⟩

theorem statementList_ends {statement : NodeId → Reader (Option NodeId)} {levels : Nat}
    (each : ∀ parent s, Ready text tokens s → parent < s.tree.nodes.size →
      maxDepth + 2 ≤ levels + s.tree.depth parent → Ends text (statement parent) s fun id s' =>
        s'.left < s.left ∧ Adds text tokens s s' parent (Part.all .statement id.toList)) :
    Block text tokens levels (statementList statement) := by
  intro parent s ready parent_lt enough
  unfold statementList
  refine Ends.loop (fun body s' => none ∉ body ∧
      Adds text tokens s s' parent (Part.all .statement body.reduceOption)) _ ?_ ?_
  · rintro body s₁ ⟨present, adds₁⟩
    refine (sees_word_ends adds₁.ready (by decide)).bind ?_
    rintro closes s₁ ⟨rfl, _⟩
    refine .ite (fun _ => .pure ⟨present, adds₁⟩) fun _ => ?_
    refine (atEnd_ends adds₁.ready).bind ?_
    rintro ended s₁ ⟨rfl, _⟩
    refine .ite (fun _ => fail_ends adds₁.ready (by decide)) fun _ => ?_
    refine (each parent s₁ adds₁.ready (Nat.lt_of_lt_of_le parent_lt adds₁.size_le)
      ((adds₁.depth_eq parent_lt).symm ▸ enough)).bind ?_
    rintro (_ | id) s₂ ⟨forward₂, adds₂⟩
    · refine .pure ⟨⟨present, ?_⟩, forward₂⟩
      simpa using adds₁.trans adds₂ ready
    · refine .pure ⟨⟨by simpa using present, ?_⟩, forward₂⟩
      rw [List.reduceOption_append, Part.all_append]
      exact adds₁.trans adds₂ ready
  · exact ⟨by simp, (Steps.refl ready).adds parent_lt⟩

/-- A statement with a node of its own, read after its label. -/
theorem labelled_ends {x : Reader NodeId} (steps : Steps text tokens s s₁)
    (read : Ends text x s₁ (StatementRead text tokens parent s₁)) :
    Ends text (x >>= fun id => pure (some id)) s₁ fun id s' => s'.left < s.left ∧
      Adds text tokens s s' parent (Part.all .statement id.toList) := by
  refine read.bind ?_
  rintro id s₂ ⟨forward, adds⟩
  exact .pure ⟨Nat.lt_of_lt_of_le forward steps.left_le, steps.then_adds adds⟩

theorem labelledAssignment_ends {x : Reader NodeId} (steps : Steps text tokens s s₁)
    (read : Ends text x s₁ (AssignmentRead text tokens parent s₁)) :
    Ends text (x >>= fun id => pure (some id)) s₁ fun id s' => s'.left < s.left ∧
      Adds text tokens s s' parent (Part.all .statement id.toList) :=
  labelled_ends steps (read.mono fun _ _ found => found.1)

/-- A statement adds itself as a part, or nothing if it is a null statement. -/
theorem statement_ends (levels : Nat) (parent : Nat) (s : ReaderState) (ready : Ready text tokens s)
    (parent_lt : parent < s.tree.nodes.size) (enough : maxDepth + 2 ≤ levels + s.tree.depth parent) :
    Ends text (statement levels parent) s fun id s' => s'.left < s.left ∧
      Adds text tokens s s' parent (Part.all .statement id.toList) := by
  induction levels generalizing parent s with
  | zero =>
    have := ready.shallow parent parent_lt
    omega
  | succ levels ih =>
    have blocks : Block text tokens levels (statementList (statement levels)) := statementList_ends ih
    unfold statement
    refine (peek_ends ready).bind ?_
    rintro start s ⟨rfl, head⟩
    refine (label_ends ready).bind fun label s₁ steps₁ => ?_
    have met := steps₁.met ready (ready.met head parent)
    have parent_lt₁ : parent < s₁.tree.nodes.size := steps₁.tree_eq ▸ parent_lt
    have enough₁ : maxDepth + 2 ≤ levels + (s₁.tree.depth parent + 1) := by
      have same : s₁.tree.depth parent = s.tree.depth parent := steps₁.depth_eq
      omega
    refine (sees_word_ends steps₁.ready (by decide)).bind ?_
    rintro isIf s₁ ⟨rfl, _⟩
    refine .ite (fun _ => ?_) fun _ => ?_
    · exact labelled_ends steps₁ (ifStatement_ends blocks steps₁.ready parent_lt₁ met enough₁ label)
    refine (sees_word_ends steps₁.ready (by decide)).bind ?_
    rintro isCase s₁ ⟨rfl, _⟩
    refine .ite (fun _ => ?_) fun _ => ?_
    · exact labelled_ends steps₁ (caseStatement_ends blocks steps₁.ready parent_lt₁ met enough₁ label)
    refine (sees_word_ends steps₁.ready (by decide)).bind ?_
    rintro isLoop s₁ ⟨rfl, _⟩
    refine .ite (fun _ => ?_) fun _ => ?_
    · exact labelled_ends steps₁ (loopStatement_ends blocks steps₁.ready parent_lt₁ met enough₁ label)
    refine (accept_ends steps₁.ready (by decide)).bind ?_
    rintro isNull s₂ ⟨steps₂, _⟩
    have steps := steps₁.trans steps₂
    have parent_lt₂ : parent < s₂.tree.nodes.size := steps.tree_eq ▸ parent_lt
    have met₂ := steps₂.met steps₁.ready met
    refine .ite (fun _ => ?_) fun _ => ?_
    · refine (skip_ends steps.ready (by decide)).bind ?_
      rintro _ s₃ ⟨steps₃, forward₃⟩
      exact .pure ⟨Nat.lt_of_lt_of_le forward₃ steps.left_le, (steps.trans steps₃).adds parent_lt⟩
    refine (sees_word_ends steps.ready (by decide)).bind ?_
    rintro isExit s₂ ⟨rfl, _⟩
    refine .ite (fun _ => ?_) fun _ => ?_
    · exact labelledAssignment_ends steps (exitStatement_ends steps.ready parent_lt₂ met₂ label)
    refine (sees_word_ends steps.ready (by decide)).bind ?_
    rintro isSelected s₂ ⟨rfl, _⟩
    refine .ite (fun _ => ?_) fun _ => ?_
    · exact labelledAssignment_ends steps (selectedAssignment_ends steps.ready parent_lt₂ met₂ label)
    · exact labelledAssignment_ends steps (simpleStatement_ends steps.ready parent_lt₂ met₂ label)

theorem statements_ends : Block text tokens (maxDepth + 2) statements :=
  statementList_ends (statement_ends (maxDepth + 2))

end Reader
end DesignLint
