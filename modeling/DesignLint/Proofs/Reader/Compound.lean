import DesignLint.Proofs.Reader.Simple

/-! Compound statements read back. A compound statement reads the statements inside it through a reader of its own: it is
read back if that reader reads them back. -/
namespace DesignLint

variable {s s₁ s₂ : ReaderState} {rest more ts : List Token} {t : Token} {text : Bytes} {tokens : List Token}
  {libraries : List String} {owner depth : Nat} {p : Phrase} {label : Bytes}

namespace Reader

variable (read : tokenize text = .ok tokens)

include read

/-- A reader of blocks that reads tokens back as statements, wherever the levels that are left suffice. -/
def Restores (text : Bytes) (tokens : List Token) (libraries : List String) (block : BlockReader) (levels : Nat)
    (body : List Statement) (inside : List Token) : Prop :=
  ∀ ⦃owner depth : Nat⦄ ⦃s : ReaderState⦄ ⦃next : Token⦄ ⦃rest : List Token⦄, Under text tokens libraries owner depth s →
    0 < levels → maxDepth + 2 ≤ levels + depth → AllFit libraries depth body →
    s.rest = inside ++ next :: rest → next.word ∈ closingWords →
    Runs (block owner) s fun ids s' => Builds s inside s' fun later => later.ShowsAll libraries owner body ids

omit read in
theorem endTrimmed_runs {id limit : Nat} {node : Node} (text_eq : s.tree.text = text)
    (known : s.tree.node? id = some node) (ordered : node.start ≤ limit) (inside : limit ≤ text.length) :
    Runs (endTrimmed id limit) s fun _ s' => ∃ stop : Nat,
      s' = { s with tree := s.tree.modify id fun node => { node with stop } } := by
  have placed : ∃ stop : Nat, trimmedEnd? s.tree.text node.start limit = .ok stop := by
    rw [trimmedEnd?, if_neg, if_pos]
    · split
      · exact ⟨limit, rfl⟩
      · exact ⟨_, rfl⟩
    · simp
    · rw [text_eq]
      simp only [Bool.or_eq_true, decide_eq_true_eq]
      omega
  obtain ⟨stop, placed⟩ := placed
  unfold endTrimmed
  apply Runs.get_bind
  simp only [known, Option.elim_some, placed, Int.toNat_natCast]
  exact ⟨(), _, rfl, stop, rfl⟩

omit read in
/-- A branch is completed before the token behind it. -/
theorem closeClause_runs {shown : Tree → Prop} {start stop : Nat} {c c' : Construct} {next : Token}
    (under : Under text tokens libraries owner depth s) (placed : Placed s s₁ owner start stop c)
    (inner : Builds s₁ ts s₂ shown) (head : s₂.rest = next :: rest) (ordered : start ≤ next.offset)
    (inside : next.offset ≤ text.length) :
    Runs (become s.tree.nodes.size c' >>= fun _ => peek >>= fun next => endTrimmed s.tree.nodes.size next.offset >>= fun _ =>
      pure s.tree.nodes.size) s₂ fun id s' => id = s.tree.nodes.size ∧
        Builds s ts s' fun later => later.Draws owner s.tree.nodes.size c' ∧ shown later := by
  have known := placed.after inner.toTook
  have drawn : (s₂.tree.update s.tree.nodes.size fun _ => c').node? s.tree.nodes.size =
      some ⟨some owner, start, stop, c'⟩ := by
    rw [Tree.update, Tree.node?_modify, if_pos rfl, known]
    rfl
  have text_eq := (under.took (placed.toTook.trans inner.toTook)).text_eq
  unfold become modifyTree
  refine .modify_bind ((peek_runs (by exact head)).bind ?_)
  rintro next s' ⟨rfl, rfl⟩
  apply (endTrimmed_runs (by exact text_eq) drawn ordered inside).bind
  rintro _ s₃ ⟨last, rfl⟩
  have redrawn := node?_redrawn known c' last
  refine .pure ⟨rfl, placed.close inner rfl rfl rfl rfl (Array.size_modify.trans Array.size_modify)
    ⟨start, last, (redrawn _).trans (if_pos rfl)⟩ fun i other => (redrawn i).trans (if_neg other)⟩

theorem ifClause_runs {block : BlockReader} {levels : Nat} {keyword next : Token} {condition : Phrase}
    {body : List Statement} {inside : List Token} (restores : Restores text tokens libraries block levels body inside)
    (under : Under text tokens libraries owner depth s) (behind : keyword :: s.rest <:+ tokens)
    (enough : maxDepth + 2 ≤ levels + (depth + 1)) (ends : condition.EndsAt ["then"]) (shallow : depth ≤ maxDepth)
    (fits : condition.Fits libraries none (depth + 1)) (allFit : AllFit libraries (depth + 1) body)
    (head : s.rest = condition.spelled ++ (inside ++ next :: rest)) (closing : next.word ∈ closingWords) :
    Runs (ifClause block owner keyword) s fun id s' => Builds s (condition.spelled ++ inside) s' fun later =>
      later.ShowsBranches libraries Tree.clauseOf owner [(condition, body)] [id] := by
  have split : s.rest = condition.tokens ++ condition.follow :: (inside ++ next :: rest) := by
    simpa [Phrase.spelled] using head
  unfold ifClause
  apply (begin_runs under shallow (stop_le read (behind.subset List.mem_cons_self)) _).bind
  rintro id s₁ ⟨rfl, placed⟩
  have under₁ := placed.under under
  have head₁ := placed.head split
  apply (phraseUpTo_runs ends head₁).bind
  rintro condition s₂ ⟨rfl, moves₂⟩
  have head₂ := moves₂.rest_drop head₁
  apply (reads_runs read (under₁.took moves₂.toTook) (under₁.mem_of_rest head₁) fits).bind
  intro used s₃ reads
  have head₃ := reads.rest_drop head₂
  have tested := moves₂.then_builds reads
  have text_eq := (under₁.took tested.toTook).text_eq
  apply Runs.get_bind
  apply (skip_runs ⟨head₃, ends.significant _ List.mem_cons_self⟩ (by simpa using ends.ends)).bind
  intro _ s₄ moves₄
  have head₄ := moves₄.rest_drop head₃
  have before := tested.then_moves moves₄
  apply (restores (under₁.took before.toTook) (by omega) enough allFit head₄ closing).bind
  intro ids s₅ taken
  have inner := before.trans taken
  -- the branch ends before the next token, which stands behind the word that it began with
  have member : next ∈ s.rest := by simp [head]
  have after := (List.pairwise_cons.mp ((tokenize_tokensOf read).ordered.sublist behind.sublist)).1 next member
  refine (closeClause_runs under placed inner (taken.rest_drop head₄) ?_ ?_).mono ?_
  · exact Nat.le_trans (Nat.le_add_right _ _) after
  · exact Nat.le_trans (Nat.le_add_right _ _) (stop_le read (under.suffix.subset member))
  · rintro id s₆ ⟨rfl, builds⟩
    rw [show condition.spelled ++ inside = condition.tokens ++ [] ++ [condition.follow] ++ inside by simp [Phrase.spelled]]
    refine ⟨builds.toTook, fun later keeps => ?_⟩
    obtain ⟨drawn, reads, taken⟩ := builds.shows later keeps
    refine .cons ?_ reads taken .nil
    rw [Tree.clauseOf, keeps.text_eq, builds.text_eq, under.text_eq, ← text_eq]
    exact drawn

/-- One turn of the loop over the branches of an if statement. -/
def clauseTurn (block : BlockReader) (owner : NodeId) :
    Token × List NodeId → Reader (Turn (Token × List NodeId) (List NodeId)) := fun (word, clauses) => do
  let clauses := clauses ++ [← ifClause block owner word]
  if ← sees ["elsif"] then return .again (← next, clauses) else return .done clauses

/-- A reader of blocks with which tokens are read back as branches, once the word of the first one has been read. -/
def RestoresClauses (text : Bytes) (tokens : List Token) (libraries : List String) (block : BlockReader) (levels : Nat)
    (branches : List (Phrase × List Statement)) (ts : List Token) : Prop :=
  ∀ ⦃owner depth : Nat⦄ ⦃s : ReaderState⦄ ⦃keyword next : Token⦄ ⦃tail rest : List Token⦄ ⦃done : List NodeId⦄,
    ts = keyword :: tail → Under text tokens libraries owner depth s → keyword :: s.rest <:+ tokens →
    maxDepth + 2 ≤ levels + (depth + 1) → BranchesFit libraries depth branches → s.rest = tail ++ next :: rest →
    next.word ∈ ["else", "end"] →
    Runs (loop (clauseTurn block owner) (keyword, done)) s fun ids s' => ∃ added, ids = done ++ added ∧
      Builds s tail s' fun later => later.ShowsBranches libraries Tree.clauseOf owner branches added

section

variable {block : BlockReader} {levels : Nat} {keyword : Token} {condition : Phrase} {body : List Statement}
  {inside back : List Token}

theorem lastClause_restores (restores : Restores text tokens libraries block levels body inside)
    (ends : condition.EndsAt ["then"]) :
    RestoresClauses text tokens libraries block levels [(condition, body)] (keyword :: (condition.spelled ++ inside)) := by
  rintro owner depth s _ next _ rest done ⟨⟩ under behind enough ⟨shallow, fits, allFit, _⟩ head after
  have head : s.rest = condition.spelled ++ (inside ++ next :: rest) := by rw [head, List.append_assoc]
  apply Runs.loop
  unfold clauseTurn
  have closing : next.word ∈ closingWords := by
    simp only [closingWords, List.mem_cons, List.not_mem_nil, or_false] at after ⊢
    tauto
  apply (ifClause_runs read restores under behind enough ends shallow fits allFit head closing).bind
  intro id s₁ shows
  have head₁ : s₁.rest = next :: rest := shows.rest_drop (by rw [head, List.append_assoc])
  apply (sees_runs head₁ _).bind
  rintro more s₁ ⟨rfl, rfl⟩
  rw [if_neg]
  · exact .pure ⟨[id], rfl, shows⟩
  · simp only [List.mem_cons, List.not_mem_nil, or_false] at after
    rcases after with same | same <;> simp [same]

theorem moreClauses_restore {others : List (Phrase × List Statement)}
    (restores : Restores text tokens libraries block levels body inside) (ends : condition.EndsAt ["then"])
    (spelled : SpellsBranches "elsif" others back)
    (clauses : RestoresClauses text tokens libraries block levels others back) :
    RestoresClauses text tokens libraries block levels ((condition, body) :: others)
      (keyword :: (condition.spelled ++ (inside ++ back))) := by
  rintro owner depth s _ next _ rest done ⟨⟩ under behind enough ⟨shallow, fits, allFit, othersFit⟩ head after
  obtain ⟨elsif, tail, rfl, isElsif⟩ := spelled.starts
  have head : s.rest = condition.spelled ++ (inside ++ elsif :: (tail ++ next :: rest)) := by simpa using head
  apply Runs.loop
  unfold clauseTurn
  refine (ifClause_runs read restores under behind enough ends shallow fits allFit head ?_).bind fun id s₁ shows => ?_
  · simp [isElsif.word_eq, closingWords]
  have head₁ : s₁.rest = elsif :: (tail ++ next :: rest) := shows.rest_drop (by rw [head, List.append_assoc])
  apply (sees_runs head₁ _).bind
  rintro more s₁ ⟨rfl, rfl⟩
  rw [if_pos (by simp [isElsif.word_eq])]
  apply (next_runs ⟨head₁, isElsif.significant⟩).bind
  rintro elsif s₂ ⟨rfl, moves₂⟩
  have under₁ := under.took shows.toTook
  have under₂ := under₁.took moves₂.toTook
  have head₂ : s₂.rest = tail ++ next :: rest := moves₂.rest_drop head₁
  refine .pure ⟨?_, ?_⟩
  · rw [head, head₂]
    simp only [List.length_append, List.length_cons]
    omega
  · refine (clauses rfl under₂ (moves₂.behind under₁) enough othersFit head₂ after).mono ?_
    rintro ids s₃ ⟨added, rfl, builds⟩
    refine ⟨id :: added, by simp, ?_⟩
    have both := (shows.then_moves moves₂).trans builds
    rw [show condition.spelled ++ (inside ++ elsif :: tail) = condition.spelled ++ inside ++ [elsif] ++ tail by simp]
    exact both.mono fun later shown => shown.1.append shown.2

/-- A reader of blocks with which tokens are read back as the last branch of an if statement. -/
def RestoresElse (text : Bytes) (tokens : List Token) (libraries : List String) (block : BlockReader) (levels : Nat)
    (otherwise : List Statement) (ts : List Token) : Prop :=
  ∀ ⦃owner depth : Nat⦄ ⦃s : ReaderState⦄ ⦃next : Token⦄ ⦃rest : List Token⦄, Under text tokens libraries owner depth s →
    0 < levels → maxDepth + 2 ≤ levels + depth → AllFit libraries depth otherwise →
    s.rest = ts ++ next :: rest → next.word = "end" →
    Runs (ifAccepted ["else"] [] (block owner)) s fun ids s' => Builds s ts s' fun later =>
      later.ShowsAll libraries owner otherwise ids

omit read in
theorem noElse_restores : RestoresElse text tokens libraries block levels [] [] := by
  intro owner depth s next rest under _ _ _ head ends
  exact ifAccepted_other_runs head (by simp [ends]) ((Moves.refl s).builds fun _ => .nil)

omit read in
theorem else_restores (isElse : keyword.IsWord "else") (restores : Restores text tokens libraries block levels body inside) :
    RestoresElse text tokens libraries block levels body (keyword :: inside) := by
  intro owner depth s next rest under left enough fits head ends
  refine ifAccepted_runs ⟨head, isElse.significant⟩ (by simp [isElse.word_eq]) fun s₁ moves => ?_
  have head₁ := moves.rest_drop head
  have closing : next.word ∈ closingWords := by simp [ends, closingWords]
  exact (restores (under.took moves.toTook) left enough fits head₁ closing).mono fun ids s₂ builds =>
    moves.then_builds builds

theorem ifStatement_runs {branches : List (Phrase × List Statement)} {otherwise : List Statement}
    {branched left ended : List Token} (under : Under text tokens libraries owner depth s) (member : t ∈ tokens)
    (spelled : SpellsBranches "if" branches branched)
    (clauses : RestoresClauses text tokens libraries block levels branches branched) (other : SpellsElse otherwise left)
    (restores : RestoresElse text tokens libraries block levels otherwise left) (ends : SpellsEnd "if" ended)
    (enough : maxDepth + 2 ≤ levels + (depth + 1))
    (fits : (Statement.ifStatement label branches otherwise).Fits libraries depth)
    (head : s.rest = branched ++ (left ++ (ended ++ rest))) :
    Runs (ifStatement block owner t label) s fun id s' => Builds s (branched ++ (left ++ ended)) s' fun later =>
      later.Shows libraries owner (.ifStatement label branches otherwise) id := by
  obtain ⟨shallow, branchesFit, otherwiseFits⟩ := fits
  obtain ⟨keyword, tail, rfl, isIf⟩ := spelled.starts
  obtain ⟨end_, closing, rfl, isEnd⟩ := ends.starts
  unfold ifStatement
  apply (begin_runs under shallow (stop_le read member) _).bind
  rintro id s₁ ⟨rfl, placed⟩
  have under₁ := placed.under under
  have head₁ := placed.head head
  apply (expect_runs ⟨head₁, isIf.significant⟩ isIf.word_eq).bind
  rintro keyword s₂ ⟨rfl, moves₂⟩
  have head₂ := moves₂.rest_drop head₁
  have under₂ := under₁.took moves₂.toTook
  obtain ⟨next, others, starts, after⟩ : ∃ next others, left ++ (end_ :: closing ++ rest) = next :: others ∧
      next.word ∈ ["else", "end"] := by
    rcases other.starts with rfl | ⟨else_, others, rfl, isElse⟩
    · exact ⟨end_, _, rfl, by simp [isEnd.word_eq]⟩
    · exact ⟨else_, _, rfl, by simp [isElse.word_eq]⟩
  apply (clauses rfl under₂ (moves₂.behind under₁) (by omega) branchesFit (starts ▸ head₂) after).bind
  rintro ids s₃ ⟨added, rfl, tested⟩
  have head₃ := tested.rest_drop head₂
  apply (restores (under₂.took tested.toTook) (by omega) enough otherwiseFits head₃ isEnd.word_eq).bind
  intro others s₄ left_
  have head₄ := left_.rest_drop head₃
  apply (endOf_runs ends head₄).bind
  intro _ s₅ moves₅
  have inner := (moves₂.then_builds (tested.trans left_)).then_moves moves₅
  refine (complete_runs placed inner (by simp) _).bind fun _ s₆ builds => .pure ?_
  rw [show keyword :: tail ++ (left ++ end_ :: closing) = [keyword] ++ (tail ++ left) ++ end_ :: closing by simp]
  exact builds.mono fun later ⟨drawn, tested, left_⟩ => .ifStatement drawn tested left_

theorem caseArm_runs {when_ next : Token} (restores : Restores text tokens libraries block levels body inside)
    (under : Under text tokens libraries owner depth s) (isWhen : when_.IsWord "when")
    (enough : maxDepth + 2 ≤ levels + (depth + 1)) (ends : p.EndsAt ["=>"]) (shallow : depth ≤ maxDepth)
    (fits : p.Fits libraries none (depth + 1)) (allFit : AllFit libraries (depth + 1) body)
    (head : s.rest = when_ :: (p.spelled ++ (inside ++ next :: rest))) (closing : next.word ∈ closingWords) :
    Runs (caseArm block owner) s fun id s' => Builds s (when_ :: (p.spelled ++ inside)) s' fun later =>
      later.ShowsBranches libraries Tree.armOf owner [(p, body)] [id] := by
  unfold caseArm
  apply (next_runs ⟨head, isWhen.significant⟩).bind
  rintro when_ s₁ ⟨rfl, moves₁⟩
  have under₁ := under.took moves₁.toTook
  have member := (moves₁.behind under).subset List.mem_cons_self
  apply (begin_runs under₁ shallow (stop_le read member) _).bind
  rintro id s₂ ⟨rfl, placed⟩
  have under₂ := placed.under under₁
  have head₂ := placed.head (moves₁.rest_drop head)
  refine closed_runs read under₂ ends head₂ fits fun used s₃ reads => ?_
  have head₃ := reads.rest_drop head₂
  apply (restores (under₂.took reads.toTook) (by omega) enough allFit head₃ closing).bind
  intro ids s₄ taken
  refine (complete_runs placed (reads.trans taken) (by simp [Phrase.spelled]) _).bind fun _ s₅ builds => .pure ?_
  refine (moves₁.then_builds builds).mono fun later shows => ?_
  obtain ⟨drawn, reads, taken⟩ := shows
  exact .cons drawn reads taken .nil

/-- One turn of the loop over the arms of a case statement. -/
def armTurn (block : BlockReader) (owner : NodeId) :
    List NodeId → Reader (Turn (List NodeId) (List NodeId)) := fun arms => do
  if ← sees ["when"] then return .again (arms ++ [← caseArm block owner]) else return .done arms

/-- A reader of blocks with which tokens are read back as arms. -/
def RestoresArms (text : Bytes) (tokens : List Token) (libraries : List String) (block : BlockReader) (levels : Nat)
    (arms : List (Phrase × List Statement)) (ts : List Token) : Prop :=
  ∀ ⦃owner depth : Nat⦄ ⦃s : ReaderState⦄ ⦃next : Token⦄ ⦃rest : List Token⦄ ⦃done : List NodeId⦄,
    Under text tokens libraries owner depth s → maxDepth + 2 ≤ levels + (depth + 1) → BranchesFit libraries depth arms →
    s.rest = ts ++ next :: rest → next.word = "end" →
    Runs (loop (armTurn block owner) done) s fun ids s' => ∃ added, ids = done ++ added ∧
      Builds s ts s' fun later => later.ShowsBranches libraries Tree.armOf owner arms added

omit read in
theorem noArms_restore : RestoresArms text tokens libraries block levels [] [] := by
  intro owner depth s next rest done under _ _ head ends
  apply Runs.loop
  unfold armTurn
  apply (sees_runs head _).bind
  rintro more s ⟨rfl, rfl⟩
  rw [if_neg (by simp [ends])]
  exact .pure ⟨[], by simp, (Moves.refl s).builds fun _ => .nil⟩

theorem moreArms_restore {when_ : Token} {others : List (Phrase × List Statement)}
    (restores : Restores text tokens libraries block levels body inside) (isWhen : when_.IsWord "when")
    (ends : p.EndsAt ["=>"]) (spelled : SpellsArms others back)
    (arms : RestoresArms text tokens libraries block levels others back) :
    RestoresArms text tokens libraries block levels ((p, body) :: others) (when_ :: (p.spelled ++ (inside ++ back))) := by
  rintro owner depth s next rest done under enough ⟨shallow, fits, allFit, othersFit⟩ head after
  obtain ⟨follow, tail, starts, closing⟩ : ∃ follow tail, back ++ next :: rest = follow :: tail ∧
      follow.word ∈ closingWords := by
    rcases spelled.starts with rfl | ⟨when_, others, rfl, isWhen⟩
    · exact ⟨next, _, rfl, by simp [after, closingWords]⟩
    · exact ⟨when_, _, rfl, by simp [isWhen.word_eq, closingWords]⟩
  have head : s.rest = when_ :: (p.spelled ++ (inside ++ (back ++ next :: rest))) := by simpa using head
  apply Runs.loop
  unfold armTurn
  apply (sees_runs head _).bind
  rintro more s ⟨rfl, rfl⟩
  rw [if_pos (by simp [isWhen.word_eq])]
  apply (caseArm_runs read restores under isWhen enough ends shallow fits allFit (starts ▸ head) closing).bind
  intro id s₁ shows
  have head₁ : s₁.rest = back ++ next :: rest := shows.rest_drop (by rw [head]; simp)
  refine .pure ⟨?_, ?_⟩
  · rw [head, head₁]
    simp only [List.length_append, List.length_cons]
    omega
  · refine (arms (under.took shows.toTook) enough othersFit head₁ after).mono ?_
    rintro ids s₂ ⟨added, rfl, builds⟩
    refine ⟨id :: added, by simp, ?_⟩
    rw [show when_ :: (p.spelled ++ (inside ++ back)) = when_ :: (p.spelled ++ inside) ++ back by simp]
    exact (shows.trans builds).mono fun later shown => shown.1.append shown.2

omit read in
theorem endCase_runs {α : Type} {ended : List Token} {x : Reader α} {post : α → ReaderState → Prop}
    (ends : SpellsEndCase ended) (head : s.rest = ended ++ rest) (next : ∀ s', Moves s ended s' → Runs x s' post) :
    Runs (skip "end" >>= fun _ => skip "case" >>= fun _ => discard (accept ["?"]) >>= fun _ => optionalName >>= fun _ =>
      skip ";" >>= fun _ => x) s post := by
  obtain ⟨isEnd, isCase, marked, named, ends⟩ := ends
  rename_i end_ case_ semicolon matching name
  have split : s.rest = [end_] ++ ([case_] ++ (matching ++ (name ++ semicolon :: rest))) := by simpa using head
  apply (skip_runs ⟨split, isEnd.significant⟩ isEnd.word_eq).bind
  intro _ s₁ moves₁
  have head₁ := moves₁.rest_drop split
  apply (skip_runs ⟨head₁, isCase.significant⟩ isCase.word_eq).bind
  intro _ s₂ moves₂
  have head₂ := moves₂.rest_drop head₁
  obtain ⟨others, starts⟩ : ∃ others, name ++ semicolon :: rest = name.headD semicolon :: others := by
    cases name with
    | nil => exact ⟨_, rfl⟩
    | cons n name => exact ⟨_, rfl⟩
  apply (matching_runs marked (head₂.trans (by rw [starts]))).bind
  intro _ s₃ moves₃
  have head₃ := moves₃.rest_drop head₂
  apply (optionalName_runs named ends head₃).bind
  intro _ s₄ moves₄
  have head₄ := moves₄.rest_drop head₃
  apply (skip_runs ⟨head₄, ends.significant⟩ ends.word_eq).bind
  intro _ s₅ moves₅
  exact next s₅ (moves₁.trans (moves₂.trans (moves₃.trans (moves₄.trans moves₅))))

theorem caseStatement_runs {case_ : Token} {selector : Phrase} {arms : List (Phrase × List Statement)}
    {matching chosen ended : List Token} (under : Under text tokens libraries owner depth s) (member : t ∈ tokens)
    (isCase : case_.IsWord "case") (marked : SpellsMatching matching (selector.tokens.headD selector.follow))
    (selects : selector.EndsAt ["is"]) (restores : RestoresArms text tokens libraries block levels arms chosen)
    (ends : SpellsEndCase ended) (enough : maxDepth + 2 ≤ levels + (depth + 1))
    (fits : (Statement.caseStatement label selector arms).Fits libraries depth)
    (head : s.rest = case_ :: (matching ++ (selector.spelled ++ (chosen ++ (ended ++ rest))))) :
    Runs (caseStatement block owner t label) s fun id s' =>
      Builds s (case_ :: (matching ++ (selector.spelled ++ (chosen ++ ended)))) s' fun later =>
        later.Shows libraries owner (.caseStatement label selector arms) id := by
  obtain ⟨shallow, selectorFits, armsFit⟩ := fits
  unfold caseStatement
  apply (begin_runs under shallow (stop_le read member) _).bind
  rintro id s₁ ⟨rfl, placed⟩
  have under₁ := placed.under under
  have head₁ := placed.head head
  apply (skip_runs ⟨head₁, isCase.significant⟩ isCase.word_eq).bind
  intro _ s₂ moves₂
  have head₂ : s₂.rest = matching ++ (selector.spelled ++ (chosen ++ (ended ++ rest))) := moves₂.rest_drop head₁
  obtain ⟨others, starts⟩ := selector.starts_headD (chosen ++ (ended ++ rest))
  apply (matching_runs marked (head₂.trans (by rw [starts]))).bind
  intro _ s₃ moves₃
  have head₃ := moves₃.rest_drop head₂
  have before := moves₂.trans moves₃
  refine closed_runs read (under₁.took before.toTook) selects head₃ selectorFits fun used s₄ selected => ?_
  have head₄ := selected.rest_drop head₃
  have chosen_ := before.then_builds selected
  obtain ⟨end_, closing, shape, isEnd⟩ : ∃ end_ closing, ended ++ rest = end_ :: closing ∧ end_.word = "end" := by
    obtain ⟨isEnd, _, _, _, _⟩ := ends
    exact ⟨_, _, rfl, isEnd.word_eq⟩
  apply (restores (under₁.took chosen_.toTook) (by omega) armsFit (shape ▸ head₄) isEnd).bind
  rintro ids s₅ ⟨added, rfl, taken⟩
  have head₅ : s₅.rest = ended ++ rest := taken.rest_drop head₄
  refine endCase_runs ends head₅ fun s₆ moves₆ => ?_
  have inner := (chosen_.trans taken).then_moves moves₆
  refine (complete_runs placed inner (by simp) _).bind fun _ s₇ builds => .pure ?_
  rw [show case_ :: (matching ++ (selector.spelled ++ (chosen ++ ended))) =
    [case_] ++ matching ++ selector.spelled ++ chosen ++ ended by simp]
  exact builds.mono fun later ⟨drawn, selected, taken⟩ => .caseStatement drawn selected taken

/-- What a loop runs over is read up to the word before its statements. -/
theorem iteration_runs {iterator : Bytes} {bounds : Option Phrase} {run : List Token}
    (under : Under text tokens libraries owner depth s) (spelled : SpellsIteration iterator bounds run)
    (fits : ∀ p ∈ bounds, p.Fits libraries none depth) (head : s.rest = run ++ rest) :
    Runs (iteration owner) s fun found s' => found.1 = iterator ∧ ∃ front loop_, run = front ++ [loop_] ∧
      loop_.word = "loop" ∧ loop_.kind ≠ .endOfText ∧
        Builds s front s' fun later => later.ShowsOptional libraries owner bounds found.2 := by
  unfold iteration
  cases spelled with
  | @range for_ name in_ bounds isFor named isIn ends =>
    have split : s.rest = [for_] ++ ([name] ++ ([in_] ++ (bounds.tokens ++ bounds.follow :: rest))) := by
      simpa [Phrase.spelled] using head
    apply (accept_runs ⟨split, isFor.significant⟩ (by simp [isFor.word_eq])).bind
    rintro accepted s₁ ⟨rfl, moves₁⟩
    rw [if_pos rfl]
    have head₁ := moves₁.rest_drop split
    apply (name_runs ⟨head₁, Token.isName_significant named⟩ named).bind
    rintro name s₂ ⟨rfl, moves₂⟩
    have head₂ := moves₂.rest_drop head₁
    apply (skip_runs ⟨head₂, isIn.significant⟩ isIn.word_eq).bind
    intro _ s₃ moves₃
    have moves := moves₁.trans (moves₂.trans moves₃)
    apply (expression_runs read (under.took moves.toTook) ends (moves₃.rest_drop head₂) (fits bounds rfl)).bind
    intro used s₄ reads
    exact .pure ⟨rfl, _, bounds.follow, rfl, by simpa using ends.ends, ends.significant _ List.mem_cons_self,
      moves.then_builds reads⟩
  | @«while» while_ condition isWhile ends =>
    have split : s.rest = [while_] ++ (condition.tokens ++ condition.follow :: rest) := by simpa [Phrase.spelled] using head
    apply (accept_other_runs split (by simp [isWhile.word_eq])).bind
    rintro accepted s ⟨rfl, rfl⟩
    rw [if_neg Bool.false_ne_true]
    apply (accept_runs ⟨split, isWhile.significant⟩ (by simp [isWhile.word_eq])).bind
    rintro accepted s₁ ⟨rfl, moves₁⟩
    rw [if_pos rfl]
    apply (expression_runs read (under.took moves₁.toTook) ends (moves₁.rest_drop split) (fits condition rfl)).bind
    intro used s₂ reads
    exact .pure ⟨rfl, _, condition.follow, rfl, by simpa using ends.ends, ends.significant _ List.mem_cons_self,
      moves₁.then_builds reads⟩
  | @plain loop_ isLoop =>
    apply (accept_other_runs head (by simp [isLoop.word_eq])).bind
    rintro accepted s ⟨rfl, rfl⟩
    rw [if_neg Bool.false_ne_true]
    apply (accept_other_runs head (by simp [isLoop.word_eq])).bind
    rintro accepted s ⟨rfl, rfl⟩
    rw [if_neg Bool.false_ne_true]
    exact .pure ⟨rfl, [], loop_, rfl, isLoop.word_eq, isLoop.significant, (Moves.refl s).builds fun _ => rfl⟩

theorem loopStatement_runs {iterator : Bytes} {bounds : Option Phrase} {run ended : List Token}
    (under : Under text tokens libraries owner depth s) (member : t ∈ tokens)
    (spelled : SpellsIteration iterator bounds run) (restores : Restores text tokens libraries block levels body inside)
    (ends : SpellsEnd "loop" ended) (enough : maxDepth + 2 ≤ levels + (depth + 1))
    (fits : (Statement.loop label iterator bounds body).Fits libraries depth)
    (head : s.rest = run ++ (inside ++ (ended ++ rest))) :
    Runs (loopStatement block owner t label) s fun id s' => Builds s (run ++ (inside ++ ended)) s' fun later =>
      later.Shows libraries owner (.loop label iterator bounds body) id := by
  obtain ⟨shallow, boundsFit, bodyFits⟩ := fits
  obtain ⟨end_, closing, rfl, isEnd⟩ := ends.starts
  unfold loopStatement
  apply (begin_runs under shallow (stop_le read member) _).bind
  rintro id s₁ ⟨rfl, placed⟩
  have under₁ := placed.under under
  have head₁ := placed.head head
  apply (iteration_runs read under₁ spelled boundsFit head₁).bind
  rintro ⟨iterator, used⟩ s₂ ⟨rfl, front, loop_, rfl, isLoop, significant, reads⟩
  rw [List.append_assoc] at head₁
  have head₂ := reads.rest_drop head₁
  apply (skip_runs ⟨head₂, significant⟩ isLoop).bind
  intro _ s₃ moves₃
  have head₃ := moves₃.rest_drop head₂
  have before := reads.then_moves moves₃
  have closes : end_.word ∈ closingWords := by simp [isEnd.word_eq, closingWords]
  apply (restores (under₁.took before.toTook) (by omega) enough bodyFits head₃ closes).bind
  intro ids s₄ repeated
  have head₄ := repeated.rest_drop head₃
  apply (endOf_runs ends head₄).bind
  intro _ s₅ moves₅
  have inner := (before.trans repeated).then_moves moves₅
  refine (complete_runs placed inner (by simp) _).bind fun _ s₆ builds => .pure ?_
  rw [show front ++ [loop_] ++ (inside ++ end_ :: closing) = front ++ [loop_] ++ inside ++ end_ :: closing by simp]
  exact builds.mono fun later ⟨drawn, reads, repeated⟩ => .loop drawn reads repeated

end

end Reader
end DesignLint
