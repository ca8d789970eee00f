import DesignLint.Proofs.Reader.Runs

/-! Simple statements read back. Labels, the ends of statements and phrases are read up to where they end, and a simple
statement leaves one node with the names of its phrases below it. -/
namespace DesignLint

variable {s s₁ s₂ : ReaderState} {rest more ts : List Token} {t : Token} {text : Bytes} {tokens : List Token}
  {libraries : List String} {owner depth : Nat} {p : Phrase} {label : Bytes}

/-- The tokens that stand next begin with these. -/
theorem Took.rest_drop (took : Took s ts s₁) (head : s.rest = ts ++ more) : s₁.rest = more :=
  List.append_cancel_left (took.rest_eq.symm.trans head)

theorem Under.mem_of_rest (under : Under text tokens libraries owner depth s) (head : s.rest = ts ++ more) :
    ∀ t ∈ ts, t ∈ tokens := fun _ member => under.suffix.subset (head ▸ List.mem_append_left _ member)

namespace Reader

/-! ### Labels and ends -/

/-- A label is read if it is there. Nothing is read where the next token is no name or no colon stands behind it. -/
theorem label_runs {first : Token} (spelled : SpellsLabel label ts) (head : s.rest = ts ++ first :: rest)
    (unlabelled : first.isName = true → ∃ second others, rest = second :: others ∧ second.word ≠ ":") :
    Runs Reader.label s fun found s' => found = label ∧ Moves s ts s' := by
  unfold Reader.label
  cases spelled with
  | none =>
    rw [List.nil_append] at head
    apply (seesName_runs head).bind
    rintro isName s ⟨rfl, rfl⟩
    cases named : first.isName with
    | false => exact (seesSecond_any_runs head _).bind fun _ _ same => .pure ⟨rfl, same ▸ .refl _⟩
    | true =>
      obtain ⟨second, others, rfl, other⟩ := unlabelled named
      apply (seesSecond_runs head _).bind
      rintro second s ⟨rfl, rfl⟩
      rw [if_neg (by simpa using other)]
      exact .pure ⟨rfl, .refl _⟩
  | @some name colon named isColon =>
    apply (seesName_runs head).bind
    rintro isName s ⟨rfl, rfl⟩
    apply (seesSecond_runs head _).bind
    rintro second s ⟨rfl, rfl⟩
    rw [if_pos (by simp [named, isColon.word_eq])]
    apply (next_runs ⟨head, Token.isName_significant named⟩).bind
    rintro t s₁ ⟨rfl, moves₁⟩
    apply (next_runs ⟨moves₁.rest_drop head, isColon.significant⟩).discard_bind
    rintro _ s₂ ⟨_, moves₂⟩
    exact .pure ⟨rfl, moves₁.trans moves₂⟩

theorem matching_runs (spelled : SpellsMatching ts t) (head : s.rest = ts ++ t :: rest) :
    Runs (discard (accept ["?"])) s fun _ s' => Moves s ts s' := by
  cases spelled with
  | none other =>
    refine .discard ((accept_other_runs head (by simpa using other)).mono ?_)
    rintro _ s ⟨_, rfl⟩
    exact .refl _
  | some isMark =>
    refine .discard ((accept_runs ⟨head, isMark.significant⟩ (by simp [isMark.word_eq])).mono ?_)
    exact fun _ _ found => found.2

/-- What ends the name at the end of a statement is no name. -/
theorem optionalName_runs {semicolon : Token} (spelled : SpellsName ts) (ends : semicolon.IsMark ";")
    (head : s.rest = ts ++ semicolon :: rest) : Runs optionalName s fun _ s' => Moves s ts s' := by
  unfold optionalName
  cases spelled with
  | none =>
    apply (seesName_runs head).bind
    rintro isName s ⟨rfl, rfl⟩
    rw [if_neg (by simp [ends.not_isName])]
    exact .pure (.refl _)
  | some named =>
    apply (seesName_runs head).bind
    rintro isName s ⟨rfl, rfl⟩
    rw [if_pos named]
    exact .discard ((next_runs ⟨head, Token.isName_significant named⟩).mono fun _ _ found => found.2)

theorem optionalDesignator_runs {semicolon : Token} (spelled : SpellsName ts) (ends : semicolon.IsMark ";")
    (head : s.rest = ts ++ semicolon :: rest) : Runs optionalDesignator s fun _ s' => Moves s ts s' := by
  unfold optionalDesignator
  cases spelled with
  | none =>
    apply (seesName_runs head).bind
    rintro isName s ⟨rfl, rfl⟩
    apply (peek_runs head).bind
    rintro t s ⟨rfl, rfl⟩
    rw [if_neg (by simp [ends.not_isName, ends.kind_eq])]
    exact .pure (.refl _)
  | some named =>
    apply (seesName_runs head).bind
    rintro isName s ⟨rfl, rfl⟩
    apply (peek_runs head).bind
    rintro t s ⟨rfl, rfl⟩
    rw [if_pos (by simp [named])]
    exact .discard ((next_runs ⟨head, Token.isName_significant named⟩).mono fun _ _ found => found.2)

theorem endOf_runs {word : String} (spelled : SpellsEnd word ts) (head : s.rest = ts ++ rest) :
    Runs (endOf [word]) s fun _ s' => Moves s ts s' := by
  obtain ⟨isEnd, isAgain, named, ends⟩ := spelled
  rename_i end_ again semicolon name
  unfold endOf
  have split : s.rest = [end_] ++ ([again] ++ (name ++ semicolon :: rest)) := by simpa using head
  apply (skip_runs ⟨split, isEnd.significant⟩ isEnd.word_eq).bind
  intro _ s₁ moves₁
  have head₁ := moves₁.rest_drop split
  have again_ : Runs ([word].forM fun word => discard (accept [word])) s₁ fun _ s' => Moves s₁ [again] s' := by
    apply (accept_runs ⟨head₁, isAgain.significant⟩ (by simp [isAgain.word_eq])).discard_bind
    intro _ s' found
    exact .pure found.2
  apply again_.bind
  intro _ s₂ moves₂
  have head₂ := moves₂.rest_drop head₁
  apply (optionalDesignator_runs named ends head₂).bind
  intro _ s₃ moves₃
  have head₃ := moves₃.rest_drop head₂
  refine (skip_runs ⟨head₃, ends.significant⟩ ends.word_eq).mono fun _ s₄ moves₄ => ?_
  exact moves₁.trans (moves₂.trans (moves₃.trans moves₄))

/-! ### Names and phrases -/

/-- Adding the nodes of occurrences. -/
theorem record_runs {os : List Occurrence} (under : Under text tokens libraries owner depth s)
    (fits : os = [] ∨ depth ≤ maxDepth) (inside : ∀ o ∈ os, o.token.stop ≤ text.length) :
    Runs (record owner os) s fun found s' => Builds s [] s' fun later => later.MarksAll owner os found.1 found.2 := by
  induction os generalizing s with
  | nil => exact .pure ((Moves.refl s).builds fun _ => ⟨.nil, .nil⟩)
  | cons o os ih =>
    have shallow := fits.resolve_left (List.cons_ne_nil o os)
    obtain ⟨here, others⟩ := List.forall_mem_cons.mp inside
    have ih {s₁ : ReaderState} (under₁ : Under text tokens libraries owner depth s₁) := ih under₁ (.inr shallow) others
    have marked {s₁ s₂ : ReaderState} {start stop : Nat} {c : Construct} (placed : Placed s s₁ owner start stop c)
        (took : Took s₁ [] s₂) {later : Tree} (keeps : later.Keeps s.tree s₂.tree) :
        later.node? s.tree.nodes.size = some ⟨some owner, start, stop, c⟩ :=
      (keeps.node?_eq _ (Nat.le_refl _) (Nat.lt_of_lt_of_le placed.new_lt took.size_le)).trans (placed.after took)
    cases o with
    | write t =>
      apply (attach_runs under shallow (Nat.le_add_right _ _) here _).bind
      rintro id s₁ ⟨rfl, placed⟩
      apply (ih (under.took placed.toTook)).bind
      intro found s₂ more
      refine .pure ⟨placed.toTook.trans more.toTook, fun later keeps => ?_⟩
      have marks := more.shows later (placed.toTook.split more.toTook keeps).2
      exact ⟨.cons (marked placed more.toTook keeps) marks.written, marks.read⟩
    | read t isElement =>
      apply (attach_runs under shallow (Nat.le_add_right _ _) here _).bind
      rintro id s₁ ⟨rfl, placed⟩
      apply (ih (under.took placed.toTook)).bind
      intro found s₂ more
      refine .pure ⟨placed.toTook.trans more.toTook, fun later keeps => ?_⟩
      have marks := more.shows later (placed.toTook.split more.toTook keeps).2
      exact ⟨marks.written, .cons (marked placed more.toTook keeps) marks.read⟩

theorem phraseUpTo_runs {words : List String} (ends : p.EndsAt words) (head : s.rest = p.tokens ++ p.follow :: rest) :
    Runs (phraseUpTo words) s fun q s' => q = p ∧ Moves s p.tokens s' := by
  unfold phraseUpTo phrase
  apply Runs.get_bind
  rw [head, ends.split_eq rest]
  refine .modify_bind ((peek_runs rfl).bind ?_)
  rintro t s' ⟨rfl, rfl⟩
  refine .pure ⟨rfl, .of_rest head fun known => ?_⟩
  rcases known with nonempty | known
  · obtain ⟨last, found⟩ := Option.ne_none_iff_exists'.mp (mt List.getLast?_eq_none_iff.mp nonempty)
    rw [found]
    rfl
  · cases p.tokens.getLast? with
    | none => exact known
    | some => rfl

/-- Where a phrase begins a statement, no reserved word stands. -/
theorem accept_reserved_runs {words : List String} (begins : p.Begins) (head : s.rest = p.tokens ++ p.follow :: more)
    (reserved : ∀ word ∈ words, word ∈ reservedWords) :
    Runs (accept words) s fun accepted s' => accepted = false ∧ s' = s := by
  obtain ⟨first, others, starts, free, _⟩ := begins.starts more
  rw [p.spelled_append] at starts
  exact accept_other_runs (head.trans starts) fun listed => free (reserved _ listed)

theorem assignmentSign_runs {sign : Token} (next_ : Next s sign rest) (known : sign.word ∈ ["<=", ":="]) :
    Runs assignmentSign s fun isVariable s' => isVariable = (sign.word == ":=") ∧ Moves s [sign] s' := by
  unfold assignmentSign
  apply (sees_runs next_.rest_eq _).bind
  rintro isVariable s ⟨rfl, rfl⟩
  apply (accept_runs next_ known).bind
  rintro accepted s₁ ⟨rfl, moves⟩
  rw [if_pos rfl]
  exact .pure ⟨by rw [Bool.eq_iff_iff]; simp, moves⟩

/-- Completing an assignment, or what is kept as one. -/
theorem closeAssignment_runs {shown : Tree → Prop} {x : Statement} {start stop : Nat} {a : Assignment} {c : Construct}
    {ts' : List Token} (placed : Placed s s₁ owner start stop c) (inner : Builds s₁ ts' s₂ shown) (spelled : ts' = ts)
    (nonempty : ts ≠ [])
    (shows : ∀ later : Tree, later.Draws owner s.tree.nodes.size (.assignment a) → shown later →
      later.Shows libraries owner x s.tree.nodes.size) :
    Runs (complete s.tree.nodes.size (.assignment a) >>= fun _ => pure s.tree.nodes.size) s₂ fun id s' =>
      Builds s ts s' fun later => later.Shows libraries owner x id := by
  subst spelled
  refine (complete_runs placed inner nonempty _).bind fun _ s₃ builds => .pure ?_
  exact builds.mono fun later ⟨drawn, inside⟩ => shows later drawn inside

variable (read : tokenize text = .ok tokens)

include read

theorem stop_le (member : t ∈ tokens) : t.stop ≤ text.length := (tokenize_tokensOf read).inside t member

theorem occurrences_runs {writeDepth : Option Nat} (under : Under text tokens libraries owner depth s)
    (members : ∀ t ∈ p.tokens, t ∈ tokens) (fits : p.Fits libraries writeDepth depth) :
    Runs (occurrences owner writeDepth p) s fun found s' => Builds s [] s' fun later =>
      later.ShowsNames libraries owner writeDepth p found.1 found.2 := by
  unfold occurrences
  apply Runs.get_bind
  rw [under.libraries_eq]
  refine (record_runs under fits fun o member => ?_).mono fun found s' builds => builds.mono fun later marks => ⟨marks, ?_⟩
  · exact stop_le read (members _ ((Phrase.walk_sublist p _ _ _ _ _ _).subset (List.mem_map_of_mem member)))
  · intro lead
    rwa [lead.occurrences_eq_named fun t member => point_of_tokenize read t (members t member)] at marks

theorem reads_runs (under : Under text tokens libraries owner depth s) (members : ∀ t ∈ p.tokens, t ∈ tokens)
    (fits : p.Fits libraries none depth) :
    Runs (reads owner p) s fun ids s' => Builds s [] s' fun later => later.ShowsReads libraries owner p ids := by
  unfold reads
  refine (occurrences_runs read under members fits).bind fun found s' builds => .pure ?_
  have nothing : found.1 = [] := by
    have marks := (builds.shows s'.tree (Tree.Keeps.self _ _)).recorded.written
    rw [List.filter_eq_nil_iff.mpr fun o member => by simp [Phrase.isWrite_of_none o member]] at marks
    exact List.forall₂_nil_left_iff.mp marks
  refine builds.mono fun later shows => ?_
  rwa [nothing] at shows

theorem expression_runs {words : List String} (under : Under text tokens libraries owner depth s) (ends : p.EndsAt words)
    (head : s.rest = p.tokens ++ p.follow :: rest) (fits : p.Fits libraries none depth) :
    Runs (expression owner words) s fun ids s' => Builds s p.tokens s' fun later =>
      later.ShowsReads libraries owner p ids := by
  unfold expression
  apply (phraseUpTo_runs ends head).bind
  rintro q s₁ ⟨rfl, moves⟩
  refine (reads_runs read (under.took moves.toTook) (under.mem_of_rest head) fits).mono fun ids s₂ builds => ?_
  have both := moves.then_builds builds
  rwa [List.append_nil] at both

/-- An expression and the word behind it. -/
theorem closed_runs {α : Type} {word : String} {f : List NodeId → Reader α} {post : α → ReaderState → Prop}
    (under : Under text tokens libraries owner depth s) (ends : p.EndsAt [word]) (head : s.rest = p.spelled ++ rest)
    (fits : p.Fits libraries none depth)
    (next : ∀ ids s', Builds s p.spelled s' (fun later => later.ShowsReads libraries owner p ids) → Runs (f ids) s' post) :
    Runs (expression owner [word] >>= fun ids => skip word >>= fun _ => f ids) s post := by
  have split : s.rest = p.tokens ++ p.follow :: rest := by simpa [Phrase.spelled] using head
  apply (expression_runs read under ends split fits).bind
  intro ids s₁ builds
  apply (skip_runs ⟨builds.rest_drop split, ends.significant _ List.mem_cons_self⟩ (by simpa using ends.ends)).bind
  exact fun _ s₂ moves => next ids s₂ (builds.then_moves moves)

/-! ### Simple statements -/

theorem assignment_runs {target value : Phrase} (under : Under text tokens libraries owner depth s)
    (member : t ∈ tokens) (begins : target.Begins) (ends : target.EndsAt ["<=", ":=", ";"])
    (assigns : target.follow.word ≠ ";") (closes : value.EndsAt [";"])
    (fits : (Statement.assignment label target value).Fits libraries depth)
    (head : s.rest = target.spelled ++ value.spelled ++ rest) :
    Runs (simpleStatement owner t label) s fun id s' => Builds s (target.spelled ++ value.spelled) s' fun later =>
      later.Shows libraries owner (.assignment label target value) id := by
  obtain ⟨shallow, targetFits, valueFits⟩ := fits
  have split : s.rest = target.tokens ++ target.follow :: (value.spelled ++ rest) := by simpa [Phrase.spelled] using head
  unfold simpleStatement
  apply (begin_runs under shallow (stop_le read member) _).bind
  rintro id s₁ ⟨rfl, placed⟩
  have under₁ := placed.under under
  have head₁ := placed.head split
  apply (accept_reserved_runs begins head₁ (by decide)).bind
  rintro plain s₁ ⟨rfl, rfl⟩
  rw [if_neg Bool.false_ne_true]
  apply (phraseUpTo_runs ends head₁).bind
  rintro target s₂ ⟨rfl, moves₂⟩
  have head₂ := moves₂.rest_drop head₁
  apply (sees_runs head₂ _).bind
  rintro isAssignment s₂ ⟨rfl, rfl⟩
  have sign : target.follow.word ∈ ["<=", ":="] := by
    have either := ends.ends
    simp only [List.mem_cons, List.not_mem_nil, or_false] at either ⊢
    tauto
  rw [if_pos (by simpa using sign)]
  apply (next_runs ⟨head₂, ends.significant _ List.mem_cons_self⟩).bind
  rintro follow s₃ ⟨rfl, moves₃⟩
  have moves := moves₂.trans moves₃
  have head₃ := moves₃.rest_drop head₂
  apply (occurrences_runs read (under₁.took moves.toTook) (under₁.mem_of_rest head₁) targetFits).bind
  rintro ⟨writes, indices⟩ s₄ targets
  have named := moves.then_builds targets
  refine closed_runs read (under₁.took named.toTook) closes (targets.rest_drop head₃) valueFits fun used s₅ reads => ?_
  refine closeAssignment_runs placed (named.trans reads) ?_ ?_ fun later drawn both => ?_
  · simp [Phrase.spelled]
  · simp [Phrase.spelled]
  · exact .assignment drawn both.1 both.2

theorem call_runs (under : Under text tokens libraries owner depth s) (member : t ∈ tokens) (begins : p.Begins)
    (ends : p.EndsAt ["<=", ":=", ";"]) (closes : p.follow.word = ";")
    (fits : (Statement.call label p).Fits libraries depth) (head : s.rest = p.spelled ++ rest) :
    Runs (simpleStatement owner t label) s fun id s' => Builds s p.spelled s' fun later =>
      later.Shows libraries owner (.call label p) id := by
  obtain ⟨shallow, nameFits⟩ := fits
  have split : s.rest = p.tokens ++ p.follow :: rest := by simpa [Phrase.spelled] using head
  unfold simpleStatement
  apply (begin_runs under shallow (stop_le read member) _).bind
  rintro id s₁ ⟨rfl, placed⟩
  have under₁ := placed.under under
  have head₁ := placed.head split
  apply (accept_reserved_runs begins head₁ (by decide)).bind
  rintro plain s₁ ⟨rfl, rfl⟩
  rw [if_neg Bool.false_ne_true]
  apply (phraseUpTo_runs ends head₁).bind
  rintro p s₂ ⟨rfl, moves₂⟩
  have head₂ := moves₂.rest_drop head₁
  apply (sees_runs head₂ _).bind
  rintro isAssignment s₂ ⟨rfl, rfl⟩
  rw [if_neg (by simp [closes])]
  apply (reads_runs read (under₁.took moves₂.toTook) (under₁.mem_of_rest head₁) nameFits).bind
  intro used s₃ reads
  apply (skip_runs ⟨reads.rest_drop head₂, ends.significant _ List.mem_cons_self⟩ closes).bind
  intro _ s₄ moves₄
  have inner := (moves₂.then_builds reads).then_moves moves₄
  refine closeAssignment_runs placed inner ?_ ?_ fun later drawn reads => .call drawn reads
  · simp [Phrase.spelled]
  · simp [Phrase.spelled]

/-- The condition of an exit or next statement, and the end of the statement. -/
theorem condition_runs {condition : Option Phrase} {tested : List Token} (under : Under text tokens libraries owner depth s)
    (tests : SpellsCondition condition tested) (head : s.rest = tested ++ rest)
    (fits : ∀ p ∈ condition, p.Fits libraries none depth) {α : Type} {f : List NodeId → Reader α}
    {post : α → ReaderState → Prop}
    (next : ∀ ids s', Builds s tested s' (fun later => later.ShowsOptional libraries owner condition ids) →
      Runs (f ids) s' post) :
    Runs (ifAccepted ["when"] [] (expression owner [";"]) >>= fun ids => skip ";" >>= fun _ => f ids) s post := by
  cases tests with
  | none ends =>
    have nothing : Runs (ifAccepted ["when"] [] (expression owner [";"])) s fun ids s' => ids = [] ∧ s' = s :=
      ifAccepted_other_runs head (by simp [ends.word_eq]) ⟨rfl, rfl⟩
    apply nothing.bind
    rintro ids s ⟨rfl, rfl⟩
    exact (skip_runs ⟨head, ends.significant⟩ ends.word_eq).bind fun _ s₁ moves => next [] s₁ (moves.builds fun _ => rfl)
  | @some when_ p isWhen ends =>
    have split : s.rest = when_ :: (p.tokens ++ p.follow :: rest) := by simpa [Phrase.spelled] using head
    have condition : Runs (ifAccepted ["when"] [] (expression owner [";"])) s fun ids s' =>
        Builds s (when_ :: p.tokens) s' fun later => later.ShowsReads libraries owner p ids := by
      refine ifAccepted_runs ⟨split, isWhen.significant⟩ (by simp [isWhen.word_eq]) fun s₁ moves => ?_
      have head₁ := moves.rest_drop split
      refine (expression_runs read (under.took moves.toTook) ends head₁ (fits p rfl)).mono fun ids s₂ builds => ?_
      exact moves.then_builds builds
    apply condition.bind
    intro ids s₁ builds
    apply (skip_runs ⟨builds.rest_drop split, ends.significant _ List.mem_cons_self⟩ (by simpa using ends.ends)).bind
    exact fun _ s₂ moves => next ids s₂ (builds.then_moves moves)

omit read in
/-- The name of a loop is read where the condition or the end of the statement stands behind it. -/
theorem optionalLoopName_runs {condition : Option Phrase} {tested : List Token} (spelled : SpellsName ts)
    (tests : SpellsCondition condition tested) (head : s.rest = ts ++ (tested ++ rest)) :
    Runs optionalLoopName s fun _ s' => Moves s ts s' := by
  obtain ⟨first, others, starts, word, other⟩ : ∃ first others, tested = first :: others ∧ first.word ∈ ["when", ";"] ∧
      first.isName = false := by
    cases tests with
    | none ends => exact ⟨_, _, rfl, by simp [ends.word_eq], ends.not_isName⟩
    | some isWhen _ => exact ⟨_, _, rfl, by simp [isWhen.word_eq], isWhen.not_isName (by decide)⟩
  rw [starts] at head
  unfold optionalLoopName
  cases spelled with
  | none =>
    apply (seesName_runs head).bind
    rintro isName s ⟨rfl, rfl⟩
    apply (seesSecond_any_runs head _).bind
    rintro second s rfl
    rw [if_neg (by simp [other])]
    exact .pure (.refl _)
  | some named =>
    apply (seesName_runs head).bind
    rintro isName s ⟨rfl, rfl⟩
    apply (seesSecond_runs head _).bind
    rintro second s ⟨rfl, rfl⟩
    rw [if_pos (by simpa [named] using word)]
    exact .discard ((next_runs ⟨head, Token.isName_significant named⟩).mono fun _ _ found => found.2)

theorem exit_runs {condition : Option Phrase} {word : String} {loop tested : List Token} {exit_ : Token}
    (under : Under text tokens libraries owner depth s) (member : t ∈ tokens) (isExit : exit_.IsWord word)
    (spelled : SpellsName loop) (tests : SpellsCondition condition tested)
    (fits : (Statement.exit label condition).Fits libraries depth) (head : s.rest = exit_ :: (loop ++ (tested ++ rest))) :
    Runs (exitStatement owner t label) s fun id s' => Builds s (exit_ :: (loop ++ tested)) s' fun later =>
      later.Shows libraries owner (.exit label condition) id := by
  obtain ⟨shallow, conditionFits⟩ := fits
  unfold exitStatement
  apply (begin_runs under shallow (stop_le read member) _).bind
  rintro id s₁ ⟨rfl, placed⟩
  have under₁ := placed.under under
  have head₁ := placed.head head
  apply (next_runs ⟨head₁, isExit.significant⟩).discard_bind
  rintro _ s₂ ⟨_, moves₂⟩
  have head₂ := moves₂.rest_drop head₁
  apply (optionalLoopName_runs spelled tests head₂).bind
  intro _ s₃ moves₃
  have moves := moves₂.trans moves₃
  refine condition_runs read (under₁.took moves.toTook) tests (moves₃.rest_drop head₂) conditionFits fun used s₄ reads => ?_
  refine closeAssignment_runs placed (moves.then_builds reads) ?_ ?_ fun later drawn reads => .exit drawn reads
  · simp
  · simp

theorem selected_runs {selector target value : Phrase} {matching : List Token} {with_ : Token}
    (under : Under text tokens libraries owner depth s) (member : t ∈ tokens) (isWith : with_.IsWord "with")
    (selects : selector.EndsAt ["select"]) (marked : SpellsMatching matching (target.tokens.headD target.follow))
    (ends : target.EndsAt ["<=", ":="]) (closes : value.EndsAt [";"])
    (fits : (Statement.selected label selector target value).Fits libraries depth)
    (head : s.rest = with_ :: (selector.spelled ++ (matching ++ (target.spelled ++ value.spelled))) ++ rest) :
    Runs (selectedAssignment owner t label) s fun id s' =>
      Builds s (with_ :: (selector.spelled ++ (matching ++ (target.spelled ++ value.spelled)))) s' fun later =>
        later.Shows libraries owner (.selected label selector target value) id := by
  obtain ⟨shallow, selectorFits, targetFits, valueFits⟩ := fits
  unfold selectedAssignment
  apply (begin_runs under shallow (stop_le read member) _).bind
  rintro id s₁ ⟨rfl, placed⟩
  have under₁ := placed.under under
  have head₁ : s₁.rest = with_ :: (selector.spelled ++ (matching ++ (target.tokens ++ target.follow ::
      (value.spelled ++ rest)))) := placed.head (by simpa [Phrase.spelled] using head)
  apply (skip_runs ⟨head₁, isWith.significant⟩ isWith.word_eq).bind
  intro _ s₂ moves₂
  have head₂ := moves₂.rest_drop head₁
  refine closed_runs read (under₁.took moves₂.toTook) selects head₂ selectorFits fun chosen s₃ selected => ?_
  have head₃ := selected.rest_drop head₂
  have before := moves₂.then_builds selected
  obtain ⟨others, starts⟩ := target.starts_headD (value.spelled ++ rest)
  apply (matching_runs marked (head₃.trans (by rw [← Phrase.spelled_append, starts]))).bind
  intro _ s₄ moves₄
  have head₄ := moves₄.rest_drop head₃
  have before := before.then_moves moves₄
  have members := (under₁.took before.toTook).mem_of_rest head₄
  apply (phraseUpTo_runs ends head₄).bind
  rintro target s₅ ⟨rfl, moves₅⟩
  have head₅ := moves₅.rest_drop head₄
  apply (assignmentSign_runs ⟨head₅, ends.significant _ List.mem_cons_self⟩ ends.ends).bind
  rintro isVariable s₆ ⟨rfl, moves₆⟩
  have before := before.then_moves (moves₅.trans moves₆)
  apply (occurrences_runs read (under₁.took before.toTook) members targetFits).bind
  rintro ⟨writes, indices⟩ s₇ targets
  refine closed_runs read (under₁.took (before.trans targets).toTook) closes
    (targets.rest_drop (moves₆.rest_drop head₅)) valueFits
    fun used s₈ reads => ?_
  refine closeAssignment_runs placed ((before.trans targets).trans reads) ?_ ?_ fun later drawn shown => ?_
  · simp [Phrase.spelled]
  · simp
  · obtain ⟨⟨selected, targets⟩, reads⟩ := shown
    exact .selected drawn selected targets reads

end Reader
end DesignLint
