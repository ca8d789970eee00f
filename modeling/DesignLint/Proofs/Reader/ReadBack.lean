import DesignLint.Proofs.Reader.Compound
import DesignLint.Proofs.Tree.Arena

/-! Sequential statements read back. Reading the tokens of statements takes exactly these tokens and leaves a tree that shows
the statements. The proof follows the spelling: a statement is read back if the statements inside it are. -/
namespace DesignLint

variable {s s₁ s₂ : ReaderState} {rest more ts : List Token} {t : Token} {text : Bytes} {tokens : List Token}
  {libraries : List String} {owner depth : Nat} {p : Phrase} {label : Bytes}

namespace Reader

/-- Reads a statement with one node of its own, behind its label. -/
def single (owner : NodeId) (start : Token) (label : Bytes) : Reader (Option NodeId) := do
  if ← sees ["exit", "next"] then exitStatement owner start label
  else if ← sees ["with"] then selectedAssignment owner start label
  else simpleStatement owner start label

/-- Reads a statement behind its label. -/
def unlabelled (block : BlockReader) (owner : NodeId) (start : Token) (label : Bytes) : Reader (Option NodeId) := do
  if ← sees ["if"] then ifStatement block owner start label
  else if ← sees ["case"] then caseStatement block owner start label
  else if ← sees ["for", "while", "loop"] then loopStatement block owner start label
  else if ← accept ["null"] then
    skip ";"
    return none
  else single owner start label

/-- A reader that reads tokens back as a statement. -/
def ReadsBack (libraries : List String) (owner : Nat) (x : Reader (Option NodeId)) (s : ReaderState) (ts : List Token)
    (statement : Statement) : Prop :=
  Runs x s fun id s' => Builds s ts s' fun later => later.ShowsAll libraries owner [statement] (id.toList.map some)

/-- A statement is read back behind its label. -/
theorem labelled_runs {named : List Token} {first : Token} {levels : Nat} {statement : Statement}
    (labelled : SpellsLabel label named) (head : s.rest = named ++ first :: rest)
    (plain : first.isName = true → ∃ second others, rest = second :: others ∧ second.word ≠ ":")
    (reads : ∀ start s₁, start ∈ s.rest → Moves s named s₁ → s₁.rest = first :: rest →
      ReadsBack libraries owner (unlabelled (statementList (Reader.statement levels)) owner start label) s₁ ts statement) :
    ReadsBack libraries owner (Reader.statement (levels + 1) owner) s (named ++ ts) statement := by
  obtain ⟨start, others, starts⟩ : ∃ start others, s.rest = start :: others := by
    cases named with
    | nil => exact ⟨_, _, head⟩
    | cons t named => exact ⟨_, _, head⟩
  unfold Reader.statement
  apply (peek_runs starts).bind
  rintro start s ⟨rfl, rfl⟩
  apply (label_runs labelled head plain).bind
  rintro label s₁ ⟨rfl, moves⟩
  have member : start ∈ s.rest := by simp [starts]
  exact (reads start s₁ member moves (moves.rest_drop head)).mono fun id s₂ builds => moves.then_builds builds

theorem withNode_runs {x : Reader NodeId} {statement : Statement}
    (runs : Runs x s fun id s' => Builds s ts s' fun later => later.Shows libraries owner statement id) :
    ReadsBack libraries owner (x >>= fun id => pure (some id)) s ts statement :=
  runs.bind fun _ _ builds => .pure (builds.mono fun _ shows => .cons shows .nil)

theorem closing_reserved : ∀ word ∈ closingWords, word ∈ reservedWords := by decide

section

variable {block : BlockReader} {first : Token} {statement : Statement}

theorem if_runs (isIf : first.IsWord "if") (head : s.rest = first :: rest)
    (runs : ReadsBack libraries owner (ifStatement block owner t label >>= fun id => pure (some id)) s ts statement) :
    ReadsBack libraries owner (unlabelled block owner t label) s ts statement :=
  ifSees_runs head (by simp [isIf.word_eq]) runs

theorem case_runs (isCase : first.IsWord "case") (head : s.rest = first :: rest)
    (runs : ReadsBack libraries owner (caseStatement block owner t label >>= fun id => pure (some id)) s ts statement) :
    ReadsBack libraries owner (unlabelled block owner t label) s ts statement := by
  apply ifSees_other_runs head (by simp [isCase.word_eq])
  exact ifSees_runs head (by simp [isCase.word_eq]) runs

theorem loop_runs {word : String} (known : word ∈ ["for", "while", "loop"]) (isLoop : first.IsWord word)
    (head : s.rest = first :: rest)
    (runs : ReadsBack libraries owner (loopStatement block owner t label >>= fun id => pure (some id)) s ts statement) :
    ReadsBack libraries owner (unlabelled block owner t label) s ts statement := by
  have other : ∀ word ∈ ["for", "while", "loop"], word ∉ ["if"] ∧ word ∉ ["case"] := by decide
  apply ifSees_other_runs head (isLoop.word_eq ▸ (other word known).1)
  apply ifSees_other_runs head (isLoop.word_eq ▸ (other word known).2)
  exact ifSees_runs head (isLoop.word_eq ▸ known) runs

theorem null_runs {semicolon : Token} (isNull : first.IsWord "null") (ends : semicolon.IsMark ";")
    (head : s.rest = first :: semicolon :: rest) :
    ReadsBack libraries owner (unlabelled block owner t label) s [first, semicolon] .null := by
  apply ifSees_other_runs head (by simp [isNull.word_eq])
  apply ifSees_other_runs head (by simp [isNull.word_eq])
  apply ifSees_other_runs head (by simp [isNull.word_eq])
  apply (accept_runs ⟨head, isNull.significant⟩ (by simp [isNull.word_eq])).bind
  rintro accepted s₁ ⟨rfl, moves₁⟩
  rw [if_pos rfl]
  apply (skip_runs ⟨moves₁.rest_drop head, ends.significant⟩ ends.word_eq).bind
  intro _ s₂ moves₂
  exact .pure ((moves₁.trans moves₂).builds fun _ => .null .nil)

theorem single_runs (other : first.word ∉ ["if", "case", "for", "while", "loop", "null"]) (head : s.rest = first :: rest)
    (runs : ReadsBack libraries owner (single owner t label) s ts statement) :
    ReadsBack libraries owner (unlabelled block owner t label) s ts statement := by
  have apart {words : List String} (among : ∀ word ∈ words, word ∈ ["if", "case", "for", "while", "loop", "null"]) :
      first.word ∉ words := fun listed => other (among _ listed)
  apply ifSees_other_runs head (apart (by decide))
  apply ifSees_other_runs head (apart (by decide))
  apply ifSees_other_runs head (apart (by decide))
  apply (accept_other_runs head (apart (by decide))).bind
  rintro accepted s ⟨rfl, rfl⟩
  rwa [if_neg Bool.false_ne_true]

theorem exitOrNext_runs {word : String} (known : word ∈ ["exit", "next"]) (isExit : first.IsWord word)
    (head : s.rest = first :: rest)
    (runs : ReadsBack libraries owner (exitStatement owner t label >>= fun id => pure (some id)) s ts statement) :
    ReadsBack libraries owner (unlabelled block owner t label) s ts statement := by
  have other : ∀ word ∈ ["exit", "next"], word ∉ ["if", "case", "for", "while", "loop", "null"] := by decide
  apply single_runs (isExit.word_eq ▸ other word known) head
  exact ifSees_runs head (isExit.word_eq ▸ known) runs

theorem with_runs (isWith : first.IsWord "with") (head : s.rest = first :: rest)
    (runs : ReadsBack libraries owner (selectedAssignment owner t label >>= fun id => pure (some id)) s ts statement) :
    ReadsBack libraries owner (unlabelled block owner t label) s ts statement := by
  apply single_runs (by simp [isWith.word_eq]) head
  apply ifSees_other_runs head (by simp [isWith.word_eq])
  exact ifSees_runs head (by simp [isWith.word_eq]) runs

/-- Where no reserved word stands, a simple statement is read. -/
theorem simple_runs (free : first.word ∉ reservedWords) (head : s.rest = first :: rest)
    (runs : ReadsBack libraries owner (simpleStatement owner t label >>= fun id => pure (some id)) s ts statement) :
    ReadsBack libraries owner (unlabelled block owner t label) s ts statement := by
  have other {words : List String} (reserved : ∀ word ∈ words, word ∈ reservedWords) : first.word ∉ words :=
    fun listed => free (reserved _ listed)
  apply single_runs (other (by decide)) head
  apply ifSees_other_runs head (other (by decide))
  apply ifSees_other_runs head (other (by decide))
  exact runs

end

/-- A reader of statements that reads tokens back as this one, wherever the levels that are left suffice. -/
def RestoresOne (text : Bytes) (tokens : List Token) (libraries : List String) (levels : Nat) (statement : Statement)
    (ts : List Token) : Prop :=
  ∀ ⦃owner depth : Nat⦄ ⦃s : ReaderState⦄ ⦃rest : List Token⦄, Under text tokens libraries owner depth s →
    maxDepth + 2 ≤ levels + (depth + 1) → statement.Fits libraries depth → s.rest = ts ++ rest →
    ReadsBack libraries owner (Reader.statement (levels + 1) owner) s ts statement

/-- One turn of the loop over statements. -/
def statementTurn (statement : NodeId → Reader (Option NodeId)) (owner : NodeId) :
    List (Option NodeId) → Reader (Turn (List (Option NodeId)) (List (Option NodeId))) := fun items => do
  if ← sees closingWords then return .done items
  else if ← atEnd then fail "unexpected end of file in sequential statements"
  else
    match ← statement owner with
    | some id => return .again (items ++ [some id])
    | none => return .again items

/-- A reader of statements with which tokens are read back as a list of them, behind those that are done. -/
def RestoresAll (text : Bytes) (tokens : List Token) (libraries : List String) (levels : Nat) (xs : List Statement)
    (ts : List Token) : Prop :=
  ∀ ⦃owner depth : Nat⦄ ⦃s : ReaderState⦄ ⦃next : Token⦄ ⦃rest : List Token⦄ (done : List (Option NodeId)),
    Under text tokens libraries owner depth s → 0 < levels → maxDepth + 2 ≤ levels + depth →
    AllFit libraries depth xs → s.rest = ts ++ next :: rest → next.word ∈ closingWords →
    Runs (loop (statementTurn (statement levels) owner) done) s fun ids s' => ∃ added, ids = done ++ added ∧
      Builds s ts s' fun later => later.ShowsAll libraries owner xs added

theorem RestoresAll.restores {levels : Nat} {xs : List Statement} (all : RestoresAll text tokens libraries levels xs ts) :
    Restores text tokens libraries (statementList (statement levels)) levels xs ts := by
  intro owner depth s next rest under left enough fits head closing
  refine (all [] under left enough fits head closing).mono ?_
  rintro ids s₁ ⟨added, rfl, builds⟩
  exact builds

theorem noStatements_restore {levels : Nat} : RestoresAll text tokens libraries levels [] [] := by
  intro owner depth s next rest done under _ _ _ head closing
  apply Runs.loop
  unfold statementTurn
  refine ifSees_runs head closing (.pure ⟨[], by simp, (Moves.refl s).builds fun _ => .nil⟩)

end Reader

open Reader

/-- Tokens that begin with one that closes no statements. -/
def GoesOn (ts : List Token) : Prop :=
  ∃ first others, ts = first :: others ∧ first.word ∉ closingWords ∧ first.kind ≠ .endOfText

theorem Token.IsWord.goesOn {word : String} (isWord : t.IsWord word) (other : word ∉ closingWords) : GoesOn (t :: ts) :=
  ⟨t, ts, rfl, isWord.word_eq ▸ other, isWord.significant⟩

theorem Phrase.Begins.goesOn (begins : p.Begins) (more : List Token) : GoesOn (p.spelled ++ more) := by
  obtain ⟨first, others, starts, free, significant, _⟩ := begins.starts more
  exact ⟨first, others, starts, fun closes => free (closing_reserved _ closes), significant⟩

theorem SpellsLabel.goesOn {named : List Token} (labelled : SpellsLabel label named) (behind : GoesOn ts) :
    GoesOn (named ++ ts) := by
  cases labelled with
  | none => exact behind
  | some named _ =>
    have free := Token.isName_not_reserved named
    exact ⟨_, _, rfl, fun closes => free (closing_reserved _ closes), Token.isName_significant named⟩

theorem Spells.goesOn {x : Statement} (spelled : Spells x ts) : GoesOn ts := by
  have exits : ∀ word ∈ ["exit", "next"], word ∉ closingWords := by decide
  have loops : ∀ word ∈ ["for", "while", "loop"], word ∉ closingWords := by decide
  cases spelled with
  | assignment labelled begins => exact labelled.goesOn (begins.goesOn _)
  | selected labelled isWith => exact labelled.goesOn (isWith.goesOn (by decide))
  | @call label name named labelled begins => exact labelled.goesOn (List.append_nil name.spelled ▸ begins.goesOn [])
  | null labelled isNull => exact labelled.goesOn (isNull.goesOn (by decide))
  | exit labelled known isExit => exact labelled.goesOn (isExit.goesOn (exits _ known))
  | ifStatement labelled spelled =>
    obtain ⟨keyword, others, rfl, isIf⟩ := spelled.starts
    exact labelled.goesOn (isIf.goesOn (by decide))
  | caseStatement labelled isCase => exact labelled.goesOn (isCase.goesOn (by decide))
  | loop labelled runs =>
    obtain ⟨word, keyword, others, rfl, known, isLoop⟩ := runs.starts
    exact labelled.goesOn (isLoop.goesOn (loops _ known))

section

variable (read : tokenize text = .ok tokens) {levels : Nat} {named : List Token}

include read

theorem assignment_restores {target value : Phrase} (labelled : SpellsLabel label named) (begins : target.Begins)
    (ends : target.EndsAt ["<=", ":=", ";"]) (assigns : target.follow.word ≠ ";") (closes : value.EndsAt [";"]) :
    RestoresOne text tokens libraries levels (.assignment label target value)
      (named ++ (target.spelled ++ value.spelled)) := by
  intro owner depth s rest under enough fits head
  obtain ⟨first, others, starts, free, _, plain⟩ := begins.starts (value.spelled ++ rest)
  rw [List.append_assoc, List.append_assoc, starts] at head
  refine labelled_runs labelled head plain fun start s₁ member moves head₁ => simple_runs free head₁ (withNode_runs ?_)
  have behind : s₁.rest = target.spelled ++ value.spelled ++ rest := by rw [head₁, ← starts, List.append_assoc]
  exact assignment_runs read (under.took moves.toTook) (under.suffix.subset member) begins ends assigns closes fits behind

theorem selected_restores {selector target value : Phrase} {matching : List Token} {with_ : Token}
    (labelled : SpellsLabel label named) (isWith : with_.IsWord "with") (selects : selector.EndsAt ["select"])
    (marked : SpellsMatching matching (target.tokens.headD target.follow)) (ends : target.EndsAt ["<=", ":="])
    (closes : value.EndsAt [";"]) :
    RestoresOne text tokens libraries levels (.selected label selector target value)
      (named ++ with_ :: (selector.spelled ++ (matching ++ (target.spelled ++ value.spelled)))) := by
  intro owner depth s rest under enough fits head
  rw [List.append_assoc] at head
  refine labelled_runs labelled head (isWith.no_label (by decide)) fun start s₁ member moves head₁ =>
    with_runs isWith head₁ (withNode_runs ?_)
  exact selected_runs read (under.took moves.toTook) (under.suffix.subset member) isWith selects marked ends closes fits
    head₁

theorem call_restores (labelled : SpellsLabel label named) (begins : p.Begins) (ends : p.EndsAt ["<=", ":=", ";"])
    (closes : p.follow.word = ";") :
    RestoresOne text tokens libraries levels (.call label p) (named ++ p.spelled) := by
  intro owner depth s rest under enough fits head
  obtain ⟨first, others, starts, free, _, plain⟩ := begins.starts rest
  rw [List.append_assoc, starts] at head
  refine labelled_runs labelled head plain fun start s₁ member moves head₁ => simple_runs free head₁ (withNode_runs ?_)
  exact call_runs read (under.took moves.toTook) (under.suffix.subset member) begins ends closes fits
    (head₁.trans starts.symm)

omit read in
theorem null_restores {null_ semicolon : Token} (labelled : SpellsLabel label named) (isNull : null_.IsWord "null")
    (ends : semicolon.IsMark ";") :
    RestoresOne text tokens libraries levels .null (named ++ [null_, semicolon]) := by
  intro owner depth s rest under enough fits head
  rw [List.append_assoc] at head
  exact labelled_runs labelled head (isNull.no_label (by decide)) fun start s₁ member moves head₁ =>
    null_runs isNull ends head₁

theorem exit_restores {condition : Option Phrase} {word : String} {loop tested : List Token} {exit_ : Token}
    (labelled : SpellsLabel label named) (known : word ∈ ["exit", "next"]) (isExit : exit_.IsWord word)
    (spelled : SpellsName loop) (tests : SpellsCondition condition tested) :
    RestoresOne text tokens libraries levels (.exit label condition) (named ++ exit_ :: (loop ++ tested)) := by
  intro owner depth s rest under enough fits head
  have reserved : ∀ word ∈ ["exit", "next"], word ∈ reservedWords := by decide
  have split : s.rest = named ++ exit_ :: (loop ++ (tested ++ rest)) := by simpa using head
  refine labelled_runs labelled split (isExit.no_label (reserved word known)) fun start s₁ member moves head₁ =>
    exitOrNext_runs known isExit head₁ (withNode_runs ?_)
  exact exit_runs read (under.took moves.toTook) (under.suffix.subset member) isExit spelled tests fits head₁

theorem ifStatement_restores {branches : List (Phrase × List Statement)} {otherwise : List Statement}
    {branched left ended : List Token} (labelled : SpellsLabel label named) (spelled : SpellsBranches "if" branches branched)
    (clauses : RestoresClauses text tokens libraries (statementList (statement levels)) levels branches branched)
    (other : SpellsElse otherwise left)
    (last : RestoresElse text tokens libraries (statementList (statement levels)) levels otherwise left)
    (ends : SpellsEnd "if" ended) :
    RestoresOne text tokens libraries levels (.ifStatement label branches otherwise)
      (named ++ (branched ++ (left ++ ended))) := by
  intro owner depth s rest under enough fits head
  obtain ⟨keyword, tail, rfl, isIf⟩ := spelled.starts
  have split : s.rest = named ++ keyword :: (tail ++ (left ++ (ended ++ rest))) := by simpa using head
  refine labelled_runs labelled split (isIf.no_label (by decide)) fun start s₁ member moves head₁ =>
    if_runs isIf head₁ (withNode_runs ?_)
  exact ifStatement_runs read (under.took moves.toTook) (under.suffix.subset member) spelled clauses other last ends enough
    fits head₁

theorem caseStatement_restores {selector : Phrase} {arms : List (Phrase × List Statement)} {case_ : Token}
    {matching chosen ended : List Token} (labelled : SpellsLabel label named) (isCase : case_.IsWord "case")
    (marked : SpellsMatching matching (selector.tokens.headD selector.follow)) (selects : selector.EndsAt ["is"])
    (taken : RestoresArms text tokens libraries (statementList (statement levels)) levels arms chosen)
    (ends : SpellsEndCase ended) :
    RestoresOne text tokens libraries levels (.caseStatement label selector arms)
      (named ++ case_ :: (matching ++ (selector.spelled ++ (chosen ++ ended)))) := by
  intro owner depth s rest under enough fits head
  have split : s.rest = named ++ case_ :: (matching ++ (selector.spelled ++ (chosen ++ (ended ++ rest)))) := by
    simpa using head
  refine labelled_runs labelled split (isCase.no_label (by decide)) fun start s₁ member moves head₁ =>
    case_runs isCase head₁ (withNode_runs ?_)
  exact caseStatement_runs read (under.took moves.toTook) (under.suffix.subset member) isCase marked selects taken ends
    enough fits head₁

theorem loop_restores {iterator : Bytes} {bounds : Option Phrase} {body : List Statement} {run inside ended : List Token}
    (labelled : SpellsLabel label named) (runs : SpellsIteration iterator bounds run)
    (repeated : RestoresAll text tokens libraries levels body inside) (ends : SpellsEnd "loop" ended) :
    RestoresOne text tokens libraries levels (.loop label iterator bounds body) (named ++ (run ++ (inside ++ ended))) := by
  intro owner depth s rest under enough fits head
  have reserved : ∀ word ∈ ["for", "while", "loop"], word ∈ reservedWords := by decide
  obtain ⟨word, keyword, tail, rfl, known, isLoop⟩ := runs.starts
  have split : s.rest = named ++ keyword :: (tail ++ (inside ++ (ended ++ rest))) := by simpa using head
  refine labelled_runs labelled split (isLoop.no_label (reserved word known)) fun start s₁ member moves head₁ =>
    loop_runs known isLoop head₁ (withNode_runs ?_)
  exact loopStatement_runs read (under.took moves.toTook) (under.suffix.subset member) runs repeated.restores ends enough
    fits head₁

omit read in
theorem moreStatements_restore {x : Statement} {xs : List Statement} {front back : List Token} (first : Spells x front)
    (one : ∀ levels, RestoresOne text tokens libraries levels x front)
    (all : RestoresAll text tokens libraries levels xs back) :
    RestoresAll text tokens libraries levels (x :: xs) (front ++ back) := by
  rintro owner depth s next rest done under left enough ⟨fits, allFit⟩ head closing
  obtain ⟨levels, rfl⟩ := Nat.exists_eq_add_one_of_ne_zero (Nat.ne_of_gt left)
  obtain ⟨keyword, tail, starts, free, significant⟩ := first.goesOn
  rw [List.append_assoc] at head
  have split : s.rest = keyword :: (tail ++ (back ++ next :: rest)) := by rw [head, starts, List.cons_append]
  apply Runs.loop
  unfold statementTurn
  refine ifSees_other_runs split free ?_
  apply (atEnd_runs ⟨split, significant⟩).bind
  rintro ended s ⟨rfl, rfl⟩
  rw [if_neg Bool.false_ne_true]
  apply (one levels under (by omega) fits head).bind
  intro found s₁ shows
  have head₁ := shows.rest_drop head
  have less : s₁.rest.length < s.rest.length := by
    rw [split, head₁]
    simp only [List.length_append, List.length_cons]
    omega
  have more (done : List (Option NodeId)) := all done (under.took shows.toTook) left enough allFit head₁ closing
  -- a null statement leaves nothing, and the loop goes on with the nodes it had
  cases found with
  | none =>
    refine .pure ⟨less, (more _).mono ?_⟩
    rintro ids s₂ ⟨added, rfl, builds⟩
    exact ⟨added, rfl, (shows.trans builds).mono fun later shown => shown.1.append shown.2⟩
  | some id =>
    refine .pure ⟨less, (more _).mono ?_⟩
    rintro ids s₂ ⟨added, rfl, builds⟩
    exact ⟨some id :: added, by simp, (shows.trans builds).mono fun later shown => shown.1.append shown.2⟩

end

/-! The induction is on the spelling. Where a statement is entered the levels that are left become fewer by one and the owner
stands deeper by one, so that they suffice for the statements inside it too. -/

mutual

/-- A statement is read back. -/
theorem Spells.restores (read : tokenize text = .ok tokens) {x : Statement} {ts : List Token} :
    Spells x ts → ∀ levels, RestoresOne text tokens libraries levels x ts
  | .assignment labelled begins ends assigns closes, _ => assignment_restores read labelled begins ends assigns closes
  | .selected labelled isWith selects marked ends closes, _ =>
    selected_restores read labelled isWith selects marked ends closes
  | .call labelled begins ends closes, _ => call_restores read labelled begins ends closes
  | .null labelled isNull ends, _ => null_restores labelled isNull ends
  | .exit labelled known isExit spelled tests, _ => exit_restores read labelled known isExit spelled tests
  | .ifStatement labelled spelled other ends, levels =>
    ifStatement_restores read labelled spelled (spelled.restores read levels) other (other.restores read levels) ends
  | .caseStatement labelled isCase marked selects spelled ends, levels =>
    caseStatement_restores read labelled isCase marked selects (spelled.restores read levels) ends
  | .loop labelled runs spelled ends, levels => loop_restores read labelled runs (spelled.restores read levels) ends

/-- Statements are read back one behind the other. -/
theorem SpellsAll.restores (read : tokenize text = .ok tokens) {xs : List Statement} {ts : List Token} :
    SpellsAll xs ts → ∀ levels, RestoresAll text tokens libraries levels xs ts
  | .nil, _ => noStatements_restore
  | .cons first others, levels => moreStatements_restore first (first.restores read) (others.restores read levels)

theorem SpellsBranches.restores (read : tokenize text = .ok tokens) {word : String}
    {branches : List (Phrase × List Statement)} {ts : List Token} : SpellsBranches word branches ts →
    ∀ levels, RestoresClauses text tokens libraries (statementList (statement levels)) levels branches ts
  | .last _ ends spelled, levels => lastClause_restores read (spelled.restores read levels).restores ends
  | .more _ ends spelled behind, levels =>
    moreClauses_restore read (spelled.restores read levels).restores ends behind (behind.restores read levels)

theorem SpellsElse.restores (read : tokenize text = .ok tokens) {otherwise : List Statement} {ts : List Token} :
    SpellsElse otherwise ts →
    ∀ levels, RestoresElse text tokens libraries (statementList (statement levels)) levels otherwise ts
  | .none, _ => noElse_restores
  | .some isElse spelled, levels => else_restores isElse (spelled.restores read levels).restores

theorem SpellsArms.restores (read : tokenize text = .ok tokens) {arms : List (Phrase × List Statement)}
    {ts : List Token} : SpellsArms arms ts →
    ∀ levels, RestoresArms text tokens libraries (statementList (statement levels)) levels arms ts
  | .nil, _ => noArms_restore
  | .cons isWhen ends spelled behind, levels =>
    moreArms_restore read (spelled.restores read levels).restores isWhen ends behind (behind.restores read levels)

end

/-- Reading the statements of a text, followed by a word that closes statements, takes exactly their tokens, leaves the other
nodes of the tree alone, and gives nodes that show the statements. -/
theorem statements_read_back {s : ReaderState} {owner : Nat} {next : Token} {rest ts : List Token} {xs : List Statement}
    (read : tokenize text = .ok tokens) (text_eq : s.tree.text = text) (rooted : s.tree.Rooted)
    (owner_lt : owner < s.tree.nodes.size) (suffix : s.rest <:+ tokens) (spelled : SpellsAll xs ts)
    (head : s.rest = ts ++ next :: rest) (closing : next.word ∈ closingWords)
    (fits : AllFit s.libraryNames (s.tree.depth owner) xs) :
    ∃ ids s', statements owner s = .ok (ids, s') ∧ s'.rest = next :: rest ∧
      (∀ i : Nat, i < s.tree.nodes.size → s'.tree.node? i = s.tree.node? i) ∧
      s'.tree.ShowsAll s.libraryNames owner xs ids := by
  have under : Under text tokens s.libraryNames owner (s.tree.depth owner) s :=
    ⟨text_eq, rooted, suffix, rfl, owner_lt, rfl⟩
  have restores : Restores text tokens s.libraryNames statements (maxDepth + 2) xs ts :=
    (spelled.restores read (maxDepth + 2)).restores
  obtain ⟨ids, s', run, builds⟩ :=
    restores under (Nat.succ_pos _) (Nat.le_add_right _ _) fits head closing
  exact ⟨ids, s', run, builds.rest_drop head, builds.old, builds.shows s'.tree (Tree.Keeps.self _ _)⟩

/-- An assignment under a condition, a null statement otherwise, and the word behind the statement. -/
def guardedText : Bytes := Bytes.ofString "if go then q <= d; else null; end if; end"

def guardedWord (word : String) (offset : Nat) : Token := .ofText .identifier (Bytes.ofString word) offset

def guardedMark (mark : String) (offset : Nat) : Token := .ofText .delimiter (Bytes.ofString mark) offset

def guardedTokens : List Token :=
  [guardedWord "if" 0, guardedWord "go" 3, guardedWord "then" 6, guardedWord "q" 11, guardedMark "<=" 13,
    guardedWord "d" 16, guardedMark ";" 17, guardedWord "else" 19, guardedWord "null" 24, guardedMark ";" 28,
    guardedWord "end" 30, guardedWord "if" 34, guardedMark ";" 36]

def guardedCondition : Phrase := ⟨[guardedWord "go" 3], guardedWord "then" 6⟩

def guardedTarget : Phrase := ⟨[guardedWord "q" 11], guardedMark "<=" 13⟩

def guardedValue : Phrase := ⟨[guardedWord "d" 16], guardedMark ";" 17⟩

def guardedStatement : Statement :=
  .ifStatement [] [(guardedCondition, [.assignment [] guardedTarget guardedValue])] [.null]

theorem guardedStatement_spelled : SpellsAll [guardedStatement] guardedTokens := by
  have condition : guardedCondition.EndsAt ["then"] := by
    simp only [guardedCondition, guardedWord, Token.ofText, Bytes.lower_ofString]
    exact ⟨.plain (by decide) (by decide) .nil, by decide, by decide, by decide⟩
  have target : guardedTarget.EndsAt ["<=", ":=", ";"] := by
    simp only [guardedTarget, guardedWord, guardedMark, Token.ofText, Bytes.lower_ofString]
    exact ⟨.plain (by decide) (by decide) .nil, by decide, by decide, by decide⟩
  have value : guardedValue.EndsAt [";"] := by
    simp only [guardedValue, guardedWord, guardedMark, Token.ofText, Bytes.lower_ofString]
    exact ⟨.plain (by decide) (by decide) .nil, by decide, by decide, by decide⟩
  have begins : guardedTarget.Begins := by
    simp only [guardedTarget, guardedWord, guardedMark, Token.ofText, Bytes.lower_ofString]
    exact .name (by decide) (by decide)
  have isWord {word : String} (offset : Nat) (lower : lowerString word = word) :
      (guardedWord word offset).IsWord word := ⟨rfl, (Bytes.lower_ofString word).trans lower⟩
  have ends (offset : Nat) : (guardedMark ";" offset).IsMark ";" := ⟨rfl, Bytes.lower_ofString ";"⟩
  have assigns : guardedTarget.follow.word ≠ ";" := by
    rw [guardedTarget, guardedMark, Token.ofText, Bytes.lower_ofString]
    decide
  have assigned := Spells.assignment .none begins target assigns value
  have nothing : Spells .null ([] ++ [guardedWord "null" 24, guardedMark ";" 28]) :=
    .null .none (isWord 24 (by decide)) (ends 28)
  have isIf : (guardedWord "if" 0).IsWord "if" := isWord 0 (by decide)
  have branch := SpellsBranches.last isIf condition (.cons assigned .nil)
  have otherwise : SpellsElse [.null] (guardedWord "else" 19 :: _) :=
    .some (isWord 19 (by decide)) (.cons nothing .nil)
  have closing : SpellsEnd "if" [guardedWord "end" 30, guardedWord "if" 34, guardedMark ";" 36] :=
    .mk (isWord 30 (by decide)) (isWord 34 (by decide)) .none (ends 36)
  exact SpellsAll.cons (.ifStatement .none branch otherwise closing) .nil

/-- Where the statements of the text begin. -/
def guardedStart : ReaderState where
  rest := guardedTokens ++ [guardedWord "end" 38, .endOfText 41]
  tree := Tree.ofText "design.vhd" guardedText

theorem guardedStatement_fits : AllFit guardedStart.libraryNames 0 [guardedStatement] := by
  have shallow {depth : Nat} (le : depth ≤ 3) : depth ≤ maxDepth := Nat.le_trans le (by decide)
  have condition : guardedCondition.Fits guardedStart.libraryNames none 2 := .inr (shallow (by decide))
  have target : guardedTarget.Fits guardedStart.libraryNames (some guardedTarget.targetDepth) 3 := .inr (shallow (by decide))
  have value : guardedValue.Fits guardedStart.libraryNames none 3 := .inr (shallow (by decide))
  have inside : AllFit guardedStart.libraryNames 2 [.assignment [] guardedTarget guardedValue] :=
    ⟨⟨shallow (by decide), target, value⟩, trivial⟩
  exact ⟨⟨shallow (by decide), ⟨shallow (by decide), condition, inside, trivial⟩, trivial, trivial⟩, trivial⟩

/-- The statement is read back as one node below the file, and the word behind it is left. -/
theorem guarded_statements_read_back : ∃ s', statements 0 guardedStart = .ok ([some 1], s') ∧
    s'.rest = [guardedWord "end" 38, .endOfText 41] ∧
    s'.tree.ShowsAll guardedStart.libraryNames 0 [guardedStatement] [some 1] := by
  have read : tokenize guardedText = .ok guardedStart.rest := eq_ok_of_toOption (by
    rw [guardedText, Bytes.ofString_ofList]
    decide +kernel)
  have closing : (guardedWord "end" 38).word ∈ closingWords := by
    rw [guardedWord, Token.ofText, Bytes.lower_ofString]
    decide
  have depth_eq : guardedStart.tree.depth 0 = 0 := Tree.depth_of_root rfl
  have fits : AllFit guardedStart.libraryNames (guardedStart.tree.depth 0) [guardedStatement] := by
    rw [depth_eq]
    exact guardedStatement_fits
  obtain ⟨ids, s', run, left, _, shows⟩ := statements_read_back read rfl (Tree.arena_ofText _ _).rooted Nat.one_pos
    (List.suffix_refl guardedStart.rest) guardedStatement_spelled rfl closing fits
  have found : (statements 0 guardedStart).toOption.map Prod.fst = some [some 1] := by decide +kernel
  obtain rfl : ids = [some 1] := by simpa [run, Except.toOption] using found
  exact ⟨s', run, left, shows⟩

end DesignLint
