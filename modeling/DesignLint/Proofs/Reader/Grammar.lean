import DesignLint.Reader.Sequential
import DesignLint.Proofs.Reader.Actuals
import DesignLint.Proofs.Reader.Names

/-! Sequential statements as the language has them: what they are made of, how they are spelled, how deep the nodes of their
trees stand, and which nodes show them. Expressions are not taken apart: a phrase is any stretch of tokens in which every
bracket is closed, and it comes with the token that ends it. -/
namespace DesignLint

/-- A sequential statement. A label is empty where there is none, and so is the variable of a loop. The name of the loop that
an exit or next statement is about is not kept. -/
inductive Statement where
  | assignment (label : Bytes) (target value : Phrase)
  | selected (label : Bytes) (selector target value : Phrase)
  | call (label : Bytes) (name : Phrase)
  | null
  | exit (label : Bytes) (condition : Option Phrase)
  | ifStatement (label : Bytes) (branches : List (Phrase × List Statement)) (otherwise : List Statement)
  | caseStatement (label : Bytes) (selector : Phrase) (arms : List (Phrase × List Statement))
  | loop (label iterator : Bytes) (bounds : Option Phrase) (body : List Statement)

/-! ### Spelling -/

namespace Token

/-- A token that is a reserved word. -/
structure IsWord (t : Token) (word : String) : Prop where
  kind_eq : t.kind = .identifier
  word_eq : t.word = word

/-- A token that is a punctuation mark. -/
structure IsMark (t : Token) (mark : String) : Prop where
  kind_eq : t.kind = .delimiter
  word_eq : t.word = mark

variable {t : Token} {word : String}

theorem IsWord.significant (isWord : t.IsWord word) : t.kind ≠ .endOfText := by
  rw [isWord.kind_eq]
  exact TokenKind.noConfusion

theorem IsMark.significant (isMark : t.IsMark word) : t.kind ≠ .endOfText := by
  rw [isMark.kind_eq]
  exact TokenKind.noConfusion

theorem IsMark.not_isName (isMark : t.IsMark word) : t.isName = false := by
  rw [isName, isMark.kind_eq]
  rfl

theorem IsWord.not_isName (isWord : t.IsWord word) (reserved : word ∈ reservedWords) : t.isName = false := by
  rw [isName, isWord.word_eq, List.contains_iff_mem.mpr reserved, Bool.not_true, Bool.and_false]

/-- A reserved word is no label. -/
theorem IsWord.no_label (isWord : t.IsWord word) (reserved : word ∈ reservedWords) {rest : List Token} :
    t.isName = true → ∃ second others, rest = second :: others ∧ second.word ≠ ":" := by
  rw [isWord.not_isName reserved]
  nofun

theorem isName_significant (named : t.isName = true) : t.kind ≠ .endOfText := by
  simp only [isName, Bool.and_eq_true, decide_eq_true_eq] at named
  rw [named.1]
  exact TokenKind.noConfusion

/-- A name is no reserved word. -/
theorem isName_not_reserved (named : t.isName = true) : t.word ∉ reservedWords := by
  simp only [isName, Bool.and_eq_true, Bool.not_eq_true'] at named
  simpa using named.2

end Token

/-- A phrase that ends at one of the words: every bracket in it is closed, and none of the words stands outside them. -/
structure Phrase.EndsAt (words : List String) (p : Phrase) : Prop where
  balanced : Balanced p.tokens
  significant : ∀ t ∈ p.follow :: p.tokens, t.kind ≠ .endOfText
  clean : ∀ x ∈ p.places, depthOf x.before = 0 → x.token.word ∉ words
  ends : p.follow.word ∈ words

/-- The tokens of a phrase and of what ends it. -/
def Phrase.spelled (p : Phrase) : List Token := p.tokens ++ [p.follow]

/-- A phrase that a statement may begin with: a name, or the bracket of an aggregate. What stands there is no label. -/
inductive Phrase.Begins : Phrase → Prop where
  | name {first follow : Token} {rest : List Token} (named : first.isName = true)
      (unlabelled : (rest.headD follow).word ≠ ":") : Begins ⟨first :: rest, follow⟩
  | aggregate {first follow : Token} {rest : List Token} (bracket : first.IsMark "(") : Begins ⟨first :: rest, follow⟩

/-- The depth at which the names of a target are written: those of an aggregate stand in its brackets. -/
def Phrase.targetDepth (p : Phrase) : Nat := if (p.tokens.headD p.follow).word = "(" then 1 else 0

inductive SpellsLabel : Bytes → List Token → Prop where
  | none : SpellsLabel [] []
  | some {name colon : Token} (named : name.isName = true) (isColon : colon.IsMark ":") : SpellsLabel name.text [name, colon]

/-- A name that may be left out. -/
inductive SpellsName : List Token → Prop where
  | none : SpellsName []
  | some {name : Token} (named : name.isName = true) : SpellsName [name]

/-- The question mark of a matching case or selection, which may be left out before another token. -/
inductive SpellsMatching : List Token → Token → Prop where
  | none {next : Token} (other : next.word ≠ "?") : SpellsMatching [] next
  | some {mark next : Token} (isMark : mark.IsMark "?") : SpellsMatching [mark] next

inductive SpellsCondition : Option Phrase → List Token → Prop where
  | none {semicolon : Token} (ends : semicolon.IsMark ";") : SpellsCondition none [semicolon]
  | some {when_ : Token} {p : Phrase} (isWhen : when_.IsWord "when") (ends : p.EndsAt [";"]) :
      SpellsCondition (some p) (when_ :: p.spelled)

/-- What a loop runs over, up to the word before its statements. -/
inductive SpellsIteration : Bytes → Option Phrase → List Token → Prop where
  | range {for_ iterator in_ : Token} {bounds : Phrase} (isFor : for_.IsWord "for") (named : iterator.isName = true)
      (isIn : in_.IsWord "in") (ends : bounds.EndsAt ["loop"]) :
      SpellsIteration iterator.text (some bounds) (for_ :: iterator :: in_ :: bounds.spelled)
  | while {while_ : Token} {condition : Phrase} (isWhile : while_.IsWord "while") (ends : condition.EndsAt ["loop"]) :
      SpellsIteration [] (some condition) (while_ :: condition.spelled)
  | plain {loop : Token} (isLoop : loop.IsWord "loop") : SpellsIteration [] none [loop]

/-- The end of an if or a loop statement. -/
inductive SpellsEnd (word : String) : List Token → Prop where
  | mk {end_ again semicolon : Token} {name : List Token} (isEnd : end_.IsWord "end") (isAgain : again.IsWord word)
      (spelled : SpellsName name) (ends : semicolon.IsMark ";") : SpellsEnd word (end_ :: again :: (name ++ [semicolon]))

/-- The end of a case statement, which may repeat the question mark. -/
inductive SpellsEndCase : List Token → Prop where
  | mk {end_ case_ semicolon : Token} {matching name : List Token} (isEnd : end_.IsWord "end") (isCase : case_.IsWord "case")
      (marked : SpellsMatching matching (name.headD semicolon)) (spelled : SpellsName name) (ends : semicolon.IsMark ";") :
      SpellsEndCase (end_ :: case_ :: (matching ++ (name ++ [semicolon])))

mutual

/-- The tokens of a statement. -/
inductive Spells : Statement → List Token → Prop where
  | assignment {label : Bytes} {target value : Phrase} {named : List Token} (labelled : SpellsLabel label named)
      (begins : target.Begins) (ends : target.EndsAt ["<=", ":=", ";"]) (assigns : target.follow.word ≠ ";")
      (closes : value.EndsAt [";"]) : Spells (.assignment label target value) (named ++ (target.spelled ++ value.spelled))
  | selected {label : Bytes} {selector target value : Phrase} {named matching : List Token} {with_ : Token}
      (labelled : SpellsLabel label named) (isWith : with_.IsWord "with") (selects : selector.EndsAt ["select"])
      (marked : SpellsMatching matching (target.tokens.headD target.follow))
      (ends : target.EndsAt ["<=", ":="]) (closes : value.EndsAt [";"]) :
      Spells (.selected label selector target value)
        (named ++ with_ :: (selector.spelled ++ (matching ++ (target.spelled ++ value.spelled))))
  | call {label : Bytes} {name : Phrase} {named : List Token} (labelled : SpellsLabel label named) (begins : name.Begins)
      (ends : name.EndsAt ["<=", ":=", ";"]) (closes : name.follow.word = ";") :
      Spells (.call label name) (named ++ name.spelled)
  | null {label : Bytes} {named : List Token} {null_ semicolon : Token} (labelled : SpellsLabel label named)
      (isNull : null_.IsWord "null") (ends : semicolon.IsMark ";") : Spells .null (named ++ [null_, semicolon])
  | exit {label : Bytes} {condition : Option Phrase} {word : String} {named loop tested : List Token} {exit_ : Token}
      (labelled : SpellsLabel label named) (known : word ∈ ["exit", "next"]) (isExit : exit_.IsWord word)
      (spelled : SpellsName loop) (tests : SpellsCondition condition tested) :
      Spells (.exit label condition) (named ++ exit_ :: (loop ++ tested))
  | ifStatement {label : Bytes} {branches : List (Phrase × List Statement)} {otherwise : List Statement}
      {named branched left ended : List Token} (labelled : SpellsLabel label named)
      (spelled : SpellsBranches "if" branches branched) (other : SpellsElse otherwise left)
      (ends : SpellsEnd "if" ended) : Spells (.ifStatement label branches otherwise) (named ++ (branched ++ (left ++ ended)))
  | caseStatement {label : Bytes} {selector : Phrase} {arms : List (Phrase × List Statement)}
      {named matching chosen ended : List Token} {case_ : Token} (labelled : SpellsLabel label named)
      (isCase : case_.IsWord "case") (marked : SpellsMatching matching (selector.tokens.headD selector.follow))
      (selects : selector.EndsAt ["is"]) (spelled : SpellsArms arms chosen) (ends : SpellsEndCase ended) :
      Spells (.caseStatement label selector arms) (named ++ case_ :: (matching ++ (selector.spelled ++ (chosen ++ ended))))
  | loop {label iterator : Bytes} {bounds : Option Phrase} {body : List Statement} {named run inside ended : List Token}
      (labelled : SpellsLabel label named) (runs : SpellsIteration iterator bounds run) (spelled : SpellsAll body inside)
      (ends : SpellsEnd "loop" ended) : Spells (.loop label iterator bounds body) (named ++ (run ++ (inside ++ ended)))

/-- The tokens of statements, one behind the other. -/
inductive SpellsAll : List Statement → List Token → Prop where
  | nil : SpellsAll [] []
  | cons {x : Statement} {xs : List Statement} {front back : List Token} (first : Spells x front)
      (others : SpellsAll xs back) : SpellsAll (x :: xs) (front ++ back)

/-- The branches of an if statement. The first one begins with the given word. -/
inductive SpellsBranches : String → List (Phrase × List Statement) → List Token → Prop where
  | last {word : String} {keyword : Token} {condition : Phrase} {body : List Statement} {inside : List Token}
      (isWord : keyword.IsWord word) (ends : condition.EndsAt ["then"]) (spelled : SpellsAll body inside) :
      SpellsBranches word [(condition, body)] (keyword :: (condition.spelled ++ inside))
  | more {word : String} {keyword : Token} {condition : Phrase} {body : List Statement}
      {others : List (Phrase × List Statement)} {inside back : List Token} (isWord : keyword.IsWord word)
      (ends : condition.EndsAt ["then"]) (spelled : SpellsAll body inside) (behind : SpellsBranches "elsif" others back) :
      SpellsBranches word ((condition, body) :: others) (keyword :: (condition.spelled ++ (inside ++ back)))

/-- The last branch of an if statement, which may be left out. -/
inductive SpellsElse : List Statement → List Token → Prop where
  | none : SpellsElse [] []
  | some {else_ : Token} {body : List Statement} {inside : List Token} (isElse : else_.IsWord "else")
      (spelled : SpellsAll body inside) : SpellsElse body (else_ :: inside)

/-- The arms of a case statement. -/
inductive SpellsArms : List (Phrase × List Statement) → List Token → Prop where
  | nil : SpellsArms [] []
  | cons {when_ : Token} {choices : Phrase} {body : List Statement} {others : List (Phrase × List Statement)}
      {inside back : List Token} (isWhen : when_.IsWord "when") (ends : choices.EndsAt ["=>"])
      (spelled : SpellsAll body inside) (behind : SpellsArms others back) :
      SpellsArms ((choices, body) :: others) (when_ :: (choices.spelled ++ (inside ++ back)))

end

theorem SpellsEnd.starts {word : String} {ts : List Token} (spelled : SpellsEnd word ts) :
    ∃ end_ others, ts = end_ :: others ∧ end_.IsWord "end" := by
  obtain ⟨isEnd, _, _, _⟩ := spelled
  exact ⟨_, _, rfl, isEnd⟩

theorem SpellsBranches.starts {word : String} {branches : List (Phrase × List Statement)} {ts : List Token}
    (spelled : SpellsBranches word branches ts) : ∃ keyword others, ts = keyword :: others ∧ keyword.IsWord word := by
  cases spelled with
  | last isWord _ _ => exact ⟨_, _, rfl, isWord⟩
  | more isWord _ _ _ => exact ⟨_, _, rfl, isWord⟩

theorem SpellsElse.starts {otherwise : List Statement} {ts : List Token} (spelled : SpellsElse otherwise ts) :
    ts = [] ∨ ∃ else_ others, ts = else_ :: others ∧ else_.IsWord "else" := by
  cases spelled with
  | none => exact .inl rfl
  | some isElse _ => exact .inr ⟨_, _, rfl, isElse⟩

theorem SpellsArms.starts {arms : List (Phrase × List Statement)} {ts : List Token} (spelled : SpellsArms arms ts) :
    ts = [] ∨ ∃ when_ others, ts = when_ :: others ∧ when_.IsWord "when" := by
  cases spelled with
  | nil => exact .inl rfl
  | cons isWhen _ _ _ => exact .inr ⟨_, _, rfl, isWhen⟩

theorem SpellsIteration.starts {iterator : Bytes} {bounds : Option Phrase} {ts : List Token}
    (spelled : SpellsIteration iterator bounds ts) :
    ∃ word keyword others, ts = keyword :: others ∧ word ∈ ["for", "while", "loop"] ∧ keyword.IsWord word := by
  cases spelled with
  | range isFor _ _ _ => exact ⟨_, _, _, rfl, by decide, isFor⟩
  | «while» isWhile _ => exact ⟨_, _, _, rfl, by decide, isWhile⟩
  | plain isLoop => exact ⟨_, _, _, rfl, by decide, isLoop⟩

/-! ### Depth -/

/-- The names of a phrase have nodes below an owner at a depth, unless there are none. -/
def Phrase.Fits (libraries : List String) (writeDepth : Option Nat) (depth : Nat) (p : Phrase) : Prop :=
  p.occurrences libraries writeDepth = [] ∨ depth ≤ maxDepth

mutual

/-- A statement below an owner at a depth, none of whose nodes stands deeper than the parents of a node may. -/
def Statement.Fits (libraries : List String) (depth : Nat) : Statement → Prop
  | .assignment _ target value => depth ≤ maxDepth ∧
      target.Fits libraries (some target.targetDepth) (depth + 1) ∧ value.Fits libraries none (depth + 1)
  | .selected _ selector target value => depth ≤ maxDepth ∧ selector.Fits libraries none (depth + 1) ∧
      target.Fits libraries (some 0) (depth + 1) ∧ value.Fits libraries none (depth + 1)
  | .call _ name => depth ≤ maxDepth ∧ name.Fits libraries none (depth + 1)
  | .null => True
  | .exit _ condition => depth ≤ maxDepth ∧ ∀ p ∈ condition, p.Fits libraries none (depth + 1)
  | .ifStatement _ branches otherwise => depth ≤ maxDepth ∧ BranchesFit libraries (depth + 1) branches ∧
      AllFit libraries (depth + 1) otherwise
  | .caseStatement _ selector arms => depth ≤ maxDepth ∧ selector.Fits libraries none (depth + 1) ∧
      BranchesFit libraries (depth + 1) arms
  | .loop _ _ bounds body => depth ≤ maxDepth ∧ (∀ p ∈ bounds, p.Fits libraries none (depth + 1)) ∧
      AllFit libraries (depth + 1) body

def AllFit (libraries : List String) (depth : Nat) : List Statement → Prop
  | [] => True
  | x :: xs => x.Fits libraries depth ∧ AllFit libraries depth xs

def BranchesFit (libraries : List String) (depth : Nat) : List (Phrase × List Statement) → Prop
  | [] => True
  | (p, body) :: others => depth ≤ maxDepth ∧ p.Fits libraries none (depth + 1) ∧ AllFit libraries (depth + 1) body ∧
      BranchesFit libraries depth others

end

/-! ### Trees -/

namespace Tree

/-- A node below an owner that is the construct. -/
def Draws (t : Tree) (owner id : NodeId) (c : Construct) : Prop :=
  ∃ start stop, t.node? id = some ⟨some owner, start, stop, c⟩

/-- The nodes of occurrences, those that are written and those that are read. -/
structure MarksAll (t : Tree) (owner : NodeId) (occurrences : List Occurrence) (writes reads : List NodeId) : Prop where
  written : List.Forall₂ (t.Marks owner) (occurrences.filter Occurrence.isWrite) writes
  read : List.Forall₂ (t.Marks owner) (occurrences.filter (!·.isWrite)) reads

/-- The nodes of the names of a phrase. Where the library names of the phrase lead, those names are the ones that its tokens
spell. -/
structure ShowsNames (t : Tree) (libraries : List String) (owner : NodeId) (writeDepth : Option Nat) (p : Phrase)
    (writes reads : List NodeId) : Prop where
  recorded : t.MarksAll owner (p.occurrences libraries writeDepth) writes reads
  named : p.LibrariesLead libraries → t.MarksAll owner (p.named libraries writeDepth) writes reads

/-- The nodes of the names that are read in a phrase in which nothing is written. -/
def ShowsReads (t : Tree) (libraries : List String) (owner : NodeId) (p : Phrase) (reads : List NodeId) : Prop :=
  t.ShowsNames libraries owner none p [] reads

/-- The same, where the phrase may be left out. -/
def ShowsOptional (t : Tree) (libraries : List String) (owner : NodeId) : Option Phrase → List NodeId → Prop
  | none, reads => reads = []
  | some p, reads => t.ShowsReads libraries owner p reads

/-- The node of a branch of an if statement, with the text of its condition. -/
def clauseOf (t : Tree) (condition : Phrase) (used : List NodeId) (inside : List (Option NodeId)) : Construct :=
  .ifClause ⟨used, condition.source t.text, inside⟩

/-- The node of an arm of a case statement. -/
def armOf (_ : Tree) (_ : Phrase) (used : List NodeId) (inside : List (Option NodeId)) : Construct := .caseArm ⟨used, inside⟩

mutual

/-- A node below an owner that shows a statement. The target of a selected assignment is no aggregate to it: what stands in
brackets there is read. -/
inductive Shows (t : Tree) (libraries : List String) : NodeId → Statement → NodeId → Prop where
  | assignment {owner id : NodeId} {label : Bytes} {target value : Phrase} {writes indices used : List NodeId}
      (drawn : t.Draws owner id (.assignment ⟨label, target.follow.word == ":=", writes, indices ++ used⟩))
      (targets : t.ShowsNames libraries id (some target.targetDepth) target writes indices)
      (reads : t.ShowsReads libraries id value used) : Shows t libraries owner (.assignment label target value) id
  | selected {owner id : NodeId} {label : Bytes} {selector target value : Phrase} {selects writes indices used : List NodeId}
      (drawn : t.Draws owner id (.assignment ⟨label, target.follow.word == ":=", writes, selects ++ indices ++ used⟩))
      (selected : t.ShowsReads libraries id selector selects)
      (targets : t.ShowsNames libraries id (some 0) target writes indices)
      (reads : t.ShowsReads libraries id value used) : Shows t libraries owner (.selected label selector target value) id
  | call {owner id : NodeId} {label : Bytes} {name : Phrase} {used : List NodeId}
      (drawn : t.Draws owner id (.assignment ⟨label, false, [], used⟩)) (reads : t.ShowsReads libraries id name used) :
      Shows t libraries owner (.call label name) id
  | exit {owner id : NodeId} {label : Bytes} {condition : Option Phrase} {used : List NodeId}
      (drawn : t.Draws owner id (.assignment ⟨label, false, [], used⟩))
      (reads : t.ShowsOptional libraries id condition used) : Shows t libraries owner (.exit label condition) id
  | ifStatement {owner id : NodeId} {label : Bytes} {branches : List (Phrase × List Statement)}
      {otherwise : List Statement} {clauses : List NodeId} {others : List (Option NodeId)}
      (drawn : t.Draws owner id (.ifStatement ⟨label, clauses, others⟩))
      (tested : ShowsBranches t libraries clauseOf id branches clauses)
      (left : ShowsAll t libraries id otherwise others) : Shows t libraries owner (.ifStatement label branches otherwise) id
  | caseStatement {owner id : NodeId} {label : Bytes} {selector : Phrase} {arms : List (Phrase × List Statement)}
      {selects chosen : List NodeId} (drawn : t.Draws owner id (.caseStatement ⟨label, selects, chosen⟩))
      (selected : t.ShowsReads libraries id selector selects)
      (taken : ShowsBranches t libraries armOf id arms chosen) :
      Shows t libraries owner (.caseStatement label selector arms) id
  | loop {owner id : NodeId} {label iterator : Bytes} {bounds : Option Phrase} {body : List Statement}
      {used : List NodeId} {inside : List (Option NodeId)} (drawn : t.Draws owner id (.loop ⟨label, iterator, used, inside⟩))
      (reads : t.ShowsOptional libraries id bounds used) (repeated : ShowsAll t libraries id body inside) :
      Shows t libraries owner (.loop label iterator bounds body) id

/-- Nodes below an owner that show statements, in order. A null statement has none. -/
inductive ShowsAll (t : Tree) (libraries : List String) : NodeId → List Statement → List (Option NodeId) → Prop where
  | nil {owner : NodeId} : ShowsAll t libraries owner [] []
  | null {owner : NodeId} {xs : List Statement} {ids : List (Option NodeId)} (others : ShowsAll t libraries owner xs ids) :
      ShowsAll t libraries owner (.null :: xs) ids
  | cons {owner id : NodeId} {x : Statement} {xs : List Statement} {ids : List (Option NodeId)}
      (first : Shows t libraries owner x id) (others : ShowsAll t libraries owner xs ids) :
      ShowsAll t libraries owner (x :: xs) (some id :: ids)

/-- Nodes below an owner that show phrases with the statements behind them. -/
inductive ShowsBranches (t : Tree) (libraries : List String) :
    (Tree → Phrase → List NodeId → List (Option NodeId) → Construct) → NodeId → List (Phrase × List Statement) →
      List NodeId → Prop where
  | nil {make : Tree → Phrase → List NodeId → List (Option NodeId) → Construct} {owner : NodeId} :
      ShowsBranches t libraries make owner [] []
  | cons {make : Tree → Phrase → List NodeId → List (Option NodeId) → Construct} {owner id : NodeId} {p : Phrase}
      {body : List Statement} {more : List (Phrase × List Statement)} {used : List NodeId} {inside : List (Option NodeId)}
      {ids : List NodeId} (drawn : t.Draws owner id (make t p used inside)) (reads : t.ShowsReads libraries id p used)
      (taken : ShowsAll t libraries id body inside) (others : ShowsBranches t libraries make owner more ids) :
      ShowsBranches t libraries make owner ((p, body) :: more) (id :: ids)

end

section

variable {t : Tree} {libraries : List String} {owner id : NodeId} {x : Statement} {xs : List Statement}
  {make : Tree → Phrase → List NodeId → List (Option NodeId) → Construct} {branch : Phrase × List Statement}
  {more : List (Phrase × List Statement)}

theorem ShowsAll.append {first others : List (Option NodeId)} (shows : t.ShowsAll libraries owner [x] first)
    (behind : t.ShowsAll libraries owner xs others) : t.ShowsAll libraries owner (x :: xs) (first ++ others) := by
  cases shows with
  | null none_ =>
    cases none_
    exact .null behind
  | cons shows none_ =>
    cases none_
    exact .cons shows behind

theorem ShowsBranches.append {ids : List NodeId} (shows : t.ShowsBranches libraries make owner [branch] [id])
    (behind : t.ShowsBranches libraries make owner more ids) :
    t.ShowsBranches libraries make owner (branch :: more) (id :: ids) := by
  cases shows with
  | cons drawn reads taken _ => exact .cons drawn reads taken behind

end

end Tree

/-! ### Phrases -/

theorem Phrase.spelled_append (p : Phrase) (more : List Token) : p.spelled ++ more = p.tokens ++ p.follow :: more := by
  rw [spelled, List.append_assoc, List.singleton_append]

theorem Phrase.starts_headD (p : Phrase) (more : List Token) :
    ∃ others, p.spelled ++ more = p.tokens.headD p.follow :: others := by
  rw [p.spelled_append]
  cases p.tokens with
  | nil => exact ⟨more, rfl⟩
  | cons t tokens => exact ⟨tokens ++ p.follow :: more, rfl⟩

/-- A statement that begins with a phrase begins with no reserved word, and with no label. -/
theorem Phrase.Begins.starts {p : Phrase} (begins : p.Begins) (more : List Token) :
    ∃ first rest, p.spelled ++ more = first :: rest ∧ first.word ∉ reservedWords ∧ first.kind ≠ .endOfText ∧
      (first.isName = true → ∃ second others, rest = second :: others ∧ second.word ≠ ":") := by
  rw [p.spelled_append]
  cases begins with
  | @name first follow rest named unlabelled =>
    refine ⟨first, _, rfl, Token.isName_not_reserved named, Token.isName_significant named, fun _ => ?_⟩
    cases rest with
    | nil => exact ⟨follow, _, rfl, unlabelled⟩
    | cons second rest => exact ⟨second, _, rfl, unlabelled⟩
  | aggregate bracket =>
    refine ⟨_, _, rfl, ?_, bracket.significant, fun named => ?_⟩
    · rw [bracket.word_eq]
      decide
    · rw [bracket.not_isName] at named
      contradiction

/-- A bracket that is closed is closed inside. -/
theorem Balanced.closes_inside {tokens : List Token} (balanced : Balanced tokens) (before : List Token) :
    ∀ x ∈ Phrase.placesFrom before tokens, x.token.closes = true → Phrase.depthOf before < Phrase.depthOf x.before := by
  induction balanced generalizing before with
  | nil => exact fun _ place => nomatch place
  | @plain t rest opens closes _ ih =>
    intro x place closing
    rcases List.mem_cons.mp place with rfl | later
    · rw [closes] at closing
      contradiction
    · have deeper := ih (t :: before) x later closing
      rwa [Phrase.depthOf_plain opens closes] at deeper
  | @group first last inner rest opens inside closes _ ih more =>
    intro x place closing
    have opened : Phrase.depthOf (first :: before) = Phrase.depthOf before + 1 := Phrase.depthOf_opens opens before
    have behind : Phrase.depthOf (inner.reverse ++ first :: before) = Phrase.depthOf before + 1 := by
      rw [inside.depthOf_eq, opened]
    rw [List.cons_append, Phrase.placesFrom, Phrase.placesFrom_append, Phrase.placesFrom] at place
    rcases List.mem_cons.mp place with rfl | place
    · rw [closes_not_opens closing] at opens
      contradiction
    rcases List.mem_append.mp place with place | place
    · obtain ⟨y, within, rfl⟩ := List.mem_map.mp place
      have deeper := ih (first :: before) y within closing
      rw [opened] at deeper
      exact Nat.lt_of_succ_lt deeper
    rcases List.mem_cons.mp place with rfl | place
    · rw [behind]
      exact Nat.lt_succ_self _
    · have deeper := more _ x place closing
      rwa [Phrase.depthOf_closes closes, behind, Nat.add_sub_cancel] at deeper

namespace Phrase

variable {stops : Token → Bool} {follow : Token} {words : List String} {p : Phrase}

/-- Tokens between which nothing ends a phrase are taken up to the token that does. -/
theorem split_of_clean {before tokens : List Token} (rest : List Token) (significant : ∀ t ∈ tokens, t.kind ≠ .endOfText)
    (clean : ∀ x ∈ placesFrom before tokens, depthOf x.before = 0 → stops x.token = false ∧ x.token.closes = false)
    (closed : depthOf (tokens.reverse ++ before) = 0) (ends : stops follow = true) :
    split stops (depthOf before) (tokens ++ follow :: rest) = (tokens, follow :: rest) := by
  induction tokens generalizing before with
  | nil =>
    rw [List.reverse_nil, List.nil_append] at closed
    rw [List.nil_append, split, if_pos]
    simp [closed, ends]
  | cons t tokens ih =>
    obtain ⟨here, others⟩ := List.forall_mem_cons.mp clean
    have go : ¬(t.kind = .endOfText || depthOf before = 0 && (stops t || t.closes)) = true := by
      have other := significant t List.mem_cons_self
      simp only [Bool.or_eq_true, Bool.and_eq_true, decide_eq_true_eq, not_or, not_and]
      refine ⟨other, fun outside => ?_⟩
      obtain ⟨goes, opens⟩ := here outside
      simp [goes, opens]
    have later : split stops (depthOf (t :: before)) (tokens ++ follow :: rest) = (tokens, follow :: rest) :=
      ih (fun u member => significant u (List.mem_cons_of_mem _ member)) others (by simpa using closed)
    rw [List.cons_append, split, if_neg go]
    simp only [depthOf, Token.depthBehind] at later
    simp only [later]

/-- A phrase is read up to where it ends. -/
theorem EndsAt.split_eq (ends : p.EndsAt words) (rest : List Token) :
    split (fun t => words.contains t.word) 0 (p.tokens ++ p.follow :: rest) = (p.tokens, p.follow :: rest) := by
  have inside := ends.balanced.closes_inside []
  rw [← depthOf_nil]
  refine split_of_clean rest (fun t member => ends.significant t (List.mem_cons_of_mem _ member)) ?_ ?_ ?_
  · intro x place outside
    constructor
    · simpa using ends.clean x place outside
    · by_contra closing
      have deeper := inside x place (by simpa using closing)
      rw [outside] at deeper
      exact absurd deeper (Nat.not_lt_zero _)
  · exact ends.balanced.depthOf_eq []
  · simpa using ends.ends

end Phrase
end DesignLint
