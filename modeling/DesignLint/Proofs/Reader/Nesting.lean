import DesignLint.Proofs.Reader.ReadBack
import DesignLint.Reader.DesignUnit

/-! Loops nested in a process. Each of them is read one level below the one around it, and its node is the next one; the two
names of the assignment in the innermost one come last. -/
namespace DesignLint

open Reader

variable {s s₁ s₂ s₃ : ReaderState} {a b rest ts : List Token} {t : Token} {text : Bytes} {tokens : List Token}
  {libraries : List String} {owner depth count m n : Nat} {p q : Tree → Prop}

/-! ### Counted nodes -/

/-- From `s` to `s'` the tokens were read and so many nodes were added, and every later tree that keeps them is as `shown`
says. -/
structure Makes (s : ReaderState) (ts : List Token) (s' : ReaderState) (count : Nat) (shown : Tree → Prop) : Prop
    extends Builds s ts s' shown where
  size_eq : s'.tree.nodes.size = s.tree.nodes.size + count

theorem Makes.mono (makes : Makes s ts s₁ n p) (implies : ∀ later, p later → q later) : Makes s ts s₁ n q :=
  ⟨makes.toBuilds.mono implies, makes.size_eq⟩

theorem Makes.trans (first : Makes s a s₁ m p) (next : Makes s₁ b s₂ n q) : Makes s (a ++ b) s₂ (m + n) fun t => p t ∧ q t :=
  ⟨first.toBuilds.trans next.toBuilds, by rw [next.size_eq, first.size_eq, Nat.add_assoc]⟩

theorem Makes.then_moves (first : Makes s a s₁ n p) (next : Moves s₁ b s₂) : Makes s (a ++ b) s₂ n p :=
  ⟨first.toBuilds.then_moves next, by rw [next.tree_eq, first.size_eq]⟩

theorem Moves.then_makes (first : Moves s a s₁) (next : Makes s₁ b s₂ n p) : Makes s (a ++ b) s₂ n p :=
  ⟨first.then_builds next.toBuilds, by rw [next.size_eq, first.tree_eq]⟩

theorem Moves.makes (moves : Moves s ts s₁) : Makes s ts s₁ 0 fun _ => True :=
  ⟨moves.builds fun _ => trivial, by rw [moves.tree_eq, Nat.add_zero]⟩

namespace Reader

variable {start stop : Nat} {c c' : Construct}

theorem Placed.makes (placed : Placed s s₁ owner start stop c) :
    Makes s [] s₁ 1 fun later => later.parent? s.tree.nodes.size = some owner := by
  refine ⟨⟨placed.toTook, fun later keeps => ?_⟩, placed.size_eq⟩
  rw [Tree.parent?, keeps.node?_eq _ (Nat.le_refl _) placed.new_lt, placed.node?_eq]
  rfl

/-- The file knows its units beside their nodes. -/
theorem Placed.entered (placed : Placed s s₁ owner start stop c) {place : Option NodeId} :
    Placed s { s₁ with tree := { s₁.tree with architecture := place } } owner start stop c where
  rest_eq := placed.rest_eq
  libraries_eq := placed.libraries_eq
  text_eq := placed.text_eq
  rooted known := ⟨(placed.rooted known).nonempty, (placed.rooted known).file, (placed.rooted known).parent_lt⟩
  size_le := placed.size_le
  old := placed.old
  lastStop := placed.lastStop
  node?_eq := placed.node?_eq
  size_eq := placed.size_eq

theorem complete_size {id : Nat} {a : Unit} (run : complete id c s = .ok (a, s₁)) :
    s₁.tree.nodes.size = s.tree.nodes.size := by
  change (finish id) { s with tree := s.tree.update id fun _ => c } = .ok (a, s₁) at run
  unfold finish at run
  cases last : s.lastStop with
  | none =>
    rw [last] at run
    cases run
  | some stop =>
    rw [last] at run
    cases run
    exact Array.size_modify.trans Array.size_modify

/-- A node is completed around what was made since it was placed. -/
theorem complete_makes (placed : Placed s s₁ owner start stop c) (inner : Makes s₁ ts s₂ n p) (nonempty : ts ≠ [])
    (c' : Construct) : Runs (complete s.tree.nodes.size c') s₂ fun _ s' =>
      Makes s ts s' (n + 1) fun later => later.parent? s.tree.nodes.size = some owner ∧ p later := by
  obtain ⟨a, s', run, builds⟩ := complete_runs placed inner.toBuilds nonempty c'
  refine ⟨a, s', run, builds.mono fun later ⟨drawn, holds⟩ => ⟨?_, holds⟩, ?_⟩
  · obtain ⟨start', stop', drawn⟩ := drawn
    rw [Tree.parent?, drawn]
    rfl
  · rw [complete_size run, inner.size_eq, placed.size_eq, Nat.add_assoc, Nat.add_comm 1]

end Reader

/-! ### A single name -/

theorem Token.IsWord.isName {word : String} (isWord : t.IsWord word) (free : word ∉ reservedWords) : t.isName = true := by
  simp [Token.isName, isWord.kind_eq, isWord.word_eq, free]

/-- A phrase of one name ends at any other word. -/
theorem Phrase.endsAt_single {word mark : String} {follow : Token} {words : List String} (isWord : t.IsWord word)
    (other : word ∉ words) (isMark : follow.IsMark mark) (ends : mark ∈ words) : Phrase.EndsAt words ⟨[t], follow⟩ := by
  refine ⟨.plain ?_ ?_ .nil, ?_, ?_, isMark.word_eq ▸ ends⟩
  · simp [Token.opens, isWord.kind_eq]
  · simp [Token.closes, isWord.kind_eq]
  · simpa using ⟨isMark.significant, isWord.significant⟩
  · simpa [Phrase.places, Phrase.placesFrom, isWord.word_eq] using other

/-- The one name of a phrase is written, or read. -/
theorem Phrase.occurrences_single {word mark : String} {follow : Token} (isWord : t.IsWord word) (free : word ∉ reservedWords)
    (isMark : follow.IsMark mark) (other : mark ≠ ".") (names : List String) :
    Phrase.occurrences names (some 0) ⟨[t], follow⟩ = [.write t] ∧
      Phrase.occurrences names none ⟨[t], follow⟩ = [.read t false] := by
  have opens : t.opens = false := by simp [Token.opens, isWord.kind_eq]
  have closes : t.closes = false := by simp [Token.closes, isWord.kind_eq]
  constructor <;>
    simp [Phrase.occurrences, Phrase.occurrences.walk, isWord.isName free, opens, closes, isMark.word_eq, other]

/-- The one name of a phrase is recorded by one node. -/
theorem Reader.occurrences_single_runs {follow : Token} {writeDepth : Option Nat} {o : Occurrence}
    (under : Under text tokens libraries owner depth s) (shallow : depth ≤ maxDepth) (inside : o.token.stop ≤ text.length)
    (single : ∀ names, Phrase.occurrences names writeDepth ⟨[t], follow⟩ = [o]) :
    Runs (occurrences owner writeDepth ⟨[t], follow⟩) s fun _ s' =>
      Makes s [] s' 1 fun later => later.parent? s.tree.nodes.size = some owner := by
  unfold occurrences
  apply Runs.get_bind
  rw [single]
  cases o with
  | read name isElement =>
    unfold record
    apply (attach_runs under shallow (Nat.le_add_right _ _) inside _).bind
    rintro id s₁ ⟨rfl, placed⟩
    exact .pure placed.makes
  | write name =>
    unfold record
    apply (attach_runs under shallow (Nat.le_add_right _ _) inside _).bind
    rintro id s₁ ⟨rfl, placed⟩
    exact .pure placed.makes

/-! ### Nested loops -/

/-- From node `first` on, nodes stand one below the other, and the last of them has two parts. -/
def Tree.Descends (t : Tree) (owner first : Nat) : (count : Nat) → Prop
  | 0 => t.parent? first = some owner ∧ t.parent? (first + 1) = some first ∧ t.parent? (first + 2) = some first
  | count + 1 => t.parent? first = some owner ∧ t.Descends first (first + 1) count

/-- The last node of a descent is as many levels down as it has nodes above it. -/
theorem Tree.Descends.depth_eq {t : Tree} {first : Nat} (descends : t.Descends owner first count) (lt : owner < first) :
    t.depth (first + count + 2) = t.depth owner + count + 2 := by
  induction count generalizing owner first with
  | zero =>
    obtain ⟨parent, _, last⟩ := descends
    rw [Nat.add_zero, Tree.depth_of_parent? last (by omega), Tree.depth_of_parent? parent lt]
  | succ count ih =>
    obtain ⟨parent, inner⟩ := descends
    have below := ih inner (Nat.lt_succ_self _)
    rw [Tree.depth_of_parent? parent lt] at below
    rw [show first + (count + 1) + 2 = first + 1 + count + 2 by omega, below]
    omega

/-- The tokens of loops around an assignment. -/
inductive Nested : Nat → List Token → Prop where
  | assignment {target sign value semicolon : Token} (isTarget : target.IsWord "x") (isSign : sign.IsMark "<=")
      (isValue : value.IsWord "y") (ends : semicolon.IsMark ";") : Nested 0 [target, sign, value, semicolon]
  | loop {count : Nat} {keyword : Token} {inside ended : List Token} (isLoop : keyword.IsWord "loop")
      (nested : Nested count inside) (ends : SpellsEnd "loop" ended) : Nested (count + 1) (keyword :: (inside ++ ended))

theorem Nested.goesOn (nested : Nested count ts) : GoesOn ts := by
  cases nested with
  | assignment isTarget => exact ⟨_, _, rfl, by simp [isTarget.word_eq, closingWords], isTarget.significant⟩
  | loop isLoop => exact isLoop.goesOn (by decide)

/-- The kind and the word of a token. -/
def Token.spelling (t : Token) : TokenKind × String := (t.kind, t.word)

theorem Token.isWord_of_spelling {word : String} (spelled : t.spelling = (.identifier, word)) : t.IsWord word :=
  ⟨congrArg Prod.fst spelled, congrArg Prod.snd spelled⟩

theorem Token.isMark_of_spelling {mark : String} (spelled : t.spelling = (.delimiter, mark)) : t.IsMark mark :=
  ⟨congrArg Prod.fst spelled, congrArg Prod.snd spelled⟩

/-- What stands before the loops. -/
def frontSpelling : List (TokenKind × String) :=
  [(.identifier, "architecture"), (.identifier, "a"), (.identifier, "of"), (.identifier, "e"), (.identifier, "is"),
    (.identifier, "signal"), (.identifier, "x"), (.delimiter, ":"), (.identifier, "bit"), (.delimiter, ";"),
    (.identifier, "begin"), (.identifier, "process"), (.identifier, "begin")]

/-- What stands behind the loops. -/
def backSpelling : List (TokenKind × String) :=
  [(.identifier, "end"), (.identifier, "process"), (.delimiter, ";"), (.identifier, "end"), (.delimiter, ";")]

/-- Loops around an assignment. -/
def nestedSpelling : Nat → List (TokenKind × String)
  | 0 => [(.identifier, "x"), (.delimiter, "<="), (.identifier, "y"), (.delimiter, ";")]
  | count + 1 => (.identifier, "loop") :: (nestedSpelling count ++
      [(.identifier, "end"), (.identifier, "loop"), (.delimiter, ";")])

theorem nested_of_spelling (spelled : ts.map Token.spelling = nestedSpelling count) : Nested count ts := by
  induction count generalizing ts with
  | zero =>
    simp only [nestedSpelling, List.map_eq_cons_iff, List.map_eq_nil_iff] at spelled
    obtain ⟨target, _, rfl, isTarget, sign, _, rfl, isSign, value, _, rfl, isValue, semicolon, _, rfl, ends, rfl⟩ := spelled
    exact .assignment (Token.isWord_of_spelling isTarget) (Token.isMark_of_spelling isSign)
      (Token.isWord_of_spelling isValue) (Token.isMark_of_spelling ends)
  | succ count ih =>
    simp only [nestedSpelling, List.map_eq_cons_iff, List.map_eq_append_iff, List.map_eq_nil_iff] at spelled
    obtain ⟨keyword, _, rfl, isLoop, inside, _, rfl, nested, end_, _, rfl, isEnd, again, _, rfl, isAgain, semicolon, _, rfl,
      ends, rfl⟩ := spelled
    exact .loop (Token.isWord_of_spelling isLoop) (ih nested)
      (.mk (Token.isWord_of_spelling isEnd) (Token.isWord_of_spelling isAgain) .none (Token.isMark_of_spelling ends))

namespace Reader

/-- A list of one statement ends at the word that closes it. -/
theorem statementList_one_runs {statement : NodeId → Reader (Option NodeId)} {next : Token} (goes : GoesOn ts)
    (head : s.rest = ts ++ next :: rest) (closing : next.word ∈ closingWords)
    (runs : Runs (statement owner) s fun _ s' => Makes s ts s' n p) :
    Runs (statementList statement owner) s fun _ s' => Makes s ts s' n p := by
  obtain ⟨first, others, rfl, other, significant⟩ := goes
  unfold statementList
  apply Runs.loop
  apply ifSees_other_runs head other
  apply (atEnd_runs ⟨head, significant⟩).bind
  rintro ended s ⟨rfl, rfl⟩
  rw [if_neg Bool.false_ne_true]
  apply runs.bind
  intro found s₁ makes
  have head₁ := makes.rest_drop head
  have shorter : s₁.rest.length < s.rest.length := by
    rw [head, head₁]
    simp only [List.cons_append, List.length_cons, List.length_append]
    omega
  have last (items : List (Option NodeId)) : Runs (loop (statementTurn statement owner) items) s₁
      fun _ s' => Makes s (first :: others) s' n p := .loop (ifSees_runs head₁ closing (.pure makes))
  cases found <;> exact .pure ⟨shorter, last _⟩

variable (read : tokenize text = .ok tokens)

include read

/-- An assignment of one name to another leaves three nodes. -/
theorem assignment_makes {target sign value semicolon : Token} (isTarget : target.IsWord "x") (isSign : sign.IsMark "<=")
    (isValue : value.IsWord "y") (ends : semicolon.IsMark ";") (under : Under text tokens libraries owner depth s)
    (shallow : depth < maxDepth) (member : t ∈ tokens) (head : s.rest = [target, sign, value, semicolon] ++ rest) :
    Runs (simpleStatement owner t []) s fun _ s' =>
      Makes s [target, sign, value, semicolon] s' 3 fun later => later.Descends owner s.tree.nodes.size 0 := by
  have targetEnds : Phrase.EndsAt ["<=", ":=", ";"] ⟨[target], sign⟩ :=
    Phrase.endsAt_single isTarget (by decide) isSign (by decide)
  have valueEnds : Phrase.EndsAt [";"] ⟨[value], semicolon⟩ := Phrase.endsAt_single isValue (by decide) ends (by decide)
  have begins : Phrase.Begins ⟨[target], sign⟩ := .name (isTarget.isName (by decide)) (by simp [isSign.word_eq])
  have written := fun names => (Phrase.occurrences_single isTarget (by decide) isSign (by decide) names).1
  have used := fun names => (Phrase.occurrences_single isValue (by decide) ends (by decide) names).2
  unfold simpleStatement
  apply (begin_runs under shallow.le (stop_le read member) _).bind
  rintro id s₁ ⟨rfl, placed⟩
  have under₁ := placed.under under
  have head₁ := placed.head head
  have members := under₁.mem_of_rest head₁
  apply (accept_reserved_runs begins head₁ (by decide)).bind
  rintro accepted s₁ ⟨rfl, rfl⟩
  rw [if_neg Bool.false_ne_true]
  apply (phraseUpTo_runs targetEnds head₁).bind
  rintro phrase s₂ ⟨rfl, moves₂⟩
  have head₂ := moves₂.rest_drop head₁
  apply (sees_runs head₂ _).bind
  rintro isAssignment s₂ ⟨rfl, rfl⟩
  rw [if_pos (by simp [isSign.word_eq])]
  apply (next_runs ⟨head₂, isSign.significant⟩).bind
  rintro follow s₃ ⟨rfl, moves₃⟩
  have moves := moves₂.trans moves₃
  have head₃ := moves₃.rest_drop head₂
  have under₃ := under₁.took moves.toTook
  have plain : target.word ≠ "(" := by simp [isTarget.word_eq]
  simp only [List.headD_cons, plain, if_false]
  apply (occurrences_single_runs (o := .write target) under₃ shallow (stop_le read (members target (by simp))) written).bind
  rintro ⟨writes, indices⟩ s₄ first
  have head₄ := first.rest_drop head₃
  have under₄ := under₃.took first.toTook
  have valued : Runs (expression s.tree.nodes.size [";"]) s₄ fun _ s' =>
      Makes s₄ [value] s' 1 fun later => later.parent? s₄.tree.nodes.size = some s.tree.nodes.size := by
    unfold expression
    apply (phraseUpTo_runs valueEnds head₄).bind
    rintro phrase s₅ ⟨rfl, moves₅⟩
    unfold reads
    refine (occurrences_single_runs (o := .read value false) (under₄.took moves₅.toTook) shallow
      (stop_le read (members value (by simp))) used).bind fun _ s₆ second => .pure ?_
    rw [← moves₅.tree_eq]
    exact moves₅.then_makes second
  apply valued.bind
  intro ids s₅ second
  have head₅ := second.rest_drop head₄
  apply (skip_runs ⟨head₅, ends.significant⟩ ends.word_eq).bind
  intro _ s₆ moves₆
  have inner := (moves.then_makes first).trans (second.then_moves moves₆)
  refine (complete_makes placed inner (by simp) _).bind fun _ s₇ makes => .pure (makes.mono fun later shown => ?_)
  obtain ⟨parent, written, read⟩ := shown
  rw [moves.tree_eq, placed.size_eq] at written
  rw [first.size_eq, moves.tree_eq, placed.size_eq] at read
  exact ⟨parent, written, read⟩

/-- A loop stands one level above what is read inside it. -/
theorem loop_makes {block : BlockReader} {keyword : Token} {inside ended : List Token} (isLoop : keyword.IsWord "loop")
    (ends : SpellsEnd "loop" ended) (under : Under text tokens libraries owner depth s) (shallow : depth ≤ maxDepth)
    (member : t ∈ tokens) (head : s.rest = keyword :: (inside ++ (ended ++ rest)))
    (inner : ∀ s₁, Under text tokens libraries s.tree.nodes.size (depth + 1) s₁ → s₁.rest = inside ++ (ended ++ rest) →
      Runs (block s.tree.nodes.size) s₁ fun _ s₂ =>
        Makes s₁ inside s₂ n fun later => later.Descends s.tree.nodes.size s₁.tree.nodes.size count) :
    Runs (loopStatement block owner t []) s fun _ s' =>
      Makes s (keyword :: (inside ++ ended)) s' (n + 1) fun later => later.Descends owner s.tree.nodes.size (count + 1) := by
  unfold loopStatement
  apply (begin_runs under shallow (stop_le read member) _).bind
  rintro id s₁ ⟨rfl, placed⟩
  have under₁ := placed.under under
  have head₁ := placed.head head
  have plain : Runs (iteration s.tree.nodes.size) s₁ fun found s' => found = ([], []) ∧ s' = s₁ := by
    unfold iteration
    apply (accept_other_runs head₁ (by simp [isLoop.word_eq])).bind
    rintro accepted s ⟨rfl, rfl⟩
    rw [if_neg Bool.false_ne_true]
    apply (accept_other_runs head₁ (by simp [isLoop.word_eq])).bind
    rintro accepted s ⟨rfl, rfl⟩
    rw [if_neg Bool.false_ne_true]
    exact .pure ⟨rfl, rfl⟩
  apply plain.bind
  rintro found s₁ ⟨rfl, rfl⟩
  apply (skip_runs ⟨head₁, isLoop.significant⟩ isLoop.word_eq).bind
  intro _ s₂ moves₂
  have head₂ := moves₂.rest_drop head₁
  apply (inner s₂ (under₁.took moves₂.toTook) head₂).bind
  intro ids s₃ makes
  have head₃ := makes.rest_drop head₂
  apply (endOf_runs ends head₃).bind
  intro _ s₄ moves₄
  have made := (moves₂.then_makes makes).then_moves moves₄
  refine (complete_makes placed made (by simp) _).bind fun _ s₅ makes => .pure (makes.mono fun later shown => ?_)
  obtain ⟨parent, below⟩ := shown
  rw [moves₂.tree_eq, placed.size_eq] at below
  exact ⟨parent, below⟩

/-- Nested loops are read as nodes one below the other. -/
theorem nested_makes (nested : Nested count ts) {levels : Nat} (enough : count < levels)
    (under : Under text tokens libraries owner depth s) (shallow : depth + count < maxDepth) (head : s.rest = ts ++ rest) :
    Runs (Reader.statement levels owner) s fun _ s' =>
      Makes s ts s' (count + 3) fun later => later.Descends owner s.tree.nodes.size count := by
  obtain ⟨levels, rfl⟩ : ∃ below, levels = below + 1 := ⟨levels - 1, by omega⟩
  induction nested generalizing levels owner depth s rest with
  | @assignment target sign value semicolon isTarget isSign isValue ends =>
    have other {words : List String} (free : "x" ∉ words) : target.word ∉ words := isTarget.word_eq ▸ free
    unfold Reader.statement
    apply (peek_runs head).bind
    rintro start s ⟨rfl, rfl⟩
    apply (label_runs .none head fun _ => ⟨sign, _, rfl, by simp [isSign.word_eq]⟩).bind
    rintro label s₁ ⟨rfl, moves⟩
    have head₁ := moves.rest_drop head
    apply ifSees_other_runs head₁ (other (by decide))
    apply ifSees_other_runs head₁ (other (by decide))
    apply ifSees_other_runs head₁ (other (by decide))
    apply (accept_other_runs head₁ (other (by decide))).bind
    rintro accepted s₁ ⟨rfl, rfl⟩
    rw [if_neg Bool.false_ne_true]
    apply ifSees_other_runs head₁ (other (by decide))
    apply ifSees_other_runs head₁ (other (by decide))
    have under₁ := under.took moves.toTook
    refine (assignment_makes read isTarget isSign isValue ends under₁ shallow (under.mem_of_rest (show s.rest = [start] ++ _ from head) start List.mem_cons_self)
      head₁).bind fun _ s₂ makes => .pure ?_
    rw [← moves.tree_eq]
    exact moves.then_makes makes
  | @loop count keyword inside ended isLoop nested ends ih =>
    have other {words : List String} (free : "loop" ∉ words) : keyword.word ∉ words := isLoop.word_eq ▸ free
    obtain ⟨levels, rfl⟩ : ∃ below, levels = below + 1 := ⟨levels - 1, by omega⟩
    obtain ⟨end_, closing, rfl, isEnd⟩ := ends.starts
    rw [List.cons_append, List.append_assoc] at head
    unfold Reader.statement
    apply (peek_runs head).bind
    rintro start s ⟨rfl, rfl⟩
    have member : start ∈ tokens := under.mem_of_rest (show s.rest = [start] ++ _ from head) start List.mem_cons_self
    apply (label_runs .none head (isLoop.no_label (by decide))).bind
    rintro label s₁ ⟨rfl, moves⟩
    have head₁ := moves.rest_drop head
    apply ifSees_other_runs head₁ (other (by decide))
    apply ifSees_other_runs head₁ (other (by decide))
    apply ifSees_runs head₁ (by simp [isLoop.word_eq])
    have under₁ := under.took moves.toTook
    have inner (s₂ : ReaderState) (under₂ : Under text tokens libraries s₁.tree.nodes.size (depth + 1) s₂)
        (head₂ : s₂.rest = inside ++ ((end_ :: closing) ++ rest)) :
        Runs (statementList (Reader.statement (levels + 1)) s₁.tree.nodes.size) s₂ fun _ s₃ =>
          Makes s₂ inside s₃ (count + 3) fun later => later.Descends s₁.tree.nodes.size s₂.tree.nodes.size count := by
      refine statementList_one_runs nested.goesOn head₂ (by simp [isEnd.word_eq, closingWords]) ?_
      exact ih under₂ (by omega) head₂ levels (by omega)
    refine (loop_makes read isLoop ends under₁ (by omega) member head₁ inner).bind fun _ s₂ makes => .pure ?_
    rw [← moves.tree_eq]
    exact moves.then_makes makes

/-! ### The process around them -/

omit read

/-- No declaration begins with the word that ends them. -/
theorem declarations_end_runs {inProcess : Bool} (isBegin : t.IsWord "begin") (head : s.rest = t :: rest) (d : Declarations) :
    Runs (loop (fun d => do
      match ← declarativeItem owner inProcess d with
      | some d' => return Turn.again d'
      | none => return .done d) d) s fun d' s' => d' = d ∧ s' = s := by
  have other {words : List String} (free : "begin" ∉ words) : t.word ∉ words := isBegin.word_eq ▸ free
  apply Runs.loop
  have none_ : Runs (declarativeItem owner inProcess d) s fun found s' => found = none ∧ s' = s := by
    unfold declarativeItem
    apply (accept_other_runs head (other (by decide))).bind
    rintro accepted s ⟨rfl, rfl⟩
    rw [if_neg Bool.false_ne_true]
    apply (accept_other_runs head (other (by decide))).bind
    rintro accepted s ⟨rfl, rfl⟩
    rw [if_neg Bool.false_ne_true]
    apply ifSees_other_runs head (other (by decide))
    apply ifSees_other_runs head (other (by decide))
    apply ifSees_other_runs head (other (by decide))
    apply ifSees_other_runs head (other (by decide))
    apply ifSees_other_runs head (other (by decide))
    apply ifSees_other_runs head (other (by decide))
    apply ifSees_other_runs head (other (by decide))
    apply ifSees_other_runs head (other (by decide))
    exact .pure ⟨rfl, rfl⟩
  apply none_.bind
  rintro found s' ⟨rfl, rfl⟩
  exact .pure ⟨rfl, rfl⟩

/-- The end of a construct without its word and a name. -/
theorem endOf_plain_runs {word : String} {end_ semicolon : Token} (isEnd : end_.IsWord "end") (ends : semicolon.IsMark ";")
    (other : ";" ≠ word) (head : s.rest = [end_, semicolon] ++ rest) :
    Runs (endOf [word]) s fun _ s' => Moves s [end_, semicolon] s' := by
  unfold endOf
  apply (skip_runs ⟨head, isEnd.significant⟩ isEnd.word_eq).bind
  intro _ s₁ moves₁
  have head₁ := moves₁.rest_drop head
  have words : Runs ([word].forM fun word => discard (accept [word])) s₁ fun _ s' => s' = s₁ :=
    (accept_other_runs head₁ (by simpa [ends.word_eq] using other)).discard_bind fun _ _ found => .pure found.2
  apply words.bind
  rintro _ s₁ rfl
  apply (optionalDesignator_runs .none ends head₁).bind
  intro _ s₂ moves₂
  have head₂ := moves₂.rest_drop head₁
  refine (skip_runs ⟨head₂, ends.significant⟩ ends.word_eq).mono fun _ s₃ moves₃ => ?_
  exact moves₁.trans (moves₂.trans moves₃)

/-- The end of a process without a name. -/
theorem endOfProcess_runs {end_ again semicolon : Token} (isEnd : end_.IsWord "end") (isAgain : again.IsWord "process")
    (ends : semicolon.IsMark ";") (head : s.rest = [end_, again, semicolon] ++ rest) :
    Runs (endOf ["postponed", "process"]) s fun _ s' => Moves s [end_, again, semicolon] s' := by
  unfold endOf
  apply (skip_runs ⟨head, isEnd.significant⟩ isEnd.word_eq).bind
  intro _ s₁ moves₁
  have head₁ := moves₁.rest_drop head
  have words : Runs (["postponed", "process"].forM fun word => discard (accept [word])) s₁ fun _ s' => Moves s₁ [again] s' := by
    apply (accept_other_runs head₁ (by simp [isAgain.word_eq])).discard_bind
    rintro accepted s₁ ⟨_, rfl⟩
    apply (accept_runs ⟨head₁, isAgain.significant⟩ (by simp [isAgain.word_eq])).discard_bind
    intro _ s' found
    exact .pure found.2
  apply words.bind
  intro _ s₂ moves₂
  have head₂ := moves₂.rest_drop head₁
  apply (optionalDesignator_runs .none ends head₂).bind
  intro _ s₃ moves₃
  have head₃ := moves₃.rest_drop head₂
  refine (skip_runs ⟨head₃, ends.significant⟩ ends.word_eq).mono fun _ s₄ moves₄ => ?_
  exact moves₁.trans (moves₂.trans (moves₃.trans moves₄))

include read

/-- A process whose only statement is the outermost loop. -/
theorem process_makes {process begin_ end_ again semicolon : Token} (isProcess : process.IsWord "process")
    (isBegin : begin_.IsWord "begin") (nested : Nested count ts) (isEnd : end_.IsWord "end")
    (isAgain : again.IsWord "process") (ends : semicolon.IsMark ";") (under : Under text tokens libraries owner depth s)
    (shallow : depth + 1 + count < maxDepth) (member : t ∈ tokens)
    (head : s.rest = process :: begin_ :: (ts ++ ([end_, again, semicolon] ++ rest))) :
    Runs (Reader.process owner t []) s fun _ s' => Makes s (process :: begin_ :: (ts ++ [end_, again, semicolon])) s' (count + 4)
      fun later => later.parent? s.tree.nodes.size = some owner ∧
        later.Descends s.tree.nodes.size (s.tree.nodes.size + 1) count := by
  unfold Reader.process
  apply (begin_runs under (by omega) (stop_le read member) _).bind
  rintro id s₁ ⟨rfl, placed⟩
  have head₁ := placed.head head
  apply (accept_other_runs head₁ (by simp [isProcess.word_eq])).discard_bind
  rintro _ s₁ ⟨_, rfl⟩
  apply (skip_runs ⟨head₁, isProcess.significant⟩ isProcess.word_eq).bind
  intro _ s₂ moves₂
  have head₂ := moves₂.rest_drop head₁
  have plain : Runs (bracketed s.tree.nodes.size) s₂ fun found s' => found = [] ∧ s' = s₂ :=
    ifAccepted_other_runs head₂ (by simp [isBegin.word_eq]) ⟨rfl, rfl⟩
  apply plain.bind
  rintro _ s₂ ⟨rfl, rfl⟩
  apply (accept_other_runs head₂ (by simp [isBegin.word_eq])).discard_bind
  rintro _ s₂ ⟨_, rfl⟩
  apply (declarations_end_runs isBegin head₂ {}).bind
  rintro d s₂ ⟨rfl, rfl⟩
  apply (skip_runs ⟨head₂, isBegin.significant⟩ isBegin.word_eq).bind
  intro _ s₃ moves₃
  have head₃ := moves₃.rest_drop head₂
  have moves := moves₂.trans moves₃
  have under₃ := (placed.under under).took moves.toTook
  have body : Runs (statements s.tree.nodes.size) s₃ fun _ s' => Makes s₃ ts s' (count + 3) fun later =>
      later.Descends s.tree.nodes.size s₃.tree.nodes.size count := by
    refine statementList_one_runs nested.goesOn head₃ (by simp [isEnd.word_eq, closingWords]) ?_
    exact nested_makes read nested (by omega) under₃ (by omega) head₃
  apply body.bind
  intro ids s₄ makes
  have head₄ := makes.rest_drop head₃
  apply (endOfProcess_runs isEnd isAgain ends head₄).bind
  intro _ s₅ moves₅
  have made := (moves.then_makes makes).then_moves moves₅
  refine (complete_makes placed made (by simp) _).bind fun _ s₆ makes => .pure (makes.mono fun later shown => ?_)
  rw [moves.tree_eq, placed.size_eq] at shown
  exact shown

/-- The declaration of one signal without an initial value. -/
theorem signal_makes {name colon kind semicolon : Token} (named : name.isName = true) (isColon : colon.IsMark ":")
    (isKind : kind.IsWord "bit") (ends : semicolon.IsMark ";") (under : Under text tokens libraries owner depth s)
    (shallow : depth ≤ maxDepth) (head : s.rest = [name, colon, kind, semicolon] ++ rest) (make : Declared → Construct) :
    Runs (objects owner make) s fun _ s' => Makes s [name, colon, kind, semicolon] s' 1 fun _ => True := by
  have single : Phrase.EndsAt [";", ":="] ⟨[kind], semicolon⟩ := Phrase.endsAt_single isKind (by decide) ends (by decide)
  have names : Runs nameList s fun found s' => found = [name] ∧ Moves s [name] s' := by
    unfold nameList
    apply (name_runs ⟨head, Token.isName_significant named⟩ named).bind
    rintro first s₁ ⟨rfl, moves⟩
    have head₁ := moves.rest_drop head
    have last : Runs (loop (fun (names : List Token) => do
        if ← accept [","] then return .again ((← Reader.name) :: names)
        else return .done names.reverse) []) s₁ fun others s' => others = [] ∧ s' = s₁ := by
      apply Runs.loop
      apply (accept_other_runs head₁ (by simp [isColon.word_eq])).bind
      rintro accepted s₁ ⟨rfl, rfl⟩
      exact .pure ⟨rfl, rfl⟩
    apply last.bind
    rintro others s₁ ⟨rfl, rfl⟩
    exact .pure ⟨rfl, moves⟩
  have member : name ∈ tokens := under.mem_of_rest head name (by simp)
  unfold objects objectNames attachEach
  refine Runs.bind (?_ : Runs _ s fun found s' => ∃ s₁, Moves s [name] s₁ ∧ found = [(name, s₁.tree.nodes.size)] ∧
    Placed s₁ s' owner name.offset name.stop (make {})) ?_
  · apply names.bind
    rintro _ s₁ ⟨rfl, moves⟩
    simp only [List.mapM_cons, List.mapM_nil, bind_assoc, pure_bind]
    apply (attach_runs (under.took moves.toTook) shallow (Nat.le_add_right _ _) (stop_le read member) _).bind
    rintro id s₂ ⟨rfl, placed⟩
    exact .pure ⟨s₁, moves, rfl, placed⟩
  rintro _ s₂ ⟨s₁, moves₁, rfl, placed⟩
  have head₂ := placed.head (moves₁.rest_drop head)
  apply (skip_runs ⟨head₂, isColon.significant⟩ isColon.word_eq).bind
  intro _ s₃ moves₃
  have head₃ := moves₃.rest_drop head₂
  have kindText : Runs subtypeText s₃ fun _ s' => Moves s₃ [kind] s' := by
    unfold subtypeText
    apply (phraseUpTo_runs single head₃).bind
    rintro phrase s₄ ⟨rfl, moves₄⟩
    exact .get_bind (.pure moves₄)
  apply kindText.bind
  intro typeText s₄ moves₄
  have head₄ := moves₄.rest_drop head₃
  have nothing : Runs (initialValue [(name, s₁.tree.nodes.size)]) s₄ fun _ s' => s' = s₄ :=
    ifAccepted_other_runs head₄ (by simp [ends.word_eq]) rfl
  apply nothing.bind
  rintro initial _ rfl
  apply (skip_runs ⟨head₄, ends.significant⟩ ends.word_eq).bind
  intro _ s₅ moves₅
  have inner := (moves₃.trans (moves₄.trans moves₅)).makes
  unfold completeEach
  simp only [List.mapM_cons, List.mapM_nil, bind_assoc, pure_bind]
  refine (complete_makes placed inner (by simp) _).bind fun _ s₆ makes => .pure ?_
  exact moves₁.then_makes (makes.mono fun _ _ => trivial)

omit read

/-- One concurrent statement, a process, up to the word that closes the architecture. -/
theorem concurrentList_one_runs {process second next : Token} {others : List Token} {levels : Nat} {body : Body}
    (isProcess : process.IsWord "process") (head : s.rest = (process :: second :: others) ++ next :: rest)
    (closing : next.word ∈ closingWords)
    (runs : ∀ s₁, Moves s [] s₁ → Runs (Reader.process owner process []) s₁ fun _ s₂ =>
      Makes s₁ (process :: second :: others) s₂ n p) :
    Runs (concurrentList (concurrentStatement (levels + 1)) owner body) s fun _ s' =>
      Makes s (process :: second :: others) s' n p := by
  have other {words : List String} (free : "process" ∉ words) : process.word ∉ words := isProcess.word_eq ▸ free
  have turn : Runs (concurrentStatement (levels + 1) owner body) s fun _ s' =>
      Makes s (process :: second :: others) s' n p := by
    unfold concurrentStatement
    apply (peek_runs head).bind
    rintro start s ⟨rfl, rfl⟩
    apply (label_runs .none head (isProcess.no_label (by decide))).bind
    rintro label s₁ ⟨rfl, moves⟩
    have head₁ := moves.rest_drop head
    apply (sees_runs head₁ _).bind
    rintro postponed s₁ ⟨rfl, rfl⟩
    apply (sees_runs head₁ _).bind
    rintro isProcess_ s₁ ⟨rfl, rfl⟩
    apply (seesSecond_any_runs head₁ _).bind
    rintro second _ rfl
    rw [if_pos (by simp [isProcess.word_eq])]
    exact (runs _ moves).bind fun _ s₂ makes => .pure (moves.then_makes makes)
  apply Runs.loop
  apply ifSees_other_runs head (other (by decide))
  apply (atEnd_runs ⟨head, isProcess.significant⟩).bind
  rintro ended s ⟨rfl, rfl⟩
  rw [if_neg Bool.false_ne_true]
  apply turn.bind
  intro body s₁ makes
  have head₁ := makes.rest_drop head
  have shorter : s₁.rest.length < s.rest.length := by
    rw [head, head₁]
    simp only [List.cons_append, List.length_cons, List.length_append]
    omega
  exact .pure ⟨shorter, .loop (ifSees_runs head₁ closing (.pure makes))⟩

include read

/-- An architecture with one signal and one process around nested loops. -/
theorem architecture_makes {front back : List Token} (opened : front.map Token.spelling = frontSpelling)
    (nested : Nested count ts) (closed : back.map Token.spelling = backSpelling)
    (under : Under text tokens libraries 0 0 s) (free : s.tree.architecture = none) (shallow : count + 2 < maxDepth)
    (head : s.rest = front ++ (ts ++ (back ++ rest))) :
    Runs Reader.architecture s fun _ s' => Makes s (front ++ (ts ++ back)) s' (count + 6) fun later =>
      later.parent? s.tree.nodes.size = some 0 ∧ later.parent? (s.tree.nodes.size + 2) = some s.tree.nodes.size ∧
        later.Descends (s.tree.nodes.size + 2) (s.tree.nodes.size + 3) count := by
  simp only [frontSpelling, List.map_eq_cons_iff, List.map_eq_nil_iff] at opened
  simp only [backSpelling, List.map_eq_cons_iff, List.map_eq_nil_iff] at closed
  obtain ⟨architecture, _, rfl, isArchitecture, name, _, rfl, isName, of_, _, rfl, isOf, unit, _, rfl, isUnit, is_, _, rfl, isIs,
    signal, _, rfl, isSignal, x, _, rfl, isX, colon, _, rfl, isColon, kind, _, rfl, isKind, mark, _, rfl, isMark,
    begin_, _, rfl, isBegin, process, _, rfl, isProcess, inner, _, rfl, isInner, rfl⟩ := opened
  obtain ⟨end_, _, rfl, isEnd, again, _, rfl, isAgain, semicolon, _, rfl, isSemicolon, last, _, rfl, isLast, final, _, rfl,
    isFinal, rfl⟩ := closed
  have isArchitecture := Token.isWord_of_spelling isArchitecture
  have isOf := Token.isWord_of_spelling isOf
  have isIs := Token.isWord_of_spelling isIs
  have isSignal := Token.isWord_of_spelling isSignal
  have isBegin := Token.isWord_of_spelling isBegin
  have named := (Token.isWord_of_spelling isName).isName (by decide)
  have unitNamed := (Token.isWord_of_spelling isUnit).isName (by decide)
  have signalNamed := (Token.isWord_of_spelling isX).isName (by decide)
  unfold Reader.architecture
  apply (expect_runs ⟨head, isArchitecture.significant⟩ isArchitecture.word_eq).bind
  rintro start s₁ ⟨rfl, moves₁⟩
  have head₁ := moves₁.rest_drop head
  have member : start ∈ tokens := under.mem_of_rest (show s.rest = [start] ++ _ from head) start List.mem_cons_self
  have unique : Runs (refuseSecond Tree.architecture start "architectures") s₁ fun _ s' => s' = s₁ := by
    unfold refuseSecond
    apply Runs.get_bind
    rw [moves₁.tree_eq, free]
    exact .pure rfl
  apply unique.bind
  rintro _ s₁ rfl
  have under₁ := under.took moves₁.toTook
  apply (begin_runs under₁ (Nat.zero_le _) (stop_le read member) _).bind
  rintro id s₂ ⟨rfl, placed⟩
  apply Runs.modify_bind
  have placed : Placed s₁ { s₂ with tree := { s₂.tree with architecture := some s₁.tree.nodes.size } } 0 start.offset
      start.offset (.architecture {}) := placed.entered
  generalize ({ s₂ with tree := { s₂.tree with architecture := some s₁.tree.nodes.size } } : ReaderState) = s₂' at placed
  have under₂ := placed.under under₁
  have head₂ := placed.head head₁
  apply (name_runs ⟨head₂, Token.isName_significant named⟩ named).bind
  rintro name s₃ ⟨rfl, moves₃⟩
  have head₃ := moves₃.rest_drop head₂
  apply (skip_runs ⟨head₃, isOf.significant⟩ isOf.word_eq).bind
  intro _ s₄ moves₄
  have head₄ := moves₄.rest_drop head₃
  apply (name_runs ⟨head₄, Token.isName_significant unitNamed⟩ unitNamed).bind
  rintro unit s₅ ⟨rfl, moves₅⟩
  have head₅ := moves₅.rest_drop head₄
  apply (skip_runs ⟨head₅, isIs.significant⟩ isIs.word_eq).bind
  intro _ s₆ moves₆
  have head₆ := moves₆.rest_drop head₅
  have moves := moves₃.trans (moves₄.trans (moves₅.trans moves₆))
  have under₆ := under₂.took moves.toTook
  have declared : Runs (declarations s₁.tree.nodes.size false) s₆ fun _ s' =>
      Makes s₆ [signal, x, colon, kind, mark] s' 1 fun _ => True := by
    have item : Runs (declarativeItem s₁.tree.nodes.size false {}) s₆ fun found s' =>
        found.isSome = true ∧ Makes s₆ [signal, x, colon, kind, mark] s' 1 fun _ => True := by
      unfold declarativeItem
      apply (accept_runs ⟨head₆, isSignal.significant⟩ (by simp [isSignal.word_eq])).bind
      rintro accepted s₇ ⟨rfl, moves₇⟩
      rw [if_pos rfl]
      have head₇ := moves₇.rest_drop head₆
      apply (signal_makes read signalNamed (Token.isMark_of_spelling isColon) (Token.isWord_of_spelling isKind)
        (Token.isMark_of_spelling isMark) (under₆.took moves₇.toTook) (by decide) head₇ _).bind
      intro ids s₈ makes
      exact .pure ⟨rfl, moves₇.then_makes makes⟩
    unfold declarations
    apply Runs.loop
    apply item.bind
    rintro found s₇ ⟨some_, makes⟩
    obtain ⟨d, rfl⟩ := Option.isSome_iff_exists.mp some_
    have head₇ := makes.rest_drop head₆
    refine .pure ⟨by simp [head₆, head₇], (declarations_end_runs isBegin head₇ d).mono ?_⟩
    rintro _ s' ⟨_, rfl⟩
    exact makes
  apply declared.bind
  intro d s₇ signals
  have head₇ := signals.rest_drop head₆
  apply (skip_runs ⟨head₇, isBegin.significant⟩ isBegin.word_eq).bind
  intro _ s₈ moves₈
  have head₈ := moves₈.rest_drop head₇
  have under₈ := (under₆.took signals.toTook).took moves₈.toTook
  have split : s₈.rest = (process :: inner :: (ts ++ [end_, again, semicolon])) ++ last :: (final :: rest) := by simp [head₈]
  have body : Runs (concurrentStatements s₁.tree.nodes.size (Body.declare {} d)) s₈ fun _ s' =>
      Makes s₈ (process :: inner :: (ts ++ [end_, again, semicolon])) s' (count + 4) fun later =>
        later.parent? s₈.tree.nodes.size = some s₁.tree.nodes.size ∧
          later.Descends s₈.tree.nodes.size (s₈.tree.nodes.size + 1) count := by
    refine concurrentList_one_runs (Token.isWord_of_spelling isProcess) split ?_ fun s₉ moves₉ => ?_
    · simp [(Token.isWord_of_spelling isLast).word_eq, closingWords]
    · rw [← moves₉.tree_eq]
      exact process_makes read (Token.isWord_of_spelling isProcess) (Token.isWord_of_spelling isInner) nested
        (Token.isWord_of_spelling isEnd) (Token.isWord_of_spelling isAgain) (Token.isMark_of_spelling isSemicolon)
        (under₈.took moves₉.toTook) (by omega) (under₈.mem_of_rest (show s₈.rest = [process] ++ _ from head₈) process List.mem_cons_self)
        (moves₉.rest_drop head₈)
  apply body.bind
  intro b s₉ makes
  have head₉ := makes.rest_drop split
  apply (endOf_plain_runs (Token.isWord_of_spelling isLast) (Token.isMark_of_spelling isFinal) (by decide) head₉).bind
  intro _ s₁₀ moves₁₀
  have made := (((moves.then_makes signals).then_moves moves₈).trans makes).then_moves moves₁₀
  refine (complete_makes placed made (by simp) _).mono fun _ s₁₁ makes => ?_
  have size₈ : s₈.tree.nodes.size = s.tree.nodes.size + 2 := by
    rw [moves₈.tree_eq, signals.size_eq, moves.tree_eq, placed.size_eq, moves₁.tree_eq]
  have all := (moves₁.then_makes makes).mono fun later shown => (⟨shown.1, shown.2.2⟩ :
    later.parent? s₁.tree.nodes.size = some 0 ∧ later.parent? s₈.tree.nodes.size = some s₁.tree.nodes.size ∧
      later.Descends s₈.tree.nodes.size (s₈.tree.nodes.size + 1) count)
  rw [size₈, moves₁.tree_eq, show 1 + (count + 4) + 1 = count + 6 by omega] at all
  simpa using all

/-- A file of one architecture is read to its end. -/
theorem designFile_makes {front back : List Token} {last : Token} (opened : front.map Token.spelling = frontSpelling)
    (nested : Nested count ts) (closed : back.map Token.spelling = backSpelling) (ended : last.kind = .endOfText)
    (under : Under text tokens libraries 0 0 s) (free : s.tree.architecture = none) (shallow : count + 2 < maxDepth)
    (head : s.rest = front ++ (ts ++ (back ++ [last]))) :
    Runs designFile s fun _ s' => Makes s (front ++ (ts ++ back)) s' (count + 6) fun later =>
      later.parent? s.tree.nodes.size = some 0 ∧ later.parent? (s.tree.nodes.size + 2) = some s.tree.nodes.size ∧
        later.Descends (s.tree.nodes.size + 2) (s.tree.nodes.size + 3) count := by
  have reads := architecture_makes read opened nested closed under free shallow head
  obtain ⟨first, others, rfl, isFirst, _⟩ := List.map_eq_cons_iff.mp opened
  have isArchitecture := Token.isWord_of_spelling isFirst
  have other {words : List String} (free : "architecture" ∉ words) : first.word ∉ words := isArchitecture.word_eq ▸ free
  unfold designFile
  apply Runs.loop
  apply (atEnd_runs ⟨head, isArchitecture.significant⟩).bind
  rintro ended s ⟨rfl, rfl⟩
  rw [if_neg Bool.false_ne_true]
  have unit : Runs designUnit s fun _ s' => Makes s ((first :: others) ++ (ts ++ back)) s' (count + 6) fun later =>
      later.parent? s.tree.nodes.size = some 0 ∧ later.parent? (s.tree.nodes.size + 2) = some s.tree.nodes.size ∧
        later.Descends (s.tree.nodes.size + 2) (s.tree.nodes.size + 3) count := by
    unfold designUnit
    apply ifSees_other_runs head (other (by decide))
    apply ifSees_other_runs head (other (by decide))
    apply ifSees_other_runs head (other (by decide))
    apply ifSees_other_runs head (other (by decide))
    exact ifSees_runs head (by simp [isArchitecture.word_eq]) reads
  apply unit.bind
  intro _ s₁ makes
  have head₁ : s₁.rest = [last] := makes.rest_drop (by simp [head])
  have shorter : s₁.rest.length < s.rest.length := by
    rw [head, head₁]
    simp only [List.length_append, List.length_cons]
    omega
  refine .pure ⟨shorter, .loop ?_⟩
  have done : Runs atEnd s₁ fun ended s' => ended = true ∧ s' = s₁ := by
    unfold atEnd
    apply (peek_runs head₁).bind
    rintro u s₁ ⟨rfl, rfl⟩
    exact .pure ⟨decide_eq_true ended, rfl⟩
  apply done.bind
  rintro ended s₁ ⟨rfl, rfl⟩
  rw [if_pos rfl]
  exact .pure makes

end Reader

/-- A text of nested loops is parsed as long as the names in the innermost one have an accepted parent. These names come last,
and are four levels further down than there are loops. -/
theorem Tree.parse_nested (path : String) (read : tokenize text = .ok tokens) (spelled : tokens.map Token.spelling =
      frontSpelling ++ (nestedSpelling count ++ (backSpelling ++ [(.endOfText, "")]))) (shallow : count + 2 < maxDepth) :
    ∃ t, Tree.parse path text = .ok t ∧ t.nodes.size = count + 7 ∧ t.depth (count + 6) = count + 4 := by
  simp only [List.map_eq_append_iff, List.map_eq_cons_iff, List.map_eq_nil_iff] at spelled
  obtain ⟨front, _, rfl, opened, inside, _, rfl, nested, back, _, rfl, closed, last, _, rfl, ends, rfl⟩ := spelled
  have rooted := (Tree.arena_ofText path text).rooted
  have under : Under text _ ["work", "std", "ieee"] 0 0
      { rest := front ++ (inside ++ (back ++ [last])), tree := Tree.ofText path text } :=
    ⟨rfl, rooted, List.suffix_refl _, rfl, Nat.one_pos, Tree.depth_of_root rooted.file⟩
  obtain ⟨_, s, run, makes⟩ := designFile_makes read opened (nested_of_spelling nested) closed (congrArg Prod.fst ends) under
    rfl shallow rfl
  obtain ⟨file, process, descends⟩ := makes.shows s.tree (Tree.Keeps.self _ _)
  have size : (Tree.ofText path text).nodes.size = 1 := rfl
  simp only [size] at file process descends
  refine ⟨s.tree, ?_, ?_, ?_⟩
  · simp only [Tree.parse, read, Tree.read]
    rw [show designFile.run _ = _ from run]
  · rw [makes.size_eq, size]
    omega
  · have depth_eq := descends.depth_eq (by decide)
    rw [Tree.depth_of_parent? process (by decide), Tree.depth_of_parent? file Nat.one_pos,
      Tree.depth_of_root (makes.rooted rooted).file] at depth_eq
    rw [show count + 6 = 1 + 3 + count + 2 by omega, depth_eq]
    omega

/-! ### The text -/

namespace Lexer

variable {rest : Bytes} {ss : List (TokenKind × String)} {kind : TokenKind} {w : String}

/-- Whether the tokens of a text are spelled so, wherever it stands and whatever stands before it. -/
def Spelled (text : Bytes) (ss : List (TokenKind × String)) : Prop :=
  ∀ offset last, (scan offset last text).toOption.map (·.map Token.spelling) = some ss

theorem spelled_nil : Spelled [] [] := fun _ _ => by rw [scan]; rfl

theorem Spelled.skip (piece : Bytes) (found : Rule.first? (piece ++ rest) = some (.blanks, piece.length))
    (spelled : Spelled rest ss) : Spelled (piece ++ rest) ss := by
  intro offset last
  rw [scan_of_decides (first?_eq_some_iff.mp found), List.drop_left]
  exact spelled _ last

theorem Spelled.token (piece : Bytes) (rule : Rule) (found : Rule.first? (piece ++ rest) = some (rule, piece.length))
    (made : rule.kind? = some kind) (plain : kind ≠ .character) (lower : piece.lower = w) (spelled : Spelled rest ss) :
    Spelled (piece ++ rest) ((kind, w) :: ss) := by
  intro offset last
  rw [scan_of_decides (first?_eq_some_iff.mp found), made, List.drop_left, List.take_left]
  simp only [plain, decide_false, Bool.false_and, Bool.false_eq_true, if_false]
  have read := spelled (offset + piece.length) (Token.ofText kind piece offset)
  cases scanned : scan (offset + piece.length) (some (Token.ofText kind piece offset)) rest with
  | error fault =>
    rw [scanned] at read
    contradiction
  | ok tokens =>
    rw [scanned] at read
    rw [← Option.some.inj read, ← lower]
    rfl

/-- A word and the blank behind it. -/
theorem Spelled.spaced (piece : Bytes) (found : Rule.first? (piece ++ 32 :: rest) = some (.identifier, piece.length))
    (alone : Rule.first? ([32] ++ rest) = some (.blanks, 1)) (lower : piece.lower = w) (spelled : Spelled rest ss) :
    Spelled (piece ++ 32 :: rest) ((.identifier, w) :: ss) :=
  .token piece .identifier found rfl nofun lower (.skip [32] alone spelled)

/-- A word and the semicolon behind it. -/
theorem Spelled.closed (piece : Bytes) (found : Rule.first? (piece ++ 59 :: rest) = some (.identifier, piece.length))
    (mark : Rule.first? ([59] ++ rest) = some (.punctuation, 1)) (lower : piece.lower = w) (spelled : Spelled rest ss) :
    Spelled (piece ++ 59 :: rest) ((.identifier, w) :: (.delimiter, ";") :: ss) :=
  .token piece .identifier found rfl nofun lower (.token [59] .punctuation mark rfl nofun (Bytes.lower_ofString ";") spelled)

theorem Spelled.tokenize {text : Bytes} (spelled : Spelled text ss) :
    (tokenize text).toOption.map (·.map Token.spelling) = some (ss ++ [(.endOfText, "")]) := by
  have read := spelled 0 none
  rw [DesignLint.tokenize, lex_eq_scan]
  cases scanned : scan 0 none text with
  | error fault =>
    rw [scanned] at read
    contradiction
  | ok tokens =>
    rw [scanned] at read
    rw [← Option.some.inj read]
    simp [Except.map, Except.toOption, Token.endOfText, Token.spelling]

end Lexer

namespace Lint

open Lexer

/-- A process in which loops are nested around one assignment. -/
def nestedLoops (count : Nat) : Bytes :=
  Bytes.ofString ("architecture a of e is signal x : bit; begin process begin "
    ++ String.join (List.replicate count "loop ") ++ "x <= y;" ++ String.join (List.replicate count " end loop;")
    ++ " end process; end;")

/-- Loops around an assignment, as they are written, and what follows. -/
def loopText : Nat → Bytes → Bytes
  | 0, rest => Bytes.ofString "x <= y;" ++ rest
  | count + 1, rest => Bytes.ofString "loop " ++ loopText count (Bytes.ofString " end loop;" ++ rest)

theorem loopText_eq (count : Nat) (rest : Bytes) : Bytes.ofString (String.join (List.replicate count "loop ")) ++
    (Bytes.ofString "x <= y;" ++ (Bytes.ofString (String.join (List.replicate count " end loop;")) ++ rest)) =
      loopText count rest := by
  induction count generalizing rest with
  | zero => rfl
  | succ count ih =>
    have closing : String.join (List.replicate (count + 1) " end loop;") =
        String.join (List.replicate count " end loop;") ++ " end loop;" := by
      rw [List.replicate_succ', String.join_append]
      rfl
    rw [List.replicate_succ, String.join_cons, closing, Bytes.ofString_append, Bytes.ofString_append, List.append_assoc,
      List.append_assoc, ih, loopText]

/-- The words of the text are written in lower case. -/
theorem lower_words : ∀ w ∈ ["architecture", "a", "of", "e", "is", "signal", "x", ":", "bit", "begin", "process", "<=", "y",
    "loop", "end"], (Bytes.ofString w).lower = w := by
  simp only [Bytes.lower_ofString]
  decide

theorem spelled_loops (count : Nat) {rest : Bytes} {ss : List (TokenKind × String)} (spelled : Spelled (32 :: rest) ss) :
    Spelled (loopText count (32 :: rest)) (nestedSpelling count ++ ss) := by
  induction count generalizing rest ss with
  | zero =>
    exact spelled.closed (Bytes.ofString "y") rfl rfl (lower_words _ (by simp)) |>.skip [32] rfl
      |>.token (Bytes.ofString "<=") .operator rfl rfl nofun (lower_words _ (by simp))
      |>.spaced (Bytes.ofString "x") rfl rfl (lower_words _ (by simp))
  | succ count ih =>
    have closing : Spelled (Bytes.ofString " end loop;" ++ 32 :: rest) ([(.identifier, "end"), (.identifier, "loop"),
        (.delimiter, ";")] ++ ss) :=
      spelled.closed (Bytes.ofString "loop") rfl rfl (lower_words _ (by simp))
        |>.spaced (Bytes.ofString "end") rfl rfl (lower_words _ (by simp)) |>.skip [32] rfl
    have inside := ih closing
    rw [nestedSpelling, List.cons_append, List.append_assoc]
    exact inside.spaced (Bytes.ofString "loop") rfl (by cases count <;> rfl) (lower_words _ (by simp))

theorem spelled_front {rest : Bytes} {ss : List (TokenKind × String)}
    (alone : Rule.first? ([32] ++ rest) = some (.blanks, 1)) (spelled : Spelled rest ss) :
    Spelled (Bytes.ofString "architecture a of e is signal x : bit; begin process begin " ++ rest)
      (frontSpelling ++ ss) := by
  have process := spelled.spaced (Bytes.ofString "begin") rfl alone (lower_words _ (by simp))
    |>.spaced (Bytes.ofString "process") rfl rfl (lower_words _ (by simp))
    |>.spaced (Bytes.ofString "begin") rfl rfl (lower_words _ (by simp))
  have signal := process.skip [32] rfl |>.closed (Bytes.ofString "bit") rfl rfl (lower_words _ (by simp)) |>.skip [32] rfl
    |>.token (Bytes.ofString ":") .punctuation rfl rfl nofun (lower_words _ (by simp))
    |>.spaced (Bytes.ofString "x") rfl rfl (lower_words _ (by simp))
    |>.spaced (Bytes.ofString "signal") rfl rfl (lower_words _ (by simp))
  exact signal.spaced (Bytes.ofString "is") rfl rfl (lower_words _ (by simp))
    |>.spaced (Bytes.ofString "e") rfl rfl (lower_words _ (by simp))
    |>.spaced (Bytes.ofString "of") rfl rfl (lower_words _ (by simp))
    |>.spaced (Bytes.ofString "a") rfl rfl (lower_words _ (by simp))
    |>.spaced (Bytes.ofString "architecture") rfl rfl (lower_words _ (by simp))

theorem nestedLoops_spelling (count : Nat) : (tokenize (nestedLoops count)).toOption.map (·.map Token.spelling) =
    some (frontSpelling ++ (nestedSpelling count ++ (backSpelling ++ [(.endOfText, "")]))) := by
  have back : Spelled (Bytes.ofString " end process; end;") backSpelling :=
    spelled_nil.closed (Bytes.ofString "end") rfl rfl (lower_words _ (by simp)) |>.skip [32] rfl
      |>.closed (Bytes.ofString "process") rfl rfl (lower_words _ (by simp))
      |>.spaced (Bytes.ofString "end") rfl rfl (lower_words _ (by simp)) |>.skip [32] rfl
  have inside : Spelled (loopText count (Bytes.ofString " end process; end;")) (nestedSpelling count ++ backSpelling) :=
    spelled_loops count back
  have text_eq : nestedLoops count = Bytes.ofString "architecture a of e is signal x : bit; begin process begin " ++
      loopText count (Bytes.ofString " end process; end;") := by
    simp only [nestedLoops, Bytes.ofString_append, List.append_assoc, loopText_eq]
  rw [text_eq]
  simpa only [List.append_assoc] using (spelled_front (by cases count <;> rfl) inside).tokenize

end Lint
end DesignLint
