import DesignLint.Reader.Declaration
import DesignLint.Proofs.Reader.Simple
import DesignLint.Proofs.Tree.Arena

/-! Subprograms that are read over. The body of a subprogram is not parsed: its declarative part ends at the first `begin` that
is not in a nested subprogram, and its statement part at the first `end` that closes no compound statement. For every
subprogram that is spelled as the language has it, however deep its subprograms and statements nest, this is exactly its
own end. In a declarative part the words that start a subprogram may stand in one other place, the entity class of an attribute
specification. -/
namespace DesignLint

variable {s s₁ s₂ : ReaderState} {rest more ts : List Token} {t : Token}

/-! ### Spelling -/

/-- `pure` or `impure`, which may be left out. -/
inductive SpellsPurity : List Token → Prop where
  | none : SpellsPurity []
  | some {word : String} {t : Token} (known : word ∈ ["pure", "impure"]) (isWord : t.IsWord word) : SpellsPurity [t]

/-- The parameters and the result of a subprogram, and the token behind them. -/
inductive SpellsHeader : Token → List Token → Prop where
  | plain {parameters : Phrase} (ends : parameters.EndsAt [";", "is", "return"])
      (closed : parameters.follow.word ≠ "return") : SpellsHeader parameters.follow parameters.tokens
  | result {parameters type : Phrase} (ends : parameters.EndsAt [";", "is", "return"])
      (returns : parameters.follow.word = "return") (closes : type.EndsAt [";", "is"]) :
      SpellsHeader type.follow (parameters.spelled ++ type.tokens)

/-- The statement part of a subprogram: if, case and loop statements are closed by their own `end`, and everything else in it is
any token. The words before `loop` and between the branches are such tokens too. -/
inductive SpellsStatementPart : List Token → Prop where
  | nil : SpellsStatementPart []
  | token {t : Token} {others : List Token} (significant : t.kind ≠ .endOfText)
      (other : t.word ∉ ["if", "case", "loop", "end"]) (behind : SpellsStatementPart others) : SpellsStatementPart (t :: others)
  | compound {word : String} {first end_ again : Token} {inside others : List Token} (known : word ∈ ["if", "case", "loop"])
      (isFirst : first.IsWord word) (within : SpellsStatementPart inside) (isEnd : end_.IsWord "end")
      (isAgain : again.IsWord word) (behind : SpellsStatementPart others) :
      SpellsStatementPart (first :: (inside ++ end_ :: again :: others))

/-- The entity class of an attribute specification that is about subprograms, with the value behind it. -/
inductive SpellsEntityClass : List Token → Prop where
  | mk {word : String} {class_ is_ : Token} {value : Phrase} (known : word ∈ ["function", "procedure"])
      (isClass : class_.IsWord word) (isIs : is_.IsWord "is") (ends : value.EndsAt [";", "is"])
      (closes : value.follow.word = ";") : SpellsEntityClass (class_ :: is_ :: value.spelled)

/-- A declarative part, where the given tokens are those of subprograms. Everything else in it is any token. -/
inductive SpellsDeclarativePart (subprogram : List Token → Prop) : List Token → Prop where
  | nil : SpellsDeclarativePart subprogram []
  | token {t : Token} {others : List Token} (significant : t.kind ≠ .endOfText)
      (other : t.word ∉ "begin" :: Reader.subprogramWords) (behind : SpellsDeclarativePart subprogram others) :
      SpellsDeclarativePart subprogram (t :: others)
  | subprogram {nested others : List Token} (spelled : subprogram nested)
      (behind : SpellsDeclarativePart subprogram others) : SpellsDeclarativePart subprogram (nested ++ others)
  | entityClass {front others : List Token} (spelled : SpellsEntityClass front)
      (behind : SpellsDeclarativePart subprogram others) : SpellsDeclarativePart subprogram (front ++ others)

/-- A subprogram. Behind the `end` of a body the keyword and the designator may be repeated: what stands there is any phrase
that closes no statement. -/
inductive SpellsSubprogram : List Token → Prop where
  | declaration {word : String} {keyword designator semicolon : Token} {purity header : List Token}
      (spelled : SpellsPurity purity) (known : word ∈ ["function", "procedure"]) (isWord : keyword.IsWord word)
      (named : designator.kind = .identifier ∨ designator.kind = .string) (headed : SpellsHeader semicolon header)
      (ends : semicolon.IsMark ";") : SpellsSubprogram (purity ++ keyword :: designator :: (header ++ [semicolon]))
  | instantiation {word : String} {keyword designator is_ new_ : Token} {purity : List Token} {generic : Phrase}
      (spelled : SpellsPurity purity) (known : word ∈ ["function", "procedure"]) (isWord : keyword.IsWord word)
      (named : designator.kind = .identifier ∨ designator.kind = .string) (isIs : is_.IsWord "is") (isNew : new_.IsWord "new")
      (ends : generic.EndsAt [";"]) :
      SpellsSubprogram (purity ++ keyword :: designator :: is_ :: new_ :: generic.spelled)
  | body {word : String} {keyword designator is_ begin_ end_ : Token} {purity header declared statements : List Token}
      {closing : Phrase} (spelled : SpellsPurity purity) (known : word ∈ ["function", "procedure"])
      (isWord : keyword.IsWord word) (named : designator.kind = .identifier ∨ designator.kind = .string)
      (headed : SpellsHeader is_ header) (isIs : is_.IsWord "is") (own : (declared.headD begin_).word ≠ "new")
      (declares : SpellsDeclarativePart SpellsSubprogram declared) (isBegin : begin_.IsWord "begin")
      (acts : SpellsStatementPart statements) (isEnd : end_.IsWord "end")
      (closes : (closing.tokens.headD closing.follow).word ∉ ["if", "case", "loop"]) (ends : closing.EndsAt [";"]) :
      SpellsSubprogram (purity ++ keyword :: designator ::
        (header ++ is_ :: (declared ++ begin_ :: (statements ++ end_ :: closing.spelled))))

/-! ### Phrases behind phrases -/

theorem Balanced.append {front back : List Token} (first : Balanced front) (second : Balanced back) :
    Balanced (front ++ back) := by
  induction first with
  | nil => exact second
  | plain opens closes _ ih => exact .plain opens closes ih
  | @group first last inner rest opens inside closes _ _ ih =>
    rw [List.append_assoc, List.cons_append]
    exact .group opens inside closes ih

namespace Phrase

variable {words words' : List String} {p q : Phrase}

/-- What stands outside brackets does not change the depth of what is behind it. -/
theorem depthOf_append {before : List Token} (outside : depthOf before = 0) (tokens : List Token) :
    depthOf (tokens ++ before) = depthOf tokens := by
  induction tokens with
  | nil => exact outside
  | cons t tokens ih => rw [List.cons_append, depthOf, depthOf, ih]

/-- A phrase goes on behind a token that ended it, up to where another phrase ends. -/
theorem EndsAt.behind (first : p.EndsAt words) (second : q.EndsAt words') (fewer : words' ⊆ words)
    (opens : p.follow.opens = false) (closes : p.follow.closes = false) (goes : p.follow.word ∉ words') :
    EndsAt words' ⟨p.spelled ++ q.tokens, q.follow⟩ := by
  have closed : depthOf p.tokens.reverse = 0 := by
    have := first.balanced.depthOf_eq []
    rwa [List.append_nil] at this
  have spelled : Balanced p.spelled := first.balanced.append (.plain opens closes .nil)
  refine ⟨spelled.append second.balanced, ?_, ?_, second.ends⟩
  · have before := first.significant
    have after := second.significant
    simp only [Phrase.spelled, List.mem_cons, List.mem_append, List.not_mem_nil, or_false] at before after ⊢
    rintro t (here | (here | here) | here)
    · exact after t (.inl here)
    · exact before t (.inr here)
    · exact before t (.inl here)
    · exact after t (.inr here)
  · intro x place outside
    rw [places, placesFrom_append, Phrase.spelled, placesFrom_append, List.mem_append, List.mem_map] at place
    rcases place with ⟨y, within, rfl⟩ | place
    · rcases List.mem_append.mp within with within | within
      · obtain ⟨z, known, rfl⟩ := List.mem_map.mp within
        exact fun stops => first.clean z known outside (fewer stops)
      · obtain rfl := List.mem_singleton.mp within
        exact goes
    · obtain ⟨front, split, before_eq⟩ := mem_placesFrom.mp place
      have known : (⟨front.reverse, x.token, x.after⟩ : Place) ∈ q.places :=
        mem_places.mpr (by rw [List.reverse_reverse, split])
      have reset : depthOf ((p.tokens ++ [p.follow]).reverse ++ []) = 0 := by
        rw [List.append_nil, List.reverse_append, List.reverse_singleton, List.singleton_append,
          depthOf_plain opens closes, closed]
      rw [before_eq, depthOf_append reset] at outside
      exact second.clean ⟨front.reverse, x.token, x.after⟩ known outside

/-- A word before a phrase that does not end it. -/
theorem EndsAt.after_word {word : String} (isWord : t.IsWord word) (goes : word ∉ words) (ends : p.EndsAt words) :
    EndsAt words ⟨t :: p.tokens, p.follow⟩ := by
  have kind_eq := isWord.kind_eq
  have empty : EndsAt (word :: words) ⟨[], t⟩ :=
    ⟨.nil, by simp [isWord.significant], by simp [places, placesFrom], by simp [isWord.word_eq]⟩
  exact empty.behind ends (List.subset_cons_self _ _) (by simp [Token.opens, kind_eq]) (by simp [Token.closes, kind_eq])
    (by rwa [isWord.word_eq])

end Phrase

/-- Without parameters the header ends at once. -/
theorem Token.IsWord.ends {word : String} (isWord : t.IsWord word) {words : List String} (known : word ∈ words) :
    Phrase.EndsAt words ⟨[], t⟩ :=
  ⟨.nil, by simp [isWord.significant], by simp [Phrase.places, Phrase.placesFrom], by rwa [isWord.word_eq]⟩

/-- The header of a subprogram ends at a semicolon or `is`, whether it has a result or not. -/
theorem SpellsHeader.endsAt (headed : SpellsHeader t ts) : Phrase.EndsAt [";", "is"] ⟨ts, t⟩ := by
  cases headed with
  | @plain parameters ends closed =>
    refine ⟨ends.balanced, ends.significant, fun x place outside stops => ?_, ?_⟩
    · exact ends.clean x place outside (by simp at stops ⊢; tauto)
    · have either := ends.ends
      simp only [List.mem_cons, List.not_mem_nil, or_false] at either ⊢
      tauto
  | result ends returns closes =>
    exact ends.behind closes (by simp) (by simp [Token.opens, returns]) (by simp [Token.closes, returns]) (by simp [returns])

/-- The keyword of a subprogram. -/
theorem Token.IsWord.isSubprogram {word : String} (isWord : t.IsWord word) (known : word ∈ ["function", "procedure"]) :
    t.word ∈ Reader.subprogramWords ∧ t.word ∉ ["pure", "impure"] := by
  rw [isWord.word_eq]
  simp only [List.mem_cons, List.not_mem_nil, or_false] at known
  rcases known with rfl | rfl <;> decide

theorem SpellsPurity.starts {keyword : Token} (spelled : SpellsPurity ts) (significant : keyword.kind ≠ .endOfText)
    (starts : keyword.word ∈ Reader.subprogramWords) (more : List Token) : ∃ first others,
    ts ++ keyword :: more = first :: others ∧ first.kind ≠ .endOfText ∧ first.word ∈ Reader.subprogramWords := by
  cases spelled with
  | none => exact ⟨keyword, more, rfl, significant, starts⟩
  | some known isWord =>
    refine ⟨_, _, rfl, isWord.significant, ?_⟩
    rw [isWord.word_eq]
    simp only [List.mem_cons, List.not_mem_nil, or_false] at known
    rcases known with rfl | rfl <;> decide

theorem SpellsSubprogram.starts (spelled : SpellsSubprogram ts) :
    ∃ first others, ts = first :: others ∧ first.kind ≠ .endOfText ∧ first.word ∈ Reader.subprogramWords := by
  cases spelled with
  | declaration spelled known isWord => exact spelled.starts isWord.significant (isWord.isSubprogram known).1 _
  | instantiation spelled known isWord => exact spelled.starts isWord.significant (isWord.isSubprogram known).1 _
  | body spelled known isWord => exact spelled.starts isWord.significant (isWord.isSubprogram known).1 _

theorem SpellsEntityClass.starts (spelled : SpellsEntityClass ts) :
    ∃ first others, ts = first :: others ∧ first.kind ≠ .endOfText ∧ first.word ∈ Reader.subprogramWords := by
  obtain ⟨known, isClass, _, _, _⟩ := spelled
  exact ⟨_, _, rfl, isClass.significant, (isClass.isSubprogram known).1⟩

namespace Reader

/-! ### What is read over -/

theorem skipPast_runs {word : String} {p : Phrase} (ends : p.EndsAt [word]) (head : s.rest = p.spelled ++ rest) :
    Runs (skipPast word) s fun _ s' => Moves s p.spelled s' := by
  have split : s.rest = p.tokens ++ p.follow :: rest := head.trans (p.spelled_append rest)
  unfold skipPast
  apply (phraseUpTo_runs ends split).discard_bind
  rintro q s₁ ⟨_, moves₁⟩
  have follows : Next s₁ p.follow rest := ⟨moves₁.rest_drop split, ends.significant _ List.mem_cons_self⟩
  exact (skip_runs follows (List.mem_singleton.mp ends.ends)).mono fun _ s₂ moves₂ => moves₁.trans moves₂

theorem purity_runs (spelled : SpellsPurity ts) (head : s.rest = ts ++ t :: rest) (other : t.word ∉ ["pure", "impure"]) :
    Runs (discard (accept ["pure", "impure"])) s fun _ s' => Moves s ts s' := by
  cases spelled with
  | none =>
    refine .discard ((accept_other_runs head other).mono ?_)
    rintro _ s ⟨_, rfl⟩
    exact .refl _
  | some known isWord =>
    have starts : Next s _ _ := ⟨head, isWord.significant⟩
    exact .discard ((accept_runs starts (by rwa [isWord.word_eq])).mono fun _ _ found => found.2)

/-- One turn of reading over a declarative part. -/
def declarativeTurn (nested : Reader Unit) : Unit → Reader (Turn Unit Unit) := fun () => do
  if ← sees ["begin"] then return .done ()
  else if ← atEnd then fail "unterminated subprogram body"
  else if ← sees subprogramWords then
    nested
    return .again ()
  else
    discard next
    return .again ()

/-- One turn of reading over a statement part. -/
def statementPartTurn : Unit → Reader (Turn Unit Unit) := fun () => do
  let t ← next
  if t.kind = .endOfText then fail "unterminated subprogram body"
  else if t.word = "end" then
    if ← accept ["if", "case", "loop"] then return .again ()
    else
      skipPast ";"
      return .done ()
  else return .again ()

theorem skipBody_eq (nested : Reader Unit) : skipBody nested =
    (loop (declarativeTurn nested) () >>= fun _ => discard next >>= fun _ => loop statementPartTurn ()) := rfl

/-- A reader that reads over exactly these tokens, whatever stands behind them. -/
def Passes (x : Reader Unit) (ts : List Token) : Prop :=
  ∀ ⦃s : ReaderState⦄ ⦃rest : List Token⦄, s.rest = ts ++ rest → Runs x s fun _ s' => Moves s ts s'

/-- A turn that reads over tokens and asks to go on. -/
def GoesOn (turn : Reader (Turn Unit Unit)) (ts : List Token) : Prop :=
  ∀ ⦃s : ReaderState⦄ ⦃rest : List Token⦄, s.rest = ts ++ rest →
    Runs turn s fun decision s' => decision = .again () ∧ Moves s ts s'

theorem GoesOn.loop_runs {body : Unit → Reader (Turn Unit Unit)} {post : Unit → ReaderState → Prop}
    (turn : GoesOn (body ()) ts) (nonempty : ts ≠ []) (head : s.rest = ts ++ rest)
    (behind : ∀ s₁, Moves s ts s₁ → s₁.rest = rest → Runs (loop body ()) s₁ post) : Runs (loop body ()) s post := by
  refine .loop ((turn head).mono ?_)
  rintro _ s₁ ⟨rfl, moves₁⟩
  have head₁ := moves₁.rest_drop head
  refine ⟨?_, behind s₁ moves₁ head₁⟩
  have := List.length_pos_of_ne_nil nonempty
  rw [head, head₁, List.length_append]
  omega

theorem GoesOn.passes {body : Unit → Reader (Turn Unit Unit)} {front others : List Token} (turn : GoesOn (body ()) front)
    (nonempty : front ≠ []) (behind : Passes (loop body ()) others) : Passes (loop body ()) (front ++ others) := by
  intro s rest head
  rw [List.append_assoc] at head
  exact turn.loop_runs nonempty head fun s₁ moves₁ head₁ => (behind head₁).mono fun _ s₂ moves₂ => moves₁.trans moves₂

/-! ### The statement part -/

theorem statementToken_goesOn (significant : t.kind ≠ .endOfText) (other : t.word ≠ "end") :
    GoesOn (statementPartTurn ()) [t] := by
  intro s rest head
  unfold statementPartTurn
  apply (next_runs ⟨head, significant⟩).bind
  rintro t s₁ ⟨rfl, moves₁⟩
  rw [if_neg significant, if_neg other]
  exact .pure ⟨rfl, moves₁⟩

theorem statementEnd_goesOn {word : String} {end_ again : Token} (known : word ∈ ["if", "case", "loop"])
    (isEnd : end_.IsWord "end") (isAgain : again.IsWord word) : GoesOn (statementPartTurn ()) [end_, again] := by
  intro s rest head
  unfold statementPartTurn
  apply (next_runs ⟨head, isEnd.significant⟩).bind
  rintro t s₁ ⟨rfl, moves₁⟩
  rw [if_neg isEnd.significant, if_pos isEnd.word_eq]
  apply (accept_runs ⟨moves₁.rest_drop head, isAgain.significant⟩ (by rwa [isAgain.word_eq])).bind
  rintro accepted s₂ ⟨rfl, moves₂⟩
  exact .pure ⟨rfl, moves₁.trans moves₂⟩

/-- The `end` that closes no statement is the last one. -/
theorem bodyEnd_passes {end_ : Token} {closing : Phrase} (isEnd : end_.IsWord "end")
    (closes : (closing.tokens.headD closing.follow).word ∉ ["if", "case", "loop"]) (ends : closing.EndsAt [";"]) :
    Passes (loop statementPartTurn ()) (end_ :: closing.spelled) := by
  intro s rest head
  apply Runs.loop
  unfold statementPartTurn
  apply (next_runs ⟨head, isEnd.significant⟩).bind
  rintro t s₁ ⟨rfl, moves₁⟩
  have head₁ : s₁.rest = closing.spelled ++ rest := moves₁.rest_drop head
  obtain ⟨others, starts⟩ := closing.starts_headD rest
  rw [if_neg isEnd.significant, if_pos isEnd.word_eq]
  apply (accept_other_runs (head₁.trans starts) closes).bind
  rintro accepted s₁ ⟨rfl, rfl⟩
  apply (skipPast_runs ends head₁).bind
  exact fun _ s₂ moves₂ => .pure (moves₁.trans moves₂)

/-- Whatever is read over behind a statement part is read over together with it. -/
theorem statementPart_passes {last : List Token} (acts : SpellsStatementPart ts)
    (behind : Passes (loop statementPartTurn ()) last) : Passes (loop statementPartTurn ()) (ts ++ last) := by
  induction acts generalizing last with
  | nil => exact behind
  | token significant other _ ih =>
    have turn := statementToken_goesOn significant fun isEnd => other (by simp [isEnd])
    exact turn.passes (List.cons_ne_nil _ _) (ih behind)
  | compound known isFirst _ isEnd isAgain _ within more =>
    have turn := statementToken_goesOn isFirst.significant (by rw [isFirst.word_eq]; rintro rfl; simp at known)
    have closes := statementEnd_goesOn known isEnd isAgain
    have inner := within (closes.passes (List.cons_ne_nil _ _) (more behind))
    simpa using turn.passes (List.cons_ne_nil _ _) inner

/-! ### The declarative part -/

section

variable {nested : Reader Unit}

theorem declarativeToken_goesOn (significant : t.kind ≠ .endOfText) (other : t.word ∉ "begin" :: subprogramWords) :
    GoesOn (declarativeTurn nested ()) [t] := by
  intro s rest head
  have starts : Next s t rest := ⟨head, significant⟩
  unfold declarativeTurn
  refine ifSees_other_runs head (by simp at other ⊢; tauto) ?_
  apply (atEnd_runs starts).bind
  rintro ended s ⟨rfl, rfl⟩
  rw [if_neg Bool.false_ne_true]
  refine ifSees_other_runs head (fun listed => other (List.mem_cons_of_mem _ listed)) ?_
  apply (next_runs starts).discard_bind
  rintro _ s₁ ⟨_, moves₁⟩
  exact .pure ⟨rfl, moves₁⟩

/-- Where a subprogram word stands the inner reader reads on. -/
theorem nested_goesOn {others : List Token} (passes : Passes nested (t :: others)) (significant : t.kind ≠ .endOfText)
    (starts : t.word ∈ subprogramWords) : GoesOn (declarativeTurn nested ()) (t :: others) := by
  intro s rest head
  unfold declarativeTurn
  refine ifSees_other_runs head ?_ ?_
  · rintro listed
    rw [List.mem_singleton.mp listed] at starts
    revert starts
    decide
  apply (atEnd_runs ⟨head, significant⟩).bind
  rintro ended s ⟨rfl, rfl⟩
  rw [if_neg Bool.false_ne_true]
  refine ifSees_runs head starts ((passes head).bind fun _ s₁ moves₁ => ?_)
  exact .pure ⟨rfl, moves₁⟩

/-- A reader of nested subprograms reads over those that are not too long, and over entity classes. -/
def PassesNested (nested : Reader Unit) (limit : Nat) : Prop :=
  ∀ ts : List Token, ts.length ≤ limit → SpellsSubprogram ts ∨ SpellsEntityClass ts → Passes nested ts

/-- A declarative part is read over up to the `begin` behind it. -/
theorem declarativePart_runs {limit : Nat} {begin_ : Token} (passes : PassesNested nested limit)
    (declares : SpellsDeclarativePart SpellsSubprogram ts) (le : ts.length ≤ limit) (isBegin : begin_.IsWord "begin")
    (head : s.rest = ts ++ begin_ :: rest) : Runs (loop (declarativeTurn nested) ()) s fun _ s' => Moves s ts s' := by
  have goOn {s : ReaderState} {front others : List Token} (turn : GoesOn (declarativeTurn nested ()) front)
      (nonempty : front ≠ []) (head : s.rest = front ++ others ++ begin_ :: rest)
      (behind : ∀ {s₁ : ReaderState}, s₁.rest = others ++ begin_ :: rest →
        Runs (loop (declarativeTurn nested) ()) s₁ fun _ s' => Moves s₁ others s') :
      Runs (loop (declarativeTurn nested) ()) s fun _ s' => Moves s (front ++ others) s' :=
    turn.loop_runs nonempty (head.trans (List.append_assoc _ _ _)) fun s₁ moves₁ head₁ =>
      (behind head₁).mono fun _ s₂ moves₂ => moves₁.trans moves₂
  have inner {s : ReaderState} {front others : List Token} (spelled : SpellsSubprogram front ∨ SpellsEntityClass front)
      (le : (front ++ others).length ≤ limit) (head : s.rest = front ++ others ++ begin_ :: rest)
      (behind : others.length ≤ limit → ∀ {s₁ : ReaderState}, s₁.rest = others ++ begin_ :: rest →
        Runs (loop (declarativeTurn nested) ()) s₁ fun _ s' => Moves s₁ others s') :
      Runs (loop (declarativeTurn nested) ()) s fun _ s' => Moves s (front ++ others) s' := by
    rw [List.length_append] at le
    obtain ⟨first, tail, rfl, significant, starts⟩ := spelled.elim SpellsSubprogram.starts SpellsEntityClass.starts
    have turn := nested_goesOn (passes _ (by omega) spelled) significant starts
    exact goOn turn (List.cons_ne_nil _ _) head (behind (by omega))
  induction declares generalizing s with
  | nil =>
    apply Runs.loop
    unfold declarativeTurn
    exact ifSees_runs head (by simp [isBegin.word_eq]) (.pure (.refl s))
  | token significant other _ ih =>
    have shorter := Nat.le_of_succ_le (le : _ + 1 ≤ limit)
    exact goOn (declarativeToken_goesOn significant other) (List.cons_ne_nil _ []) head (ih shorter)
  | subprogram spelled _ ih => exact inner (.inl spelled) le head fun shorter => ih shorter
  | entityClass spelled _ ih => exact inner (.inr spelled) le head fun shorter => ih shorter

/-- A body is read over up to its own end. -/
theorem skipBody_passes {limit : Nat} {begin_ end_ : Token} {declared statements : List Token} {closing : Phrase}
    (passes : PassesNested nested limit) (declares : SpellsDeclarativePart SpellsSubprogram declared)
    (le : declared.length ≤ limit) (isBegin : begin_.IsWord "begin") (acts : SpellsStatementPart statements)
    (isEnd : end_.IsWord "end") (closes : (closing.tokens.headD closing.follow).word ∉ ["if", "case", "loop"])
    (ends : closing.EndsAt [";"]) :
    Passes (skipBody nested) (declared ++ begin_ :: (statements ++ end_ :: closing.spelled)) := by
  intro s rest head
  have split : s.rest = declared ++ begin_ :: ((statements ++ end_ :: closing.spelled) ++ rest) := by simpa using head
  rw [skipBody_eq]
  apply (declarativePart_runs passes declares le isBegin split).bind
  intro _ s₁ moves₁
  have head₁ := moves₁.rest_drop split
  apply (next_runs ⟨head₁, isBegin.significant⟩).discard_bind
  rintro _ s₂ ⟨_, moves₂⟩
  refine (statementPart_passes acts (bodyEnd_passes isEnd closes ends) (moves₂.rest_drop head₁)).mono fun _ s₃ moves₃ => ?_
  exact moves₁.trans (moves₂.trans moves₃)

end

/-! ### Nested subprograms -/

/-- The front of a nested subprogram, up to the token that ends its header. -/
theorem front_runs {purity header : List Token} {keyword designator last : Token} {x : Reader Unit}
    {post : Unit → ReaderState → Prop} (spelled : SpellsPurity purity) (other : keyword.word ∉ ["pure", "impure"])
    (significant : keyword.kind ≠ .endOfText) (named : designator.kind = .identifier ∨ designator.kind = .string)
    (ends : Phrase.EndsAt [";", "is"] ⟨header, last⟩)
    (head : s.rest = purity ++ keyword :: designator :: (header ++ last :: rest))
    (behind : ∀ s₁, Moves s (purity ++ keyword :: designator :: header) s₁ → s₁.rest = last :: rest → Runs x s₁ post) :
    Runs (discard (accept ["pure", "impure"]) >>= fun _ => discard next >>= fun _ => discard next >>= fun _ =>
      discard (phraseUpTo [";", "is"]) >>= fun _ => x) s post := by
  apply (purity_runs spelled head other).bind
  intro _ s₁ moves₁
  have head₁ := moves₁.rest_drop head
  apply (next_runs ⟨head₁, significant⟩).discard_bind
  rintro _ s₂ ⟨_, moves₂⟩
  have head₂ := moves₂.rest_drop head₁
  have some_ : designator.kind ≠ .endOfText := by rcases named with named | named <;> simp [named]
  apply (next_runs ⟨head₂, some_⟩).discard_bind
  rintro _ s₃ ⟨_, moves₃⟩
  have head₃ := moves₃.rest_drop head₂
  apply (phraseUpTo_runs ends head₃).discard_bind
  rintro _ s₄ ⟨_, moves₄⟩
  exact behind s₄ (moves₁.trans (moves₂.trans (moves₃.trans moves₄))) (moves₄.rest_drop head₃)

theorem declared_starts {begin_ : Token} {declared behind : List Token} (own : (declared.headD begin_).word ≠ "new") :
    ∃ first others, declared ++ begin_ :: behind ++ rest = first :: others ∧ first.word ≠ "new" := by
  cases declared with
  | nil => exact ⟨begin_, _, rfl, own⟩
  | cons first declared => exact ⟨first, _, rfl, own⟩

/-- Subprograms that nest no deeper than they are long are read over. -/
theorem skipSubprogram_passes (nesting : Nat) : PassesNested (skipSubprogram nesting) nesting := by
  induction nesting with
  | zero =>
    intro ts le spelled
    obtain ⟨first, tail, rfl, _, _⟩ := spelled.elim SpellsSubprogram.starts SpellsEntityClass.starts
    contradiction
  | succ nesting ih =>
    intro ts le spelled s rest head
    unfold skipSubprogram
    rcases spelled with spelled | spelled
    · cases spelled with
      | @declaration word keyword designator semicolon purity header spelled known isWord named headed ends =>
        have split : s.rest = purity ++ keyword :: designator :: (header ++ semicolon :: rest) := by simpa using head
        refine front_runs spelled (isWord.isSubprogram known).2 isWord.significant named headed.endsAt split ?_
        intro s₁ moves₁ head₁
        apply (accept_runs ⟨head₁, ends.significant⟩ (by simp [ends.word_eq])).bind
        rintro accepted s₂ ⟨rfl, moves₂⟩
        have whole := moves₁.trans moves₂
        exact .pure (by simpa using whole)
      | @instantiation word keyword designator is_ new_ purity generic spelled known isWord named isIs isNew ends =>
        have split : s.rest = purity ++ keyword :: designator :: ([] ++ is_ :: (new_ :: generic.spelled ++ rest)) := by
          simpa using head
        refine front_runs spelled (isWord.isSubprogram known).2 isWord.significant named (isIs.ends (by decide)) split ?_
        intro s₁ moves₁ head₁
        apply (accept_other_runs head₁ (by simp [isIs.word_eq])).bind
        rintro accepted s₁ ⟨rfl, rfl⟩
        rw [if_neg Bool.false_ne_true]
        apply (skip_runs ⟨head₁, isIs.significant⟩ isIs.word_eq).bind
        intro _ s₂ moves₂
        have head₂ := moves₂.rest_drop head₁
        refine ifSees_runs head₂ (by simp [isNew.word_eq]) ?_
        refine (skipPast_runs (ends.after_word isNew (by decide)) head₂).mono fun _ s₃ moves₃ => ?_
        have whole := moves₁.trans (moves₂.trans moves₃)
        simpa [Phrase.spelled] using whole
      | @body word keyword designator is_ begin_ end_ purity header declared statements closing spelled known isWord named
          headed isIs own declares isBegin acts isEnd closes ends =>
        have split : s.rest = purity ++ keyword :: designator ::
            (header ++ is_ :: (declared ++ begin_ :: (statements ++ end_ :: closing.spelled) ++ rest)) := by simpa using head
        refine front_runs spelled (isWord.isSubprogram known).2 isWord.significant named headed.endsAt split ?_
        intro s₁ moves₁ head₁
        apply (accept_other_runs head₁ (by simp [isIs.word_eq])).bind
        rintro accepted s₁ ⟨rfl, rfl⟩
        rw [if_neg Bool.false_ne_true]
        apply (skip_runs ⟨head₁, isIs.significant⟩ isIs.word_eq).bind
        intro _ s₂ moves₂
        have head₂ := moves₂.rest_drop head₁
        obtain ⟨first, others, starts, free⟩ := declared_starts own
        refine ifSees_other_runs (head₂.trans starts) (by simpa using free) ?_
        have shorter : declared.length ≤ nesting := by
          simp only [List.length_append, List.length_cons] at le
          omega
        refine (skipBody_passes ih declares shorter isBegin acts isEnd closes ends head₂).mono fun _ s₃ moves₃ => ?_
        have whole := moves₁.trans (moves₂.trans moves₃)
        simpa using whole
    · obtain ⟨known, isClass, isIs, ends, closes⟩ := spelled
      rename_i word class_ is_ value
      have split : s.rest = [] ++ class_ :: is_ :: (value.tokens ++ value.follow :: rest) := by
        simpa [Phrase.spelled] using head
      refine front_runs .none (isClass.isSubprogram known).2 isClass.significant (.inl isIs.kind_eq) ends split ?_
      intro s₁ moves₁ head₁
      apply (accept_runs ⟨head₁, ends.significant _ List.mem_cons_self⟩ (by simp [closes])).bind
      rintro accepted s₂ ⟨rfl, moves₂⟩
      have whole := moves₁.trans moves₂
      exact .pure (by simpa [Phrase.spelled] using whole)

theorem nestedSubprogram_passes (limit : Nat) : PassesNested nestedSubprogram limit := by
  intro ts _ spelled s rest head
  unfold nestedSubprogram
  refine .get_bind (skipSubprogram_passes _ ts ?_ spelled head)
  rw [head, List.length_append]
  omega

/-! ### Declared subprograms -/

/-- Where no instance is spelled the header is read. -/
theorem notInstance_runs {α : Type} {x y : Reader α} {post : α → ReaderState → Prop} (head : s.rest = t :: rest)
    (other : t.word = "is" → ∃ second others, rest = second :: others ∧ second.word ≠ "new") (header : Runs y s post) :
    Runs (sees ["is"] >>= fun isBody => seesSecond ["new"] >>= fun isInstance =>
      if (isBody && isInstance) = true then x else y) s post := by
  apply (sees_runs head _).bind
  rintro isBody s ⟨rfl, rfl⟩
  by_cases here : t.word = "is"
  · obtain ⟨second, others, rfl, free⟩ := other here
    apply (seesSecond_runs head _).bind
    rintro isInstance s ⟨rfl, rfl⟩
    rwa [if_neg (by simp [free])]
  · apply (seesSecond_any_runs head _).bind
    rintro isInstance s rfl
    rwa [if_neg (by simp [here])]

/-- Parameters and a result are read, and the text of the result is given. -/
theorem header_runs {last : Token} {header : List Token} {x : Bytes → Reader Bytes} {post : Bytes → ReaderState → Prop}
    (headed : SpellsHeader last header) (head : s.rest = header ++ last :: rest)
    (behind : ∀ returnType s₁, Moves s header s₁ → s₁.rest = last :: rest → Runs (x returnType) s₁ post) :
    Runs (discard (phraseUpTo [";", "is", "return"]) >>= fun _ =>
      ifAccepted ["return"] [] (phraseUpTo [";", "is"] >>= textOf) >>= x) s post := by
  cases headed with
  | plain ends closed =>
    apply (phraseUpTo_runs ends head).discard_bind
    rintro _ s₁ ⟨_, moves₁⟩
    have head₁ := moves₁.rest_drop head
    exact (ifAccepted_other_runs head₁ (by simpa using closed) ⟨rfl, rfl⟩ :
      Runs _ s₁ fun returnType s' => returnType = [] ∧ s' = s₁).bind fun returnType s' ⟨_, same⟩ =>
        behind returnType s' (same ▸ moves₁) (same ▸ head₁)
  | @result parameters type ends returns closes =>
    have split : s.rest = parameters.tokens ++ parameters.follow :: (type.tokens ++ type.follow :: rest) := by
      simpa [Phrase.spelled] using head
    apply (phraseUpTo_runs ends split).discard_bind
    rintro _ s₁ ⟨_, moves₁⟩
    have head₁ := moves₁.rest_drop split
    have result : Runs (ifAccepted ["return"] [] (phraseUpTo [";", "is"] >>= textOf)) s₁ fun _ s' =>
        Moves s₁ (parameters.follow :: type.tokens) s' := by
      refine ifAccepted_runs ⟨head₁, ends.significant _ List.mem_cons_self⟩ (by simp [returns]) fun s₂ moves₂ => ?_
      apply (phraseUpTo_runs closes (moves₂.rest_drop head₁)).bind
      rintro p s₃ ⟨rfl, moves₃⟩
      exact .get_bind (.pure (moves₂.trans moves₃))
    apply result.bind
    intro returnType s₂ moves₂
    refine behind returnType s₂ (by simpa [Phrase.spelled] using moves₁.trans moves₂) ?_
    exact moves₂.rest_drop (head₁.trans (by simp))

/-- No header begins with what ends it. -/
theorem header_starts {last : Token} {header : List Token} (headed : SpellsHeader last header) (more : List Token) :
    ∃ first others, header ++ last :: more = first :: others ∧
      (first.word = "is" → header = [] ∧ first = last ∧ others = more) := by
  cases header with
  | nil => exact ⟨last, more, rfl, fun _ => ⟨rfl, rfl, rfl⟩⟩
  | cons first header =>
    refine ⟨first, _, rfl, fun isIs => ?_⟩
    have outside := headed.endsAt.clean ⟨[], first, header⟩ List.mem_cons_self rfl
    simp [isIs] at outside

theorem designator_runs (named : t.kind = .identifier ∨ t.kind = .string) (head : s.rest = t :: rest) :
    Runs designator s fun n s' => n = t ∧ Moves s [t] s' := by
  have significant : t.kind ≠ .endOfText := by rcases named with named | named <;> simp [named]
  unfold designator
  apply (next_runs ⟨head, significant⟩).bind
  rintro n s₁ ⟨rfl, moves₁⟩
  rw [if_neg (by simpa using fun other => named.resolve_left other)]
  exact .pure ⟨rfl, moves₁⟩

theorem bodilessRest_runs {last : Token} {header : List Token} (headed : SpellsHeader last header) (ends : last.IsMark ";")
    (head : s.rest = header ++ last :: rest) : Runs subprogramRest s fun _ s' => Moves s (header ++ [last]) s' := by
  obtain ⟨first, others, starts, short⟩ := header_starts headed rest
  unfold subprogramRest
  refine notInstance_runs (head.trans starts) (fun isIs => ?_) (header_runs headed head fun returnType s₁ moves₁ head₁ => ?_)
  · obtain ⟨_, rfl, _⟩ := short isIs
    simp [ends.word_eq] at isIs
  · apply (accept_runs ⟨head₁, ends.significant⟩ (by simp [ends.word_eq])).bind
    rintro accepted s₂ ⟨rfl, moves₂⟩
    exact .pure (moves₁.trans moves₂)

theorem instantiationRest_runs {is_ new_ : Token} {generic : Phrase} (isIs : is_.IsWord "is") (isNew : new_.IsWord "new")
    (ends : generic.EndsAt [";"]) (head : s.rest = is_ :: new_ :: (generic.spelled ++ rest)) :
    Runs subprogramRest s fun _ s' => Moves s (is_ :: new_ :: generic.spelled) s' := by
  have closes := (ends.after_word isNew (by decide)).after_word isIs (by decide)
  unfold subprogramRest
  apply (sees_runs head _).bind
  rintro isBody s ⟨rfl, rfl⟩
  apply (seesSecond_runs head _).bind
  rintro isInstance s ⟨rfl, rfl⟩
  rw [if_pos (by simp [isIs.word_eq, isNew.word_eq])]
  apply (skipPast_runs closes (by simpa [Phrase.spelled] using head)).bind
  intro _ s₁ moves₁
  exact .pure (by simpa [Phrase.spelled] using moves₁)

theorem bodyRest_runs {is_ begin_ end_ : Token} {header declared statements : List Token} {closing : Phrase}
    (headed : SpellsHeader is_ header) (isIs : is_.IsWord "is") (own : (declared.headD begin_).word ≠ "new")
    (declares : SpellsDeclarativePart SpellsSubprogram declared) (isBegin : begin_.IsWord "begin")
    (acts : SpellsStatementPart statements) (isEnd : end_.IsWord "end")
    (closes : (closing.tokens.headD closing.follow).word ∉ ["if", "case", "loop"]) (ends : closing.EndsAt [";"])
    (head : s.rest = header ++ is_ :: (declared ++ begin_ :: (statements ++ end_ :: closing.spelled) ++ rest)) :
    Runs subprogramRest s fun _ s' =>
      Moves s (header ++ is_ :: (declared ++ begin_ :: (statements ++ end_ :: closing.spelled))) s' := by
  obtain ⟨first, others, starts, short⟩ := header_starts headed
    (declared ++ begin_ :: (statements ++ end_ :: closing.spelled) ++ rest)
  unfold subprogramRest
  refine notInstance_runs (head.trans starts) (fun isIs => ?_) (header_runs headed head fun returnType s₁ moves₁ head₁ => ?_)
  · obtain ⟨_, _, rfl⟩ := short isIs
    exact declared_starts own
  · apply (accept_other_runs head₁ (by simp [isIs.word_eq])).bind
    rintro accepted s₁ ⟨rfl, rfl⟩
    rw [if_neg Bool.false_ne_true]
    apply (skip_runs ⟨head₁, isIs.significant⟩ isIs.word_eq).bind
    intro _ s₂ moves₂
    have body := skipBody_passes (nestedSubprogram_passes _) declares (Nat.le_refl _) isBegin acts isEnd closes ends
    apply (body (moves₂.rest_drop head₁)).bind
    exact fun _ s₃ moves₃ => .pure (moves₁.trans (moves₂.trans moves₃))

section

variable {text : Bytes} {tokens : List Token} {libraries : List String} {owner depth : Nat}

/-- The node of a subprogram is made before what follows its designator is read. -/
theorem subprogram_of_rest {purity behind : List Token} {keyword designator : Token}
    (under : Under text tokens libraries owner depth s) (shallow : depth ≤ maxDepth)
    (inside : ∀ t ∈ purity ++ keyword :: designator :: behind, t.stop ≤ text.length) (spelled : SpellsPurity purity)
    (isWord : keyword.kind = .identifier)
    (known : keyword.word ∈ subprogramWords ∧ keyword.word ∉ ["pure", "impure"])
    (named : designator.kind = .identifier ∨ designator.kind = .string)
    (head : s.rest = purity ++ keyword :: designator :: (behind ++ rest))
    (others : ∀ s₁ : ReaderState, s₁.rest = behind ++ rest → Runs subprogramRest s₁ fun _ s' => Moves s₁ behind s') :
    Runs (subprogram owner) s fun id s' => Builds s (purity ++ keyword :: designator :: behind) s' fun later =>
      ∃ decl, later.Draws owner id (.function decl) := by
  have significant : keyword.kind ≠ .endOfText := by simp [isWord]
  obtain ⟨start, more, starts, _, _⟩ := spelled.starts significant known.1 (designator :: behind)
  have split : s.rest = start :: (more ++ rest) := by
    rw [← List.cons_append, ← starts, List.append_assoc]
    exact head
  unfold subprogram
  apply (peek_runs split).bind
  rintro start s ⟨rfl, rfl⟩
  apply (purity_runs spelled head known.2).bind
  intro _ s₁ moves₁
  have first := inside start (starts ▸ List.mem_cons_self)
  apply (begin_runs (under.took moves₁.toTook) shallow first _).bind
  rintro id s₂ ⟨rfl, placed⟩
  have head₂ : s₂.rest = keyword :: designator :: (behind ++ rest) := placed.head (moves₁.rest_drop head)
  apply (sees_runs head₂ _).bind
  rintro isProcedure s₂ ⟨rfl, rfl⟩
  apply (next_runs ⟨head₂, significant⟩).discard_bind
  rintro _ s₃ ⟨_, moves₃⟩
  have head₃ := moves₃.rest_drop head₂
  apply (designator_runs named head₃).bind
  rintro n s₄ ⟨rfl, moves₄⟩
  apply (others s₄ (moves₄.rest_drop head₃)).bind
  intro returnType s₅ moves₅
  have inner := (moves₃.trans (moves₄.trans moves₅)).builds fun _ => trivial
  apply (complete_runs placed inner (List.cons_ne_nil _ _) _).bind
  intro _ s₆ builds
  exact .pure ((moves₁.then_builds builds).mono fun later drawn => ⟨_, drawn.1⟩)

theorem subprogram_runs (under : Under text tokens libraries owner depth s) (shallow : depth ≤ maxDepth)
    (inside : ∀ t ∈ ts, t.stop ≤ text.length) (spelled : SpellsSubprogram ts) (head : s.rest = ts ++ rest) :
    Runs (subprogram owner) s fun id s' => Builds s ts s' fun later => ∃ decl, later.Draws owner id (.function decl) := by
  cases spelled with
  | declaration spelled known isWord named headed ends =>
    have split := head.trans (List.append_assoc _ _ _)
    refine subprogram_of_rest under shallow inside spelled isWord.kind_eq (isWord.isSubprogram known) named split ?_
    exact fun s₁ head₁ => bodilessRest_runs headed ends (by simpa using head₁)
  | instantiation spelled known isWord named isIs isNew ends =>
    have split := head.trans (List.append_assoc _ _ _)
    refine subprogram_of_rest under shallow inside spelled isWord.kind_eq (isWord.isSubprogram known) named split ?_
    exact fun s₁ head₁ => instantiationRest_runs isIs isNew ends (by simpa using head₁)
  | body spelled known isWord named headed isIs own declares isBegin acts isEnd closes ends =>
    have split := head.trans (List.append_assoc _ _ _)
    refine subprogram_of_rest under shallow inside spelled isWord.kind_eq (isWord.isSubprogram known) named split ?_
    exact fun s₁ head₁ => bodyRest_runs headed isIs own declares isBegin acts isEnd closes ends (by simpa using head₁)

end

/-- A subprogram is read exactly up to its own end, whatever stands behind it: read over, it leaves the tree alone, and
declared, it leaves a node of its own and the nodes that there were. -/
theorem subprogram_read_exactly {owner : Nat} (spelled : SpellsSubprogram ts) (head : s.rest = ts ++ rest)
    (rooted : s.tree.Rooted) (owner_lt : owner < s.tree.nodes.size) (shallow : s.tree.depth owner ≤ maxDepth)
    (inside : ∀ t ∈ ts, t.stop ≤ s.tree.text.length) :
    (∃ s', nestedSubprogram s = .ok ((), s') ∧ s'.rest = rest ∧ s'.tree = s.tree) ∧
      ∃ id s', subprogram owner s = .ok (id, s') ∧ s'.rest = rest ∧ (∃ decl, s'.tree.Draws owner id (.function decl)) ∧
        ∀ i : Nat, i < s.tree.nodes.size → s'.tree.node? i = s.tree.node? i := by
  constructor
  · obtain ⟨_, s', run, moves⟩ := nestedSubprogram_passes ts.length ts (Nat.le_refl _) (.inl spelled) head
    exact ⟨s', run, moves.rest_drop head, moves.tree_eq⟩
  · have under : Under s.tree.text s.rest s.libraryNames owner (s.tree.depth owner) s :=
      ⟨rfl, rooted, List.suffix_refl _, rfl, owner_lt, rfl⟩
    obtain ⟨id, s', run, builds⟩ := subprogram_runs under shallow inside spelled head
    exact ⟨id, s', run, builds.rest_drop head, builds.shows s'.tree (Tree.Keeps.self _ _), builds.old⟩

end Reader

/-- A function with a procedure and an if statement in it, and the word behind it. -/
def nestedText : Bytes := Bytes.ofString
  "pure function f (a : t) return t is procedure q is begin if a then null; end if; end q; begin return a; end function f; x"

def nestedWord (word : String) (offset : Nat) : Token := .ofText .identifier (Bytes.ofString word) offset

def nestedMark (mark : String) (offset : Nat) : Token := .ofText .delimiter (Bytes.ofString mark) offset

/-- The statements of the procedure. -/
def nestedStatements : List Token :=
  [nestedWord "if" 57, nestedWord "a" 60, nestedWord "then" 62, nestedWord "null" 67, nestedMark ";" 71, nestedWord "end" 73,
    nestedWord "if" 77, nestedMark ";" 79]

/-- The procedure. -/
def nestedProcedure : List Token :=
  [nestedWord "procedure" 36, nestedWord "q" 46, nestedWord "is" 48, nestedWord "begin" 51] ++ nestedStatements ++
    [nestedWord "end" 81, nestedWord "q" 85, nestedMark ";" 86]

def nestedFunction : List Token :=
  [nestedWord "pure" 0, nestedWord "function" 5, nestedWord "f" 14, nestedMark "(" 16, nestedWord "a" 17, nestedMark ":" 19,
    nestedWord "t" 21, nestedMark ")" 22, nestedWord "return" 24, nestedWord "t" 31, nestedWord "is" 33] ++ nestedProcedure ++
    [nestedWord "begin" 88, nestedWord "return" 94, nestedWord "a" 101, nestedMark ";" 102, nestedWord "end" 104,
      nestedWord "function" 108, nestedWord "f" 117, nestedMark ";" 118]

theorem nestedWord_isWord {word : String} (offset : Nat) (lower : lowerString word = word) :
    (nestedWord word offset).IsWord word := ⟨rfl, (Bytes.lower_ofString word).trans lower⟩

theorem word_nestedWord (word : String) (offset : Nat) : (nestedWord word offset).word = lowerString word :=
  Bytes.lower_ofString word

theorem word_nestedMark (mark : String) (offset : Nat) : (nestedMark mark offset).word = lowerString mark :=
  Bytes.lower_ofString mark

theorem nestedStatements_spelled : SpellsStatementPart nestedStatements := by
  have inside : SpellsStatementPart [nestedWord "a" 60, nestedWord "then" 62, nestedWord "null" 67, nestedMark ";" 71] := by
    refine .token (by decide) ?_ (.token (by decide) ?_ (.token (by decide) ?_ (.token (by decide) ?_ .nil)))
    all_goals
      simp only [word_nestedWord, word_nestedMark]
      decide
  have behind : SpellsStatementPart [nestedMark ";" 79] := .token (by decide) (by rw [word_nestedMark]; decide) .nil
  exact .compound (.head _) (nestedWord_isWord 57 (by decide)) inside (nestedWord_isWord 73 (by decide))
    (nestedWord_isWord 77 (by decide)) behind

theorem nestedProcedure_spelled : SpellsSubprogram nestedProcedure := by
  have header : SpellsHeader (nestedWord "is" 48) [] :=
    .plain ((nestedWord_isWord 48 (by decide)).ends (by decide)) (by rw [word_nestedWord]; decide)
  have closing : Phrase.EndsAt [";"] ⟨[nestedWord "q" 85], nestedMark ";" 86⟩ := by
    simp only [nestedWord, nestedMark, Token.ofText, Bytes.lower_ofString]
    exact ⟨.plain (by decide) (by decide) .nil, by decide, by decide, by decide⟩
  have own : (([] : List Token).headD (nestedWord "begin" 51)).word ≠ "new" := by
    rw [List.headD_nil, word_nestedWord]
    decide
  have closes : ([nestedWord "q" 85].headD (nestedMark ";" 86)).word ∉ ["if", "case", "loop"] := by
    rw [List.headD_cons, word_nestedWord]
    decide
  exact .body .none (.tail _ (.head _)) (nestedWord_isWord 36 (by decide)) (.inl rfl) header
    (nestedWord_isWord 48 (by decide)) own .nil (nestedWord_isWord 51 (by decide)) nestedStatements_spelled
    (nestedWord_isWord 81 (by decide)) closes closing

theorem nestedFunction_spelled : SpellsSubprogram nestedFunction := by
  have parameters : Phrase.EndsAt [";", "is", "return"] ⟨[nestedMark "(" 16, nestedWord "a" 17, nestedMark ":" 19,
      nestedWord "t" 21, nestedMark ")" 22], nestedWord "return" 24⟩ := by
    simp only [nestedWord, nestedMark, Token.ofText, Bytes.lower_ofString]
    refine ⟨?_, by decide, by decide, by decide⟩
    exact .group (by decide) (.plain (by decide) (by decide) (.plain (by decide) (by decide)
      (.plain (by decide) (by decide) .nil))) (by decide) .nil
  have type : Phrase.EndsAt [";", "is"] ⟨[nestedWord "t" 31], nestedWord "is" 33⟩ := by
    simp only [nestedWord, Token.ofText, Bytes.lower_ofString]
    exact ⟨.plain (by decide) (by decide) .nil, by decide, by decide, by decide⟩
  have closing : Phrase.EndsAt [";"] ⟨[nestedWord "function" 108, nestedWord "f" 117], nestedMark ";" 118⟩ := by
    simp only [nestedWord, nestedMark, Token.ofText, Bytes.lower_ofString]
    exact ⟨.plain (by decide) (by decide) (.plain (by decide) (by decide) .nil), by decide, by decide, by decide⟩
  have declared : SpellsDeclarativePart SpellsSubprogram nestedProcedure := by
    simpa using SpellsDeclarativePart.subprogram nestedProcedure_spelled .nil
  have statements : SpellsStatementPart [nestedWord "return" 94, nestedWord "a" 101, nestedMark ";" 102] := by
    refine .token (by decide) ?_ (.token (by decide) ?_ (.token (by decide) ?_ .nil))
    all_goals
      simp only [word_nestedWord, word_nestedMark]
      decide
  have returns : (nestedWord "return" 24).word = "return" := by
    rw [word_nestedWord]
    decide
  have own : (nestedProcedure.headD (nestedWord "begin" 88)).word ≠ "new" :=
    show (nestedWord "procedure" 36).word ≠ "new" by rw [word_nestedWord]; decide
  have closes : ([nestedWord "function" 108, nestedWord "f" 117].headD (nestedMark ";" 118)).word ∉
      ["if", "case", "loop"] := by
    rw [List.headD_cons, word_nestedWord]
    decide
  exact .body (.some (.head _) (nestedWord_isWord 0 (by decide))) (.head _) (nestedWord_isWord 5 (by decide)) (.inl rfl)
    (.result parameters returns type) (nestedWord_isWord 33 (by decide)) own declared (nestedWord_isWord 88 (by decide))
    statements (nestedWord_isWord 104 (by decide)) closes closing

/-- Where the function of the text begins. -/
def nestedStart : ReaderState where
  rest := nestedFunction ++ [nestedWord "x" 120, .endOfText 121]
  tree := Tree.ofText "design.vhd" nestedText

/-- The function is read up to the word behind it, with or without a node for it. -/
theorem nested_subprogram_read_exactly : tokenize nestedText = .ok nestedStart.rest ∧
    (∃ s', Reader.nestedSubprogram nestedStart = .ok ((), s') ∧ s'.rest = [nestedWord "x" 120, .endOfText 121] ∧
      s'.tree = nestedStart.tree) ∧
    ∃ id s', Reader.subprogram 0 nestedStart = .ok (id, s') ∧ s'.rest = [nestedWord "x" 120, .endOfText 121] := by
  have read : tokenize nestedText = .ok nestedStart.rest := eq_ok_of_toOption (by
    rw [nestedText, Bytes.ofString_ofList]
    decide +kernel)
  have depth_eq : nestedStart.tree.depth 0 = 0 := Tree.depth_of_root rfl
  obtain ⟨skipped, id, s', run, left, _⟩ := Reader.subprogram_read_exactly nestedFunction_spelled rfl
    (Tree.arena_ofText _ _).rooted Nat.one_pos (depth_eq ▸ Nat.zero_le maxDepth) (by decide)
  exact ⟨read, skipped, id, s', run, left⟩

end DesignLint
