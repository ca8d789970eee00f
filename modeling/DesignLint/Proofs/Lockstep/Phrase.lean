import DesignLint.Proofs.Lockstep.Cursor

/-! Phrases in lockstep. Where a phrase ends, whether it is a plain name and which of its identifiers are read or
written depends on the words of its tokens alone. -/
namespace DesignLint

variable {r : Pairing}

/-- Two phrases of the same tokens. -/
structure Phrase.Twin (r : Pairing) (p q : Phrase) : Prop where
  tokens : List.Forall₂ (Token.Twin r) p.tokens q.tokens
  follow : p.follow.Twin r q.follow

/-- Two identifiers at one place, used in the same way. -/
inductive Occurrence.Twin (r : Pairing) : Occurrence → Occurrence → Prop
  | read {t u : Token} (twin : t.Twin r u) (isElement : Bool) : Twin r (.read t isElement) (.read u isElement)
  | write {t u : Token} (twin : t.Twin r u) : Twin r (.write t) (.write u)

namespace Phrase

theorem split_twin {stops stops' : Token → Bool} (same : ∀ t u, t.Twin r u → stops t = stops' u) (depth : Nat)
    {ts us : List Token} (twins : List.Forall₂ (Token.Twin r) ts us) :
    List.Forall₂ (Token.Twin r) (split stops depth ts).1 (split stops' depth us).1 ∧
      List.Forall₂ (Token.Twin r) (split stops depth ts).2 (split stops' depth us).2 := by
  induction twins generalizing depth with
  | nil => exact ⟨.nil, .nil⟩
  | @cons t u ts us twin twins ih =>
    simp only [split, twin.kind_eq, same t u twin, twin.closes_eq, twin.opens_eq]
    split
    · exact ⟨.nil, .cons twin twins⟩
    · exact ⟨.cons twin (ih _).1, (ih _).2⟩

theorem Twin.isName_eq {p q : Phrase} (twin : p.Twin r q) : p.isName = q.isName := by
  have suffixes_eq (depth : Int) {t u : Token} (previous : t.Twin r u) {ts us : List Token}
      (twins : List.Forall₂ (Token.Twin r) ts us) : isName.suffixes depth t ts = isName.suffixes depth u us := by
    induction twins generalizing depth t u with
    | nil => rfl
    | cons twin _ ih =>
      simp only [isName.suffixes, twin.word_eq, twin.kind_eq, previous.word_eq, ih _ twin]
  obtain ⟨tokens, follow⟩ := p
  obtain ⟨tokens', follow'⟩ := q
  cases twin.tokens with
  | nil => rfl
  | cons first others => simp only [isName, first.isName_eq, suffixes_eq 0 first others]

/-- The walk over a phrase looks one token back and one token ahead. -/
theorem Twin.occurrences {p q : Phrase} (twin : p.Twin r q) (libraries : List String) (writeDepth : Option Nat) :
    List.Forall₂ (Occurrence.Twin r) (p.occurrences libraries writeDepth) (q.occurrences libraries writeDepth) := by
  have walk_twin {previous previous' : Option Token} (before : Option.Rel (Token.Twin r) previous previous')
      (depth : Nat) (afterLibrary : Bool) {ts us : List Token} (twins : List.Forall₂ (Token.Twin r) ts us) :
      List.Forall₂ (Occurrence.Twin r) (occurrences.walk libraries writeDepth p previous depth afterLibrary ts)
        (occurrences.walk libraries writeDepth q previous' depth afterLibrary us) := by
    induction twins generalizing previous previous' depth afterLibrary with
    | nil => exact .nil
    | @cons t u ts us here twins ih =>
      have ahead : (ts.headD p.follow).word = (us.headD q.follow).word := by
        cases twins with
        | nil => exact twin.follow.word_eq
        | cons following _ => exact following.word_eq
      have kind_eq : previous.any (·.kind = .tick) = previous'.any (·.kind = .tick) := by
        cases before with
        | none => rfl
        | some before => rw [Option.any_some, Option.any_some, before.kind_eq]
      have word_eq : previous.any (·.word = ".") = previous'.any (·.word = ".") := by
        cases before with
        | none => rfl
        | some before => rw [Option.any_some, Option.any_some, before.word_eq]
      simp only [occurrences.walk, here.opens_eq, here.closes_eq, here.isName_eq, here.word_eq, ahead, kind_eq, word_eq]
      have others := fun depth afterLibrary => ih (.some here) depth afterLibrary
      repeat' split
      all_goals first
        | exact others _ _
        | exact .cons (.write here) (others _ _)
        | exact .cons (.read here _) (others _ _)
  exact walk_twin .none 0 false twin.tokens

end Phrase

namespace Reader

theorem phrase_alike {stops stops' : Token → Bool} (same : ∀ t u, t.Twin r u → stops t = stops' u) :
    Alike r (Phrase.Twin r) (phrase stops) (phrase stops') := by
  refine Alike.get.bind fun s s' twin => ?_
  obtain ⟨taken, left⟩ := Phrase.split_twin same 0 twin.rest
  refine Alike.eq_bind (.set ⟨left, ?_, twin.tree, twin.libraryNames⟩) fun _ =>
    peek_alike.bind fun _ _ follow => .pure ⟨taken, follow⟩
  have last := Token.Twin.getLast? taken
  generalize List.getLast? (Phrase.split stops 0 s.rest).1 = found,
    List.getLast? (Phrase.split stops' 0 s'.rest).1 = found' at last ⊢
  cases last with
  | none => exact twin.lastStop
  | some token => exact congrArg some token.stop_eq

theorem phraseUpTo_alike (words : List String) : Alike r (Phrase.Twin r) (phraseUpTo words) (phraseUpTo words) :=
  phrase_alike fun _ _ twin => by rw [twin.word_eq]

theorem skipPast_alike (word : String) : Alike r Eq (skipPast word) (skipPast word) :=
  (phraseUpTo_alike _).discard_bind (skip_alike _)

theorem textOf_alike {p q : Phrase} (twin : p.Twin r q) : Alike r r.SourceTwin (textOf p) (textOf q) := by
  refine Alike.get.bind fun s s' states => .pure ?_
  have first := Token.Twin.getElem? twin.tokens 0
  have last := Token.Twin.getLast? twin.tokens
  rw [Phrase.source, Phrase.source, List.head?_eq_getElem?, List.head?_eq_getElem?]
  generalize p.tokens[0]? = first, q.tokens[0]? = first', p.tokens.getLast? = last, q.tokens.getLast? = last' at *
  cases first with
  | none => rfl
  | some start =>
    cases last with
    | none => rfl
    | some stop => exact states.tree.text_eq.slice start.offset_eq stop.stop_eq

theorem record_alike (parent : NodeId) {found found' : List Occurrence}
    (twins : List.Forall₂ (Occurrence.Twin r) found found') :
    Alike r Eq (record parent found) (record parent found') := by
  induction twins with
  | nil => exact .pure rfl
  | cons first _ ih =>
    cases first with
    | read twin isElement =>
      refine (attachToken_alike parent twin ?_ (by trivial)).eq_bind fun _ => ih.eq_bind fun _ => .pure rfl
      rw [Construct.outline, Construct.outline, twin.name_eq]
    | write twin =>
      refine (attachToken_alike parent twin ?_ (by trivial)).eq_bind fun _ => ih.eq_bind fun _ => .pure rfl
      rw [Construct.outline, Construct.outline, twin.name_eq]

theorem occurrences_alike (parent : NodeId) (writeDepth : Option Nat) {p q : Phrase} (twin : p.Twin r q) :
    Alike r Eq (occurrences parent writeDepth p) (occurrences parent writeDepth q) := by
  refine Alike.get.bind fun s s' states => record_alike parent ?_
  rw [states.libraryNames]
  exact twin.occurrences _ _

theorem reads_alike (parent : NodeId) {p q : Phrase} (twin : p.Twin r q) :
    Alike r Eq (reads parent p) (reads parent q) :=
  (occurrences_alike parent none twin).eq_bind fun _ => .pure rfl

theorem expression_alike (parent : NodeId) (words : List String) :
    Alike r Eq (expression parent words) (expression parent words) :=
  (phraseUpTo_alike words).bind fun _ _ twin => reads_alike parent twin

end Reader
end DesignLint
