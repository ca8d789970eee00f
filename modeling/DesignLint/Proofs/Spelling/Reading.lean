import DesignLint.Proofs.Lockstep.DesignUnit
import DesignLint.Proofs.Spelling.Lexing

/-! Two spellings of one file: texts that differ in the case of ASCII letters only. They are both read, into trees that
differ in the spelling of names only, or both refused at the same offset. -/
namespace DesignLint

namespace Coordinate

theorem advance_lowered (line character : Nat) (text : Bytes) :
    advance line character text.lowered = advance line character text := by
  induction text generalizing line character with
  | nil => rfl
  | cons b rest ih =>
    have break_iff : lowerByte b = newline ↔ b = newline := Lexer.lowerByte_eq_iff rfl
    simp only [Lexer.lowered_cons, advance, break_iff, ih]

theorem ofOffset_lowered (text : Bytes) (offset : Nat) : ofOffset text.lowered offset = ofOffset text offset := by
  rw [ofOffset, ← Lexer.lowered_take, advance_lowered, ofOffset]

/-- Lines break at the same places in every spelling. -/
theorem ofOffset_eq {text text' : Bytes} (same : text.lowered = text'.lowered) (offset : Nat) :
    ofOffset text offset = ofOffset text' offset := by
  rw [← ofOffset_lowered text, same, ofOffset_lowered]

end Coordinate

namespace Likeness

theorem name_spelling (text : Bytes) : spelling.name text = text.lowered := name_eq spelling text

theorem source_spelling (text : Bytes) : spelling.source text = text.lowered := name_spelling text

end Likeness

/-- Two spellings of one file, which have their tokens at the same offsets. -/
def Pairing.ofSpellings (path : String) : Pairing :=
  ⟨.spelling, path, fun t u => t.offset = u.offset ∧ t.stop = u.stop⟩

variable {text text' : Bytes} {tokens tokens' : List Token} {t t' : Tree}

theorem Token.twins_of_lowered (same : tokens.map Token.lowered = tokens'.map Token.lowered)
    (tokensOf : TokensOf text tokens) (path : String) :
    List.Forall₂ (Token.Twin (.ofSpellings path)) tokens tokens' := by
  have pairs : List.Forall₂ Eq (tokens.map Token.lowered) (tokens'.map Token.lowered) :=
    List.forall₂_eq_eq_eq ▸ same
  rw [List.forall₂_map_left_iff, List.forall₂_map_right_iff] at pairs
  obtain ⟨lengths, each⟩ := List.forall₂_iff_get.mp pairs
  refine List.forall₂_iff_get.mpr ⟨lengths, fun i lt lt' => ?_⟩
  have lowered := each i lt lt'
  have named := tokensOf.named _ (List.get_mem tokens ⟨i, lt⟩)
  generalize tokens.get ⟨i, lt⟩ = t, tokens'.get ⟨i, lt'⟩ = u at lowered named
  have text_eq : t.text.lowered = u.text.lowered := congrArg Token.text lowered
  have offset_eq : t.offset = u.offset := (congrArg Token.offset lowered :)
  have length_eq : t.text.length = u.text.length := by
    rw [← Bytes.length_lowered, text_eq, Bytes.length_lowered]
  refine ⟨⟨offset_eq, ?_⟩, (congrArg Token.kind lowered :), ?_, (congrArg Token.word lowered :), offset_eq, named⟩
  · rw [Token.stop, Token.stop, offset_eq, length_eq]
  · change Likeness.spelling.name t.text = Likeness.spelling.name u.text
    rw [Likeness.name_spelling, Likeness.name_spelling, text_eq]

/-- Two spellings of one text have tokens that stand for each other, or no rule matches at the same offset. -/
theorem tokenize_spellings (same : text.lowered = text'.lowered) (path : String) :
    (∃ tokens tokens', tokenize text = .ok tokens ∧ tokenize text' = .ok tokens' ∧
      List.Forall₂ (Token.Twin (.ofSpellings path)) tokens tokens') ∨
    ∃ fault fault', tokenize text = .error fault ∧ tokenize text' = .error fault' ∧ fault.offset = fault'.offset := by
  have runs : Lexer.loweredRun (tokenize text) = Lexer.loweredRun (tokenize text') := by
    rw [← tokenize_lowered, same, tokenize_lowered]
  cases lexed : tokenize text with
  | ok tokens =>
    cases lexed' : tokenize text' with
    | ok tokens' =>
      rw [lexed, lexed', Lexer.loweredRun, Lexer.loweredRun, Except.ok.injEq] at runs
      exact .inl ⟨tokens, tokens', rfl, rfl, Token.twins_of_lowered runs (tokenize_tokensOf lexed) path⟩
    | error fault' =>
      rw [lexed, lexed'] at runs
      cases runs
  | error fault =>
    cases lexed' : tokenize text' with
    | ok tokens' =>
      rw [lexed, lexed'] at runs
      cases runs
    | error fault' =>
      rw [lexed, lexed', Lexer.loweredRun, Lexer.loweredRun, Except.error.injEq] at runs
      exact .inr ⟨fault, fault', rfl, rfl, (congrArg Lexer.Fault.offset runs :)⟩

namespace Tree

/-- Two trees that differ in the case of letters in names and stretches of source only: under each number, they have
nodes of one kind with one parent, one range, the same parts and the same flags. -/
def Respelt (t t' : Tree) : Prop := t.outline .spelling = t'.outline .spelling

theorem Respelt.text_eq (same : t.Respelt t') : t.text.lowered = t'.text.lowered := by
  have texts : Likeness.spelling.source t.text = Likeness.spelling.source t'.text := congrArg Tree.text same
  rwa [Likeness.source_spelling, Likeness.source_spelling] at texts

/-- Nodes have the same places in every spelling. -/
theorem Respelt.span_eq (same : t.Respelt t') (id : NodeId) : t.span id = t'.span id := by
  have nodes : (t.node? id).map (Node.outline .spelling) = (t'.node? id).map (Node.outline .spelling) := by
    rw [← outline_node?, same, outline_node?]
  rw [span, span]
  cases found : t.node? id with
  | none =>
    rw [found, Option.map_none, eq_comm, Option.map_eq_none_iff] at nodes
    rw [nodes]
  | some n =>
    rw [found, Option.map_some, eq_comm, Option.map_eq_some_iff] at nodes
    obtain ⟨n', found', drawn⟩ := nodes
    have start_eq : n'.start = n.start := (congrArg Node.start drawn :)
    have stop_eq : n'.stop = n.stop := (congrArg Node.stop drawn :)
    simp only [found', start_eq, stop_eq, Coordinate.ofOffset_eq same.text_eq]

/-- Two spellings of one file that are both read or both refused: at the same place, or for the same parent that is too
deep. -/
inductive SameReading : Except ParseFault Tree → Except ParseFault Tree → Prop
  | read {t t' : Tree} (same : t.Respelt t') (spans : ∀ id, t.span id = t'.span id) : SameReading (.ok t) (.ok t')
  | refused {e e' : FormatError} (path_eq : e.path = e'.path) (offset_eq : e.offset = e'.offset)
    (coordinate_eq : e.coordinate = e'.coordinate) : SameReading (.error (.format e)) (.error (.format e'))
  | deep (fault : TreeFault) : SameReading (.error (.tree (.tree fault))) (.error (.tree (.tree fault)))

/-- Two spellings of one text are read in lockstep. -/
theorem parse_spellings (path : String) (same : text.lowered = text'.lowered) :
    (∃ t t', parse path text = .ok t ∧ parse path text' = .ok t' ∧ t.Twin (.ofSpellings path) t') ∨
      (∃ e e', parse path text = .error (.format e) ∧ parse path text' = .error (.format e') ∧ e.path = e'.path ∧
        e.offset = e'.offset ∧ e.coordinate = e'.coordinate) ∨
      ∃ fault, parse path text = .error (.tree (.tree fault)) ∧ parse path text' = .error (.tree (.tree fault)) := by
  have texts : Likeness.spelling.SourceTwin text text' := by
    rw [Likeness.SourceTwin, Likeness.source_spelling, Likeness.source_spelling, same]
  rcases tokenize_spellings same path with ⟨tokens, tokens', lexed, lexed', twins⟩ | ⟨fault, fault', lexed, lexed', stops⟩
  · rcases parse_alike texts lexed lexed' twins with read | ⟨u, u', reason, reason', place, _, refused, refused'⟩ | deep
    · exact .inl read
    · have offset_eq : u.offset = u'.offset := place.offset_eq
      refine .inr (.inl ⟨_, _, refused, refused', rfl, offset_eq, ?_⟩)
      simp only [formatError, offset_eq, Coordinate.ofOffset_eq same]
    · exact .inr (.inr deep)
  · have refused : parse path text = .error (.format (formatError path text fault.offset
        (Bytes.ofString fault.message))) := by simp only [parse, lexed]
    have refused' : parse path text' = .error (.format (formatError path text' fault'.offset
        (Bytes.ofString fault'.message))) := by simp only [parse, lexed']
    refine .inr (.inl ⟨_, _, refused, refused', rfl, stops, ?_⟩)
    simp only [formatError, stops, Coordinate.ofOffset_eq same]

theorem sameReading_of_lowered (path : String) (same : text.lowered = text'.lowered) :
    SameReading (parse path text) (parse path text') := by
  rcases parse_spellings path same with ⟨t, t', parsed, parsed', twin⟩ |
    ⟨e, e', refused, refused', path_eq, offset_eq, coordinate_eq⟩ | ⟨fault, refused, refused'⟩
  · rw [parsed, parsed']
    exact .read twin.outline (Respelt.span_eq twin.outline)
  · rw [refused, refused']
    exact .refused path_eq offset_eq coordinate_eq
  · rw [refused, refused']
    exact .deep fault

end Tree
end DesignLint
