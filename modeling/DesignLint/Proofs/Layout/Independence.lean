import DesignLint.Proofs.Lockstep.Findings
import DesignLint.Proofs.Lint.Context

/-! What the analysis takes from the layout of a file. Names, structure and undeclared names depend on the tokens
alone. The inference of registers and resets matches patterns against the conditions as they were written, with the
comments and blanks inside them, so it is the same for two layouts as long as those texts match alike. -/
namespace DesignLint

open Tree

/-- Tokens that stand at the same place of two lists. -/
def Token.At (tokens tokens' : List Token) (t u : Token) : Prop :=
  ∃ i : Nat, tokens[i]? = some t ∧ tokens'[i]? = some u

/-- Two lists of tokens that agree one by one in kind and text. -/
def Token.Agree (tokens tokens' : List Token) : Prop :=
  List.Forall₂ (fun t u => t.kind = u.kind ∧ t.text = u.text) tokens tokens'

/-- Two layouts of one file. -/
def Pairing.ofLayouts (path : String) (tokens tokens' : List Token) : Pairing :=
  ⟨.layout, path, Token.At tokens tokens'⟩

variable {text text' : Bytes} {tokens tokens' : List Token}

theorem Token.Agree.twins (agree : Token.Agree tokens tokens') (tokensOf : TokensOf text tokens)
    (tokensOf' : TokensOf text' tokens') (path : String) :
    List.Forall₂ (Token.Twin (.ofLayouts path tokens tokens')) tokens tokens' := by
  obtain ⟨lengths, each⟩ := List.forall₂_iff_get.mp agree
  refine List.forall₂_iff_get.mpr ⟨lengths, fun i lt lt' => ?_⟩
  obtain ⟨kind_eq, text_eq⟩ := each i lt lt'
  have member : tokens[i] ∈ tokens := List.getElem_mem lt
  have member' : tokens'[i] ∈ tokens' := List.getElem_mem lt'
  have word_eq : tokens[i].word = tokens'[i].word := by
    rw [tokensOf.worded _ member, tokensOf'.worded _ member']
    exact congrArg Bytes.lower text_eq
  refine ⟨⟨i, List.getElem?_eq_getElem lt, List.getElem?_eq_getElem lt'⟩, kind_eq, ?_, word_eq, rfl, ?_⟩
  · exact congrArg Likeness.layout.name text_eq
  · exact tokensOf.named _ member

/-- The spelling of names does not depend on the layout. -/
theorem Likeness.name_layout : Likeness.layout.name = id := funext (name_eq .layout)

theorem Token.agree_of_map_eq
    (same : tokens.map (fun t => (t.kind, t.text)) = tokens'.map fun t => (t.kind, t.text)) :
    Token.Agree tokens tokens' := by
  have pairs : List.Forall₂ Eq (tokens.map fun t => (t.kind, t.text)) (tokens'.map fun t => (t.kind, t.text)) :=
    List.forall₂_eq_eq_eq ▸ same
  rw [List.forall₂_map_left_iff, List.forall₂_map_right_iff] at pairs
  exact pairs.imp fun _ _ same => Prod.mk.inj same

/-- Whether two texts have the same tokens up to their places. -/
def Token.agreeIn (text text' : Bytes) : Bool :=
  (tokenize text).toOption.any fun tokens => (tokenize text').toOption.any fun tokens' =>
    tokens.map (fun t => (t.kind, t.text)) = tokens'.map fun t => (t.kind, t.text)

theorem Token.exists_agree (same : Token.agreeIn text text' = true) :
    ∃ tokens tokens', tokenize text = .ok tokens ∧ tokenize text' = .ok tokens' ∧ Token.Agree tokens tokens' := by
  obtain ⟨tokens, lexed, same⟩ := exists_ok_of_any same
  obtain ⟨tokens', lexed', same⟩ := exists_ok_of_any same
  exact ⟨tokens, tokens', lexed, lexed', Token.agree_of_map_eq (of_decide_eq_true same)⟩

namespace Lint

/-- Two texts of the same tokens are both read, into trees of one outline, or both refused at the same token or for
the same parent that is too deep. Undeclared names are reported alike; processes whose conditions match the patterns
alike are register processes with the same resets, and if all conditions match alike, all findings are the same. -/
theorem analyzed_alike (path : String) (lexed : tokenize text = .ok tokens) (lexed' : tokenize text' = .ok tokens')
    (agree : Token.Agree tokens tokens') :
    (∃ t t', Tree.parse path text = .ok t ∧ Tree.parse path text' = .ok t' ∧ t.outline .layout = t'.outline .layout ∧
      ∀ (rules : InferenceRules) (library : Bytes) (s s' : Subject), s.tree = { t with library } →
        s'.tree = { t' with library } → s.design.outline .layout = s'.design.outline .layout →
        s.file = s'.file → s.packages = s'.packages → s.entities = s'.entities →
          (∀ process, ConditionsAlike rules s.tree s'.tree process →
            (s.tree.facts rules : Facts (Except Fault)).isRegisterProcess process =
                (s'.tree.facts rules).isRegisterProcess process ∧
              (s.tree.facts rules : Facts (Except Fault)).resets process = (s'.tree.facts rules).resets process) ∧
          s.FindingsAlike (.ofLayouts path tokens tokens') s' (checkUndeclared (s.tree.facts rules) s)
            (checkUndeclared (s'.tree.facts rules) s') ∧
          ((∀ process, ConditionsAlike rules s.tree s'.tree process) →
            s.FindingsAlike (.ofLayouts path tokens tokens') s' (checkAll (s.tree.facts rules) s)
              (checkAll (s'.tree.facts rules) s'))) ∨
      (∃ u u' reason, Token.At tokens tokens' u u' ∧
        Tree.parse path text = .error (.format (formatError path text u.offset reason)) ∧
        Tree.parse path text' = .error (.format (formatError path text' u'.offset reason))) ∨
      ∃ fault, Tree.parse path text = .error (.tree (.tree fault)) ∧
        Tree.parse path text' = .error (.tree (.tree fault)) := by
  have twins := agree.twins (tokenize_tokensOf lexed) (tokenize_tokensOf lexed') path
  have texts : Likeness.layout.SourceTwin text text' := rfl
  rcases parse_alike texts lexed lexed' twins with ⟨t, t', parsed, parsed', twin⟩ |
    ⟨u, u', reason, reason', place, quoted, refused, refused'⟩ | deep
  · left
    refine ⟨t, t', parsed, parsed', twin.outline, ?_⟩
    intro rules library s s' tree tree' design file packages entities
    have formed : s.tree.WellFormed :=
      (wellFormed_of_parse parsed).1.retree (by rw [tree]) (by rw [tree])
    have trees : s.tree.Twin (.ofLayouts path tokens tokens') s'.tree := by
      rw [tree, tree']
      exact twin.inLibrary library
    have respects : s.entities.Respects .layout := by
      intro library name
      rw [Likeness.name_layout]
      rfl
    have subjects : s.Twin (.ofLayouts path tokens tokens') s' :=
      ⟨formed, trees, design, file, packages, entities, respects⟩
    refine ⟨?_, subjects.checkUndeclared, subjects.checkAll⟩
    intro process conditions
    have resets := resets_eq trees.outline conditions
    change Except.map (List.map Likeness.layout.name) _ = Except.map (List.map Likeness.layout.name) _ at resets
    rw [Likeness.name_layout, List.map_id_fun, Except.map_id] at resets
    exact ⟨isRegisterProcess_eq trees.outline conditions, resets⟩
  · cases quoted rfl
    exact .inr (.inl ⟨u, u', reason, place.meets, refused, refused'⟩)
  · exact .inr (.inr deep)

/-- A clocked process on one line. -/
def clockedLine : Bytes :=
  Bytes.ofString <| "architecture a of e is begin process (clk) begin " ++
    "if rising_edge(clk) then q <= d; end if; end process; end;"

/-- The same process over several lines, with comments. -/
def clockedLines : Bytes :=
  Bytes.ofString <| "architecture a of e is -- rtl\nbegin\n process (clk) begin\n " ++
    "if rising_edge( clk ) then /* res */ q<=d;\n end if;\n end process;\nend;\n"

/-- A process that tests a level, with a comment in its condition or without. -/
def levelTest (comment : String) : Bytes :=
  Bytes.ofString ("architecture a of e is\nsignal q, d, clk : bit;\nbegin\nprocess (clk) begin\n" ++
    "if clk = " ++ comment ++ "'1' then q <= d; end if;\nend process;\nend;\n")

/-- Whether the conditions at the top of a process have these texts. -/
def hasConditions (process : NodeId) (texts : List Bytes) (t : Tree) : Bool :=
  (t.topClauses (t.processStatements process)).map IfClause.conditionText = texts

/-- Whether a file on its own has this register process, or none, and these findings. -/
def infers (process : NodeId) (isRegister : Bool) (findings : List Diagnostic) (t : Tree) : Bool :=
  (t.facts .standard : Facts (Except Fault)).isRegisterProcess process = .ok isRegister ∧
    checkAll (t.facts .standard) (.alone t) = (.ok findings : Except Fault _)

/-- What the four texts come to. -/
theorem layouts_made :
    (Token.agreeIn clockedLine clockedLines = true ∧
      (Tree.parse "a.vhd" clockedLine).toOption.any (hasConditions 2 [Bytes.ofString "rising_edge(clk)"]) = true ∧
      (Tree.parse "a.vhd" clockedLines).toOption.any (hasConditions 2 [Bytes.ofString "rising_edge( clk )"]) = true ∧
      InferenceRules.standard.clock.matchesIn (Bytes.ofString "rising_edge(clk)") =
        InferenceRules.standard.clock.matchesIn (Bytes.ofString "rising_edge( clk )") ∧
      InferenceRules.standard.reset.matchesIn (Bytes.ofString "rising_edge(clk)") =
        InferenceRules.standard.reset.matchesIn (Bytes.ofString "rising_edge( clk )")) ∧
    Token.agreeIn (levelTest "/* not rising_edge */ ") (levelTest "") = true ∧
      (Tree.parse "design.vhd" (levelTest "/* not rising_edge */ ")).toOption.any (infers 5 true
        [.ofRule .missingReset "design.vhd" (Bytes.ofString "Reset 'q' missing")
          ⟨⟨3, 0⟩, ⟨3, Coordinate.endOfLine⟩⟩]) = true ∧
      (Tree.parse "design.vhd" (levelTest "")).toOption.any (infers 5 false []) = true := by
  refine ⟨⟨?_, ?_, ?_, ?_, ?_⟩, ?_, ?_, ?_⟩ <;> decide +kernel

theorem analyzed_alike_clocked :
    ∃ (tokens tokens' : List Token) (t t' : Tree), tokenize clockedLine = .ok tokens ∧
      tokenize clockedLines = .ok tokens' ∧ Token.Agree tokens tokens' ∧
      Tree.parse "a.vhd" clockedLine = .ok t ∧ Tree.parse "a.vhd" clockedLines = .ok t' ∧
      ConditionsAlike .standard t t' 2 ∧
      (t.facts .standard : Facts (Except Fault)).isRegisterProcess 2 = (t'.facts .standard).isRegisterProcess 2 ∧
      (Subject.alone t).FindingsAlike (.ofLayouts "a.vhd" tokens tokens') (.alone t')
        (checkUndeclared (t.facts .standard) (.alone t)) (checkUndeclared (t'.facts .standard) (.alone t')) := by
  obtain ⟨⟨same, first, second, clock, reset⟩, _⟩ := layouts_made
  obtain ⟨tokens, tokens', lexed, lexed', agree⟩ := Token.exists_agree same
  obtain ⟨t, parsed, condition⟩ := exists_ok_of_any first
  obtain ⟨t', parsed', condition'⟩ := exists_ok_of_any second
  have conditions : ConditionsAlike .standard t t' 2 := by
    have matched : List.Forall₂ (fun x y => InferenceRules.standard.clock.matchesIn x =
          InferenceRules.standard.clock.matchesIn y ∧
        InferenceRules.standard.reset.matchesIn x = InferenceRules.standard.reset.matchesIn y)
        ((t.topClauses (t.processStatements 2)).map IfClause.conditionText)
        ((t'.topClauses (t'.processStatements 2)).map IfClause.conditionText) := by
      rw [of_decide_eq_true condition, of_decide_eq_true condition']
      exact .cons ⟨clock, reset⟩ .nil
    exact List.forall₂_map_left_iff.mp (List.forall₂_map_right_iff.mp matched)
  rcases analyzed_alike "a.vhd" lexed lexed' agree with ⟨u, u', read, read', outline, alike⟩ |
    ⟨_, _, _, _, refused, _⟩ | ⟨_, refused, _⟩
  · cases parsed.symm.trans read
    cases parsed'.symm.trans read'
    have library : t.library = t'.library :=
      show (t.outline .layout).library = (t'.outline .layout).library from congrArg Tree.library outline
    have design : (Subject.alone t).design.outline .layout = (Subject.alone t').design.outline .layout := by
      simp only [Subject.alone, Design.outline, List.map_toArray, List.map_cons, List.map_nil, outline]
    obtain ⟨registers, undeclared, _⟩ := alike .standard t.library (.alone t) (.alone t') rfl
      (by rw [library]; rfl) design rfl rfl rfl
    exact ⟨tokens, tokens', t, t', lexed, lexed', agree, parsed, parsed', conditions, (registers 2 conditions).1,
      undeclared⟩
  · rw [parsed] at refused
    contradiction
  · rw [parsed] at refused
    contradiction

/-- A comment inside a condition decides whether a process is taken for a register process. -/
theorem comment_makes_register :
    ∃ (tokens tokens' : List Token) (t t' : Tree),
      tokenize (levelTest "/* not rising_edge */ ") = .ok tokens ∧ tokenize (levelTest "") = .ok tokens' ∧
      Token.Agree tokens tokens' ∧
      Tree.parse "design.vhd" (levelTest "/* not rising_edge */ ") = .ok t ∧
      Tree.parse "design.vhd" (levelTest "") = .ok t' ∧
      (t.facts .standard : Facts (Except Fault)).isRegisterProcess 5 = .ok true ∧
      (t'.facts .standard : Facts (Except Fault)).isRegisterProcess 5 = .ok false ∧
      checkAll (t.facts .standard) (.alone t) = (.ok [.ofRule .missingReset "design.vhd"
        (Bytes.ofString "Reset 'q' missing") ⟨⟨3, 0⟩, ⟨3, Coordinate.endOfLine⟩⟩] : Except Fault _) ∧
      checkAll (t'.facts .standard) (.alone t') = (.ok [] : Except Fault _) := by
  obtain ⟨_, same, first, second⟩ := layouts_made
  obtain ⟨tokens, tokens', lexed, lexed', agree⟩ := Token.exists_agree same
  obtain ⟨t, parsed, found⟩ := exists_ok_of_any first
  obtain ⟨t', parsed', found'⟩ := exists_ok_of_any second
  obtain ⟨register, missing⟩ := of_decide_eq_true found
  obtain ⟨plain, nothing⟩ := of_decide_eq_true found'
  exact ⟨tokens, tokens', t, t', lexed, lexed', agree, parsed, parsed', register, plain, missing, nothing⟩

end Lint
end DesignLint
