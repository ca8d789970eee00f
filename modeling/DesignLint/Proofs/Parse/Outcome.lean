import DesignLint.Proofs.Token.Lossless
import DesignLint.Proofs.Reader.DesignUnit
import DesignLint.Proofs.Tree.WellFormed

/-! What the parsing of a text comes to. A text has a tree, or it fails at a place inside it, or a parent is too
deep for another node; nothing else can go wrong, and every tree is well formed. -/
namespace DesignLint.Tree

variable {path : String} {text : Bytes} {tokens : List Token} {t : Tree}

/-- The three things that the reading of tokens can end in. -/
theorem read_cases (path : String) (tokensOf : TokensOf text tokens) :
    (∃ s, read path text tokens = .ok ((), s) ∧
        Units text tokens { rest := tokens, tree := Tree.ofText path text } s) ∨
      (∃ offset reason, read path text tokens = .error (.unexpected offset reason) ∧ offset ≤ text.length) ∨
      ∃ t id, read path text tokens = .error (.tree t (.tree (.longChain id))) ∧ t.Rooted ∧ id < t.nodes.size ∧
        maxDepth < t.depth id := by
  have ends := read_ends path tokensOf
  unfold Reader.Ends at ends
  split at ends
  · rename_i s run
    exact .inl ⟨s, run, ends⟩
  · rename_i fault run
    match fault, ends with
    | .unexpected offset reason, ⟨_, lexed, complains⟩ =>
      exact .inr (.inl ⟨offset, reason, run, complains.offset_le lexed⟩)
    | .tree t (.tree (.longChain id)), deep => exact .inr (.inr ⟨t, id, run, deep⟩)

/-- The tree of a text is what reading its tokens has left. -/
theorem units_of_parse (parsed : parse path text = .ok t) :
    ∃ tokens s, tokenize text = .ok tokens ∧ s.tree = t ∧
      Units text tokens { rest := tokens, tree := Tree.ofText path text } s := by
  unfold parse at parsed
  split at parsed
  · contradiction
  · rename_i tokens lexed
    rcases read_cases path (tokenize_tokensOf lexed) with ⟨s, run, units⟩ | ⟨_, _, run, _⟩ | ⟨_, _, run, _⟩
    · rw [run] at parsed
      cases parsed
      exact ⟨tokens, s, lexed, rfl, units⟩
    · rw [run] at parsed
      contradiction
    · rw [run] at parsed
      contradiction

/-- At the start the file holds no unit. -/
theorem unitParts_ofText (path : String) (text : Bytes) : (Tree.ofText path text).unitParts = [] := rfl

theorem wellFormed_of_parse (parsed : parse path text = .ok t) : t.WellFormed ∧ t.text = text := by
  obtain ⟨tokens, s, _, rfl, units⟩ := units_of_parse parsed
  obtain ⟨parts, grows, entered⟩ := units.grows
  refine ⟨⟨units.ready.rooted, units.ready.shallow, ?_, ?_, ?_⟩, units.ready.text_eq⟩
  · exact grows.construct?_old 0 Nat.one_pos
  · exact fun id positive lt => grows.drawn id positive lt
  · intro a known
    have unit : (Role.architecture, a) ∈ s.tree.unitParts := by simp [Tree.unitParts, Part.all, known]
    rw [entered, unitParts_ofText] at unit
    obtain ⟨new, _⟩ := unit.resolve_left List.not_mem_nil
    rw [← grows.added_eq] at new
    exact (mem_partsFrom.mp new).2.2

/-- A parent that is too deep takes no node, whatever is to be added. -/
theorem Rooted.attach_error (rooted : t.Rooted) {id : Nat} (deep : maxDepth < t.depth id) (start stop : Int)
    (c : Construct) : t.attach id start stop c = .error (.tree (.longChain id)) := by
  rw [attach, rooted.checkRoot_error deep]

/-- Parsing ends in a tree, in an error at a place of the text, or in the refusal of a node below a parent
that is deeper than a walk may go. No token or byte outside the text is asked for, no range is refused, and
no loop goes on without reading. -/
theorem parse_outcome (path : String) (text : Bytes) :
    ((∃ t, parse path text = .ok t) ∨
      (∃ e, parse path text = .error (.format e) ∧ e.path = path ∧ e.offset ≤ text.length ∧
        e.coordinate = Coordinate.ofOffset text e.offset) ∨
      ∃ tokens t id, tokenize text = .ok tokens ∧
        read path text tokens = .error (.tree t (.tree (.longChain id))) ∧
        parse path text = .error (.tree (.tree (.longChain id))) ∧
        id < t.nodes.size ∧ maxDepth < t.depth id ∧
        ∀ start stop c, t.attach id start stop c = .error (.tree (.longChain id))) ∧
    parse path text ≠ .error .outside ∧ parse path text ≠ .error .stalled ∧
      ∀ fault, parse path text ≠ .error (.tree (.range fault)) := by
  cases lexed : tokenize text with
  | error fault =>
    have failed : parse path text =
        .error (.format (formatError path text fault.offset (Bytes.ofString fault.message))) := by
      simp only [parse, lexed]
    refine ⟨.inr (.inl ⟨_, failed, rfl, tokenize_fault_le lexed, rfl⟩), ?_⟩
    simp [failed]
  | ok tokens =>
    rcases read_cases path (tokenize_tokensOf lexed) with
      ⟨s, run, _⟩ | ⟨offset, reason, run, inside⟩ | ⟨t, id, run, rooted, exists_, deep⟩
    · have parsed : parse path text = .ok s.tree := by simp only [parse, lexed, run]
      refine ⟨.inl ⟨s.tree, parsed⟩, ?_⟩
      simp [parsed]
    · have failed : parse path text = .error (.format (formatError path text offset reason)) := by
        simp only [parse, lexed, run]
      refine ⟨.inr (.inl ⟨_, failed, rfl, inside, rfl⟩), ?_⟩
      simp [failed]
    · have failed : parse path text = .error (.tree (.tree (.longChain id))) := by
        simp only [parse, lexed, run]
      refine ⟨.inr (.inr ⟨tokens, t, id, rfl, run, failed, exists_, deep, rooted.attach_error deep⟩), ?_⟩
      simp [failed]

/-- Where the reading of tokens ends at a place, the message complains about it. -/
theorem read_complains {offset : Nat} {reason : Bytes} (path : String) (lexed : tokenize text = .ok tokens)
    (run : read path text tokens = .error (.unexpected offset reason)) : Complains tokens offset reason := by
  have ends := read_ends path (tokenize_tokensOf lexed)
  unfold Reader.Ends at ends
  split at ends
  · rename_i ok
    cases run.symm.trans ok
  · rename_i fault error
    cases run.symm.trans error
    obtain ⟨tokens', lexed', complains⟩ := ends
    rw [lexed] at lexed'
    cases lexed'
    exact complains

/-- A message that ends in the name of a token that was found is about the place of a token of that name, and about the end of
the text if it was found. But where an enumeration literal or the name of a subprogram is expected, the token has been read
and the message is about the place of the next one. -/
theorem parse_points {e : FormatError} {lead : Bytes} {u : Token} (failed : parse path text = .error (.format e))
    (ends : e.reason = lead ++ u.found) :
    e.coordinate = Coordinate.ofOffset text e.offset ∧ (u.kind = .endOfText → e.offset = text.length) ∧
      ∃ tokens what t, tokenize text = .ok tokens ∧ e.reason = t.unlike what ∧ t.describe = u.describe ∧
        (t ∈ tokens ∧ e.offset = t.offset ∨
          what ∈ lateWords ∧ ∃ before next after, tokens = before ++ t :: next :: after ∧ e.offset = next.offset) := by
  unfold parse at failed
  split at failed
  · rename_i fault lexed
    cases failed
    exact absurd ends (fault.namesNothing lead u)
  · rename_i tokens lexed
    split at failed
    · contradiction
    · rename_i offset reason run
      cases failed
      simp only [formatError] at ends
      have same {t : Token} {what : String} (known : reason = t.unlike what) : t.describe = u.describe := by
        rw [known, t.unlike_eq] at ends
        exact Token.found_unique ends
      cases read_complains path lexed run with
      | @here t what member =>
        refine ⟨rfl, fun last => ?_, tokens, what, t, lexed, rfl, same rfl, .inl ⟨member, rfl⟩⟩
        have closing := (Ready.ofTokens path (tokenize_tokensOf lexed)).eq_endOfText member
          (Token.endOfText_of_describe (same rfl) last)
        rw [closing]
        rfl
      | @late what before after t next known significant split =>
        refine ⟨rfl, fun last => ?_, tokens, what, t, lexed, rfl, same rfl, .inr ⟨known, before, next, after, split, rfl⟩⟩
        exact absurd (Token.endOfText_of_describe (same rfl) last) significant
      | plain member plain => exact absurd ends (plain lead u)
    all_goals cases failed

/-- A numeral where the first literal of an enumeration is expected. -/
def numeralLiteral : Bytes := Bytes.ofString "package p is\ntype t is (5, a);\nend;\n"

def numeral : Token := .ofText .number (Bytes.ofString "5") 24

/-- The message names the numeral, which stands at 24, and is about the place of the comma behind it. -/
theorem numeralLiteral_points : ∃ e tokens what t, parse "design.vhd" numeralLiteral = .error (.format e) ∧
    tokenize numeralLiteral = .ok tokens ∧ (∃ found ∈ tokens, found.offset = 24 ∧ found.describe = numeral.describe) ∧
    e.offset = 25 ∧ e.coordinate = Coordinate.ofOffset numeralLiteral 25 ∧ e.reason = t.unlike what ∧
    t.describe = numeral.describe ∧ (t ∈ tokens ∧ 25 = t.offset ∨
      what ∈ lateWords ∧ ∃ before next after, tokens = before ++ t :: next :: after ∧ 25 = next.offset) := by
  have lists : (tokenize numeralLiteral).toOption.any (fun tokens => decide (∃ found ∈ tokens, found.offset = 24 ∧
      found.describe = numeral.describe)) = true := by
    rw [numeralLiteral, Bytes.ofString_ofList]
    decide +kernel
  have fails : (match parse "design.vhd" numeralLiteral with
      | .error (.format e) => decide (e.reason = numeral.unlike "enumeration literal" ∧ e.offset = 25)
      | _ => false) = true := by
    rw [numeralLiteral, Bytes.ofString_ofList]
    decide +kernel
  split at fails
  · rename_i e failed
    obtain ⟨reason, offset⟩ := of_decide_eq_true fails
    have ends := reason.trans (numeral.unlike_eq _)
    obtain ⟨coordinate, _, tokens, what, t, lexed, worded, same, place⟩ := parse_points failed ends
    rw [lexed] at lists
    rw [offset] at coordinate place
    exact ⟨e, tokens, what, t, failed, lexed, of_decide_eq_true lists, offset, coordinate, worded, same, place⟩
  · contradiction

end DesignLint.Tree
