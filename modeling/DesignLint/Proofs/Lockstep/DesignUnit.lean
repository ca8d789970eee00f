import DesignLint.Proofs.Lockstep.Statement
import DesignLint.Proofs.Parse.Outcome

/-! Design units and whole files in lockstep. Two texts whose tokens stand for each other have trees of the same
outline, or are refused at the same token for the same reason. -/
namespace DesignLint
namespace Reader

variable {r : Pairing}

theorem libraryClause_alike : Alike r Eq libraryClause libraryClause := by
  refine (skip_alike _).eq_bind fun _ => nameList_alike.bind fun names names' twins => ?_
  refine Alike.eq_bind (.modify fun s s' states => ?_) fun _ => skip_alike _
  rw [Token.Twin.map_word_eq twins, states.libraryNames]
  refine ⟨states.rest, states.lastStop, ⟨states.tree.path_eq, ?_, states.tree.beside, states.tree.libraries⟩, rfl⟩
  have outline (t : Tree) (more : List Bytes) :
      ({ t with libraries := t.libraries ++ more } : Tree).outline r.toLikeness =
        { t.outline r.toLikeness with
          libraries := (t.outline r.toLikeness).libraries ++ more.map r.name } := by
    simp [Tree.outline]
  rw [outline, outline, Token.Twin.map_name_eq twins, states.tree.outline]

theorem furtherContexts_alike : Alike r Eq furtherContexts furtherContexts := by
  refine .eq_loop (fun _ => (accept_alike _).eq_bind fun _ => .cond ?_ (.pure rfl)) _
  exact selectedName_alike.discard_bind (.pure rfl)

theorem contextItems_alike : Alike r Eq contextItems contextItems := by
  refine .eq_loop (fun _ => (sees_alike _).eq_bind fun _ => .cond (.pure rfl) ?_) _
  refine atEnd_alike.eq_bind fun _ => .cond (fail_alike _) ?_
  refine (sees_alike _).eq_bind fun _ => .cond (.eq_bind libraryClause_alike fun _ => .pure rfl) ?_
  exact (skipPast_alike _).eq_bind fun _ => .pure rfl

theorem contextClause_alike : Alike r Eq contextClause contextClause := by
  refine (skip_alike _).eq_bind fun _ => selectedName_alike.discard_bind (furtherContexts_alike.eq_bind fun _ => ?_)
  refine (accept_alike _).eq_bind fun _ => .cond (.pure rfl) ?_
  exact (skip_alike _).eq_bind fun _ => .eq_bind contextItems_alike fun _ => endOf_alike _

/-- Both sides have, or have not, read a unit of the kind before. -/
theorem refuseSecond_alike {unit : Tree → Option NodeId} (outlined : ∀ t, unit (t.outline r.toLikeness) = unit t)
    {start start' : Token} (twin : start.Twin r start') (units : String) :
    Alike r Eq (refuseSecond unit start units) (refuseSecond unit start' units) := by
  refine Alike.get.bind fun s s' states => .ite ?_ (.throw (.unexpected twin fun _ => rfl)) (.pure rfl)
  rw [← outlined s.tree, states.tree.outline, outlined]

theorem entityRest_alike {n n' : Token} (twin : n.Twin r n') : Alike r Eq (entityRest n) (entityRest n') := by
  refine .eq_loop (fun _ => (sees_alike _).eq_bind fun _ => .cond (.pure rfl) ?_) _
  refine atEnd_alike.eq_bind fun _ => .cond (failWith_alike fun spelt => by rw [twin.name_eq.eq spelt]) ?_
  refine (accept_alike _).eq_bind fun _ => .cond (.pure rfl) ?_
  exact (skipPast_alike _).eq_bind fun _ => .pure rfl

theorem entity_alike : Alike r Eq entity entity := by
  refine (expect_alike _).bind fun _ _ start => (refuseSecond_alike (fun _ => rfl) start _).eq_bind fun _ => ?_
  refine (begin_alike 0 start _ (by rfl) (by trivial)).eq_bind fun id => ?_
  refine (modifyTree_alike (by intro _; rfl) (by intro _; rfl) (by intro _; rfl)).eq_bind fun _ => ?_
  refine name_alike.bind fun _ _ twin => (skip_alike _).eq_bind fun _ => (interfaceClauses_alike id).eq_bind fun _ => ?_
  refine (entityRest_alike twin).eq_bind fun _ => (endOf_alike _).eq_bind fun _ => complete_alike id ?_ (by rfl) (by trivial)
  rw [Construct.outline, Construct.outline, Interface.outline, Interface.outline, twin.name_eq]

theorem architecture_alike : Alike r Eq architecture architecture := by
  refine (expect_alike _).bind fun _ _ start => (refuseSecond_alike (fun _ => rfl) start _).eq_bind fun _ => ?_
  refine (begin_alike 0 start _ (by rfl) (by trivial)).eq_bind fun id => ?_
  refine (modifyTree_alike (by intro _; rfl) (by intro _; rfl) (by intro _; rfl)).eq_bind fun _ => ?_
  refine name_alike.bind fun _ _ twin => (skip_alike _).eq_bind fun _ => name_alike.bind fun _ _ unit => ?_
  refine (skip_alike _).eq_bind fun _ => (declarations_alike id false).eq_bind fun _ => (skip_alike _).eq_bind fun _ => ?_
  refine (concurrentStatements_alike id _).eq_bind fun _ => (endOf_alike _).eq_bind fun _ => complete_alike id ?_ (by rfl) (by trivial)
  rw [Construct.outline, Construct.outline, Architecture.outline, Architecture.outline, twin.name_eq, unit.name_eq]

theorem packageDeclarations_alike {start start' n n' : Token} (twin : start.Twin r start') (name : n.Twin r n')
    (isBody : Bool) : Alike r Eq (packageDeclarations start n isBody) (packageDeclarations start' n' isBody) := by
  have outline (constants signals types functions components : List NodeId) :
      (Construct.package ⟨n.text, constants, signals, types, functions, components⟩).outline r.toLikeness =
        (Construct.package ⟨n'.text, constants, signals, types, functions, components⟩).outline r.toLikeness := by
    rw [Construct.outline, Construct.outline, Package.outline, Package.outline, name.name_eq]
  have begins : Alike r Eq (begin 0 start (.package { name := n.text })) (begin 0 start' (.package { name := n'.text })) :=
    attach_alike 0 twin (outline _ _ _ _ _) twin.offset_eq (fun occurrence => absurd occurrence Bool.false_ne_true) trivial
  refine (refuseSecond_alike ?_ twin _).eq_bind fun _ => begins.eq_bind fun id => ?_
  · cases isBody <;> exact fun _ => rfl
  refine (modifyTree_alike ?_ ?_ ?_).eq_bind fun _ => ?_
  · cases isBody <;> exact fun _ => rfl
  · cases isBody <;> exact fun _ => rfl
  · cases isBody <;> exact fun _ => rfl
  refine (ifAccepted_alike _ rfl (skipPast_alike _)).eq_bind fun _ => (declarations_alike id false).eq_bind fun _ => ?_
  exact (endOf_alike _).eq_bind fun _ => complete_alike id (outline _ _ _ _ _) rfl trivial

theorem package_alike : Alike r Eq package package := by
  refine (expect_alike _).bind fun _ _ start => (accept_alike _).eq_bind fun isBody => name_alike.bind fun _ _ twin => ?_
  refine (skip_alike _).eq_bind fun _ => (sees_alike _).eq_bind fun _ => .cond (skipPast_alike _) ?_
  exact packageDeclarations_alike start twin isBody

theorem configuration_alike : Alike r Eq configuration configuration := by
  refine (skip_alike _).eq_bind fun _ => name_alike.discard_bind ((skip_alike _).eq_bind fun _ => ?_)
  refine name_alike.discard_bind ((skip_alike _).eq_bind fun _ => ?_)
  refine Alike.eq_bind (.eq_loop (fun depth => atEnd_alike.eq_bind fun _ => .cond (fail_alike _) ?_) _) fun _ =>
    endOf_alike _
  refine (sees_alike _).eq_bind fun _ => (seesSecond_alike _).eq_bind fun _ => .cond ?_ (.cond (.pure rfl) ?_)
  · exact next_alike.discard_bind (next_alike.discard_bind (.pure rfl))
  · exact next_alike.bind fun _ _ twin => .ite (by rw [twin.word_eq]) (.pure rfl) (.pure rfl)

theorem designUnit_alike : Alike r Eq designUnit designUnit :=
  (sees_alike _).eq_bind fun _ => .cond libraryClause_alike <|
    (sees_alike _).eq_bind fun _ => .cond (useClause_alike 0) <|
    (sees_alike _).eq_bind fun _ => .cond contextClause_alike <|
    (sees_alike _).eq_bind fun _ => .cond entity_alike <|
    (sees_alike _).eq_bind fun _ => .cond architecture_alike <|
    (sees_alike _).eq_bind fun _ => .cond package_alike <|
    (sees_alike _).eq_bind fun _ => .cond configuration_alike (failAtPeek_alike _)

theorem designFile_alike : Alike r Eq designFile designFile := by
  refine .eq_loop (fun _ => atEnd_alike.eq_bind fun _ => .cond (.pure rfl) ?_) _
  exact designUnit_alike.eq_bind fun _ => .pure rfl

end Reader

variable {path : String} {text text' : Bytes} {tokens tokens' : List Token} {t : Tree}

namespace Tree

/-- Setting the library of both files keeps them twins. -/
theorem Twin.inLibrary {r : Pairing} {t t' : Tree} (twin : t.Twin r t') (library : Bytes) :
    Twin r { t with library } { t' with library } where
  path_eq := twin.path_eq
  outline := congrArg (fun t : Tree => ({ t with library } : Tree)) twin.outline
  beside := twin.beside
  libraries := twin.libraries

theorem read_agree {r : Pairing} (texts : r.SourceTwin text text')
    (twins : List.Forall₂ (Token.Twin r) tokens tokens') :
    Reader.Agree r Eq (read r.path text tokens) (read r.path text' tokens') := by
  refine Reader.designFile_alike _ _ ⟨twins, rfl, ⟨rfl, ?_, ?_, ?_⟩, rfl⟩
  · have same : r.source text = r.source text' := texts
    simp [outline, ofText, Node.outline, same, texts.place_length]
  · -- The only node so far is the file.
    intro id n n' known _ child
    cases id with
    | zero =>
      cases known
      cases child
    | succ id => cases known
  · intro id c known
    cases id with
    | zero =>
      cases known
      trivial
    | succ id => cases known

theorem read_not_spurious (path : String) (tokensOf : TokensOf text tokens) {fault : ReadFault}
    (run : read path text tokens = .error fault) : ¬fault.Spurious := by
  rcases read_cases path tokensOf with ⟨s, ended, _⟩ | ⟨offset, reason, ended, _⟩ | ⟨t, id, ended, _⟩
  · rw [ended] at run
    contradiction
  · rw [ended] at run
    cases run
    exact fun spurious => spurious
  · rw [ended] at run
    cases run
    exact fun spurious => spurious

/-- Two texts whose tokens stand for each other are both read or both refused, at the same token or for the same
parent that is too deep. -/
theorem parse_alike {r : Pairing} (texts : r.SourceTwin text text') (lexed : tokenize text = .ok tokens)
    (lexed' : tokenize text' = .ok tokens') (twins : List.Forall₂ (Token.Twin r) tokens tokens') :
    (∃ t t', parse r.path text = .ok t ∧ parse r.path text' = .ok t' ∧ t.Twin r t') ∨
      (∃ (u u' : Token) (reason reason' : Bytes), u.Twin r u' ∧ (r.anyCase = false → reason = reason') ∧
        parse r.path text = .error (.format (formatError r.path text u.offset reason)) ∧
        parse r.path text' = .error (.format (formatError r.path text' u'.offset reason'))) ∨
      ∃ fault, parse r.path text = .error (.tree (.tree fault)) ∧
        parse r.path text' = .error (.tree (.tree fault)) := by
  have sound : ∀ fault, read r.path text tokens = .error fault → ¬fault.Spurious :=
    fun _ run => read_not_spurious r.path (tokenize_tokensOf lexed) run
  have sound' : ∀ fault, read r.path text' tokens' = .error fault → ¬fault.Spurious :=
    fun _ run => read_not_spurious r.path (tokenize_tokensOf lexed') run
  have run : Reader.Agree r Eq (read r.path text tokens) (read r.path text' tokens') := read_agree texts twins
  simp only [parse, lexed, lexed']
  generalize read r.path text tokens = x, read r.path text' tokens' = y at run sound sound'
  cases run with
  | ok _ states => exact .inl ⟨_, _, rfl, rfl, states.tree⟩
  | error twin =>
    cases twin with
    | unexpected twin reason => exact .inr (.inl ⟨_, _, _, _, twin, reason, rfl, rfl⟩)
    | tree t t' fault => exact .inr (.inr ⟨fault, rfl, rfl⟩)
  | left spurious => exact absurd spurious (sound _ rfl)
  | right _ spurious => exact absurd spurious (sound' _ rfl)

/-- A text stands beside itself. What every pair of runs keeps, a single run keeps too: the file has the path it was
read from, and its use clauses name their libraries. -/
theorem twin_self (parsed : parse path text = .ok t) : t.Twin ⟨⟨false, true⟩, path, Eq⟩ t := by
  cases lexed : tokenize text with
  | error fault =>
    simp only [parse, lexed] at parsed
    contradiction
  | ok tokens =>
    have tokensOf := tokenize_tokensOf lexed
    have twins : List.Forall₂ (Token.Twin ⟨⟨false, true⟩, path, Eq⟩) tokens tokens :=
      List.forall₂_same.mpr fun u member => ⟨rfl, rfl, rfl, rfl, rfl, tokensOf.named u member⟩
    rcases parse_alike rfl lexed lexed twins with ⟨u, u', read, read', twin⟩ | ⟨_, _, _, _, _, _, refused, _⟩ |
      ⟨_, refused, _⟩
    · cases parsed.symm.trans read
      cases parsed.symm.trans read'
      exact twin
    · cases parsed.symm.trans refused
    · cases parsed.symm.trans refused

theorem path_of_parse (parsed : parse path text = .ok t) : t.path = path := (twin_self parsed).path_eq

theorem namesLibrary_of_parse (parsed : parse path text = .ok t) {id : Nat} {c : Construct}
    (known : t.construct? id = some c) : c.NamesLibrary :=
  (twin_self parsed).libraries id c known

end Tree
end DesignLint
