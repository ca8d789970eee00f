import DesignLint.Proofs.Lockstep.Declaration

/-! Statements in lockstep, sequential and concurrent ones. Both sides see the same labels, as far as labels are
compared. -/
namespace DesignLint.Reader

variable {r : Pairing} {start start' : Token} {label label' : Bytes}

/-- A reader of statements that reads alike below every parent. -/
def BlockAlike (r : Pairing) (block : BlockReader) : Prop :=
  ∀ parent, Alike r Eq (block parent) (block parent)

/-- Every reader that ends with a completed node ends this way. -/
theorem completed_alike (id : NodeId) {c c' : Construct} (same : c.outline r.toLikeness = c'.outline r.toLikeness)
    (compound : c.isOccurrence = false) (library : c.NamesLibrary) :
    Alike r Eq (do complete id c; return id) (do complete id c'; return id) :=
  (complete_alike id same compound library).eq_bind fun _ => .pure rfl

theorem outline_assignment (labels : r.NameTwin label label') (isVariable : Bool) (writes reads : List NodeId) :
    (Construct.assignment ⟨label, isVariable, writes, reads⟩).outline r.toLikeness =
      (Construct.assignment ⟨label', isVariable, writes, reads⟩).outline r.toLikeness := by
  rw [Construct.outline, Construct.outline, Assignment.outline, Assignment.outline, labels]

theorem outline_generate (labels : r.NameTwin label label') (kind : GenerateKind) {iterator iterator' : Bytes}
    (iterators : r.NameTwin iterator iterator') (bounds condition : List NodeId) (body : Body) :
    (Construct.generate ⟨label, kind, iterator, bounds, condition, body⟩).outline r.toLikeness =
      (Construct.generate ⟨label', kind, iterator', bounds, condition, body⟩).outline r.toLikeness := by
  rw [Construct.outline, Construct.outline, Generate.outline, Generate.outline, labels, iterators]

theorem ifClause_alike {block : BlockReader} (inner : BlockAlike r block) (parent : NodeId)
    (word : start.Twin r start') : Alike r Eq (ifClause block parent start) (ifClause block parent start') := by
  refine (begin_alike parent word _ (by rfl) (by trivial)).eq_bind fun id => (phraseUpTo_alike _).bind fun p q twin => ?_
  refine (reads_alike id twin).eq_bind fun condition => (textOf_alike twin).bind fun text text' texts => ?_
  refine (skip_alike _).eq_bind fun _ => (inner id).eq_bind fun body => ?_
  have same : (Construct.ifClause ⟨condition, text, body⟩).outline r.toLikeness =
      (Construct.ifClause ⟨condition, text', body⟩).outline r.toLikeness := by
    rw [Construct.outline, Construct.outline, IfClause.outline, IfClause.outline, texts]
  have closed := become_endTrimmed_alike id same rfl trivial
  simp only [← bind_assoc] at closed ⊢
  exact closed.eq_bind fun _ => .pure rfl

theorem ifStatement_alike {block : BlockReader} (inner : BlockAlike r block) (parent : NodeId)
    (twin : start.Twin r start') (labels : r.NameTwin label label') :
    Alike r Eq (ifStatement block parent start label) (ifStatement block parent start' label') := by
  refine (begin_alike parent twin _ (by rfl) (by trivial)).eq_bind fun id => (expect_alike _).bind fun word word' words => ?_
  refine Alike.eq_bind (.loop (ItemTwin r) ?_ ⟨words, rfl⟩) fun clauses => ?_
  · rintro ⟨word, clauses⟩ ⟨word', clauses'⟩ ⟨words, rfl⟩
    refine (ifClause_alike inner id words).eq_bind fun clause => (sees_alike _).eq_bind fun _ => .cond ?_ ?_
    · exact next_alike.bind fun _ _ words => .pure (.again ⟨words, rfl⟩)
    · exact .pure (.done rfl)
  · refine (ifAccepted_alike _ rfl (inner id)).eq_bind fun otherwise => (endOf_alike _).eq_bind fun _ => ?_
    refine completed_alike id ?_ (by rfl) (by trivial)
    rw [Construct.outline, Construct.outline, IfStatement.outline, IfStatement.outline, labels]

theorem caseArm_alike {block : BlockReader} (inner : BlockAlike r block) (parent : NodeId) :
    Alike r Eq (caseArm block parent) (caseArm block parent) := by
  refine next_alike.bind fun _ _ word => (begin_alike parent word _ (by rfl) (by trivial)).eq_bind fun id => ?_
  refine (expression_alike id _).eq_bind fun _ => (skip_alike _).eq_bind fun _ => (inner id).eq_bind fun _ => ?_
  exact completed_alike id rfl rfl trivial

theorem caseStatement_alike {block : BlockReader} (inner : BlockAlike r block) (parent : NodeId)
    (twin : start.Twin r start') (labels : r.NameTwin label label') :
    Alike r Eq (caseStatement block parent start label) (caseStatement block parent start' label') := by
  refine (begin_alike parent twin _ (by rfl) (by trivial)).eq_bind fun id => (skip_alike _).eq_bind fun _ => ?_
  refine (accept_alike _).discard_bind ((expression_alike id _).eq_bind fun _ => (skip_alike _).eq_bind fun _ => ?_)
  refine Alike.eq_bind (.eq_loop (fun arms => ?_) _) fun _ => ?_
  · refine (sees_alike _).eq_bind fun _ => .cond ?_ (.pure rfl)
    exact (caseArm_alike inner id).eq_bind fun _ => .pure rfl
  · refine (skip_alike _).eq_bind fun _ => (skip_alike _).eq_bind fun _ => (accept_alike _).discard_bind ?_
    refine optionalName_alike.eq_bind fun _ => (skip_alike _).eq_bind fun _ => completed_alike id ?_ (by rfl) (by trivial)
    rw [Construct.outline, Construct.outline, CaseStatement.outline, CaseStatement.outline, labels]

theorem iteration_alike (id : NodeId) : Alike r (fun i j => r.NameTwin i.1 j.1 ∧ i.2 = j.2) (iteration id) (iteration id) := by
  refine (accept_alike _).eq_bind fun _ => .cond ?_ ?_
  · refine name_alike.bind fun _ _ twin => (skip_alike _).eq_bind fun _ => (expression_alike id _).eq_bind fun _ => ?_
    exact .pure ⟨twin.name_eq, rfl⟩
  · refine (accept_alike _).eq_bind fun _ => .cond ?_ (.pure ⟨rfl, rfl⟩)
    exact (expression_alike id _).eq_bind fun _ => .pure ⟨rfl, rfl⟩

theorem loopStatement_alike {block : BlockReader} (inner : BlockAlike r block) (parent : NodeId)
    (twin : start.Twin r start') (labels : r.NameTwin label label') :
    Alike r Eq (loopStatement block parent start label) (loopStatement block parent start' label') := by
  refine (begin_alike parent twin _ (by rfl) (by trivial)).eq_bind fun id => (iteration_alike id).bind ?_
  rintro ⟨iterator, bounds⟩ ⟨iterator', bounds'⟩ ⟨iterators, rfl⟩
  refine (skip_alike _).eq_bind fun _ => (inner id).eq_bind fun _ => (endOf_alike _).eq_bind fun _ => ?_
  refine completed_alike id ?_ (by rfl) (by trivial)
  rw [Construct.outline, Construct.outline, Loop.outline, Loop.outline, labels, iterators]

theorem optionalLoopName_alike : Alike r Eq optionalLoopName optionalLoopName :=
  seesName_alike.eq_bind fun _ => (seesSecond_alike _).eq_bind fun _ => .cond next_alike.discard (.pure rfl)

theorem exitStatement_alike (parent : NodeId) (twin : start.Twin r start') (labels : r.NameTwin label label') :
    Alike r Eq (exitStatement parent start label) (exitStatement parent start' label') := by
  refine (begin_alike parent twin _ (by rfl) (by trivial)).eq_bind fun id => next_alike.discard_bind ?_
  refine optionalLoopName_alike.eq_bind fun _ => ?_
  refine (ifAccepted_alike _ rfl (expression_alike id _)).eq_bind fun _ => (skip_alike _).eq_bind fun _ => ?_
  exact completed_alike id (outline_assignment labels _ _ _) rfl trivial

/-- The first token of a phrase, or the one after it. -/
theorem headD_word_eq {p q : Phrase} (twin : p.Twin r q) :
    (p.tokens.headD p.follow).word = (q.tokens.headD q.follow).word := by
  obtain ⟨tokens, follow⟩ := p
  obtain ⟨tokens', follow'⟩ := q
  cases twin.tokens with
  | nil => exact twin.follow.word_eq
  | cons first _ => exact first.word_eq

theorem simpleStatement_alike (parent : NodeId) (twin : start.Twin r start') (labels : r.NameTwin label label') :
    Alike r Eq (simpleStatement parent start label) (simpleStatement parent start' label') := by
  refine (begin_alike parent twin _ (by rfl) (by trivial)).eq_bind fun id => (accept_alike _).eq_bind fun _ => .cond ?_ ?_
  · exact (expression_alike id _).eq_bind fun _ => (skip_alike _).eq_bind fun _ => completed_alike id (outline_assignment labels _ _ _) rfl trivial
  refine (phraseUpTo_alike _).bind fun target target' same => (sees_alike _).eq_bind fun _ => .cond ?_ ?_
  · refine next_alike.bind fun _ _ sign => ?_
    rw [sign.word_eq, headD_word_eq same]
    refine (occurrences_alike id _ same).eq_bind fun _ => (expression_alike id _).eq_bind fun _ => ?_
    exact (skip_alike _).eq_bind fun _ => completed_alike id (outline_assignment labels _ _ _) rfl trivial
  · exact (reads_alike id same).eq_bind fun _ => (skip_alike _).eq_bind fun _ => completed_alike id (outline_assignment labels _ _ _) rfl trivial

theorem assignmentSign_alike : Alike r Eq assignmentSign assignmentSign :=
  (sees_alike _).eq_bind fun _ => (accept_alike _).eq_bind fun _ => .cond (.pure rfl) (failAtPeek_alike _)

theorem selectedAssignment_alike (parent : NodeId) (twin : start.Twin r start') (labels : r.NameTwin label label') :
    Alike r Eq (selectedAssignment parent start label) (selectedAssignment parent start' label') := by
  refine (begin_alike parent twin _ (by rfl) (by trivial)).eq_bind fun id => (skip_alike _).eq_bind fun _ => ?_
  refine (expression_alike id _).eq_bind fun _ => (skip_alike _).eq_bind fun _ => (accept_alike _).discard_bind ?_
  refine (phraseUpTo_alike _).bind fun _ _ target => assignmentSign_alike.eq_bind fun _ => ?_
  refine (occurrences_alike id _ target).eq_bind fun _ => (expression_alike id _).eq_bind fun _ => ?_
  exact (skip_alike _).eq_bind fun _ => completed_alike id (outline_assignment labels _ _ _) rfl trivial

theorem statementList_alike {statement : NodeId → Reader (Option NodeId)}
    (each : ∀ parent, Alike r Eq (statement parent) (statement parent)) : BlockAlike r (statementList statement) := by
  refine fun parent => .eq_loop (fun items => (sees_alike _).eq_bind fun _ => .cond (.pure rfl) ?_) _
  refine atEnd_alike.eq_bind fun _ => .cond (fail_alike _) ((each parent).eq_bind fun found => ?_)
  cases found with
  | some id => exact .pure rfl
  | none => exact .pure rfl

/-- Both sides run out of levels at the same parent. -/
theorem noLevels_alike {α : Type} (parent : NodeId) :
    Alike r (Eq : α → α → Prop) (do throw (.tree (← get).tree (.tree (.longChain parent))))
      (do throw (.tree (← get).tree (.tree (.longChain parent)))) :=
  Alike.get.bind fun s s' _ => .throw (.tree s.tree s'.tree _)

theorem statement_alike (levels : Nat) (parent : NodeId) :
    Alike r Eq (statement levels parent) (statement levels parent) := by
  induction levels generalizing parent with
  | zero => exact noLevels_alike parent
  | succ levels ih =>
    have inner := statementList_alike ih
    have kept {x y : Reader NodeId} (alike : Alike r Eq x y) :
        Alike r Eq (do return some (← x)) (do return some (← y)) := alike.eq_bind fun _ => .pure rfl
    refine peek_alike.bind fun _ _ start => label_alike.bind fun _ _ labels => ?_
    refine (sees_alike _).eq_bind fun _ => .cond (kept (ifStatement_alike inner parent start labels)) ?_
    refine (sees_alike _).eq_bind fun _ => .cond (kept (caseStatement_alike inner parent start labels)) ?_
    refine (sees_alike _).eq_bind fun _ => .cond (kept (loopStatement_alike inner parent start labels)) ?_
    refine (accept_alike _).eq_bind fun _ => .cond ((skip_alike _).eq_bind fun _ => .pure rfl) ?_
    refine (sees_alike _).eq_bind fun _ => .cond (kept (exitStatement_alike parent start labels)) ?_
    refine (sees_alike _).eq_bind fun _ => .cond (kept (selectedAssignment_alike parent start labels)) ?_
    exact kept (simpleStatement_alike parent start labels)

theorem statements_alike : BlockAlike r statements := statementList_alike (statement_alike _)

/-- A reader of concurrent statements that reads alike below every parent. -/
def BodyAlike (r : Pairing) (body : BodyReader) : Prop :=
  ∀ parent b, Alike r Eq (body parent b) (body parent b)

theorem bracketed_alike (id : NodeId) : Alike r Eq (bracketed id) (bracketed id) := by
  refine ifAccepted_alike _ rfl ((phrase_alike fun _ _ _ => rfl).bind fun _ _ twin => ?_)
  exact (reads_alike id twin).eq_bind fun _ => (skip_alike _).eq_bind fun _ => .pure rfl

theorem process_alike (parent : NodeId) (twin : start.Twin r start') (labels : r.NameTwin label label') :
    Alike r Eq (process parent start label) (process parent start' label') := by
  refine (begin_alike parent twin _ (by rfl) (by trivial)).eq_bind fun id => (accept_alike _).discard_bind ?_
  refine (skip_alike _).eq_bind fun _ => (bracketed_alike id).eq_bind fun _ => (accept_alike _).discard_bind ?_
  refine (declarations_alike id true).eq_bind fun _ => (skip_alike _).eq_bind fun _ => ?_
  refine (statements_alike id).eq_bind fun _ => (endOf_alike _).eq_bind fun _ => completed_alike id ?_ (by rfl) (by trivial)
  rw [Construct.outline, Construct.outline, Process.outline, Process.outline, labels]

/-- Both sides go back to where they were if there is no formal. -/
theorem formalPart_alike (id : NodeId) : Alike r Eq (formalPart id) (formalPart id) := by
  refine Alike.get.bind fun before before' saved => (phraseUpTo_alike _).bind fun _ _ twin => ?_
  refine (accept_alike _).eq_bind fun _ => .cond (reads_alike id twin) ?_
  refine Alike.eq_bind (.modify fun s s' states => ?_) fun _ => .pure rfl
  exact ⟨saved.rest, saved.lastStop, states.tree, states.libraryNames⟩

theorem association_alike (map : NodeId) : Alike r Eq (association map) (association map) := by
  refine peek_alike.bind fun _ _ start => (begin_alike map start _ (by rfl) (by trivial)).eq_bind fun id => ?_
  refine (formalPart_alike id).eq_bind fun formal => (accept_alike _).eq_bind fun _ => .cond (completed_alike id rfl rfl trivial) ?_
  refine (phraseUpTo_alike _).bind fun actual actual' twin => (reads_alike id twin).eq_bind fun _ => ?_
  rw [twin.isName_eq]
  exact (occurrences_alike id _ twin).eq_bind fun _ => completed_alike id rfl rfl trivial

theorem associationMap_alike (parent : NodeId) : Alike r Eq (associationMap parent) (associationMap parent) := by
  refine (expect_alike _).bind fun _ _ start => (begin_alike parent start _ (by rfl) (by trivial)).eq_bind fun id => ?_
  refine Alike.eq_bind (.eq_loop (fun mappings => ?_) _) fun _ => (skip_alike _).eq_bind fun _ => completed_alike id rfl rfl trivial
  refine (association_alike id).eq_bind fun _ => (accept_alike _).eq_bind fun _ => ?_
  exact .cond (.pure rfl) (.pure rfl)

theorem optionalMap_alike (word : String) (parent : NodeId) :
    Alike r Eq (optionalMap word parent) (optionalMap word parent) := by
  refine ifAccepted_alike _ rfl ((skip_alike _).eq_bind fun _ => ?_)
  exact (associationMap_alike parent).eq_bind fun _ => .pure rfl

theorem optionalArchitecture_alike : Alike r Eq optionalArchitecture optionalArchitecture :=
  ifAccepted_alike _ rfl (name_alike.discard_bind (skip_alike _))

/-- What two instantiations connect to. -/
def UnitTwin (r : Pairing) (u v : InstanceKind × Bytes × Bytes) : Prop :=
  u.1 = v.1 ∧ r.NameTwin u.2.1 v.2.1 ∧ r.NameTwin u.2.2 v.2.2

theorem instantiatedUnit_alike : Alike r (UnitTwin r) instantiatedUnit instantiatedUnit := by
  refine (accept_alike _).eq_bind fun _ => .cond ?_ ?_
  · refine selectedName_alike.bind fun parts parts' ⟨twins, _⟩ => optionalArchitecture_alike.eq_bind fun _ => .pure ?_
    refine ⟨rfl, ?_, nameTwin_getLastD twins⟩
    simp only [twins.length_eq]
    split
    · exact nameTwin_headD twins
    · rfl
  refine (accept_alike _).eq_bind fun _ => .cond ?_ ?_
  · exact selectedName_alike.bind fun parts parts' ⟨twins, _⟩ => .pure ⟨rfl, rfl, nameTwin_getLastD twins⟩
  · exact (accept_alike _).discard_bind (name_alike.bind fun _ _ twin => .pure ⟨rfl, rfl, twin.name_eq⟩)

theorem instantiation_alike (parent : NodeId) (twin : start.Twin r start') (labels : r.NameTwin label label') :
    Alike r Eq (instantiation parent start label) (instantiation parent start' label') := by
  refine (begin_alike parent twin _ (by rfl) (by trivial)).eq_bind fun id => instantiatedUnit_alike.bind ?_
  rintro ⟨kind, library, unit⟩ ⟨kind', library', unit'⟩ ⟨rfl, libraries, units⟩
  refine (optionalMap_alike _ id).eq_bind fun _ => (optionalMap_alike _ id).eq_bind fun _ => ?_
  refine (skip_alike _).eq_bind fun _ => completed_alike id ?_ (by rfl) (by trivial)
  rw [Construct.outline, Construct.outline, Instantiation.outline, Instantiation.outline, labels]
  simp only
  rw [libraries, units]

theorem generateDeclarations_alike (id : NodeId) :
    Alike r Eq (generateDeclarations id) (generateDeclarations id) := by
  refine (sees_alike _).eq_bind fun _ => .cond ?_ ((accept_alike _).discard_bind (.pure rfl))
  exact (declarations_alike id false).eq_bind fun _ => (skip_alike _).eq_bind fun _ => .pure rfl

theorem alternativeEnd_alike : Alike r Eq alternativeEnd alternativeEnd :=
  (sees_alike _).eq_bind fun _ => (seesSecond_alike _).eq_bind fun _ => .cond (endOf_alike _) (.pure rfl)

section

variable {body : BodyReader} (inner : BodyAlike r body)
include inner

theorem generateBody_alike (id : NodeId) : Alike r Eq (generateBody body id) (generateBody body id) :=
  (generateDeclarations_alike id).eq_bind fun declared => (inner id declared).eq_bind fun _ =>
    alternativeEnd_alike.eq_bind fun _ => .pure rfl

theorem forGenerate_alike (parent : NodeId) (twin : start.Twin r start') (labels : r.NameTwin label label') :
    Alike r Eq (forGenerate body parent start label) (forGenerate body parent start' label') := by
  refine (begin_alike parent twin _ (by rfl) (by trivial)).eq_bind fun id => (skip_alike _).eq_bind fun _ => ?_
  refine name_alike.bind fun _ _ same => (skip_alike _).eq_bind fun _ => (expression_alike id _).eq_bind fun _ => ?_
  refine (skip_alike _).eq_bind fun _ => (generateBody_alike inner id).eq_bind fun _ => ?_
  exact (endOf_alike _).eq_bind fun _ => completed_alike id (outline_generate labels _ same.name_eq _ _ _) rfl trivial

theorem generateBranch_alike (parent : NodeId) (twin : start.Twin r start') (labels : r.NameTwin label label')
    (conditional : Bool) :
    Alike r Eq (generateBranch body parent start label conditional)
      (generateBranch body parent start' label' conditional) := by
  have condition (id : NodeId) : Alike r Eq (branchCondition id conditional) (branchCondition id conditional) :=
    .cond (expression_alike id _) (.pure rfl)
  refine (begin_alike parent twin _ (by rfl) (by trivial)).eq_bind fun id => label_alike.discard_bind ?_
  refine (condition id).eq_bind fun _ => (skip_alike _).eq_bind fun _ => (generateBody_alike inner id).eq_bind fun _ => ?_
  exact completed_alike id (outline_generate labels _ rfl _ _ _) rfl trivial

theorem elseBranch_alike (parent : NodeId) (labels : r.NameTwin label label') :
    Alike r Eq (elseBranch body parent label) (elseBranch body parent label') := by
  refine (sees_alike _).eq_bind fun _ => .cond (next_alike.bind fun _ _ word => ?_) (.pure rfl)
  exact (generateBranch_alike inner parent word labels false).eq_bind fun _ => .pure rfl

theorem ifGenerate_alike (parent : NodeId) (twin : start.Twin r start') (labels : r.NameTwin label label') :
    Alike r Eq (ifGenerate body parent start label) (ifGenerate body parent start' label') := by
  refine (skip_alike _).eq_bind fun _ => (generateBranch_alike inner parent twin labels true).eq_bind fun first => ?_
  refine Alike.eq_bind (.eq_loop (fun branches => ?_) _) fun _ => ?_
  · refine (sees_alike _).eq_bind fun _ => .cond (next_alike.bind fun _ _ word => ?_) (.pure rfl)
    exact (generateBranch_alike inner parent word labels true).eq_bind fun _ => .pure rfl
  · exact (elseBranch_alike inner parent labels).eq_bind fun _ => (endOf_alike _).eq_bind fun _ => .pure rfl

end

theorem skipCaseGenerate_alike : Alike r Eq skipCaseGenerate skipCaseGenerate := by
  refine .eq_loop (fun depth => next_alike.bind fun t u twin => ?_) _
  rw [twin.kind_eq, twin.word_eq]
  refine .ite Iff.rfl (fail_alike _) ((sees_alike _).eq_bind fun _ => .cond ?_ ?_)
  · refine next_alike.discard_bind (.ite Iff.rfl ?_ (.pure rfl))
    exact optionalName_alike.eq_bind fun _ => (skip_alike _).eq_bind fun _ => .pure rfl
  · exact .ite Iff.rfl (.pure rfl) (.pure rfl)

theorem blockHeader_alike : Alike r Eq blockHeader blockHeader := by
  refine .eq_loop (fun _ => (sees_alike _).eq_bind fun _ => .cond ?_ (.pure rfl)) _
  exact (skipPast_alike _).eq_bind fun _ => .pure rfl

theorem block_alike {body : BodyReader} (inner : BodyAlike r body) (parent : NodeId) (twin : start.Twin r start')
    (labels : r.NameTwin label label') : Alike r Eq (block body parent start label) (block body parent start' label') := by
  refine (begin_alike parent twin _ (by rfl) (by trivial)).eq_bind fun id => (skip_alike _).eq_bind fun _ => ?_
  refine (bracketed_alike id).eq_bind fun _ => (accept_alike _).discard_bind (blockHeader_alike.eq_bind fun _ => ?_)
  refine (declarations_alike id false).eq_bind fun _ => (skip_alike _).eq_bind fun _ => (inner id _).eq_bind fun _ => ?_
  exact (endOf_alike _).eq_bind fun _ => completed_alike id (outline_generate labels _ rfl _ _ _) rfl trivial

theorem concurrentList_alike {statement : NodeId → Body → Reader Body}
    (each : ∀ parent b, Alike r Eq (statement parent b) (statement parent b)) :
    BodyAlike r (concurrentList statement) := by
  refine fun parent => .eq_loop fun b => (sees_alike _).eq_bind fun _ => .cond (.pure rfl) ?_
  refine atEnd_alike.eq_bind fun _ => .cond (fail_alike _) ?_
  exact (each parent b).eq_bind fun _ => .pure rfl

theorem concurrentStatement_alike (levels : Nat) (parent : NodeId) (b : Body) :
    Alike r Eq (concurrentStatement levels parent b) (concurrentStatement levels parent b) := by
  induction levels generalizing parent b with
  | zero => exact noLevels_alike parent
  | succ levels ih =>
    have inner := concurrentList_alike ih
    have entered {α : Type} {x y : Reader α} (alike : Alike r Eq x y) (put : α → Body) :
        Alike r Eq (do return put (← x)) (do return put (← y)) := alike.eq_bind fun _ => .pure rfl
    refine peek_alike.bind fun _ _ start => label_alike.bind fun _ _ labels => (sees_alike _).eq_bind fun postponed => ?_
    refine (sees_alike _).eq_bind fun _ => (seesSecond_alike _).eq_bind fun _ =>
      .cond (entered (process_alike parent start labels) _) ?_
    rw [← r.isEmpty_name, labels, r.isEmpty_name]
    refine (sees_alike _).eq_bind fun _ => seesName_alike.eq_bind fun _ => (seesSecond_alike _).eq_bind fun _ =>
      .cond (entered (instantiation_alike parent start labels) _) ?_
    refine (sees_alike _).eq_bind fun _ => .cond (entered (forGenerate_alike inner parent start labels) _) ?_
    refine (sees_alike _).eq_bind fun _ => .cond (entered (ifGenerate_alike inner parent start labels) _) ?_
    refine (sees_alike _).eq_bind fun _ => .cond (skipCaseGenerate_alike.eq_bind fun _ => .pure rfl) ?_
    refine (sees_alike _).eq_bind fun _ => .cond (entered (block_alike inner parent start labels) _) ?_
    refine (sees_alike _).eq_bind fun _ => (seesSecond_alike _).eq_bind fun _ => .cond ?_ ?_
    · exact (accept_alike _).discard_bind (entered (selectedAssignment_alike parent start labels) _)
    · exact (accept_alike _).discard_bind (entered (simpleStatement_alike parent start labels) _)

theorem concurrentStatements_alike : BodyAlike r concurrentStatements :=
  concurrentList_alike (concurrentStatement_alike _)

end DesignLint.Reader
