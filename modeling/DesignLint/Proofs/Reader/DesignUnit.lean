import DesignLint.Reader.DesignUnit
import DesignLint.Proofs.Reader.Concurrent

/-! Design units and whole files. Every unit is a part of the file, drawn up when it is read, and the tree
knows its architecture by number. The reading of a file ends in a tree of this kind or in one of the two
faults that a text can cause. -/
namespace DesignLint

/-- A reader went from `s` to `s'` and added design units to the file, which holds each of them in a field. -/
structure Units (text : Bytes) (tokens : List Token) (s s' : ReaderState) : Prop where
  ready : Ready text tokens s'
  left_le : s'.left ≤ s.left
  grows : ∃ parts, s.tree.Grows s'.tree 0 parts ∧
    ∀ part, part ∈ s'.tree.unitParts ↔ part ∈ s.tree.unitParts ∨ part ∈ parts ∧ part.1 ≠ .use
  uses : s.tree.ListsUses s'.tree

variable {text : Bytes} {tokens : List Token} {s s₁ s₂ : ReaderState} {owner start stop : Nat} {c : Construct}
  {t : Token}

theorem SameUnits.unitParts_eq {t t' : Tree} (same : SameUnits t t') : t'.unitParts = t.unitParts := by
  rw [Tree.unitParts, Tree.unitParts, same.entity, same.architecture, same.package, same.packageBody]

theorem Adds.toUnits {parts : List Part} (adds : Adds text tokens s s₁ 0 parts)
    (others : ∀ role, role ≠ .use → Part.pick role parts = []) : Units text tokens s s₁ where
  ready := adds.ready
  left_le := adds.left_le
  grows := by
    refine ⟨parts, adds.grows, fun part => ?_⟩
    rw [adds.units.unitParts_eq]
    refine (or_iff_left_of_imp ?_).symm
    rintro ⟨member, other⟩
    have picked := Part.mem_pick.mpr member
    rw [others part.1 other] at picked
    contradiction
  uses := adds.uses

theorem Steps.toUnits (steps : Steps text tokens s s₁) (ready : Ready text tokens s) : Units text tokens s s₁ :=
  (steps.adds ready.rooted.nonempty).toUnits fun _ _ => rfl

theorem Units.trans (first : Units text tokens s s₁) (next : Units text tokens s₁ s₂) (ready : Ready text tokens s) :
    Units text tokens s s₂ := by
  obtain ⟨a, grows, entered⟩ := first.grows
  obtain ⟨b, grows', entered'⟩ := next.grows
  refine ⟨next.ready, Nat.le_trans next.left_le first.left_le, ⟨a ++ b, grows.trans grows' ready.rooted, ?_⟩, ?_⟩
  · intro part
    rw [entered', entered, List.mem_append, or_and_right, or_assoc]
  · exact first.uses.trans next.uses grows.size_le grows'.toExtends

/-- What a tree took on does not depend on the lists of the file it started from. -/
theorem Tree.Grows.of_nodes_eq {t t' t₁ : Tree} {parts : List Part} (grows : t.Grows t₁ owner parts)
    (nodes_eq : t'.nodes = t.nodes) : t'.Grows t₁ owner parts := by
  have node? (i : Nat) : t'.node? i = t.node? i := by rw [Tree.node?, nodes_eq, Tree.node?]
  refine ⟨⟨nodes_eq ▸ grows.owner_lt, nodes_eq ▸ grows.size_le, ?_, nodes_eq ▸ grows.parent,
    nodes_eq ▸ grows.added_eq⟩, nodes_eq ▸ grows.drawn, nodes_eq ▸ grows.covers,
    nodes_eq ▸ grows.shares, nodes_eq ▸ grows.packed⟩
  intro i lt
  rw [node?]
  exact grows.old i (nodes_eq ▸ lt)

/-- Entering a new unit into the file is as good as having entered it before its node was made. -/
theorem Opens.place (opens : Opens text tokens s s₁ owner start stop c) (ready : Ready text tokens s)
    (place : Tree → Tree) (commutes : ∀ t nodes, place { t with nodes } = { place t with nodes })
    (nodes_eq : ∀ t, (place t).nodes = t.nodes) (text_eq : ∀ t, (place t).text = t.text) :
    Ready text tokens { s with tree := place s.tree } ∧
      Opens text tokens { s with tree := place s.tree } { s₁ with tree := place s₁.tree } owner start stop c := by
  refine ⟨ready.retree rfl rfl (nodes_eq _) (text_eq _),
    opens.ready.retree rfl rfl (nodes_eq _) (text_eq _), opens.rest_eq, opens.last_eq, ?_, opens.ordered, ?_,
    opens.libraries_eq⟩
  · change place s₁.tree = { place s.tree with nodes := (place s.tree).nodes.push ⟨some owner, start, stop, c⟩ }
    rw [opens.tree_eq, commutes, nodes_eq]
  · rw [nodes_eq]
    exact opens.owner_lt

/-- A unit that was entered into the file and then read is a new part of it. -/
theorem Units.ofPlaced {tree : Tree} {role : Role} {id : NodeId} (steps : Steps text tokens s s₁)
    (adds : Adds text tokens { s₁ with tree } s₂ 0 [(role, id)]) (nodes_eq : tree.nodes = s₁.tree.nodes)
    (uses_eq : tree.uses = s₁.tree.uses) (other : role ≠ .use)
    (entered : ∀ part, part ∈ tree.unitParts ↔ part ∈ s₁.tree.unitParts ∨ part = (role, id)) :
    Units text tokens s s₂ where
  ready := adds.ready
  left_le := Nat.le_trans adds.left_le steps.left_le
  grows := by
    refine ⟨_, adds.grows.of_nodes_eq (by rw [← steps.tree_eq]; exact nodes_eq.symm), fun part => ?_⟩
    rw [adds.units.unitParts_eq, entered, ← steps.tree_eq, List.mem_singleton]
    refine or_congr_right (iff_self_and.mpr ?_)
    rintro rfl
    exact other
  uses := by
    obtain ⟨more, listed, mem_iff, placed⟩ := adds.uses
    refine ⟨more, ?_, fun i => ?_, placed⟩
    · rw [listed, uses_eq, steps.tree_eq]
    · rw [mem_iff, nodes_eq, steps.tree_eq]

namespace Reader

theorem libraryClause_ends (ready : Ready text tokens s) :
    Ends text libraryClause s fun _ s' => s'.left < s.left ∧ Adds text tokens s s' 0 [] := by
  unfold libraryClause
  refine (skip_ends ready (by decide)).bind ?_
  rintro _ s₁ ⟨steps₁, forward₁⟩
  refine (nameList_ends steps₁.ready).bind ?_
  rintro names s₂ ⟨steps₂, _⟩
  have steps := steps₁.trans steps₂
  refine .modify_bind ?_
  have adds : Adds text tokens s { s₂ with
      tree := { s₂.tree with libraries := s₂.tree.libraries ++ names.map Token.text }
      libraryNames := s₂.libraryNames ++ names.map Token.word } 0 [] :=
    (steps.adds ready.rooted.nonempty).retree rfl rfl rfl rfl ⟨rfl, rfl, rfl, rfl⟩ rfl
  refine (skip_ends adds.ready (by decide)).mono ?_
  rintro _ s₃ ⟨steps₃, forward₃⟩
  refine ⟨?_, adds.steps steps₃⟩
  have := adds.left_le
  omega

theorem furtherContexts_ends (ready : Ready text tokens s) :
    Ends text furtherContexts s fun _ s' => Steps text tokens s s' := by
  unfold furtherContexts
  refine Ends.loop (fun _ s' => Steps text tokens s s') _ ?_ (.refl ready)
  intro _ s₁ steps₁
  refine (accept_ends steps₁.ready (by decide)).bind ?_
  rintro separated s₂ ⟨steps₂, _⟩
  refine .ite (fun _ => ?_) fun _ => .pure (steps₁.trans steps₂)
  refine (selectedName_ends steps₂.ready).discard_bind ?_
  rintro _ s₃ ⟨steps₃, forward₃⟩
  exact .pure ⟨steps₁.trans (steps₂.trans steps₃), Nat.lt_of_lt_of_le forward₃ steps₂.left_le⟩

theorem contextItems_ends (ready : Ready text tokens s) :
    Ends text contextItems s fun _ s' => Adds text tokens s s' 0 [] := by
  unfold contextItems
  refine Ends.loop (fun _ s' => Adds text tokens s s' 0 []) _ ?_ ((Steps.refl ready).adds ready.rooted.nonempty)
  intro _ s₁ adds₁
  refine (sees_word_ends adds₁.ready (by decide)).bind ?_
  rintro ends s₁ ⟨rfl, _⟩
  refine .ite (fun _ => .pure adds₁) fun _ => ?_
  refine (atEnd_ends adds₁.ready).bind ?_
  rintro ended s₁ ⟨rfl, _⟩
  refine .ite (fun _ => fail_ends adds₁.ready (by decide)) fun _ => ?_
  refine (sees_word_ends adds₁.ready (by decide)).bind ?_
  rintro isLibrary s₁ ⟨rfl, _⟩
  refine .ite (fun _ => ?_) fun _ => ?_
  · refine (libraryClause_ends adds₁.ready).bind ?_
    rintro _ s₂ ⟨forward₂, adds₂⟩
    exact .pure ⟨adds₁.trans adds₂ ready, forward₂⟩
  · refine (skipPast_ends adds₁.ready (by decide)).bind ?_
    rintro _ s₂ ⟨steps₂, forward₂⟩
    exact .pure ⟨adds₁.steps steps₂, forward₂⟩

theorem contextClause_ends (ready : Ready text tokens s) :
    Ends text contextClause s fun _ s' => s'.left < s.left ∧ Adds text tokens s s' 0 [] := by
  unfold contextClause
  refine (skip_ends ready (by decide)).bind ?_
  rintro _ s₁ ⟨steps₁, forward₁⟩
  refine (selectedName_ends steps₁.ready).discard_bind ?_
  rintro _ s₂ ⟨steps₂, _⟩
  refine (furtherContexts_ends steps₂.ready).bind fun _ s₃ steps₃ => ?_
  refine (accept_ends steps₃.ready (by decide)).bind ?_
  rintro referred s₄ ⟨steps₄, _⟩
  have later := (steps₂.trans steps₃).trans steps₄
  have forward := Nat.lt_of_le_of_lt later.left_le forward₁
  have steps := steps₁.trans later
  have adds := steps.adds ready.rooted.nonempty
  refine .ite (fun _ => .pure ⟨forward, adds⟩) fun _ => ?_
  refine (skip_ends steps.ready (by decide)).bind ?_
  rintro _ s₅ ⟨steps₅, _⟩
  refine (contextItems_ends steps₅.ready).bind fun _ s₆ adds₆ => ?_
  refine (endOf_ends adds₆.ready (by decide)).mono ?_
  rintro _ s₇ ⟨steps₇, _⟩
  have rest := (steps₅.then_adds adds₆).steps steps₇
  exact ⟨Nat.lt_of_le_of_lt rest.left_le forward, adds.trans rest ready⟩

theorem refuseSecond_ends (ready : Ready text tokens s) (member : t ∈ tokens) (unit : Tree → Option NodeId)
    {units : String} (known : units ∈ ["entities", "architectures", "packages"]) :
    Ends text (refuseSecond unit t units) s fun _ s' => s' = s ∧ unit s.tree = none := by
  have plain : (Bytes.ofString ("multiple " ++ units ++ " in one file are not supported")).NamesNothing := by
    refine Bytes.namesNothing_of_endsPlainly ?_
    revert known
    exact (by decide : ∀ units ∈ ["entities", "architectures", "packages"],
      (Bytes.ofString ("multiple " ++ units ++ " in one file are not supported")).endsPlainly = true) units
  unfold refuseSecond
  refine .get_bind (.ite (fun _ => ?_) fun vacant => .pure ⟨rfl, by simpa using vacant⟩)
  exact ⟨tokens, ready.tokensOf.lexed, .plain member plain⟩

theorem entityRest_ends (ready : Ready text tokens s) {n : Token} (member : n ∈ tokens) (named : n.isName = true) :
    Ends text (entityRest n) s fun _ s' => Steps text tokens s s' := by
  unfold entityRest
  refine Ends.loop (fun _ s' => Steps text tokens s s') _ ?_ (.refl ready)
  intro _ s₁ steps₁
  refine (sees_word_ends steps₁.ready (by decide)).bind ?_
  rintro ends s₁ ⟨rfl, _⟩
  refine .ite (fun _ => .pure steps₁) fun _ => ?_
  refine (atEnd_ends steps₁.ready).bind ?_
  rintro ended s₁ ⟨rfl, _⟩
  refine .ite (fun _ => ?_) fun _ => ?_
  · have identifier := identifier_of_tokenize ready.tokensOf.lexed member named
    have split : Bytes.ofString "unterminated entity " = Bytes.ofString "unterminated entity" ++ [32] := by decide
    rw [split, List.append_assoc]
    exact failWith_ends steps₁.ready (Bytes.namesNothing_of_identifier (by decide) identifier)
  refine (accept_ends steps₁.ready (by decide)).bind ?_
  rintro begins s₂ ⟨steps₂, forward₂⟩
  refine .ite (fun yes => .pure ⟨steps₁.trans steps₂, forward₂ yes⟩) fun _ => ?_
  refine (skipPast_ends steps₂.ready (by decide)).bind ?_
  rintro _ s₃ ⟨steps₃, forward₃⟩
  exact .pure ⟨steps₁.trans (steps₂.trans steps₃), Nat.lt_of_lt_of_le forward₃ steps₂.left_le⟩

theorem entity_ends (ready : Ready text tokens s) :
    Ends text entity s fun _ s' => s'.left < s.left ∧ Units text tokens s s' := by
  unfold entity
  refine (expect_ends ready (by decide)).bind ?_
  rintro start s₁ ⟨steps₁, forward₁, head⟩
  refine (refuseSecond_ends steps₁.ready (ready.head_mem head) _ (by decide)).bind ?_
  rintro _ s₁ ⟨rfl, vacant⟩
  refine (begin_ends steps₁.ready steps₁.ready.rooted.nonempty (steps₁.met ready (ready.met head 0)) _ (by trivial)).bind ?_
  rintro id s₂ ⟨rfl, begun⟩
  obtain ⟨ready₁, opens⟩ := begun.place steps₁.ready
    (fun t => { t with entity := some s₁.tree.nodes.size }) (fun _ _ => rfl) (fun _ => rfl) fun _ => rfl
  refine .modify_bind (((name_ends opens.ready).and (name_named_ends opens.ready)).bind ?_)
  rintro n s₃ ⟨⟨steps₃, _⟩, member, named⟩
  refine (skip_ends steps₃.ready (by decide)).bind ?_
  rintro _ s₄ ⟨steps₄, _⟩
  have before := steps₃.trans steps₄
  refine (interfaceClauses_ends before.ready (before.tree_eq ▸ opens.new_lt)).bind ?_
  rintro ⟨genericIds, portIds⟩ s₅ adds₅
  refine (entityRest_ends adds₅.ready member named).bind fun _ s₆ steps₆ => ?_
  refine (endOf_ends steps₆.ready (by decide)).bind ?_
  rintro _ s₇ ⟨steps₇, forward₇⟩
  have inner := (before.then_adds adds₅).steps (steps₆.trans steps₇)
  have forward : s₇.left < s.left := by
    have := inner.left_le
    have : _ = s₁.left := opens.left_eq
    omega
  refine (opens.complete_ends inner ready₁ (steps₇.clear steps₆.ready forward₇) (by rfl) (by rfl) ?_ .nil Role.noConfusion (by rfl) (.inl (by trivial))).mono ?_
  · refine ⟨by simp [Construct.statements], fun role _ => ?_, fun _ => nofun⟩
    cases role <;> simp [Construct.members, Construct.statements]
  · rintro _ s₈ ⟨adds, same⟩
    refine ⟨same ▸ forward, .ofPlaced steps₁ adds rfl rfl Role.noConfusion fun part => ?_⟩
    simp [Tree.unitParts, Part.all, vacant, Construct.role, or_comm]

theorem holds_architecture {unit : Architecture} {parts : List Part} (fill : Part.Fill parts unit.body) :
    (Construct.architecture unit).Holds parts := by
  refine ⟨by simp [Construct.statements], fun role listed => ?_, fun _ => nofun⟩
  have other : role ≠ .use := by
    rintro rfl
    simp [Construct.lists] at listed
  rw [fill role other, Construct.members]

theorem architecture_ends (ready : Ready text tokens s) :
    Ends text architecture s fun _ s' => s'.left < s.left ∧ Units text tokens s s' := by
  unfold architecture
  refine (expect_ends ready (by decide)).bind ?_
  rintro start s₁ ⟨steps₁, forward₁, head⟩
  refine (refuseSecond_ends steps₁.ready (ready.head_mem head) _ (by decide)).bind ?_
  rintro _ s₁ ⟨rfl, vacant⟩
  refine (begin_ends steps₁.ready steps₁.ready.rooted.nonempty (steps₁.met ready (ready.met head 0)) _ (by trivial)).bind ?_
  rintro id s₂ ⟨rfl, begun⟩
  obtain ⟨ready₁, opens⟩ := begun.place steps₁.ready
    (fun t => { t with architecture := some s₁.tree.nodes.size }) (fun _ _ => rfl) (fun _ => rfl) fun _ => rfl
  refine .modify_bind ((name_ends opens.ready).bind ?_)
  rintro n s₃ ⟨steps₃, _⟩
  refine (skip_ends steps₃.ready (by decide)).bind ?_
  rintro _ s₄ ⟨steps₄, _⟩
  refine (name_ends steps₄.ready).bind ?_
  rintro unit s₅ ⟨steps₅, _⟩
  refine (skip_ends steps₅.ready (by decide)).bind ?_
  rintro _ s₆ ⟨steps₆, _⟩
  have before := ((steps₃.trans steps₄).trans steps₅).trans steps₆
  refine (declarations_ends before.ready (before.tree_eq ▸ opens.isRegion rfl) false).bind ?_
  rintro d s₇ ⟨outside, declared, adds₇, declare⟩
  refine (skip_ends adds₇.ready (by decide)).bind ?_
  rintro _ s₈ ⟨steps₈, _⟩
  have declaredTo := (before.then_adds adds₇).steps steps₈
  refine (concurrentStatements_ends _ _ s₈ steps₈.ready (Nat.lt_of_lt_of_le opens.new_lt declaredTo.size_le)
    (Nat.le_add_right _ _) .nil).bind ?_
  rintro b s₉ ⟨parts, adds₉, members, simple⟩
  refine (endOf_ends adds₉.ready (by decide)).bind ?_
  rintro _ s₁₀ ⟨steps₁₀, forward₁₀⟩
  have inner := (declaredTo.trans adds₉ opens.ready).steps steps₁₀
  have forward : s₁₀.left < s.left := by
    have := inner.left_le
    have : _ = s₁.left := opens.left_eq
    omega
  have fill : Part.Fill (declared ++ parts) b := by
    intro role other
    rw [Part.pick_append, members role, declare.fill (outside rfl) role other]
  refine (opens.complete_ends inner ready₁ (steps₁₀.clear adds₉.ready forward₁₀) (by rfl) (by rfl)
    (holds_architecture fill) (steps₁₀.tree_eq ▸ simple) Role.noConfusion (by rfl) (.inl (by trivial))).mono ?_
  rintro _ s₁₁ ⟨adds, same⟩
  refine ⟨same ▸ forward, .ofPlaced steps₁ adds rfl rfl Role.noConfusion fun part => ?_⟩
  simp [Tree.unitParts, Part.all, vacant, Construct.role, or_comm, or_left_comm]

theorem placePackage_nodes (isBody : Bool) (id : NodeId) (t : Tree) : (placePackage isBody id t).nodes = t.nodes := by
  cases isBody <;> rfl

/-- The file holds a package or a package body in a field that was empty. -/
theorem mem_unitParts_placePackage {isBody : Bool} {t : Tree} (vacant : packagePlace isBody t = none) (id : NodeId)
    (part : Part) : part ∈ (placePackage isBody id t).unitParts ↔ part ∈ t.unitParts ∨ part = (.package, id) := by
  cases isBody <;> simp only [packagePlace, Bool.false_eq_true, if_false, if_true] at vacant <;>
    simp [placePackage, Tree.unitParts, Part.all, vacant, or_comm, or_left_comm]

theorem holds_package {d : Declarations} {parts : List Part} (declare : Part.Declare parts d)
    (outside : d.locals = []) (name : Bytes) :
    (Construct.package ⟨name, d.constants, d.signals, d.types, d.functions, d.components⟩).Holds parts := by
  refine ⟨by simp [Construct.statements], fun role listed => ?_, fun _ => nofun⟩
  have other : role ≠ .use := by
    rintro rfl
    simp [Construct.lists] at listed
  rw [declare role other]
  cases role <;> simp [Construct.members, Construct.statements, Declarations.members, outside]

theorem packageDeclarations_ends (ready : Ready text tokens s) (member : t ∈ tokens) (met : s.Met 0 t) (n : Token)
    (isBody : Bool) :
    Ends text (packageDeclarations t n isBody) s fun _ s' => s'.left < s.left ∧ Units text tokens s s' := by
  unfold packageDeclarations
  refine (refuseSecond_ends ready member _ (by decide)).bind ?_
  rintro _ s ⟨rfl, vacant⟩
  refine (begin_ends ready ready.rooted.nonempty met _ (by trivial)).bind ?_
  rintro id s₁ ⟨rfl, begun⟩
  obtain ⟨ready₁, opens⟩ := begun.place ready (placePackage isBody s.tree.nodes.size)
    (fun t nodes => by cases isBody <;> rfl) (placePackage_nodes isBody _) fun t => by cases isBody <;> rfl
  have nodes_eq := placePackage_nodes isBody s.tree.nodes.size s.tree
  have region := opens.isRegion rfl
  simp only [nodes_eq] at region
  refine .modify_bind ((ifAccepted_ends (fun _ s' => Steps text tokens _ s') opens.ready (by decide) ?_
    fun _ steps => steps).bind fun _ s₂ steps₂ => ?_)
  · intro s₂ steps₂ _
    refine (skipPast_ends steps₂.ready (by decide)).mono ?_
    rintro _ s₃ ⟨steps₃, _⟩
    exact steps₂.trans steps₃
  refine (declarations_ends steps₂.ready (steps₂.tree_eq ▸ region) false).bind ?_
  rintro d s₃ ⟨outside, parts, adds₃, declare⟩
  refine (endOf_ends adds₃.ready (by cases isBody <;> decide)).bind ?_
  rintro _ s₄ ⟨steps₄, forward₄⟩
  have inner := (steps₂.then_adds adds₃).steps steps₄
  have forward : s₄.left < s.left := by
    have := (steps₂.then_adds adds₃).left_le
    have : _ = s.left := opens.left_eq
    omega
  have completes := opens.complete_ends (by simpa only [nodes_eq] using inner) ready₁
    (steps₄.clear adds₃.ready forward₄) (by rfl) (by rfl) (holds_package declare (outside rfl) n.text) .nil
    Role.noConfusion (by rfl) (.inl (by trivial))
  simp only [nodes_eq] at completes
  refine completes.mono ?_
  rintro _ s₅ ⟨adds, same⟩
  refine ⟨same ▸ forward, .ofPlaced (.refl ready) adds nodes_eq ?_ Role.noConfusion fun part => ?_⟩
  · cases isBody <;> rfl
  · exact mem_unitParts_placePackage vacant _ part

theorem package_ends (ready : Ready text tokens s) :
    Ends text package s fun _ s' => s'.left < s.left ∧ Units text tokens s s' := by
  unfold package
  refine (expect_ends ready (by decide)).bind ?_
  rintro start s₁ ⟨steps₁, forward₁, head⟩
  refine (accept_ends steps₁.ready (by decide)).bind ?_
  rintro isBody s₂ ⟨steps₂, _⟩
  refine (name_ends steps₂.ready).bind ?_
  rintro n s₃ ⟨steps₃, _⟩
  refine (skip_ends steps₃.ready (by decide)).bind ?_
  rintro _ s₄ ⟨steps₄, _⟩
  have steps := ((steps₁.trans steps₂).trans steps₃).trans steps₄
  have before : Units text tokens s s₄ := steps.toUnits ready
  refine (sees_word_ends steps.ready (by decide)).bind ?_
  rintro isNew s₄ ⟨rfl, _⟩
  refine .ite (fun _ => ?_) fun _ => ?_
  · refine (skipPast_ends steps.ready (by decide)).mono ?_
    rintro _ s₅ ⟨steps₅, forward₅⟩
    exact ⟨Nat.lt_of_lt_of_le forward₅ steps.left_le, (steps.trans steps₅).toUnits ready⟩
  · refine (packageDeclarations_ends steps.ready (ready.head_mem head) (steps.met ready (ready.met head 0)) n
      isBody).mono ?_
    rintro _ s₅ ⟨forward₅, units⟩
    exact ⟨Nat.lt_of_lt_of_le forward₅ steps.left_le, before.trans units ready⟩

theorem configuration_ends (ready : Ready text tokens s) :
    Ends text configuration s fun _ s' => s'.left < s.left ∧ Steps text tokens s s' := by
  unfold configuration
  refine (skip_ends ready (by decide)).bind ?_
  rintro _ s₁ ⟨steps₁, forward₁⟩
  refine (name_ends steps₁.ready).discard_bind ?_
  rintro _ s₂ ⟨steps₂, _⟩
  refine (skip_ends steps₂.ready (by decide)).bind ?_
  rintro _ s₃ ⟨steps₃, _⟩
  refine (name_ends steps₃.ready).discard_bind ?_
  rintro _ s₄ ⟨steps₄, _⟩
  refine (skip_ends steps₄.ready (by decide)).bind ?_
  rintro _ s₅ ⟨steps₅, _⟩
  have later := ((steps₂.trans steps₃).trans steps₄).trans steps₅
  refine (Ends.loop (fun _ s' => Steps text tokens s₁ s') (fun _ s' => Steps text tokens s₁ s') ?_ later).bind
    fun _ s₆ steps₆ => ?_
  · intro depth s₆ steps₆
    refine (atEnd_ends steps₆.ready).bind ?_
    rintro ended s₆ ⟨rfl, more⟩
    refine .ite (fun _ => fail_ends steps₆.ready (by decide)) fun open_ => ?_
    refine (sees_word_ends steps₆.ready (by decide)).bind ?_
    rintro ends s₆ ⟨rfl, _⟩
    refine (seesSecond_ends steps₆.ready _).bind ?_
    rintro closes s₆ rfl
    refine .ite (fun _ => ?_) fun _ => ?_
    · refine (next_forward_ends steps₆.ready (more open_)).discard_bind ?_
      rintro _ s₇ ⟨steps₇, forward₇, _⟩
      refine (next_ends steps₇.ready).discard_bind ?_
      rintro _ s₈ ⟨steps₈, _⟩
      exact .pure ⟨steps₆.trans (steps₇.trans steps₈), Nat.lt_of_le_of_lt steps₈.left_le forward₇⟩
    refine .ite (fun _ => .pure steps₆) fun _ => ?_
    refine (next_forward_ends steps₆.ready (more open_)).bind ?_
    rintro t s₇ ⟨steps₇, forward₇, _⟩
    have steps := steps₆.trans steps₇
    exact .split (fun _ => .pure ⟨steps, forward₇⟩) fun _ => .pure ⟨steps, forward₇⟩
  refine (endOf_ends steps₆.ready (by decide)).mono ?_
  rintro _ s₇ ⟨steps₇, _⟩
  have later := steps₆.trans steps₇
  exact ⟨Nat.lt_of_le_of_lt later.left_le forward₁, steps₁.trans later⟩

theorem designUnit_ends (ready : Ready text tokens s) (file : s.tree.IsRegion 0) :
    Ends text designUnit s fun _ s' => s'.left < s.left ∧ Units text tokens s s' := by
  unfold designUnit
  refine (sees_word_ends ready (by decide)).bind ?_
  rintro isLibrary s ⟨rfl, _⟩
  refine .ite (fun _ => ?_) fun _ => ?_
  · exact (libraryClause_ends ready).mono fun _ _ ⟨forward, adds⟩ => ⟨forward, adds.toUnits fun _ _ => rfl⟩
  refine (sees_word_ends ready (by decide)).bind ?_
  rintro isUse s ⟨rfl, _⟩
  refine .ite (fun _ => ?_) fun _ => ?_
  · exact (useClause_ends ready file).mono fun _ _ ⟨forward, _, adds, others⟩ => ⟨forward, adds.toUnits others⟩
  refine (sees_word_ends ready (by decide)).bind ?_
  rintro isContext s ⟨rfl, _⟩
  refine .ite (fun _ => ?_) fun _ => ?_
  · exact (contextClause_ends ready).mono fun _ _ ⟨forward, adds⟩ => ⟨forward, adds.toUnits fun _ _ => rfl⟩
  refine (sees_word_ends ready (by decide)).bind ?_
  rintro isEntity s ⟨rfl, _⟩
  refine .ite (fun _ => entity_ends ready) fun _ => ?_
  refine (sees_word_ends ready (by decide)).bind ?_
  rintro isArchitecture s ⟨rfl, _⟩
  refine .ite (fun _ => architecture_ends ready) fun _ => ?_
  refine (sees_word_ends ready (by decide)).bind ?_
  rintro isPackage s ⟨rfl, _⟩
  refine .ite (fun _ => package_ends ready) fun _ => ?_
  refine (sees_word_ends ready (by decide)).bind ?_
  rintro isConfiguration s ⟨rfl, _⟩
  refine .ite (fun _ => ?_) fun _ => ?_
  · exact (configuration_ends ready).mono fun _ _ ⟨forward, steps⟩ => ⟨forward, steps.toUnits ready⟩
  refine (peek_ends ready).bind ?_
  rintro found s ⟨rfl, head⟩
  exact failExpecting_ends ready _ head

theorem designFile_ends (ready : Ready text tokens s) (file : s.tree.IsRegion 0) :
    Ends text designFile s fun _ s' => Units text tokens s s' := by
  unfold designFile
  refine Ends.loop (fun _ s' => Units text tokens s s') _ ?_ ((Steps.refl ready).toUnits ready)
  intro _ s₁ units₁
  refine (atEnd_ends units₁.ready).bind ?_
  rintro ended s₁ ⟨rfl, _⟩
  refine .ite (fun _ => .pure units₁) fun _ => ?_
  obtain ⟨_, grows, _⟩ := units₁.grows
  refine (designUnit_ends units₁.ready (grows.toExtends.isRegion file)).bind ?_
  rintro _ s₂ ⟨forward₂, units₂⟩
  exact .pure ⟨units₁.trans units₂ ready, forward₂⟩

end Reader

/-- A reader may be started at the first token of a text. -/
theorem Ready.ofTokens (path : String) (tokensOf : TokensOf text tokens) :
    Ready text tokens { rest := tokens, tree := Tree.ofText path text } where
  tokensOf := tokensOf
  cursor := ⟨[], rfl, rfl⟩
  unpassed := by
    obtain ⟨significant, closed, _⟩ := tokensOf.closed
    simp [closed]
  text_eq := rfl
  rooted := by
    refine ⟨Nat.one_pos, rfl, fun id positive lt => ?_⟩
    have : id < 1 := lt
    omega
  shallow id lt := by
    have : id < 1 := lt
    obtain rfl : id = 0 := by omega
    rw [Tree.depth_of_root rfl]
    exact Nat.zero_le _
  spans := .ofText path
  faithful := .ofText path
  marked := .ofText path

/-- The reading of a text ends in a tree or in an admissible fault. -/
theorem Tree.read_ends (path : String) (tokensOf : TokensOf text tokens) :
    Reader.Ends text Reader.designFile { rest := tokens, tree := Tree.ofText path text }
      fun _ s' => Units text tokens { rest := tokens, tree := Tree.ofText path text } s' :=
  Reader.designFile_ends (Ready.ofTokens path tokensOf) rfl

end DesignLint
