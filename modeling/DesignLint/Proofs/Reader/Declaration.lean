import DesignLint.Proofs.Reader.Subprogram

/-! Declarations. Each item of a declarative part adds parts to the unit around it, and the lists that the
reader of the part gives back are those parts, role by role. -/
namespace DesignLint

/-- What a declarative part lists for a role. -/
def Declarations.members (d : Declarations) : Role → List NodeId
  | .signal => d.signals
  | .localVariable => d.locals
  | .constant => d.constants
  | .typeDecl => d.types
  | .function => d.functions
  | .component => d.components
  | _ => []

/-- Parts that are the given declarations and, apart from them, use clauses only. -/
def Part.Declare (parts : List Part) (d : Declarations) : Prop :=
  ∀ role, role ≠ .use → Part.pick role parts = d.members role

namespace Reader

variable {text : Bytes} {tokens : List Token} {s s₁ s₂ s₃ : ReaderState} {owner start stop : Nat} {role : Role}

/-- A reader that adds parts of one role to an owner. -/
def Elements (text : Bytes) (tokens : List Token) (owner : Nat) (role : Role) (x : Reader (List NodeId)) :
    Prop :=
  ∀ s, Ready text tokens s → owner < s.tree.nodes.size →
    Ends text x s fun ids s' => Adds text tokens s s' owner (Part.all role ids)

theorem interfaceList_ends {element : Reader (List NodeId)} (elements : Elements text tokens owner role element) :
    Elements text tokens owner role (interfaceList element) := by
  intro s ready owner_lt
  unfold interfaceList
  refine (skip_ends ready (by decide)).bind ?_
  rintro _ s₁ ⟨steps₁, _⟩
  have owner_lt₁ : owner < s₁.tree.nodes.size := steps₁.tree_eq ▸ owner_lt
  refine (Ends.loop (fun ids s' => Adds text tokens s₁ s' owner (Part.all role ids))
    (fun ids s' => Adds text tokens s₁ s' owner (Part.all role ids)) ?_
    ((Steps.refl steps₁.ready).adds owner_lt₁)).bind fun ids s₂ adds₂ => ?_
  · intro ids s₂ adds₂
    refine (elements s₂ adds₂.ready (Nat.lt_of_lt_of_le owner_lt₁ adds₂.size_le)).bind fun more s₃ adds₃ => ?_
    have adds := adds₂.trans adds₃ steps₁.ready
    rw [← Part.all_append] at adds
    refine (accept_ends adds₃.ready (by decide)).bind ?_
    rintro separated s₄ ⟨steps₄, forward₄⟩
    refine (sees_word_ends steps₄.ready (by decide)).bind ?_
    rintro closes s' ⟨rfl, _⟩
    refine .ite (fun again => .pure ⟨adds.steps steps₄, ?_⟩) fun _ => .pure (adds.steps steps₄)
    rw [Bool.and_eq_true] at again
    exact Nat.lt_of_lt_of_le (forward₄ again.1) adds₃.left_le
  refine (skip_ends adds₂.ready (by decide)).bind ?_
  rintro _ s₃ ⟨steps₃, _⟩
  exact .pure (steps₁.then_adds (adds₂.steps steps₃))

theorem generics_ends : Elements text tokens owner .generic (generics owner) := by
  refine interfaceList_ends ?_
  intro s ready owner_lt
  refine (sees_word_ends ready (by decide)).bind ?_
  rintro readOver s ⟨rfl, _⟩
  refine .ite (fun _ => ?_) fun _ => ?_
  · refine (phraseUpTo_ends ready _).discard_bind ?_
    rintro _ s₁ ⟨steps₁, _⟩
    exact .pure (steps₁.adds owner_lt)
  · refine (accept_ends ready (by decide)).discard_bind ?_
    rintro _ s₁ ⟨steps₁, _⟩
    refine (interfaceElement_ends .generic steps₁.ready (steps₁.tree_eq ▸ owner_lt) (fun _ _ => rfl)
      (fun _ _ => rfl) (fun _ _ _ => rfl) (by exact fun _ _ _ => trivial)).mono ?_
    rintro ids s₂ ⟨adds, _⟩
    exact steps₁.then_adds adds

theorem ports_ends : Elements text tokens owner .port (ports owner) := by
  refine interfaceList_ends ?_
  intro s ready owner_lt
  refine (accept_ends ready (by decide)).discard_bind ?_
  rintro _ s₁ ⟨steps₁, _⟩
  refine (interfaceElement_ends .port steps₁.ready (steps₁.tree_eq ▸ owner_lt) (fun _ _ => rfl)
    (fun _ _ => rfl) (fun _ _ _ => rfl) (by exact fun _ _ isMode => isMode)).mono ?_
  rintro ids s₂ ⟨adds, _⟩
  exact steps₁.then_adds adds

theorem optionalClause_ends {word : String} (nonempty : "" ∉ [word]) {clause : Reader (List NodeId)}
    (elements : Elements text tokens owner role clause) :
    Elements text tokens owner role (optionalClause word clause) := by
  intro s ready owner_lt
  unfold optionalClause
  refine ifAccepted_ends _ ready nonempty ?_ fun _ steps => steps.adds owner_lt
  intro s₁ steps₁ _
  refine (elements s₁ steps₁.ready (steps₁.tree_eq ▸ owner_lt)).bind fun ids s₂ adds₂ => ?_
  refine (skip_ends adds₂.ready (by decide)).bind ?_
  rintro _ s₃ ⟨steps₃, _⟩
  exact .pure (steps₁.then_adds (adds₂.steps steps₃))

theorem interfaceClauses_ends (ready : Ready text tokens s) (owner_lt : owner < s.tree.nodes.size) :
    Ends text (interfaceClauses owner) s fun found s' =>
      Adds text tokens s s' owner (Part.all .generic found.1 ++ Part.all .port found.2) := by
  unfold interfaceClauses
  refine (optionalClause_ends (by decide) generics_ends s ready owner_lt).bind fun genericIds s₁ adds₁ => ?_
  refine (optionalClause_ends (by decide) ports_ends s₁ adds₁.ready
    (Nat.lt_of_lt_of_le owner_lt adds₁.size_le)).bind fun portIds s₂ adds₂ => ?_
  exact .pure (adds₁.trans adds₂ ready)

theorem component_ends (ready : Ready text tokens s) (owner_lt : owner < s.tree.nodes.size) :
    Ends text (component owner) s fun id s' => Adds text tokens s s' owner [(.component, id)] ∧
      s'.left < s.left := by
  unfold component
  refine (expect_ends ready (by decide)).bind ?_
  rintro start s₁ ⟨steps₁, forward₁, head⟩
  refine (begin_ends steps₁.ready (steps₁.tree_eq ▸ owner_lt) (steps₁.met ready (ready.met head owner)) _ (by trivial)).bind ?_
  rintro id s₂ ⟨rfl, opens⟩
  refine (name_ends opens.ready).bind ?_
  rintro n s₃ ⟨steps₃, _⟩
  refine (accept_ends steps₃.ready (by decide)).discard_bind ?_
  rintro _ s₄ ⟨steps₄, _⟩
  have before := steps₃.trans steps₄
  refine (interfaceClauses_ends before.ready (before.tree_eq ▸ opens.new_lt)).bind ?_
  rintro ⟨genericIds, portIds⟩ s₅ adds₅
  refine (endOf_ends adds₅.ready (by decide)).bind ?_
  rintro _ s₆ ⟨steps₆, forward₆⟩
  have inner := (before.then_adds adds₅).steps steps₆
  have forward : s₆.left < s.left := by
    have := inner.left_le
    have := opens.left_eq
    omega
  refine (opens.complete_ends inner steps₁.ready (steps₆.clear adds₅.ready forward₆) (by rfl) (by rfl) ?_ .nil Role.noConfusion (by rfl) (.inl (by trivial))).bind ?_
  · refine ⟨by simp [Construct.statements], fun role _ => ?_, fun _ => nofun⟩
    cases role <;> simp [Construct.members, Construct.statements]
  · rintro _ s₇ ⟨adds, same⟩
    exact .pure ⟨steps₁.then_adds adds, same ▸ forward⟩

theorem literal_ends (ready : Ready text tokens s) :
    Ends text literal s fun t s' => Steps text tokens s s' ∧ ∀ owner, s'.Seen owner t := by
  unfold literal
  refine ((next_ends ready).and (next_rest_ends ready)).bind ?_
  rintro t s₁ ⟨⟨steps₁, head, forward₁⟩, rest⟩
  refine .ite (fun _ => failLate_ends ready steps₁.ready (by decide) rest) fun isLiteral => .pure ⟨steps₁, ?_⟩
  refine steps₁.seen_head ready (forward₁ fun last => ?_) head
  simp [last] at isLiteral

/-- One more leaf at the end of what was added. -/
theorem leaf_ends {c : Construct} {ids : List NodeId} {t : Token} (ready : Ready text tokens s)
    (adds : Adds text tokens s s₁ owner (Part.all role ids)) (seen : s₁.Seen owner t) (plays : c.role = role)
    (leaf : c.role.isLeaf = true) (other : c.role ≠ .use) (plain : c.Plain) :
    Ends text (attachToken owner t c) s₁ fun id s' =>
      Adds text tokens s s' owner (Part.all role (ids ++ [id])) ∧ s'.left = s₁.left := by
  refine (attachToken_ends adds.ready (Nat.lt_of_lt_of_le adds.grows.owner_lt adds.size_le) seen c plain).mono ?_
  rintro id s₂ ⟨rfl, opens, settles⟩
  have one := opens.leaf adds.ready settles (Construct.bare_of_isLeaf leaf) other
  rw [plays] at one
  rw [Part.all_append]
  exact ⟨adds.trans one ready, opens.left_eq⟩

theorem literals_ends : Elements text tokens owner .state (literals owner) := by
  intro s ready owner_lt
  unfold literals
  refine (Ends.loop (fun ids s' => Adds text tokens s s' owner (Part.all .state ids))
    (fun ids s' => Adds text tokens s s' owner (Part.all .state ids)) ?_
    ((Steps.refl ready).adds owner_lt)).bind fun ids s₁ adds₁ => ?_
  · intro ids s₁ adds₁
    refine (literal_ends adds₁.ready).bind ?_
    rintro t s₂ ⟨steps₂, seen⟩
    refine (leaf_ends ready (adds₁.steps steps₂) (seen owner) rfl rfl Role.noConfusion (by trivial)).bind ?_
    rintro id s₃ ⟨adds₃, same⟩
    refine (accept_ends adds₃.ready (by decide)).bind ?_
    rintro separated s₄ ⟨steps₄, forward₄⟩
    refine .ite (fun again => .pure ⟨adds₃.steps steps₄, ?_⟩) fun _ => .pure (adds₃.steps steps₄)
    have := forward₄ again
    have := steps₂.left_le
    omega
  refine (skip_ends adds₁.ready (by decide)).bind ?_
  rintro _ s₂ ⟨steps₂, _⟩
  exact .pure (adds₁.steps steps₂)

theorem recordFields_ends : Elements text tokens owner .field (recordFields owner) := by
  intro s ready owner_lt
  unfold recordFields
  refine (Ends.loop (fun ids s' => Adds text tokens s s' owner (Part.all .field ids))
    (fun ids s' => Adds text tokens s s' owner (Part.all .field ids)) ?_
    ((Steps.refl ready).adds owner_lt)).bind fun ids s₁ adds₁ => ?_
  · intro ids s₁ adds₁
    refine (sees_word_ends adds₁.ready (by decide)).bind ?_
    rintro ended s₁ ⟨rfl, _⟩
    refine .ite (fun _ => .pure adds₁) fun _ => ?_
    refine (fieldGroup_ends adds₁.ready (Nat.lt_of_lt_of_le owner_lt adds₁.size_le)).bind ?_
    rintro more s₂ ⟨adds₂, forward₂⟩
    refine .pure ⟨?_, forward₂⟩
    rw [Part.all_append]
    exact adds₁.trans adds₂ ready
  refine (skip_ends adds₁.ready (by decide)).bind ?_
  rintro _ s₂ ⟨steps₂, _⟩
  refine (skip_ends steps₂.ready (by decide)).bind ?_
  rintro _ s₃ ⟨steps₃, _⟩
  refine (optionalName_ends steps₃.ready).bind fun _ s₄ steps₄ => ?_
  exact .pure (adds₁.steps ((steps₂.trans steps₃).trans steps₄))

theorem physicalUnits_ends : Elements text tokens owner .state (physicalUnits owner) := by
  intro s ready owner_lt
  unfold physicalUnits
  refine (Ends.loop (fun ids s' => Adds text tokens s s' owner (Part.all .state ids))
    (fun ids s' => Adds text tokens s s' owner (Part.all .state ids)) ?_
    ((Steps.refl ready).adds owner_lt)).bind fun ids s₁ adds₁ => ?_
  · intro ids s₁ adds₁
    refine (sees_word_ends adds₁.ready (by decide)).bind ?_
    rintro ended s₁ ⟨rfl, _⟩
    refine .ite (fun _ => .pure adds₁) fun _ => ?_
    refine (name_ends adds₁.ready).bind ?_
    rintro unit s₂ ⟨steps₂, forward₂, seen⟩
    refine (leaf_ends ready (adds₁.steps steps₂) (seen owner) rfl rfl Role.noConfusion (by trivial)).bind ?_
    rintro id s₃ ⟨adds₃, same⟩
    refine (skipPast_ends adds₃.ready (by decide)).bind ?_
    rintro _ s₄ ⟨steps₄, forward₄⟩
    exact .pure ⟨adds₃.steps steps₄, by omega⟩
  refine (skip_ends adds₁.ready (by decide)).bind ?_
  rintro _ s₂ ⟨steps₂, _⟩
  refine (skip_ends steps₂.ready (by decide)).bind ?_
  rintro _ s₃ ⟨steps₃, _⟩
  refine (optionalName_ends steps₃.ready).bind fun _ s₄ steps₄ => ?_
  exact .pure (adds₁.steps ((steps₂.trans steps₃).trans steps₄))

theorem protectedType_ends (ready : Ready text tokens s) {n : Token} (member : n ∈ tokens) (named : n.isName = true) :
    Ends text (protectedType n) s fun _ s' => Steps text tokens s s' := by
  unfold protectedType
  refine (accept_ends ready (by decide)).discard_bind ?_
  rintro _ s₁ ⟨steps₁, _⟩
  refine (Ends.loop (fun _ s' => Steps text tokens s s') (fun _ s' => Steps text tokens s s') ?_
    steps₁).bind fun _ s₂ steps₂ => ?_
  · intro _ s₂ steps₂
    refine (sees_word_ends steps₂.ready (by decide)).bind ?_
    rintro ends s₂ ⟨rfl, _⟩
    refine (seesSecond_ends steps₂.ready _).bind ?_
    rintro closes s₂ rfl
    refine .ite (fun _ => .pure steps₂) fun _ => ?_
    refine (atEnd_ends steps₂.ready).bind ?_
    rintro ended s₂ ⟨rfl, more⟩
    refine .ite (fun _ => ?_) fun open_ => ?_
    · have identifier := identifier_of_tokenize ready.tokensOf.lexed member named
      have split : Bytes.ofString "unterminated protected type " = Bytes.ofString "unterminated protected type" ++ [32] := by
        decide
      rw [split, List.append_assoc]
      exact failWith_ends steps₂.ready (Bytes.namesNothing_of_identifier (by decide) identifier)
    refine (sees_word_ends steps₂.ready (by decide)).bind ?_
    rintro starts s₂ ⟨rfl, _⟩
    refine .ite (fun _ => ?_) fun _ => ?_
    · refine (nestedSubprogram_ends steps₂.ready (more open_)).bind ?_
      rintro _ s₃ ⟨steps₃, forward₃⟩
      exact .pure ⟨steps₂.trans steps₃, forward₃⟩
    · refine (next_forward_ends steps₂.ready (more open_)).discard_bind ?_
      rintro _ s₃ ⟨steps₃, forward₃, _⟩
      exact .pure ⟨steps₂.trans steps₃, forward₃⟩
  refine (skip_ends steps₂.ready (by decide)).bind ?_
  rintro _ s₃ ⟨steps₃, _⟩
  refine (skip_ends steps₃.ready (by decide)).bind ?_
  rintro _ s₄ ⟨steps₄, _⟩
  refine (accept_ends steps₄.ready (by decide)).discard_bind ?_
  rintro _ s₅ ⟨steps₅, _⟩
  refine (optionalName_ends steps₅.ready).mono fun _ s₆ steps₆ => ?_
  exact steps₂.trans (steps₃.trans (steps₄.trans (steps₅.trans steps₆)))

theorem typeDefinition_ends (ready : Ready text tokens s) (owner_lt : owner < s.tree.nodes.size) {n : Token}
    (member : n ∈ tokens) (named : n.isName = true) :
    Ends text (typeDefinition owner n) s fun decl s' =>
      Adds text tokens s s' owner (Part.all .state decl.states ++ Part.all .field decl.fields) := by
  unfold typeDefinition
  refine (accept_ends ready (by decide)).bind ?_
  rintro enumeration s₁ ⟨steps₁, _⟩
  have owner_lt₁ : owner < s₁.tree.nodes.size := steps₁.tree_eq ▸ owner_lt
  refine .ite (fun _ => ?_) fun _ => ?_
  · refine (literals_ends s₁ steps₁.ready owner_lt₁).bind fun states s₂ adds₂ => .pure ?_
    simpa using steps₁.then_adds adds₂
  refine (accept_ends steps₁.ready (by decide)).bind ?_
  rintro record s₂ ⟨steps₂, _⟩
  have steps := steps₁.trans steps₂
  have owner_lt₂ : owner < s₂.tree.nodes.size := steps.tree_eq ▸ owner_lt
  refine .ite (fun _ => ?_) fun _ => ?_
  · refine (recordFields_ends s₂ steps₂.ready owner_lt₂).bind fun fields s₃ adds₃ => .pure ?_
    simpa using steps.then_adds adds₃
  refine (sees_word_ends steps₂.ready (by decide)).bind ?_
  rintro range s₂ ⟨rfl, _⟩
  refine .ite (fun _ => ?_) fun _ => ?_
  · refine (phraseUpTo_ends steps₂.ready _).discard_bind ?_
    rintro _ s₃ ⟨steps₃, _⟩
    refine (accept_ends steps₃.ready (by decide)).bind ?_
    rintro physical s₄ ⟨steps₄, _⟩
    have steps := steps.trans (steps₃.trans steps₄)
    refine .ite (fun _ => ?_) fun _ => .pure (steps.adds owner_lt)
    refine (physicalUnits_ends s₄ steps₄.ready (steps.tree_eq ▸ owner_lt)).bind fun states s₅ adds₅ => .pure ?_
    simpa using steps.then_adds adds₅
  refine (accept_ends steps₂.ready (by decide)).bind ?_
  rintro isProtected s₃ ⟨steps₃, _⟩
  have steps := steps.trans steps₃
  refine .ite (fun _ => ?_) fun _ => ?_
  · refine (protectedType_ends steps₃.ready member named).bind fun _ s₄ steps₄ => ?_
    exact .pure ((steps.trans steps₄).adds owner_lt)
  · refine (phraseUpTo_ends steps₃.ready _).discard_bind ?_
    rintro _ s₄ ⟨steps₄, _⟩
    exact .pure ((steps.trans steps₄).adds owner_lt)

theorem holds_typeDecl (d : TypeDecl) :
    (Construct.typeDecl d).Holds (Part.all .state d.states ++ Part.all .field d.fields) :=
  ⟨by simp [Construct.statements], fun role _ => by
    cases role <;> simp [Construct.members, Construct.statements], fun _ => nofun⟩

theorem typeDeclaration_ends (ready : Ready text tokens s) (owner_lt : owner < s.tree.nodes.size) :
    Ends text (typeDeclaration owner) s fun id s' => Adds text tokens s s' owner [(.typeDecl, id)] ∧
      s'.left < s.left := by
  unfold typeDeclaration
  refine (skip_ends ready (by decide)).bind ?_
  rintro _ s₁ ⟨steps₁, forward₁⟩
  refine ((name_ends steps₁.ready).and (name_named_ends steps₁.ready)).bind ?_
  rintro n s₂ ⟨⟨steps₂, _, seen⟩, member, named⟩
  have steps := steps₁.trans steps₂
  refine (attachToken_ends steps.ready (steps.tree_eq ▸ owner_lt) (seen owner) _ (by trivial)).bind ?_
  rintro id s₃ ⟨rfl, opens, settles⟩
  have forward : s₃.left < s.left := by
    have := steps₂.left_le
    have := opens.left_eq
    omega
  refine (accept_ends opens.ready (by decide)).bind ?_
  rintro incomplete s₄ ⟨steps₄, _⟩
  refine .ite (fun _ => .pure ⟨?_, Nat.lt_of_le_of_lt steps₄.left_le forward⟩) fun _ => ?_
  · exact steps.then_adds ((opens.leaf steps.ready settles (.inr ⟨rfl, holds_typeDecl _, rfl⟩)
      Role.noConfusion).steps steps₄)
  refine (skip_ends steps₄.ready (by decide)).bind ?_
  rintro _ s₅ ⟨steps₅, _⟩
  have before := steps₄.trans steps₅
  refine (typeDefinition_ends before.ready (before.tree_eq ▸ opens.new_lt) member named).bind fun decl s₆ adds₆ => ?_
  refine (skip_ends adds₆.ready (by decide)).bind ?_
  rintro _ s₇ ⟨steps₇, forward₇⟩
  have inner := (before.then_adds adds₆).steps steps₇
  have forward := Nat.lt_of_le_of_lt inner.left_le forward
  refine (opens.complete_ends inner steps.ready (steps₇.clear adds₆.ready forward₇) (by rfl) (by rfl)
    (holds_typeDecl _) .nil Role.noConfusion (by rfl) (.inl (by trivial))).bind ?_
  rintro _ s₈ ⟨adds, same⟩
  exact .pure ⟨steps.then_adds adds, same ▸ forward⟩

theorem subtypeDeclaration_ends (ready : Ready text tokens s) (owner_lt : owner < s.tree.nodes.size) :
    Ends text (subtypeDeclaration owner) s fun id s' => Adds text tokens s s' owner [(.typeDecl, id)] ∧
      s'.left < s.left := by
  unfold subtypeDeclaration
  refine (skip_ends ready (by decide)).bind ?_
  rintro _ s₁ ⟨steps₁, forward₁⟩
  refine (name_ends steps₁.ready).bind ?_
  rintro n s₂ ⟨steps₂, _, seen⟩
  have steps := steps₁.trans steps₂
  refine (attachToken_ends steps.ready (steps.tree_eq ▸ owner_lt) (seen owner) _ (by trivial)).bind ?_
  rintro id s₃ ⟨rfl, opens, _⟩
  refine (skipPast_ends opens.ready (by decide)).bind ?_
  rintro _ s₄ ⟨steps₄, forward₄⟩
  have inner := steps₄.adds opens.new_lt
  have forward : s₄.left < s.left := by
    have := steps₂.left_le
    have := opens.left_eq
    omega
  refine (opens.complete_ends inner steps.ready (steps₄.clear opens.ready forward₄) (by rfl) (by rfl)
    (holds_typeDecl _) .nil Role.noConfusion (by rfl) (.inl (by trivial))).bind ?_
  rintro _ s₅ ⟨adds, same⟩
  exact .pure ⟨steps.then_adds adds, same ▸ forward⟩

/-- A use clause that is complete and listed by the file is a new part of its owner. -/
theorem listUse_adds {node : Node} {clause : UseClause} (opens : Opens text tokens s s₁ owner start stop (.useClause {}))
    (ready : Ready text tokens s) (steps : Steps text tokens s₁ s₂) (clear : s₂.Clear)
    (redraws : Redraws text tokens s₂ s₃ s.tree.nodes.size node) (drawn : node.construct = .useClause clause)
    (passed : s₂.Passed node) (region : s.tree.IsRegion owner) :
    Adds text tokens s { s₃ with tree := { s₃.tree with uses := s₃.tree.uses ++ [s.tree.nodes.size] } } owner
      [(.use, s.tree.nodes.size)] := by
  have inner := steps.adds opens.new_lt
  have last {i : Nat} (plays : (s₃.tree.construct? i).map Construct.role = some .use) : i ≤ s.tree.nodes.size := by
    rw [redraws.redrawn.role_eq, steps.tree_eq] at plays
    obtain ⟨c, known, _⟩ := Option.map_eq_some_iff.mp plays
    have := Tree.lt_size_of_construct? known
    have := opens.size_eq
    omega
  have covers := redraws.covers fun i child found parent => by
    have above := (Tree.parent?_of_node? found).trans parent
    rw [steps.tree_eq] at above
    have := opens.ready.rooted.lt_of_parent? above
    have := Tree.lt_size_of_parent? above
    have := opens.size_eq
    omega
  have grows := opens.grows ready inner redraws drawn rfl (Construct.holds_nil_of_isLeaf rfl) .nil covers
  have left_le : s₃.left ≤ s.left := opens.left_le inner redraws
  have settled : s₃.Settled := redraws.settled clear.settled fun _ => passed
  refine ⟨redraws.ready.retree rfl rfl rfl rfl, left_le, ?_, ?_, ?_, fun _ => settled⟩
  · exact grows.redraw (Tree.redrawn_of_nodes_eq rfl) (fun _ => False.elim) (fun _ _ => False.elim)
      (fun _ => False.elim) fun _ => False.elim
  · obtain ⟨entity, architecture, package, packageBody⟩ := (opens.units.trans inner.units).trans redraws.units
    exact ⟨entity, architecture, package, packageBody⟩
  · refine ⟨[s.tree.nodes.size], ?_, fun i => ?_, fun i member => ⟨owner, ?_, ?_⟩⟩
    · show s₃.tree.uses ++ _ = _
      rw [redraws.uses_eq, steps.tree_eq, opens.tree_eq]
    · rw [List.mem_singleton]
      constructor
      · rintro rfl
        refine ⟨Nat.le_refl _, ?_⟩
        show (s₃.tree.construct? s.tree.nodes.size).map Construct.role = _
        rw [Tree.construct?, redraws.drawn, Option.map_some, Option.map_some, drawn]
        rfl
      · rintro ⟨new, plays⟩
        exact Nat.le_antisymm (last plays) new
    · rw [List.mem_singleton.mp member]
      show s₃.tree.parent? s.tree.nodes.size = some owner
      rw [redraws.redrawn.parent_eq, steps.tree_eq, Tree.parent?, opens.node?, Option.bind_some]
    · exact grows.toExtends.isRegion region

/-- A use clause adds nothing but the nodes of its names. -/
theorem useClause_ends (ready : Ready text tokens s) (region : s.tree.IsRegion owner) :
    Ends text (useClause owner) s fun _ s' => s'.left < s.left ∧
      ∃ parts, Adds text tokens s s' owner parts ∧ ∀ role, role ≠ .use → Part.pick role parts = [] := by
  unfold useClause
  refine (skip_ends ready (by decide)).bind ?_
  rintro _ s₁ ⟨steps₁, forward₁⟩
  have region₁ : s₁.tree.IsRegion owner := steps₁.tree_eq ▸ region
  have owner_lt₁ := region₁.lt_size
  refine (Ends.loop
    (fun _ s' => ∃ parts, Adds text tokens s₁ s' owner parts ∧ ∀ role, role ≠ Role.use → Part.pick role parts = [])
    (fun _ s' => ∃ parts, Adds text tokens s₁ s' owner parts ∧ ∀ role, role ≠ Role.use → Part.pick role parts = [])
    ?_ ⟨[], (Steps.refl steps₁.ready).adds owner_lt₁, fun _ _ => rfl⟩).bind ?_
  · rintro _ s₂ ⟨parts, adds₂, others⟩
    refine (peek_ends adds₂.ready).bind ?_
    rintro start s₂ ⟨rfl, head⟩
    refine (begin_ends adds₂.ready (Nat.lt_of_lt_of_le owner_lt₁ adds₂.size_le)
      (adds₂.ready.met head owner) _ (by trivial)).bind ?_
    rintro id s₃ ⟨rfl, opens⟩
    refine (selectedName_ends opens.ready).bind ?_
    rintro names s₄ ⟨steps₄, forward₄⟩
    have forward : s₄.left < s₂.left := opens.left_eq ▸ forward₄
    have clear := steps₄.clear opens.ready forward₄
    have inner := steps₄.adds opens.new_lt
    have begun := opens.begun inner clear
    refine (complete_ends steps₄.ready (opens.node?_after inner) (by rfl) opens.ordered begun (by rfl) (.inl (by trivial))).bind ?_
    rintro _ s₅ ⟨last, lastStop, _, redraws⟩
    have adds := adds₂.trans (listUse_adds opens adds₂.ready steps₄ clear redraws rfl
      ⟨begun, ⟨last, lastStop, Nat.le_refl _⟩⟩ (adds₂.grows.toExtends.isRegion region₁)) steps₁.ready
    have others : ∀ role, role ≠ Role.use → Part.pick role (parts ++ [(Role.use, s₂.tree.nodes.size)]) = [] := by
      intro role other
      rw [Part.pick_append, others role other]
      simpa using Ne.symm other
    refine .modify_bind ((accept_ends adds.ready (by decide)).bind ?_)
    rintro separated s₆ ⟨steps₆, _⟩
    refine .ite (fun _ => .pure ⟨⟨_, adds.steps steps₆, others⟩, ?_⟩) fun _ => .pure ⟨_, adds.steps steps₆, others⟩
    exact Nat.lt_of_le_of_lt steps₆.left_le (Nat.lt_of_le_of_lt (Nat.le_of_eq redraws.left_eq) forward)
  · rintro _ s₂ ⟨parts, adds₂, others⟩
    refine (skip_ends adds₂.ready (by decide)).mono ?_
    rintro _ s₃ ⟨steps₃, _⟩
    have adds := adds₂.steps steps₃
    exact ⟨Nat.lt_of_le_of_lt adds.left_le forward₁, parts, steps₁.then_adds adds, others⟩

/-- What an item of a declarative part adds to the declarations before it. Only a process has variables. -/
def ItemRead (text : Bytes) (tokens : List Token) (owner : Nat) (inProcess : Bool) (s : ReaderState)
    (d : Declarations) : Option Declarations → ReaderState → Prop
  | some d', s' => s'.left < s.left ∧ (inProcess = false → d'.locals = d.locals) ∧
      ∃ parts, Adds text tokens s s' owner parts ∧
        ∀ before, Part.Declare before d → Part.Declare (before ++ parts) d'
  | none, s' => Steps text tokens s s'

/-- An item that adds parts of one role and lists them at the end of that role. -/
theorem item_ends {inProcess : Bool} {α : Type} {x : Reader α} (role : Role) (idsOf : α → List NodeId) {d : Declarations}
    {add : α → Declarations} (steps : Steps text tokens s s₁)
    (adds : Ends text x s₁ fun a s' => Adds text tokens s₁ s' owner (Part.all role (idsOf a)) ∧ s'.left < s.left)
    (members : ∀ a r, (add a).members r = d.members r ++ if role = r then idsOf a else [])
    (outside : inProcess = false → role ≠ .localVariable) :
    Ends text (x >>= fun a => pure (some (add a))) s₁ (ItemRead text tokens owner inProcess s d) := by
  refine adds.bind ?_
  rintro a s₂ ⟨adds₂, forward⟩
  refine .pure ⟨forward, fun no => ?_, _, steps.then_adds adds₂, fun before declare r other => ?_⟩
  · simpa [Declarations.members, outside no] using members a .localVariable
  · rw [Part.pick_append, Part.pick_all, declare r other, members a r]

theorem objectsItem_ends {inProcess : Bool} {make : Declared → Construct} {d : Declarations} {add : List NodeId → Declarations}
    (role : Role) (steps : Steps text tokens s s₁) (owner_lt : owner < s.tree.nodes.size)
    (plays : ∀ o, (make o).role = role) (keeps : ∀ o, (make o).initial? = some o.initial)
    (renames : ∀ o name, make { o with name } = (make o).rename name)
    (members : ∀ ids r, (add ids).members r = d.members r ++ if role = r then ids else [])
    (outside : inProcess = false → role ≠ .localVariable)
    (plain : ∀ o, (make o).Plain := by exact fun _ => trivial) :
    Ends text (objects owner make >>= fun ids => pure (some (add ids))) s₁ (ItemRead text tokens owner inProcess s d) := by
  refine item_ends role (fun ids => ids) steps ?_ members outside
  refine (objects_ends role steps.ready (steps.tree_eq ▸ owner_lt) plays keeps renames plain).mono ?_
  rintro ids s₂ ⟨adds, forward⟩
  exact ⟨adds, Nat.lt_of_lt_of_le forward steps.left_le⟩

theorem aliasItem_ends {inProcess : Bool} {c : Construct} {d : Declarations} {add : NodeId → Declarations} {n : Token}
    (role : Role) (steps : Steps text tokens s s₁) (forward : s₁.left < s.left)
    (owner_lt : owner < s.tree.nodes.size) (seen : ∀ owner, s₁.Seen owner n) (plays : c.role = role)
    (bare : c.initial? = some []) (other : role ≠ .use)
    (members : ∀ id r, (add id).members r = d.members r ++ if role = r then [id] else [])
    (outside : inProcess = false → role ≠ .localVariable) (plain : c.Plain) :
    Ends text (attachToken owner n c >>= fun id => pure (some (add id))) s₁ (ItemRead text tokens owner inProcess s d) := by
  refine item_ends role (fun id => [id]) steps ?_ members outside
  refine (attachToken_ends steps.ready (steps.tree_eq ▸ owner_lt) (seen owner) _ plain).mono ?_
  rintro id s₂ ⟨rfl, opens, settles⟩
  have adds := opens.leaf steps.ready settles (.inl bare) (plays ▸ other)
  rw [plays] at adds
  exact ⟨adds, opens.left_eq ▸ forward⟩

/-- An item that is one node of its own. -/
theorem nodeItem_ends {inProcess : Bool} {x : Reader NodeId} {d : Declarations} {add : NodeId → Declarations} (role : Role)
    (steps : Steps text tokens s s₁)
    (adds : Ends text x s₁ fun id s' => Adds text tokens s₁ s' owner [(role, id)] ∧ s'.left < s₁.left)
    (members : ∀ id r, (add id).members r = d.members r ++ if role = r then [id] else [])
    (outside : inProcess = false → role ≠ .localVariable) :
    Ends text (x >>= fun id => pure (some (add id))) s₁ (ItemRead text tokens owner inProcess s d) := by
  refine item_ends role (fun id => [id]) steps (adds.mono ?_) members outside
  rintro id s₂ ⟨adds, forward⟩
  exact ⟨adds, Nat.lt_of_lt_of_le forward steps.left_le⟩

theorem declarativeItem_ends (ready : Ready text tokens s) (region : s.tree.IsRegion owner) (inProcess : Bool)
    (d : Declarations) :
    Ends text (declarativeItem owner inProcess d) s (ItemRead text tokens owner inProcess s d) := by
  have owner_lt := region.lt_size
  unfold declarativeItem
  refine (accept_ends ready (by decide)).bind ?_
  rintro isSignal s₁ ⟨steps₁, _⟩
  refine .ite (fun _ => ?_) fun _ => ?_
  · refine objectsItem_ends .signal steps₁ owner_lt (fun _ => rfl) (fun _ => rfl) (fun _ _ => rfl) (fun ids r => ?_)
      (by simp)
    cases r <;> simp [Declarations.members]
  refine (accept_ends steps₁.ready (by decide)).bind ?_
  rintro isConstant s₂ ⟨steps₂, _⟩
  have steps := steps₁.trans steps₂
  have owner_lt₂ : owner < s₂.tree.nodes.size := steps.tree_eq ▸ owner_lt
  refine .ite (fun _ => ?_) fun _ => ?_
  · refine objectsItem_ends .constant steps owner_lt (fun _ => rfl) (fun _ => rfl) (fun _ _ => rfl) (fun ids r => ?_)
      (by simp)
    cases r <;> simp [Declarations.members]
  refine (sees_word_ends steps.ready (by decide)).bind ?_
  rintro isVariable s₂ ⟨rfl, _⟩
  refine .ite (fun _ => ?_) fun _ => ?_
  · refine (accept_ends steps.ready (by decide)).discard_bind ?_
    rintro _ s₃ ⟨steps₃, _⟩
    refine (skip_ends steps₃.ready (by decide)).bind ?_
    rintro _ s₄ ⟨steps₄, _⟩
    have steps := steps.trans (steps₃.trans steps₄)
    refine .ite (fun yes => ?_) fun _ => ?_
    · refine objectsItem_ends .localVariable steps owner_lt (fun _ => rfl) (fun _ => rfl) (fun _ _ => rfl)
        (fun ids r => ?_) (by simp [yes])
      cases r <;> simp [Declarations.members]
    · refine objectsItem_ends .signal steps owner_lt (fun _ => rfl) (fun _ => rfl) (fun _ _ => rfl) (fun ids r => ?_)
        (by simp)
      cases r <;> simp [Declarations.members]
  refine (sees_word_ends steps.ready (by decide)).bind ?_
  rintro isAlias s₂ ⟨rfl, _⟩
  refine .ite (fun _ => ?_) fun _ => ?_
  · refine (aliasDeclaration_ends steps.ready).bind ?_
    rintro n s₃ ⟨steps₃, forward₃, seen⟩
    have forward := Nat.lt_of_lt_of_le forward₃ steps.left_le
    have steps := steps.trans steps₃
    refine .ite (fun yes => ?_) fun _ => ?_
    · refine aliasItem_ends .localVariable steps forward owner_lt seen rfl rfl Role.noConfusion (fun id r => ?_) (by simp [yes]) trivial
      cases r <;> simp [Declarations.members]
    · refine aliasItem_ends .signal steps forward owner_lt seen rfl rfl Role.noConfusion (fun id r => ?_) (by simp) trivial
      cases r <;> simp [Declarations.members]
  refine (sees_word_ends steps.ready (by decide)).bind ?_
  rintro isType s₂ ⟨rfl, _⟩
  refine .ite (fun _ => ?_) fun _ => ?_
  · refine nodeItem_ends .typeDecl steps (typeDeclaration_ends steps.ready owner_lt₂) (fun id r => ?_) (by simp)
    cases r <;> simp [Declarations.members]
  refine (sees_word_ends steps.ready (by decide)).bind ?_
  rintro isSubtype s₂ ⟨rfl, _⟩
  refine .ite (fun _ => ?_) fun _ => ?_
  · refine nodeItem_ends .typeDecl steps (subtypeDeclaration_ends steps.ready owner_lt₂) (fun id r => ?_) (by simp)
    cases r <;> simp [Declarations.members]
  refine (sees_word_ends steps.ready (by decide)).bind ?_
  rintro isSubprogram s₂ ⟨rfl, more⟩
  refine .ite (fun seen => ?_) fun _ => ?_
  · refine nodeItem_ends .function steps (subprogram_ends steps.ready owner_lt₂ (more seen)) (fun id r => ?_) (by simp)
    cases r <;> simp [Declarations.members]
  refine (sees_word_ends steps.ready (by decide)).bind ?_
  rintro isComponent s₂ ⟨rfl, _⟩
  refine .ite (fun _ => ?_) fun _ => ?_
  · refine nodeItem_ends .component steps (component_ends steps.ready owner_lt₂) (fun id r => ?_) (by simp)
    cases r <;> simp [Declarations.members]
  refine (sees_word_ends steps.ready (by decide)).bind ?_
  rintro isUse s₂ ⟨rfl, _⟩
  refine .ite (fun _ => ?_) fun _ => ?_
  · refine (useClause_ends steps.ready (steps.tree_eq ▸ region)).bind ?_
    rintro _ s₃ ⟨forward₃, parts, adds₃, others⟩
    refine .pure ⟨Nat.lt_of_lt_of_le forward₃ steps.left_le, fun _ => rfl, parts, steps.then_adds adds₃, ?_⟩
    intro before declare r other
    rw [Part.pick_append, others r other, List.append_nil, declare r other]
  refine (sees_word_ends steps.ready (by decide)).bind ?_
  rintro isOther s₂ ⟨rfl, _⟩
  refine .ite (fun _ => ?_) fun _ => .pure steps
  refine (skipPast_ends steps.ready (by decide)).bind ?_
  rintro _ s₃ ⟨steps₃, forward₃⟩
  refine .pure ⟨Nat.lt_of_lt_of_le forward₃ steps.left_le, fun _ => rfl, [], (steps.trans steps₃).adds owner_lt, ?_⟩
  intro before declare
  rwa [List.append_nil]

/-- The lists of a declarative part are the parts that it added. -/
theorem declarations_ends (ready : Ready text tokens s) (region : s.tree.IsRegion owner) (inProcess : Bool) :
    Ends text (declarations owner inProcess) s fun d s' => (inProcess = false → d.locals = []) ∧
      ∃ parts, Adds text tokens s s' owner parts ∧ Part.Declare parts d := by
  unfold declarations
  refine Ends.loop (fun d s' => (inProcess = false → d.locals = []) ∧
    ∃ parts, Adds text tokens s s' owner parts ∧ Part.Declare parts d) _ ?_
    ⟨fun _ => rfl, [], (Steps.refl ready).adds region.lt_size, ?_⟩
  · rintro d s₁ ⟨outside, parts, adds₁, declare⟩
    refine (declarativeItem_ends adds₁.ready (adds₁.grows.toExtends.isRegion region) inProcess d).bind ?_
    rintro (_ | d') s₂ item
    · exact .pure ⟨outside, parts, adds₁.steps item, declare⟩
    · obtain ⟨forward, kept, more, adds₂, declares⟩ := item
      exact .pure ⟨⟨fun no => (kept no).trans (outside no), _, adds₁.trans adds₂ ready,
        declares parts declare⟩, forward⟩
  · intro role _
    cases role <;> rfl

end Reader
end DesignLint
