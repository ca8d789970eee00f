import DesignLint.Proofs.Lockstep.Phrase

/-! Declarations in lockstep. -/
namespace DesignLint

variable {r : Pairing}

/-- A kind of object: its outline is that of what it declares. -/
structure Construct.DeclaresAs (make : Declared → Construct) : Prop where
  outline : ∀ l d, (make d).outline l = make (d.outline l)
  compound : ∀ d, (make d).isOccurrence = false
  library : ∀ d, (make d).NamesLibrary

namespace Construct

theorem declaresAs_signal : DeclaresAs signal := ⟨fun _ _ => rfl, fun _ => rfl, fun _ => trivial⟩

theorem declaresAs_constant : DeclaresAs constant := ⟨fun _ _ => rfl, fun _ => rfl, fun _ => trivial⟩

theorem declaresAs_localVariable : DeclaresAs localVariable := ⟨fun _ _ => rfl, fun _ => rfl, fun _ => trivial⟩

theorem declaresAs_generic : DeclaresAs generic := ⟨fun _ _ => rfl, fun _ => rfl, fun _ => trivial⟩

theorem declaresAs_port (mode : Direction) : DeclaresAs (port · mode) :=
  ⟨fun _ _ => rfl, fun _ => rfl, fun _ => trivial⟩

end Construct

namespace Reader

theorem subtypeText_alike : Alike r r.SourceTwin subtypeText subtypeText := by
  refine (phraseUpTo_alike _).bind fun p q twin => .ite ?_ (failAtPeek_alike _) (textOf_alike twin)
  cases p with
  | mk tokens follow =>
    cases q with
    | mk tokens' follow' =>
      cases twin.tokens with
      | nil => exact Iff.rfl
      | cons _ _ => exact Iff.rfl

theorem objectNames_alike (parent : NodeId) {make : Declared → Construct} (declares : Construct.DeclaresAs make) :
    Alike r (List.Forall₂ (ItemTwin r)) (objectNames parent make) (objectNames parent make) :=
  nameList_alike.bind fun _ _ twins =>
    attachEach_alike parent (fun _ _ _ => rfl) (fun _ => declares.library _) twins

theorem initialValue_alike {objects objects' : List (Token × NodeId)}
    (twins : List.Forall₂ (ItemTwin r) objects objects') :
    Alike r Eq (initialValue objects) (initialValue objects') := by
  refine ifAccepted_alike _ rfl ?_
  cases twins with
  | nil => exact expression_alike _ _
  | cons first _ =>
    simp only [List.map_cons, List.headD_cons, first.2]
    exact expression_alike _ _

/-- The objects of a list are drawn up with their names and initial values. -/
theorem completeObjects_alike {make : Declared → Construct} (declares : Construct.DeclaresAs make)
    {objects objects' : List (Token × NodeId)} (twins : List.Forall₂ (ItemTwin r) objects objects')
    {typeText typeText' : Bytes} (types : r.SourceTwin typeText typeText') (initial : List NodeId) :
    Alike r Eq (completeEach (fun n => make ⟨n.text, typeText, initial⟩) objects)
      (completeEach (fun n => make ⟨n.text, typeText', initial⟩) objects') := by
  refine completeEach_alike (fun t u twin => ?_) (fun t => declares.compound _) (fun t => declares.library _) twins
  rw [declares.outline, declares.outline, Declared.outline, Declared.outline, twin.name_eq, types]

theorem objects_alike (parent : NodeId) {make : Declared → Construct} (declares : Construct.DeclaresAs make) :
    Alike r Eq (objects parent make) (objects parent make) := by
  refine (objectNames_alike parent declares).bind fun _ _ twins => (skip_alike _).eq_bind fun _ => ?_
  refine subtypeText_alike.bind fun _ _ types => ?_
  refine (initialValue_alike twins).eq_bind fun initial => (skip_alike _).eq_bind fun _ => ?_
  exact completeObjects_alike declares twins types initial

theorem direction_alike : Alike r Eq direction direction :=
  (accept_alike _).eq_bind fun _ => .cond (.pure rfl) <|
    (accept_alike _).eq_bind fun _ => .cond (.pure rfl) <|
      (accept_alike _).eq_bind fun _ => .cond (.pure rfl) (.pure rfl)

theorem interfaceElement_alike (parent : NodeId) {make : Direction → Declared → Construct}
    (declares : ∀ mode, Construct.DeclaresAs (make mode)) :
    Alike r Eq (interfaceElement parent make) (interfaceElement parent make) := by
  refine (objectNames_alike parent (declares _)).bind fun _ _ twins => (skip_alike _).eq_bind fun _ => ?_
  refine direction_alike.eq_bind fun mode => subtypeText_alike.bind fun _ _ types => ?_
  refine (initialValue_alike twins).eq_bind fun initial => ?_
  exact completeObjects_alike (declares mode) twins types initial

theorem interfaceList_alike {element : Reader (List NodeId)} (alike : Alike r Eq element element) :
    Alike r Eq (interfaceList element) (interfaceList element) := by
  refine (skip_alike _).eq_bind fun _ => Alike.eq_bind (.eq_loop (fun items => ?_) _) fun _ =>
    (skip_alike _).eq_bind fun _ => .pure rfl
  refine alike.eq_bind fun _ => (accept_alike _).eq_bind fun _ => (sees_alike _).eq_bind fun _ => ?_
  exact .cond (.pure rfl) (.pure rfl)

theorem generics_alike (parent : NodeId) : Alike r Eq (generics parent) (generics parent) := by
  refine interfaceList_alike ((sees_alike _).eq_bind fun _ => .cond ?_ ?_)
  · exact (phraseUpTo_alike _).discard_bind (.pure rfl)
  · exact (accept_alike _).discard_bind (interfaceElement_alike parent fun _ => Construct.declaresAs_generic)

theorem ports_alike (parent : NodeId) : Alike r Eq (ports parent) (ports parent) :=
  interfaceList_alike ((accept_alike _).discard_bind (interfaceElement_alike parent Construct.declaresAs_port))

theorem optionalClause_alike (word : String) {clause : Reader (List NodeId)} (alike : Alike r Eq clause clause) :
    Alike r Eq (optionalClause word clause) (optionalClause word clause) :=
  ifAccepted_alike _ rfl (alike.eq_bind fun _ => (skip_alike _).eq_bind fun _ => .pure rfl)

theorem interfaceClauses_alike (parent : NodeId) :
    Alike r Eq (interfaceClauses parent) (interfaceClauses parent) :=
  (optionalClause_alike _ (generics_alike parent)).eq_bind fun _ =>
    (optionalClause_alike _ (ports_alike parent)).eq_bind fun _ => .pure rfl

theorem aliasDeclaration_alike : Alike r (Token.Twin r) aliasDeclaration aliasDeclaration :=
  (skip_alike _).eq_bind fun _ => next_alike.bind fun _ _ twin => (skipPast_alike _).eq_bind fun _ => .pure twin

theorem skipBody_alike {nested : Reader Unit} (alike : Alike r Eq nested nested) :
    Alike r Eq (skipBody nested) (skipBody nested) := by
  refine Alike.eq_bind (.eq_loop (fun _ => ?_) _) fun _ => next_alike.discard_bind (.eq_loop (fun _ => ?_) _)
  · refine (sees_alike _).eq_bind fun _ => .cond (.pure rfl) ?_
    refine atEnd_alike.eq_bind fun _ => .cond (fail_alike _) ?_
    refine (sees_alike _).eq_bind fun _ => .cond ?_ ?_
    · exact alike.eq_bind fun _ => .pure rfl
    · exact next_alike.discard_bind (.pure rfl)
  · refine next_alike.bind fun t u twin => .ite (by rw [twin.kind_eq]) (fail_alike _) ?_
    refine .ite (by rw [twin.word_eq]) ?_ (.pure rfl)
    refine (accept_alike _).eq_bind fun _ => .cond (.pure rfl) ?_
    exact (skipPast_alike _).eq_bind fun _ => .pure rfl

theorem skipSubprogram_alike (nesting : Nat) : Alike r Eq (skipSubprogram nesting) (skipSubprogram nesting) := by
  induction nesting with
  | zero => exact fun _ _ _ => .left (show ReadFault.stalled.Spurious from trivial) _
  | succ nesting ih =>
    refine (accept_alike _).discard_bind (next_alike.discard_bind (next_alike.discard_bind ?_))
    refine (phraseUpTo_alike _).discard_bind ((accept_alike _).eq_bind fun _ => .cond (.pure rfl) ?_)
    refine (skip_alike _).eq_bind fun _ => (sees_alike _).eq_bind fun _ => .cond (skipPast_alike _) ?_
    exact skipBody_alike ih

theorem nestedSubprogram_alike : Alike r Eq nestedSubprogram nestedSubprogram := by
  refine Alike.get.bind fun s s' twin => ?_
  rw [twin.rest.length_eq]
  exact skipSubprogram_alike _

theorem designator_alike : Alike r (Token.Twin r) designator designator :=
  next_alike.bind fun _ _ twin =>
    .ite (by rw [twin.kind_eq]) (failExpecting_alike _ twin) (.pure twin)

theorem subprogramRest_alike : Alike r r.SourceTwin subprogramRest subprogramRest := by
  refine (sees_alike _).eq_bind fun _ => (seesSecond_alike _).eq_bind fun _ => .cond ?_ ?_
  · exact (skipPast_alike _).eq_bind fun _ => .pure rfl
  · have result : Alike r r.SourceTwin (ifAccepted ["return"] [] do textOf (← phraseUpTo [";", "is"]))
        (ifAccepted ["return"] [] do textOf (← phraseUpTo [";", "is"])) :=
      ifAccepted_alike _ rfl ((phraseUpTo_alike _).bind fun _ _ twin => textOf_alike twin)
    refine (phraseUpTo_alike _).discard_bind (result.bind fun _ _ types => ?_)
    refine (accept_alike _).eq_bind fun _ => .cond (.pure types) ?_
    exact (skip_alike _).eq_bind fun _ => (skipBody_alike nestedSubprogram_alike).eq_bind fun _ => .pure types

theorem subprogram_alike (parent : NodeId) : Alike r Eq (subprogram parent) (subprogram parent) := by
  refine peek_alike.bind fun _ _ start => (accept_alike _).discard_bind ?_
  refine (begin_alike parent start _ (by rfl) (by trivial)).eq_bind fun id => (sees_alike _).eq_bind fun isProcedure => ?_
  refine next_alike.discard_bind (designator_alike.bind fun _ _ twin => subprogramRest_alike.bind fun _ _ types => ?_)
  refine (complete_alike id ?_ (by rfl) (by trivial)).eq_bind fun _ => .pure rfl
  rw [Construct.outline, Construct.outline, Subprogram.outline, Subprogram.outline, twin.name_eq, types]

theorem component_alike (parent : NodeId) : Alike r Eq (component parent) (component parent) := by
  refine (expect_alike _).bind fun _ _ start => (begin_alike parent start _ (by rfl) (by trivial)).eq_bind fun id => ?_
  refine name_alike.bind fun n n' twin => (accept_alike _).discard_bind ?_
  refine (interfaceClauses_alike id).eq_bind fun _ => (endOf_alike _).eq_bind fun _ => ?_
  refine (complete_alike id ?_ (by rfl) (by trivial)).eq_bind fun _ => .pure rfl
  rw [Construct.outline, Construct.outline, Interface.outline, Interface.outline, twin.name_eq]

theorem literal_alike : Alike r (Token.Twin r) literal literal :=
  next_alike.bind fun _ _ twin =>
    .ite (by rw [twin.kind_eq]) (failExpecting_alike _ twin) (.pure twin)

theorem attachState_alike (owner : NodeId) {t u : Token} (twin : t.Twin r u) :
    Alike r Eq (attachToken owner t (.state t.text)) (attachToken owner u (.state u.text)) :=
  attachToken_alike owner twin (by rw [Construct.outline, Construct.outline, twin.name_eq]) trivial

theorem literals_alike (owner : NodeId) : Alike r Eq (literals owner) (literals owner) := by
  refine Alike.eq_bind (.eq_loop (fun states => ?_) _) fun _ => (skip_alike _).eq_bind fun _ => .pure rfl
  refine literal_alike.bind fun _ _ twin => (attachState_alike owner twin).eq_bind fun _ => ?_
  exact (accept_alike _).eq_bind fun _ => .cond (.pure rfl) (.pure rfl)

theorem fieldGroup_alike (owner : NodeId) : Alike r Eq (fieldGroup owner) (fieldGroup owner) := by
  refine nameList_alike.bind fun _ _ names => ?_
  refine (attachEach_alike owner (fun _ _ twin => ?_) ?_ names).bind fun _ _ fields => ?_
  · rw [Construct.outline, Construct.outline, twin.name_eq]
  · exact fun _ => trivial
  refine (skip_alike _).eq_bind fun _ => subtypeText_alike.bind fun _ _ types => (skip_alike _).eq_bind fun _ => ?_
  refine completeEach_alike (fun _ _ twin => ?_) (fun _ => rfl) ?_ fields
  · rw [Construct.outline, Construct.outline, twin.name_eq, types]
  · exact fun _ => trivial

theorem recordFields_alike (owner : NodeId) : Alike r Eq (recordFields owner) (recordFields owner) := by
  refine Alike.eq_bind (.eq_loop (fun fields => ?_) _) fun _ => ?_
  · refine (sees_alike _).eq_bind fun _ => .cond (.pure rfl) ?_
    exact (fieldGroup_alike owner).eq_bind fun _ => .pure rfl
  · exact (skip_alike _).eq_bind fun _ => (skip_alike _).eq_bind fun _ => optionalName_alike.eq_bind fun _ => .pure rfl

theorem physicalUnits_alike (owner : NodeId) : Alike r Eq (physicalUnits owner) (physicalUnits owner) := by
  refine Alike.eq_bind (.eq_loop (fun states => ?_) _) fun _ => ?_
  · refine (sees_alike _).eq_bind fun _ => .cond (.pure rfl) ?_
    refine name_alike.bind fun _ _ twin => (attachState_alike owner twin).eq_bind fun _ => ?_
    exact (skipPast_alike _).eq_bind fun _ => .pure rfl
  · exact (skip_alike _).eq_bind fun _ => (skip_alike _).eq_bind fun _ => optionalName_alike.eq_bind fun _ => .pure rfl

theorem protectedType_alike {n n' : Token} (twin : n.Twin r n') :
    Alike r Eq (protectedType n) (protectedType n') := by
  refine (accept_alike _).discard_bind (Alike.eq_bind (.eq_loop (fun _ => ?_) _) fun _ => ?_)
  · refine (sees_alike _).eq_bind fun _ => (seesSecond_alike _).eq_bind fun _ => .cond (.pure rfl) ?_
    refine atEnd_alike.eq_bind fun _ => .cond (failWith_alike fun spelt => by rw [twin.name_eq.eq spelt]) ?_
    refine (sees_alike _).eq_bind fun _ => .cond ?_ ?_
    · exact nestedSubprogram_alike.eq_bind fun _ => .pure rfl
    · exact next_alike.discard_bind (.pure rfl)
  · refine (skip_alike _).eq_bind fun _ => (skip_alike _).eq_bind fun _ => ?_
    exact (accept_alike _).discard_bind optionalName_alike

theorem typeDefinition_alike (owner : NodeId) {n n' : Token} (twin : n.Twin r n') :
    Alike r (fun d d' => d.outline r.toLikeness = d'.outline r.toLikeness) (typeDefinition owner n)
      (typeDefinition owner n') := by
  have named (kind : TypeKind) (states fields : List NodeId) :
      (⟨n.text, kind, states, fields⟩ : TypeDecl).outline r.toLikeness =
        (⟨n'.text, kind, states, fields⟩ : TypeDecl).outline r.toLikeness := by
    rw [TypeDecl.outline, TypeDecl.outline, twin.name_eq]
  refine (accept_alike _).eq_bind fun _ => .cond ((literals_alike owner).eq_bind fun _ => .pure (named _ _ _)) ?_
  refine (accept_alike _).eq_bind fun _ => .cond ((recordFields_alike owner).eq_bind fun _ => .pure (named _ _ _)) ?_
  refine (sees_alike _).eq_bind fun _ => .cond ?_ ?_
  · refine (phraseUpTo_alike _).discard_bind ((accept_alike _).eq_bind fun _ => .cond ?_ (.pure (named _ _ _)))
    exact (physicalUnits_alike owner).eq_bind fun _ => .pure (named _ _ _)
  · refine (accept_alike _).eq_bind fun _ => .cond ((protectedType_alike twin).eq_bind fun _ => .pure (named _ _ _)) ?_
    exact (phraseUpTo_alike _).discard_bind (.pure (named _ _ _))

/-- A type of which only the name is known yet. -/
theorem outline_plainType {n n' : Token} (twin : n.Twin r n') :
    (Construct.typeDecl { name := n.text, kind := .plain }).outline r.toLikeness =
      (Construct.typeDecl { name := n'.text, kind := .plain }).outline r.toLikeness := by
  rw [Construct.outline, Construct.outline, TypeDecl.outline, TypeDecl.outline, twin.name_eq]

theorem typeDeclaration_alike (parent : NodeId) : Alike r Eq (typeDeclaration parent) (typeDeclaration parent) := by
  refine (skip_alike _).eq_bind fun _ => name_alike.bind fun _ _ twin => ?_
  refine (attachToken_alike parent twin (outline_plainType twin) trivial).eq_bind fun id => ?_
  refine (accept_alike _).eq_bind fun _ => .cond (.pure rfl) ((skip_alike _).eq_bind fun _ => ?_)
  refine (typeDefinition_alike id twin).bind fun _ _ defined => (skip_alike _).eq_bind fun _ => ?_
  refine (complete_alike id ?_ (by rfl) (by trivial)).eq_bind fun _ => .pure rfl
  rw [Construct.outline, Construct.outline, defined]

theorem subtypeDeclaration_alike (parent : NodeId) :
    Alike r Eq (subtypeDeclaration parent) (subtypeDeclaration parent) := by
  refine (skip_alike _).eq_bind fun _ => name_alike.bind fun _ _ twin => ?_
  refine (attachToken_alike parent twin (outline_plainType twin) trivial).eq_bind fun id => (skipPast_alike _).eq_bind fun _ => ?_
  exact (complete_alike id (outline_plainType twin) rfl trivial).eq_bind fun _ => .pure rfl

/-- A part of a selected name that may be missing. -/
theorem nameTwin_getD {l : Likeness} {parts parts' : List Bytes} (twins : List.Forall₂ l.NameTwin parts parts') (i : Nat) :
    l.NameTwin (parts[i]?.getD []) (parts'[i]?.getD []) := by
  induction twins generalizing i with
  | nil => rfl
  | cons first _ ih =>
    cases i with
    | zero => exact first
    | succ i => exact ih i

theorem nameTwin_headD {l : Likeness} {parts parts' : List Bytes} (twins : List.Forall₂ l.NameTwin parts parts') :
    l.NameTwin (parts.headD []) (parts'.headD []) := by
  rw [List.headD_eq_head?_getD, List.headD_eq_head?_getD, List.head?_eq_getElem?, List.head?_eq_getElem?]
  exact nameTwin_getD twins 0

theorem nameTwin_getLastD {l : Likeness} {parts parts' : List Bytes} (twins : List.Forall₂ l.NameTwin parts parts') :
    l.NameTwin (parts.getLastD []) (parts'.getLastD []) := by
  rw [List.getLastD_eq_getLast?, List.getLastD_eq_getLast?, List.getLast?_eq_getElem?, List.getLast?_eq_getElem?,
    twins.length_eq]
  exact nameTwin_getD twins _

theorem useClause_alike (parent : NodeId) : Alike r Eq (useClause parent) (useClause parent) := by
  refine (skip_alike _).eq_bind fun _ => Alike.eq_bind (.eq_loop (fun _ => ?_) _) fun _ => skip_alike _
  have begins {t u : Token} (start : t.Twin r u) := begin_alike parent start (.useClause {}) rfl (Or.inl rfl)
  refine peek_alike.bind fun _ _ start => (begins start).eq_bind fun id => ?_
  refine selectedName_alike.bind fun parts parts' ⟨twins, named⟩ => ?_
  have library := nameTwin_headD twins
  have package : r.NameTwin (parts[1]?.getD []) (parts'[1]?.getD []) := nameTwin_getD twins 1
  have item := Likeness.NameTwin.intercalate (Bytes.ofString ".") (List.forall₂_drop 2 twins)
  refine (complete_alike id ?_ rfl ?_).eq_bind fun _ => ?_
  · rw [Construct.outline, Construct.outline, UseClause.outline, UseClause.outline, library, package, item]
  · exact Or.inr named
  exact (modifyTree_alike (by intro _; rfl) (by intro _; rfl) (by intro _; rfl)).eq_bind fun _ =>
    (accept_alike _).eq_bind fun _ => .cond (.pure rfl) (.pure rfl)

/-- An alias is an object without a type of its own. -/
theorem attachAlias_alike (parent : NodeId) {make : Declared → Construct} (declares : Construct.DeclaresAs make)
    {n n' : Token} (twin : n.Twin r n') :
    Alike r Eq (attachToken parent n (make ⟨n.text, Bytes.ofString "alias", []⟩))
      (attachToken parent n' (make ⟨n'.text, Bytes.ofString "alias", []⟩)) := by
  refine attachToken_alike parent twin ?_ (declares.library _)
  rw [declares.outline, declares.outline, Declared.outline, Declared.outline, twin.name_eq]

theorem declarativeItem_alike (parent : NodeId) (inProcess : Bool) (d : Declarations) :
    Alike r Eq (declarativeItem parent inProcess d) (declarativeItem parent inProcess d) := by
  have listed {make : Declared → Construct} (declares : Construct.DeclaresAs make)
      (put : List NodeId → Option Declarations) :
      Alike r Eq (do return put (← objects parent make)) (do return put (← objects parent make)) :=
    (objects_alike parent declares).eq_bind fun _ => .pure rfl
  refine (accept_alike _).eq_bind fun _ => .cond (listed Construct.declaresAs_signal _) ?_
  refine (accept_alike _).eq_bind fun _ => .cond (listed Construct.declaresAs_constant _) ?_
  refine (sees_alike _).eq_bind fun _ => .cond ?_ ?_
  · refine (accept_alike _).discard_bind ((skip_alike _).eq_bind fun _ => .cond ?_ ?_)
    · exact listed Construct.declaresAs_localVariable _
    · exact listed Construct.declaresAs_signal _
  refine (sees_alike _).eq_bind fun _ => .cond ?_ ?_
  · refine aliasDeclaration_alike.bind fun n n' twin => .cond ?_ ?_
    · exact (attachAlias_alike parent Construct.declaresAs_localVariable twin).eq_bind fun _ => .pure rfl
    · exact (attachAlias_alike parent Construct.declaresAs_signal twin).eq_bind fun _ => .pure rfl
  refine (sees_alike _).eq_bind fun _ => .cond ((typeDeclaration_alike parent).eq_bind fun _ => .pure rfl) ?_
  refine (sees_alike _).eq_bind fun _ => .cond ((subtypeDeclaration_alike parent).eq_bind fun _ => .pure rfl) ?_
  refine (sees_alike _).eq_bind fun _ => .cond ((subprogram_alike parent).eq_bind fun _ => .pure rfl) ?_
  refine (sees_alike _).eq_bind fun _ => .cond ((component_alike parent).eq_bind fun _ => .pure rfl) ?_
  refine (sees_alike _).eq_bind fun _ => .cond ((useClause_alike parent).eq_bind fun _ => .pure rfl) ?_
  exact (sees_alike _).eq_bind fun _ => .cond ((skipPast_alike _).eq_bind fun _ => .pure rfl) (.pure rfl)

theorem declarations_alike (parent : NodeId) (inProcess : Bool) :
    Alike r Eq (declarations parent inProcess) (declarations parent inProcess) := by
  refine .eq_loop (fun d => (declarativeItem_alike parent inProcess d).eq_bind fun found => ?_) _
  cases found with
  | some d => exact .pure rfl
  | none => exact .pure rfl

end Reader
end DesignLint
