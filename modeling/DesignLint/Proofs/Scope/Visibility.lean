import DesignLint.Proofs.Scope.Resolve
import DesignLint.Proofs.Parse.Outcome

/-! Which declarations a read can refer to. Visibility is said by membership: what the packages, the scopes
around the read and the entity hold, in any order. The search for a name is then judged by it, routine by
routine: a search finds a property if it answers only with what has it and is silent only if nothing has it. -/
namespace DesignLint

/-- A search that answers exactly if there is something to find. -/
structure Finds {α : Type} (answer : Option α) (p : α → Prop) : Prop where
  sound : ∀ a, answer = some a → p a
  complete : (∃ a, p a) → answer.isSome

namespace Finds

variable {α β : Type} {answer other : Option α} {p q : α → Prop}

theorem isSome_iff (finds : Finds answer p) : answer.isSome ↔ ∃ a, p a := by
  refine ⟨fun answered => ?_, finds.complete⟩
  obtain ⟨a, same⟩ := Option.isSome_iff_exists.mp answered
  exact ⟨a, finds.sound a same⟩

theorem eq_none (finds : Finds answer p) (nothing : ∀ a, ¬ p a) : answer = none := by
  refine Option.not_isSome_iff_eq_none.mp fun answered => ?_
  obtain ⟨a, found⟩ := finds.isSome_iff.mp answered
  exact nothing a found

theorem exists_eq_some (finds : Finds answer p) (something : ∃ a, p a) : ∃ a, answer = some a ∧ p a := by
  obtain ⟨a, same⟩ := Option.isSome_iff_exists.mp (finds.complete something)
  exact ⟨a, same, finds.sound a same⟩

theorem congr (finds : Finds answer p) (same : ∀ a, p a ↔ q a) : Finds answer q where
  sound a found := (same a).mp (finds.sound a found)
  complete := fun ⟨a, holds⟩ => finds.complete ⟨a, (same a).mpr holds⟩

protected theorem none (nothing : ∀ a, ¬ p a) : Finds Option.none p where
  sound _ found := nomatch found
  complete := fun ⟨a, holds⟩ => (nothing a holds).elim

/-- A test that comes before a search and answers by itself. -/
theorem orElse {c : Prop} [Decidable c] (a : α) (rest : Finds answer p) :
    Finds (if c then some a else answer) fun b => (c ∧ b = a) ∨ p b := by
  split
  case isTrue holds => exact ⟨fun b same => by cases same; exact .inl ⟨holds, rfl⟩, fun _ => rfl⟩
  case isFalse fails => exact rest.congr fun b => (or_iff_right fun ⟨holds, _⟩ => fails holds).symm

theorem or (first : Finds answer p) (second : Finds other q) : Finds (answer.or other) fun a => p a ∨ q a where
  sound a found := by
    cases answer with
    | none => exact .inr (second.sound a found)
    | some b => exact .inl (first.sound a found)
  complete := by
    rintro ⟨a, held | held⟩
    · exact Option.isSome_or.trans (by rw [first.complete ⟨a, held⟩, Bool.true_or])
    · exact Option.isSome_or.trans (by rw [second.complete ⟨a, held⟩, Bool.or_true])

theorem map (finds : Finds answer p) (f : α → β) : Finds (answer.map f) fun b => ∃ a, p a ∧ f a = b where
  sound b found := by
    obtain ⟨a, same, rfl⟩ := Option.map_eq_some_iff.mp found
    exact ⟨a, finds.sound a same, rfl⟩
  complete := fun ⟨_, a, held, _⟩ => Option.isSome_map.trans (finds.complete ⟨a, held⟩)

/-- A search that starts from something that may be absent. -/
theorem bind (x : Option β) {f : β → Option α} {p : β → α → Prop} (each : ∀ b, x = some b → Finds (f b) (p b)) :
    Finds (x.bind f) fun a => ∃ b, x = some b ∧ p b a := by
  cases x with
  | none => exact .none fun a ⟨b, absent, _⟩ => nomatch absent
  | some b => exact (each b rfl).congr fun a => ⟨fun held => ⟨b, rfl, held⟩, fun ⟨_, same, held⟩ => by cases same; exact held⟩

theorem find? (xs : List α) (test : α → Bool) : Finds (xs.find? test) fun a => a ∈ xs ∧ test a where
  sound _ found := ⟨List.mem_of_find?_eq_some found, List.find?_some found⟩
  complete := fun ⟨a, listed, passes⟩ => List.find?_isSome.mpr ⟨a, listed, passes⟩

theorem findSome? {xs : List β} {f : β → Option α} {p : β → α → Prop} (each : ∀ b ∈ xs, Finds (f b) (p b)) :
    Finds (xs.findSome? f) fun a => ∃ b ∈ xs, p b a where
  sound a found := by
    obtain ⟨b, listed, same⟩ := List.exists_of_findSome?_eq_some found
    exact ⟨b, listed, (each b listed).sound a same⟩
  complete := fun ⟨a, b, listed, held⟩ => by
    rw [List.findSome?_isSome_iff]
    exact ⟨b, listed, (each b listed).complete ⟨a, held⟩⟩

/-- The first of the searches that has something to find gives the answer. -/
theorem findSome?_first {before : List β} (after : List β) {b : β} {f : β → Option α} {p : β → α → Prop}
    (each : ∀ b, Finds (f b) (p b)) (silent : ∀ c ∈ before, ∀ a, ¬ p c a) (something : ∃ a, p b a) :
    ∃ a, (before ++ b :: after).findSome? f = some a ∧ p b a := by
  obtain ⟨a, same, held⟩ := (each b).exists_eq_some something
  have skipped : before.findSome? f = Option.none :=
    List.findSome?_eq_none_iff.mpr fun c listed => (each c).eq_none (silent c listed)
  refine ⟨a, ?_, held⟩
  rw [List.findSome?_append, skipped, Option.none_or, List.findSome?_cons, same]

end Finds

namespace Tree

/-- What a list of types makes visible. -/
inductive OfTypes (t : Tree) (types : List NodeId) (isElement : Bool) : NodeId → Prop where
  | type {id} (listed : id ∈ types) : OfTypes t types isElement id
  | state {type d id} (listed : type ∈ types) (known : t.get? Construct.typeDecl? type = some d)
      (held : id ∈ d.states) : OfTypes t types isElement id
  | field {type d id} (listed : type ∈ types) (known : t.get? Construct.typeDecl? type = some d)
      (element : isElement = true) (held : id ∈ d.fields) : OfTypes t types isElement id

/-- What the body of an architecture or a generate statement declares. -/
def OfBody (t : Tree) (b : Body) (isElement : Bool) (id : NodeId) : Prop :=
  id ∈ b.signals ∨ id ∈ b.constants ∨ id ∈ b.functions ∨ t.OfTypes b.types isElement id

/-- What a process declares. The fields of its record types are not among it. -/
def OfProcess (t : Tree) (p : Process) (id : NodeId) : Prop :=
  id ∈ p.locals ∨ id ∈ p.constants ∨ id ∈ p.functions ∨ t.OfTypes p.types false id

/-- What a package declares. -/
def OfPackage (t : Tree) (p : Package) (isElement : Bool) (id : NodeId) : Prop :=
  id ∈ p.constants ∨ id ∈ p.signals ∨ id ∈ p.functions ∨ t.OfTypes p.types isElement id

/-- What a scope makes visible, and under which name. A loop or for-generate stands for its variable. -/
inductive OfScope (t : Tree) (scope : NodeId) (isElement : Bool) : NodeId → Bytes → Prop where
  | architecture {a id name} (kind : t.construct? scope = some (.architecture a))
      (held : t.OfBody a.body isElement id) (named : t.nameOf? id = some name) : OfScope t scope isElement id name
  | generate {g id name} (kind : t.construct? scope = some (.generate g))
      (held : t.OfBody g.body isElement id) (named : t.nameOf? id = some name) : OfScope t scope isElement id name
  | range {g} (kind : t.construct? scope = some (.generate g)) (isFor : g.kind = .forRange) :
      OfScope t scope isElement scope g.iterator
  | process {p id name} (kind : t.construct? scope = some (.process p))
      (held : t.OfProcess p id) (named : t.nameOf? id = some name) : OfScope t scope isElement id name
  | loop {l} (kind : t.construct? scope = some (.loop l)) (named : l.iterator ≠ []) :
      OfScope t scope isElement scope l.iterator

end Tree

namespace Design

/-- What a package makes visible, and under which name: its declarations and, unless an element is read, the
package itself. -/
inductive OfPackage (d : Design) (package : Ref) (isElement : Bool) : Ref → Bytes → Prop where
  | self {t p} (placed : d.tree? package.file = some t) (kind : t.get? Construct.package? package.node = some p)
      (whole : isElement = false) : OfPackage d package isElement package p.name
  | declared {t p id name} (placed : d.tree? package.file = some t)
      (kind : t.get? Construct.package? package.node = some p) (held : t.OfPackage p isElement id)
      (named : t.nameOf? id = some name) : OfPackage d package isElement ⟨package.file, id⟩ name

/-- What a file with an architecture takes from the entity bound to it, and the states of the types of the
architecture, wherever in the file the read stands. -/
inductive OfEntity (d : Design) (file : Nat) : Ref → Bytes → Prop where
  | generic {t a entity owner unit id name} (placed : d.tree? file = some t) (body : t.architectureUnit? = some a)
      (bound : d.boundEntity? file = some entity) (kind : d.interface? entity = some (owner, unit))
      (listed : id ∈ unit.generics) (named : owner.nameOf? id = some name) : OfEntity d file ⟨entity.file, id⟩ name
  | port {t a entity owner unit id name} (placed : d.tree? file = some t) (body : t.architectureUnit? = some a)
      (bound : d.boundEntity? file = some entity) (kind : d.interface? entity = some (owner, unit))
      (listed : id ∈ unit.ports) (named : owner.nameOf? id = some name) : OfEntity d file ⟨entity.file, id⟩ name
  | state {t a entity type decl id name} (placed : d.tree? file = some t) (body : t.architectureUnit? = some a)
      (bound : d.boundEntity? file = some entity) (listed : type ∈ a.body.types)
      (known : t.get? Construct.typeDecl? type = some decl) (held : id ∈ decl.states)
      (named : t.nameOf? id = some name) : OfEntity d file ⟨file, id⟩ name

/-- What a read of a file can refer to, and under which name. -/
inductive Visible (d : Design) (file : Nat) (read : NodeId) (packages : List Ref) (isElement : Bool) :
    Ref → Bytes → Prop where
  | package {package r name} (listed : package ∈ packages) (held : d.OfPackage package isElement r name) :
      Visible d file read packages isElement r name
  | scope {t scope id name} (placed : d.tree? file = some t) (around : t.Below scope read)
      (held : t.OfScope scope isElement id name) : Visible d file read packages isElement ⟨file, id⟩ name
  | entity {r name} (held : d.OfEntity file r name) : Visible d file read packages isElement r name

end Design

namespace Tree

variable {t : Tree} {name : Bytes} {isElement : Bool}

theorem declares_iff {id : NodeId} : t.declares name id = true ↔ ∃ n, t.nameOf? id = some n ∧ sameName n name := by
  rw [declares, Option.any_eq_true]

theorem finds_findNamed (t : Tree) (ids : List NodeId) (name : Bytes) :
    Finds (t.findNamed ids name) fun id => id ∈ ids ∧ t.declares name id :=
  .find? ids _

/-- A search for a declaration of the name, with the name written out. -/
theorem finds_named {answer : Option NodeId} {p : NodeId → Prop} (finds : Finds answer fun id => p id ∧ t.declares name id) :
    Finds answer fun id => ∃ n, (p id ∧ t.nameOf? id = some n) ∧ sameName n name := by
  refine finds.congr fun id => ?_
  simp only [declares_iff, and_assoc, exists_and_left]

theorem finds_lookupStates (t : Tree) (types : List NodeId) (name : Bytes) : Finds (t.lookupStates types name) fun id =>
    ∃ type ∈ types, ∃ d, t.get? Construct.typeDecl? type = some d ∧ id ∈ d.states ∧ t.declares name id :=
  .findSome? fun _ _ => .bind _ fun d _ => t.finds_findNamed d.states name

/-- Of one type: the type itself, then its states, then its fields. -/
theorem finds_lookupTypes (t : Tree) (types : List NodeId) (name : Bytes) (isElement : Bool) :
    Finds (t.lookupTypes types name isElement) fun id => t.OfTypes types isElement id ∧ t.declares name id := by
  have fields (d : TypeDecl) : Finds (if isElement then t.findNamed d.fields name else none) fun id =>
      isElement = true ∧ id ∈ d.fields ∧ t.declares name id := by
    cases isElement with
    | false => exact .none fun _ ⟨element, _⟩ => nomatch element
    | true => exact (t.finds_findNamed d.fields name).congr fun _ => (and_iff_right rfl).symm
  have each (type : NodeId) := Finds.orElse (c := t.declares name type) type <|
    Finds.bind (t.get? Construct.typeDecl? type) fun d _ => (t.finds_findNamed d.states name).or (fields d)
  refine (Finds.findSome? fun type _ => each type).congr fun id => ⟨?_, ?_⟩
  · rintro ⟨type, listed, ⟨named, rfl⟩ | ⟨d, known, ⟨held, named⟩ | ⟨element, held, named⟩⟩⟩
    · exact ⟨.type listed, named⟩
    · exact ⟨.state listed known held, named⟩
    · exact ⟨.field listed known element held, named⟩
  · rintro ⟨held, named⟩
    cases held with
    | type listed => exact ⟨id, listed, .inl ⟨named, rfl⟩⟩
    | state listed known held => exact ⟨_, listed, .inr ⟨_, known, .inl ⟨held, named⟩⟩⟩
    | field listed known element held => exact ⟨_, listed, .inr ⟨_, known, .inr ⟨element, held, named⟩⟩⟩

/-- The order in which bodies, processes and packages are searched: three lists of declarations, then types. -/
theorem finds_lists (t : Tree) (first second third types : List NodeId) (name : Bytes) (isElement : Bool) :
    Finds ((t.findNamed first name).or <| (t.findNamed second name).or <| (t.findNamed third name).or <|
        t.lookupTypes types name isElement)
      fun id => (id ∈ first ∨ id ∈ second ∨ id ∈ third ∨ t.OfTypes types isElement id) ∧ t.declares name id := by
  refine ((t.finds_findNamed first name).or <| (t.finds_findNamed second name).or <|
    (t.finds_findNamed third name).or <| t.finds_lookupTypes types name isElement).congr fun id => ?_
  simp only [or_and_right]

theorem finds_lookupBody (t : Tree) (b : Body) (name : Bytes) (isElement : Bool) :
    Finds (t.lookupBody b name isElement) fun id => t.OfBody b isElement id ∧ t.declares name id :=
  t.finds_lists b.signals b.constants b.functions b.types name isElement

theorem finds_lookupProcess (t : Tree) (p : Process) (name : Bytes) :
    Finds (t.lookupProcess p name) fun id => t.OfProcess p id ∧ t.declares name id :=
  t.finds_lists p.locals p.constants p.functions p.types name false

theorem finds_lookupPackage (t : Tree) (id : NodeId) (p : Package) (name : Bytes) (isElement : Bool) :
    Finds (t.lookupPackage id p name isElement) fun node =>
      ((!isElement && sameName p.name name) = true ∧ node = id) ∨ t.OfPackage p isElement node ∧ t.declares name node :=
  .orElse id (t.finds_lists p.constants p.signals p.functions p.types name isElement)

/-- What a scope answers is what it makes visible under the name. -/
theorem finds_lookupScope (t : Tree) (scope : NodeId) (name : Bytes) (isElement : Bool) :
    Finds (t.lookupScope scope name isElement) fun id => ∃ n, t.OfScope scope isElement id n ∧ sameName n name := by
  -- In each kind of scope only the rules of that kind apply: the others contradict what the scope is.
  rw [lookupScope]
  split
  case h_1 a kind =>
    refine (finds_named (t.finds_lookupBody a.body name isElement)).congr fun id => exists_congr fun n => and_congr_left' ?_
    refine ⟨fun ⟨held, known⟩ => .architecture kind held known, ?_⟩
    rintro (⟨kind', held, known⟩ | ⟨kind', _⟩ | kind' | ⟨kind', _⟩ | kind') <;> cases kind.symm.trans kind'
    exact ⟨held, known⟩
  case h_2 g kind =>
    refine (Finds.orElse scope (finds_named (t.finds_lookupBody g.body name isElement))).congr fun id => ⟨?_, ?_⟩
    · simp only [Bool.and_eq_true, decide_eq_true_eq]
      rintro (⟨⟨isFor, same⟩, rfl⟩ | ⟨n, ⟨held, known⟩, same⟩)
      · exact ⟨_, .range kind isFor, same⟩
      · exact ⟨n, .generate kind held known, same⟩
    · rintro ⟨n, ⟨kind', _⟩ | ⟨kind', held, known⟩ | ⟨kind', isFor⟩ | ⟨kind', _⟩ | kind', same⟩ <;>
        cases kind.symm.trans kind'
      · exact .inr ⟨n, ⟨held, known⟩, same⟩
      · exact .inl ⟨by simp [isFor, same], rfl⟩
  case h_3 p kind =>
    refine (finds_named (t.finds_lookupProcess p name)).congr fun id => exists_congr fun n => and_congr_left' ?_
    refine ⟨fun ⟨held, known⟩ => .process kind held known, ?_⟩
    rintro (⟨kind', _⟩ | ⟨kind', _⟩ | kind' | ⟨kind', held, known⟩ | kind') <;> cases kind.symm.trans kind'
    exact ⟨held, known⟩
  case h_4 l kind =>
    refine (Finds.orElse scope (.none fun _ => not_false)).congr fun id => ⟨?_, ?_⟩
    · simp only [Bool.and_eq_true, Bool.not_eq_true', List.isEmpty_eq_false_iff, or_false]
      rintro ⟨⟨named, same⟩, rfl⟩
      exact ⟨_, .loop kind named, same⟩
    · rintro ⟨n, ⟨kind', _⟩ | ⟨kind', _⟩ | kind' | ⟨kind', _⟩ | ⟨kind', named⟩, same⟩ <;> cases kind.symm.trans kind'
      exact .inl ⟨by simp [named, same], rfl⟩
  case h_5 noArchitecture noGenerate noProcess noLoop =>
    refine .none fun id => ?_
    rintro ⟨n, ⟨kind, _⟩ | ⟨kind, _⟩ | kind | ⟨kind, _⟩ | kind, same⟩
    · exact noArchitecture _ kind
    · exact noGenerate _ kind
    · exact noGenerate _ kind
    · exact noProcess _ kind
    · exact noLoop _ kind

/-- Only scopes answer, so it makes no difference that a walk leaves out the other nodes. -/
theorem findSome?_lookupScope (t : Tree) (ids : List NodeId) (name : Bytes) (isElement : Bool) :
    (ids.filter fun a => (t.construct? a).any isScope).findSome? (t.lookupScope · name isElement) =
      ids.findSome? (t.lookupScope · name isElement) := by
  induction ids with
  | nil => rfl
  | cons a ids ih =>
    rw [List.filter_cons, List.findSome?_cons, ← ih]
    split
    case isTrue scope => rw [List.findSome?_cons]
    case isFalse other =>
      have silent : t.lookupScope a name isElement = none := by
        rw [lookupScope]
        split <;> simp_all [isScope]
      rw [silent]

theorem ancestors_complete (t : Tree) (steps : Nat) (id : NodeId) :
    (t.ancestors steps id).2 = t.reachesFile (steps + 1) id := by
  induction steps generalizing id with
  | zero => rw [ancestors, reachesFile]; cases t.parent? id <;> rfl
  | succ steps ih =>
    rw [ancestors, reachesFile]
    cases t.parent? id with
    | none => rfl
    | some parent => exact ih parent

theorem below_of_mem_ancestors {steps : Nat} {id above : NodeId} (listed : above ∈ (t.ancestors steps id).1) :
    t.Below above id := by
  induction steps generalizing id with
  | zero => simp [ancestors] at listed
  | succ steps ih =>
    rw [ancestors] at listed
    cases known : t.parent? id with
    | none => simp [known] at listed
    | some parent =>
      rw [known] at listed
      cases listed with
      | head => exact .child known
      | tail _ rest => exact .step known (ih rest)

/-- A walk that reaches the file passes everything that stands above its start. -/
theorem mem_ancestors_of_below {id above : NodeId} (below : t.Below above id) {steps : Nat}
    (reaches : t.reachesFile (steps + 1) id = true) : above ∈ (t.ancestors steps id).1 := by
  induction below generalizing steps with
  | child known =>
    rw [reachesFile, known] at reaches
    cases steps with
    | zero => simp [reachesFile] at reaches
    | succ steps => rw [ancestors, known]; exact List.mem_cons_self
  | step known _ ih =>
    rw [reachesFile, known] at reaches
    cases steps with
    | zero => simp [reachesFile] at reaches
    | succ steps => rw [ancestors, known]; exact List.mem_cons_of_mem _ (ih reaches)

/-- What a walk passes before it comes to a node stands below that node. -/
theorem below_of_ancestors_eq {steps : Nat} {id above : NodeId} {before after : List NodeId}
    (walk : (t.ancestors steps id).1 = before ++ above :: after) : ∀ x ∈ before, t.Below above x := by
  induction steps generalizing id before with
  | zero => exact absurd walk.symm (by simp [ancestors])
  | succ steps ih =>
    rw [ancestors] at walk
    cases known : t.parent? id with
    | none => rw [known] at walk; exact absurd walk.symm (by simp)
    | some parent =>
      rw [known] at walk
      cases before with
      | nil => exact fun x listed => by simp at listed
      | cons first rest =>
        obtain ⟨rfl, further⟩ : parent = first ∧ (t.ancestors steps parent).1 = rest ++ above :: after :=
          List.cons_eq_cons.mp walk
        have passed : above ∈ (t.ancestors steps parent).1 := by simp [further]
        exact List.forall_mem_cons.mpr ⟨below_of_mem_ancestors passed, ih further⟩

theorem searchScopes_lookupScope {id : NodeId} (reaches : t.reachesFile (maxDepth + 1) id = true) (name : Bytes)
    (isElement : Bool) : t.searchScopes id (t.lookupScope · name isElement) =
      .ok ((t.ancestors maxDepth id).1.findSome? (t.lookupScope · name isElement)) := by
  have complete : (t.ancestors maxDepth id).2 = true := (t.ancestors_complete maxDepth id).trans reaches
  simp only [searchScopes, scopes, findSome?_lookupScope, complete, if_true]
  cases (t.ancestors maxDepth id).1.findSome? (t.lookupScope · name isElement) <;> rfl

end Tree

namespace Design

variable {d : Design} {file id : Nat} {t : Tree} {name : Bytes} {isElement : Bool}

/-- What one package answers. -/
def lookupOne (d : Design) (name : Bytes) (isElement : Bool) (package : Ref) : Option Ref :=
  (d.tree? package.file).bind fun t => (t.get? Construct.package? package.node).bind fun p =>
    (t.lookupPackage package.node p name isElement).map (Ref.mk package.file)

theorem lookupPackages_eq (d : Design) (packages : List Ref) (name : Bytes) (isElement : Bool) :
    d.lookupPackages packages name isElement = packages.findSome? (d.lookupOne name isElement) := by
  rw [lookupPackages]
  refine congrFun (congrArg _ (funext fun package => ?_)) _
  simp only [lookupOne, Option.map_eq_bind]
  rfl

/-- What a package answers is what it makes visible under the name. -/
theorem finds_lookupOne (d : Design) (name : Bytes) (isElement : Bool) (package : Ref) :
    Finds (d.lookupOne name isElement package) fun r => ∃ n, d.OfPackage package isElement r n ∧ sameName n name := by
  refine (Finds.bind _ fun t _ => Finds.bind _ fun p _ =>
    (t.finds_lookupPackage package.node p name isElement).map (Ref.mk package.file)).congr fun r => ⟨?_, ?_⟩
  · simp only [Bool.and_eq_true, Bool.not_eq_true']
    rintro ⟨t, placed, p, kind, id, ⟨⟨whole, same⟩, rfl⟩ | ⟨held, named⟩, rfl⟩
    · exact ⟨p.name, .self placed kind whole, same⟩
    · obtain ⟨n, known, same⟩ := Tree.declares_iff.mp named
      exact ⟨n, .declared placed kind held known, same⟩
  · rintro ⟨n, ⟨placed, kind, whole⟩ | ⟨placed, kind, held, known⟩, same⟩
    · exact ⟨_, placed, _, kind, _, .inl ⟨by simp [whole, same], rfl⟩, rfl⟩
    · exact ⟨_, placed, _, kind, _, .inr ⟨held, Tree.declares_iff.mpr ⟨n, known, same⟩⟩, rfl⟩

theorem finds_lookupPackages (d : Design) (packages : List Ref) (name : Bytes) (isElement : Bool) :
    Finds (d.lookupPackages packages name isElement) fun r =>
      ∃ package ∈ packages, ∃ n, d.OfPackage package isElement r n ∧ sameName n name := by
  rw [lookupPackages_eq]
  exact .findSome? fun package _ => d.finds_lookupOne name isElement package

theorem lookupEntity_eq (d : Design) (file : Nat) (t : Tree) (name : Bytes) : d.lookupEntity file t name =
    (d.boundEntity? file).bind fun entity => t.architectureUnit?.bind fun a =>
      ((d.interface? entity).bind fun u =>
          ((u.1.findNamed u.2.generics name).or (u.1.findNamed u.2.ports name)).map (Ref.mk entity.file)).or
        ((t.lookupStates a.body.types name).map (Ref.mk file)) := by
  simp only [lookupEntity, Option.map_eq_bind, Function.comp_def]
  rfl

/-- What the entity answers is what it makes visible under the name. -/
theorem finds_lookupEntity (placed : d.tree? file = some t) (name : Bytes) :
    Finds (d.lookupEntity file t name) fun r => ∃ n, d.OfEntity file r n ∧ sameName n name := by
  rw [lookupEntity_eq]
  refine (Finds.bind _ fun entity _ => Finds.bind _ fun a _ =>
    (Finds.bind _ fun u _ => ((u.1.finds_findNamed u.2.generics name).or (u.1.finds_findNamed u.2.ports name)).map
      (Ref.mk entity.file)).or ((t.finds_lookupStates a.body.types name).map (Ref.mk file))).congr fun r => ⟨?_, ?_⟩
  · rintro ⟨entity, bound, a, body, ⟨u, kind, id, ⟨listed, named⟩ | ⟨listed, named⟩, rfl⟩ |
      ⟨id, ⟨type, listed, decl, known, held, named⟩, rfl⟩⟩
    all_goals obtain ⟨n, called, same⟩ := Tree.declares_iff.mp named
    · exact ⟨n, .generic placed body bound kind listed called, same⟩
    · exact ⟨n, .port placed body bound kind listed called, same⟩
    · exact ⟨n, .state placed body bound listed known held called, same⟩
  · rintro ⟨n, ⟨placed', body, bound, kind, listed, called⟩ | ⟨placed', body, bound, kind, listed, called⟩ |
      ⟨placed', body, bound, listed, known, held, called⟩, same⟩
    all_goals
      cases placed.symm.trans placed'
      have named := Tree.declares_iff.mpr ⟨n, called, same⟩
    · exact ⟨_, bound, _, body, .inl ⟨_, kind, _, .inl ⟨listed, named⟩, rfl⟩⟩
    · exact ⟨_, bound, _, body, .inl ⟨_, kind, _, .inr ⟨listed, named⟩, rfl⟩⟩
    · exact ⟨_, bound, _, body, .inr ⟨_, ⟨_, listed, _, known, held, named⟩, rfl⟩⟩

/-- What the nodes above a read answer is what the scopes around it make visible under the name. -/
theorem finds_ancestors (reaches : t.reachesFile (maxDepth + 1) id = true) (name : Bytes) (isElement : Bool) :
    Finds ((t.ancestors maxDepth id).1.findSome? (t.lookupScope · name isElement)) fun node =>
      ∃ scope, t.Below scope id ∧ ∃ n, t.OfScope scope isElement node n ∧ sameName n name := by
  refine (Finds.findSome? fun scope _ => t.finds_lookupScope scope name isElement).congr fun node =>
    exists_congr fun scope => and_congr_left' ?_
  exact ⟨Tree.below_of_mem_ancestors, fun below => Tree.mem_ancestors_of_below below reaches⟩

theorem lookupPackages_first {before : List Ref} (after : List Ref) {package : Ref}
    (silent : ∀ earlier ∈ before, ∀ r n, d.OfPackage earlier isElement r n → sameName n name = false)
    (something : ∃ r n, d.OfPackage package isElement r n ∧ sameName n name) :
    ∃ r n, d.lookupPackages (before ++ package :: after) name isElement = some r ∧
      d.OfPackage package isElement r n ∧ sameName n name := by
  have quiet : ∀ earlier ∈ before, ∀ r, ¬ ∃ n, d.OfPackage earlier isElement r n ∧ sameName n name := by
    rintro earlier listed r ⟨n, held, same⟩
    simp [silent earlier listed r n held] at same
  obtain ⟨r, answer, n, held, same⟩ :=
    Finds.findSome?_first after (d.finds_lookupOne name isElement) quiet something
  exact ⟨r, n, (d.lookupPackages_eq _ name isElement).trans answer, held, same⟩

theorem ancestors_nearest {scope : Nat} (reaches : t.reachesFile (maxDepth + 1) id = true) (around : t.Below scope id)
    (nearest : ∀ inner, t.Below inner id → t.Below scope inner →
      ∀ node n, t.OfScope inner isElement node n → sameName n name = false)
    (something : ∃ node n, t.OfScope scope isElement node n ∧ sameName n name) :
    ∃ node n, (t.ancestors maxDepth id).1.findSome? (t.lookupScope · name isElement) = some node ∧
      t.OfScope scope isElement node n ∧ sameName n name := by
  obtain ⟨before, after, walk⟩ := List.append_of_mem (Tree.mem_ancestors_of_below around reaches)
  have quiet : ∀ inner ∈ before, ∀ node, ¬ ∃ n, t.OfScope inner isElement node n ∧ sameName n name := by
    rintro inner listed node ⟨n, held, same⟩
    have passed : inner ∈ (t.ancestors maxDepth id).1 := by rw [walk]; exact List.mem_append_left _ listed
    have silent := nearest inner (Tree.below_of_mem_ancestors passed) (Tree.below_of_ancestors_eq walk inner listed)
    simp [silent node n held] at same
  obtain ⟨node, answer, n, held, same⟩ := Finds.findSome?_first after
    (fun scope => t.finds_lookupScope scope name isElement) quiet something
  exact ⟨node, n, by rw [walk, answer], held, same⟩

theorem Visible.reorder {packages others : List Ref} {r : Ref} {n : Bytes} (listed : ∀ package ∈ others, package ∈ packages)
    (visible : d.Visible file id others isElement r n) : d.Visible file id packages isElement r n := by
  cases visible with
  | package held' held => exact .package (listed _ held') held
  | scope placed around held => exact .scope placed around held
  | entity held => exact .entity held

/-- A read is looked up in the packages, then in what stands above it, then in the entity. -/
theorem resolveRead_eq (placed : d.tree? file = some t) (isRead : t.get? Construct.read? id = some (name, isElement))
    (reaches : t.reachesFile (maxDepth + 1) id = true) (packages : List Ref) :
    d.resolveRead file id packages = .ok ((d.lookupPackages packages name isElement).or
      ((((t.ancestors maxDepth id).1.findSome? (t.lookupScope · name isElement)).map (Ref.mk file)).or
        (d.lookupEntity file t name))) := by
  have root : t.checkRoot id = .ok () := by rw [Tree.checkRoot, if_pos reaches]
  simp only [resolveRead, placed, isRead, Option.getD_some, Tree.searchScopes_lookupScope reaches, root]
  cases d.lookupPackages packages name isElement with
  | some r => rfl
  | none => cases (t.ancestors maxDepth id).1.findSome? (t.lookupScope · name isElement) <;> rfl

theorem finds_resolveRead (placed : d.tree? file = some t) (reaches : t.reachesFile (maxDepth + 1) id = true)
    (packages : List Ref) (name : Bytes) (isElement : Bool) :
    Finds ((d.lookupPackages packages name isElement).or
        ((((t.ancestors maxDepth id).1.findSome? (t.lookupScope · name isElement)).map (Ref.mk file)).or
          (d.lookupEntity file t name)))
      fun r => ∃ n, d.Visible file id packages isElement r n ∧ sameName n name := by
  refine ((d.finds_lookupPackages packages name isElement).or
    (((finds_ancestors reaches name isElement).map (Ref.mk file)).or (finds_lookupEntity placed name))).congr fun r => ⟨?_, ?_⟩
  · rintro (⟨package, listed, n, held, same⟩ | ⟨node, ⟨scope, around, n, held, same⟩, rfl⟩ | ⟨n, held, same⟩)
    · exact ⟨n, .package listed held, same⟩
    · exact ⟨n, .scope placed around held, same⟩
    · exact ⟨n, .entity held, same⟩
  · rintro ⟨n, ⟨listed, held⟩ | ⟨placed', around, held⟩ | held, same⟩
    · exact .inl ⟨_, listed, n, held, same⟩
    · cases placed.symm.trans placed'
      exact .inr (.inl ⟨_, ⟨_, around, n, held, same⟩, rfl⟩)
    · exact .inr (.inr ⟨n, held, same⟩)

/-- A read that stands no deeper than a walk may go is resolved by visibility. It resolves to something exactly
if something visible has its name, and then to such a thing: one of the first package that has one, else one of
the nearest scope that has one. Whether it resolves does not depend on the order of the packages. -/
theorem resolveRead_visible (placed : d.tree? file = some t)
    (isRead : t.get? Construct.read? id = some (name, isElement)) (reaches : t.reachesFile (maxDepth + 1) id = true)
    (packages : List Ref) :
    ∃ found, d.resolveRead file id packages = .ok found ∧
      (found.isSome ↔ ∃ r n, d.Visible file id packages isElement r n ∧ sameName n name) ∧
      (∀ r, found = some r → ∃ n, d.Visible file id packages isElement r n ∧ sameName n name) ∧
      (∀ before package after, packages = before ++ package :: after →
        (∀ earlier ∈ before, ∀ r n, d.OfPackage earlier isElement r n → sameName n name = false) →
        (∃ r n, d.OfPackage package isElement r n ∧ sameName n name) →
        ∃ r n, found = some r ∧ d.OfPackage package isElement r n ∧ sameName n name) ∧
      (∀ scope, t.Below scope id →
        (∀ package ∈ packages, ∀ r n, d.OfPackage package isElement r n → sameName n name = false) →
        (∀ inner, t.Below inner id → t.Below scope inner →
          ∀ node n, t.OfScope inner isElement node n → sameName n name = false) →
        (∃ node n, t.OfScope scope isElement node n ∧ sameName n name) →
        ∃ node n, found = some ⟨file, node⟩ ∧ t.OfScope scope isElement node n ∧ sameName n name) ∧
      ∀ others : List Ref, (∀ package, package ∈ others ↔ package ∈ packages) →
        ∃ found', d.resolveRead file id others = .ok found' ∧ found'.isSome = found.isSome := by
  have finds := fun packages => finds_resolveRead placed reaches packages name isElement
  refine ⟨_, resolveRead_eq placed isRead reaches packages, (finds packages).isSome_iff, (finds packages).sound, ?_, ?_, ?_⟩
  · rintro before package after rfl silent something
    obtain ⟨r, n, answer, held, same⟩ := lookupPackages_first after silent something
    exact ⟨r, n, by rw [answer, Option.some_or], held, same⟩
  · intro scope around noPackage nearest something
    have skipped : d.lookupPackages packages name isElement = none :=
      (d.finds_lookupPackages packages name isElement).eq_none fun r => by
        rintro ⟨package, listed, n, held, same⟩
        simp [noPackage package listed r n held] at same
    obtain ⟨node, n, answer, held, same⟩ := ancestors_nearest reaches around nearest something
    exact ⟨node, n, by rw [skipped, answer, Option.none_or, Option.map_some, Option.some_or], held, same⟩
  · intro others same
    refine ⟨_, resolveRead_eq placed isRead reaches others, Bool.eq_iff_iff.mpr ?_⟩
    rw [(finds others).isSome_iff, (finds packages).isSome_iff]
    refine exists_congr fun r => exists_congr fun n => and_congr_left' ?_
    exact ⟨.reorder fun p => (same p).mp, .reorder fun p => (same p).mpr⟩

/-- A loop around a read of its variable, spelled in the other case. -/
def readInLoop : Bytes := Bytes.ofString
  "architecture a of e is\nbegin\nprocess begin\nfor i in s loop\nx <= I;\nend loop;\nend process;\nend;\n"

/-- The read finds the loop, under the name of its variable. -/
theorem readInLoop_visible : ∃ t, Tree.parse "design.vhd" readInLoop = .ok t ∧
    ∃ n, Visible ⟨#[{ tree := t }]⟩ 0 7 [] false ⟨0, 3⟩ n ∧ sameName n (Bytes.ofString "I") := by
  obtain ⟨t, parsed, shown⟩ := exists_ok_of_any (show (Tree.parse "design.vhd" readInLoop).toOption.any (fun t =>
    decide (t.get? Construct.read? 7 = some (Bytes.ofString "I", false)) && t.reachesFile (maxDepth + 1) 7 &&
      decide ((⟨#[{ tree := t }]⟩ : Design).resolveRead 0 7 [] = .ok (some ⟨0, 3⟩))) = true by
      rw [readInLoop, Bytes.ofString_ofList]
      decide +kernel)
  simp only [Bool.and_eq_true, decide_eq_true_eq] at shown
  obtain ⟨⟨isRead, reaches⟩, answer⟩ := shown
  have placed : (⟨#[{ tree := t }]⟩ : Design).tree? 0 = some t := rfl
  obtain ⟨found, resolved, -, sound, -⟩ := resolveRead_visible placed isRead reaches []
  cases answer.symm.trans resolved
  exact ⟨t, parsed, sound _ rfl⟩

end Design
end DesignLint
