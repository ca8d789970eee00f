import DesignLint.Tree.View
import DesignLint.Proofs.Inference.Flatten

/-! The items of an architecture: the processes, concurrent assignments, instantiations and generate statements
of its body and of the bodies inside it. Everything below an architecture that can hold an occurrence is an
item or stands inside exactly one. -/
namespace DesignLint.Tree

/-- The roles of the statements of a body, in the order in which they are checked. -/
def itemRoles : List Role := [.process, .statement, .instantiation, .generate]

/-- A node with a body. -/
def IsUnit (t : Tree) (id : Nat) : Prop := t.role? id = some .architecture ∨ t.role? id = some .generate

/-- An architecture and the generate statements inside it, each before those inside itself. -/
def units (t : Tree) (a : Nat) : List NodeId := a :: t.under [.generate] (t.membersOf .generate a)

/-- The statements of all bodies of an architecture. -/
def items (t : Tree) (a : Nat) : List NodeId := (t.units a).flatMap (t.kids itemRoles)

/-- A node is an item or stands inside one, without a body in between. -/
inductive Inside (t : Tree) (item : Nat) : Nat → Prop where
  | self : Inside t item item
  | step {id parent : Nat} (known : t.parent? id = some parent) (plain : ¬t.IsUnit parent)
      (inside : Inside t item parent) : Inside t item id

/-- The body of an architecture or a generate statement. -/
def bodyOf (t : Tree) (id : Nat) : Body :=
  match t.construct? id with
  | some (.architecture a) => a.body
  | some (.generate g) => g.body
  | _ => {}

/-- The statements inside a process, with the clauses and arms between them. -/
def nested (t : Tree) (process : Nat) : List NodeId := t.under statementRoles (t.membersOf .statement process)

/-- A node is an item of an architecture or stands inside a process among the items. -/
def Reached (t : Tree) (a id : Nat) : Prop :=
  id ∈ t.items a ∨ ∃ y ∈ t.items a, t.role? y = some .process ∧ id ∈ t.nested y

variable {t : Tree} {a id x y parent levels : Nat} {ids : List Nat} {role : Role}

theorem listed_itemRoles : ∀ role ∈ itemRoles, role.Listed := by
  intro role member c
  simp only [itemRoles, List.mem_cons, List.not_mem_nil, or_false] at member
  rcases member with rfl | rfl | rfl | rfl <;> cases c <;> rfl

theorem listed_generate : ∀ role ∈ [Role.generate], role.Listed := by
  intro role member
  obtain rfl := List.mem_singleton.mp member
  exact listed_itemRoles .generate (by simp [itemRoles])

/-- The items of a unit stand in its body. -/
theorem membersOf_unit (unit : t.IsUnit x) (among : role ∈ itemRoles) :
    t.membersOf role x = (t.bodyOf x).members role := by
  obtain ⟨c, known⟩ : ∃ c, t.construct? x = some c := exists_construct? (unit.elim lt_size_of_role? lt_size_of_role?)
  rw [IsUnit, role?_of_construct? known] at unit
  rw [membersOf_of_construct? known, bodyOf, known]
  simp only [itemRoles, List.mem_cons, List.not_mem_nil, or_false] at among
  cases c <;> simp only [Construct.role, Option.some.injEq, reduceCtorEq, or_false, or_self] at unit
  all_goals rcases among with rfl | rfl | rfl | rfl <;> rfl

theorem Inside.atOrBelow (inside : t.Inside y id) : t.AtOrBelow y id := by
  induction inside with
  | self => exact .inl rfl
  | step known _ _ ih =>
    rcases ih with rfl | below
    · exact .inr (.child known)
    · exact .inr (.step known below)

/-- A node stands inside one item only. -/
theorem Inside.unique (inX : t.Inside x id) (inY : t.Inside y id) {u v : Nat} (parentX : t.parent? x = some u)
    (unitX : t.IsUnit u) (parentY : t.parent? y = some v) (unitY : t.IsUnit v) : x = y := by
  induction inX with
  | self =>
    cases inY with
    | self => rfl
    | step known plain _ =>
      rw [parentX] at known
      exact absurd (Option.some.inj known ▸ unitX) plain
  | step known plain _ ih =>
    cases inY with
    | self =>
      rw [parentY] at known
      exact absurd (Option.some.inj known ▸ unitY) plain
    | step known' _ inY =>
      rw [known] at known'
      cases known'
      exact ih inY

namespace WellFormed

theorem mem_units (formed : t.WellFormed) (architecture : t.role? a = some .architecture) :
    ∀ u ∈ t.units a, t.IsUnit u ∧ t.AtOrBelow a u := by
  intro u member
  rcases List.mem_cons.mp member with rfl | member
  · exact ⟨.inl architecture, .inl rfl⟩
  · refine under_induction (fun u => t.IsUnit u ∧ t.AtOrBelow a u) ?_ ?_ u member
    · intro g among
      have child := formed.child_of_mem (listed_generate _ List.mem_cons_self) among
      exact ⟨.inr child.2, .inr (.child child.1)⟩
    · rintro g ⟨_, below⟩ x among
      obtain ⟨role, isGenerate, among⟩ := mem_kids.mp among
      obtain rfl := List.mem_singleton.mp isGenerate
      have child := formed.child_of_mem (listed_generate _ List.mem_cons_self) among
      refine ⟨.inr child.2, .inr ?_⟩
      rcases below with rfl | below
      · exact .child child.1
      · exact .step child.1 below

theorem generate_mem_units (formed : t.WellFormed) (unit : x ∈ t.units a) (member : y ∈ t.membersOf .generate x) :
    y ∈ t.units a := by
  have exist : ∀ g ∈ t.membersOf .generate a, g < t.nodes.size := fun g among =>
    lt_size_of_parent? (formed.child_of_mem (listed_generate _ List.mem_cons_self) among).1
  refine List.mem_cons_of_mem _ ?_
  rcases List.mem_cons.mp unit with rfl | unit
  · exact mem_under_of_mem formed listed_generate exist member
  · exact mem_under_of_mem_kids formed listed_generate exist unit
      (mem_kids.mpr ⟨.generate, List.mem_cons_self, member⟩)

theorem units_nodup (formed : t.WellFormed) : (t.units a).Nodup := by
  have child {g : Nat} (among : g ∈ t.membersOf .generate a) :=
    formed.child_of_mem (listed_generate _ List.mem_cons_self) among
  refine List.nodup_cons.mpr ⟨fun member => ?_, ?_⟩
  · obtain ⟨g, among, below⟩ := preorder_atOrBelow formed listed_generate _ member
    have less := formed.rooted.lt_of_parent? (child among).1
    rcases below with rfl | below
    · exact Nat.lt_irrefl _ less
    · exact Nat.lt_asymm less (formed.rooted.below_lt below)
  · exact preorder_nodup formed listed_generate (List.nodup_singleton _) (fun g among => (child among).1)
      (formed.membersOf_nodup (listed_generate _ List.mem_cons_self) a)

/-- An item is a statement of a body. -/
theorem mem_items (formed : t.WellFormed) (architecture : t.role? a = some .architecture)
    (item : y ∈ t.items a) : ∃ u ∈ t.units a, ∃ role ∈ itemRoles, t.Child role u y ∧ t.IsUnit u ∧ t.Below a y := by
  obtain ⟨u, unit, member⟩ := List.mem_flatMap.mp item
  obtain ⟨role, among, member⟩ := mem_kids.mp member
  have child := formed.child_of_mem (listed_itemRoles role among) member
  obtain ⟨isUnit, below⟩ := formed.mem_units architecture u unit
  refine ⟨u, unit, role, among, child, isUnit, ?_⟩
  rcases below with rfl | below
  · exact .child child.1
  · exact .step child.1 below

theorem items_nodup (formed : t.WellFormed) : (t.items a).Nodup := by
  refine nodup_flatMap_of_eq formed.units_nodup
    (fun u _ => formed.kids_nodup listed_itemRoles (by simp [itemRoles]) u) ?_
  intro u _ v _ y left right
  have one := formed.parent?_of_mem_kids listed_itemRoles left
  have two := formed.parent?_of_mem_kids listed_itemRoles right
  rw [one] at two
  exact Option.some.inj two

/-- The bodies below generate statements are those of the generate statements that a traversal meets. -/
theorem bodiesBelow_eq (formed : t.WellFormed) (generates : ∀ id ∈ ids, t.role? id = some .generate) :
    t.bodiesBelow levels ids = (t.preorder [.generate] levels ids).map t.bodyOf := by
  induction levels generalizing ids with
  | zero => rfl
  | succ levels ih =>
    rw [bodiesBelow, preorder, List.map_flatMap]
    refine List.flatMap_congr fun id among => ?_
    obtain ⟨c, known, same⟩ := Option.map_eq_some_iff.mp (generates id among)
    cases c <;> simp only [Construct.role, reduceCtorEq] at same
    rename_i g
    have body : t.bodyOf id = g.body := by rw [bodyOf, known]
    have inner : t.kids [.generate] id = g.body.generates := by
      simp [kids, membersOf_of_construct? known, Construct.members, Body.members]
    have below : ∀ x ∈ g.body.generates, t.role? x = some .generate := by
      intro x member
      rw [← inner] at member
      obtain ⟨role, isGenerate, member⟩ := mem_kids.mp member
      obtain rfl := List.mem_singleton.mp isGenerate
      exact (formed.child_of_mem (listed_generate _ List.mem_cons_self) member).2
    simp only [generateBody?, get?, known, Option.bind_some, Construct.generate?, Option.map_some]
    rw [List.map_cons, body, inner, ih below]

/-- The bodies of the file are those of the units of its architecture. -/
theorem bodies_eq (formed : t.WellFormed) (found : t.architecture = some a) :
    t.bodies = (t.units a).map t.bodyOf := by
  obtain ⟨c, known, same⟩ := Option.map_eq_some_iff.mp (formed.architecture a found)
  cases c <;> simp only [Construct.role, reduceCtorEq] at same
  rename_i unit
  have child {g : Nat} (among : g ∈ t.membersOf .generate a) :=
    formed.child_of_mem (listed_generate _ List.mem_cons_self) among
  have enough : t.Enough t.nodes.size (t.membersOf .generate a) := fun g among =>
    ⟨lt_size_of_parent? (child among).1, Nat.le_add_right _ _⟩
  have generates : unit.body.generates = t.membersOf .generate a := by
    rw [membersOf_of_construct? known, Construct.members, Body.members]
  have body : t.bodyOf a = unit.body := by rw [bodyOf, known]
  rw [bodies, architectureUnit?, found, Option.bind_some, get?, known, Option.bind_some]
  simp only [Construct.architecture?, bodiesOf]
  rw [units, List.map_cons, body, generates, formed.bodiesBelow_eq fun g among => (child among).2,
    preorder_succ formed listed_generate enough, under]

/-- What a body of the file lists for a role plays that role. -/
theorem role?_of_mem_bodies (formed : t.WellFormed) {b : Body} (body : b ∈ t.bodies) (among : role ∈ itemRoles)
    (listed : id ∈ b.members role) : t.role? id = some role := by
  cases found : t.architecture with
  | none => simp [bodies, architectureUnit?, found] at body
  | some arch =>
    rw [formed.bodies_eq found] at body
    obtain ⟨u, unit, rfl⟩ := List.mem_map.mp body
    rw [← membersOf_unit (formed.mem_units (formed.architecture arch found) u unit).1 among] at listed
    exact (formed.child_of_mem (listed_itemRoles role among) listed).2

/-- What stands inside a process is a statement, a clause or an arm, and no body comes in between. -/
theorem mem_nested (formed : t.WellFormed) (process : t.role? y = some .process) :
    ∀ x ∈ t.nested y, (∃ role ∈ statementRoles, t.role? x = some role) ∧ t.Inside y x := by
  refine under_induction (fun x => (∃ role ∈ statementRoles, t.role? x = some role) ∧ t.Inside y x) ?_ ?_
  · intro x member
    have child := formed.child_of_mem (listed_statementRoles .statement (by simp [statementRoles])) member
    refine ⟨⟨_, by simp [statementRoles], child.2⟩, .step child.1 ?_ .self⟩
    simp [IsUnit, process]
  · rintro x ⟨⟨role, among, plays⟩, inside⟩ z member
    obtain ⟨role', among', member⟩ := mem_kids.mp member
    have child := formed.child_of_mem (listed_statementRoles role' among') member
    refine ⟨⟨role', among', child.2⟩, .step child.1 ?_ inside⟩
    rw [IsUnit, plays]
    simp only [statementRoles, List.mem_cons, List.not_mem_nil, or_false] at among
    rcases among with rfl | rfl | rfl <;> simp

theorem nested_nodup (formed : t.WellFormed) : (t.nested y).Nodup := by
  have listed := listed_statementRoles .statement (by simp [statementRoles])
  exact preorder_nodup formed listed_statementRoles (by simp [statementRoles])
    (fun x member => (formed.child_of_mem listed member).1) (formed.membersOf_nodup listed y)

/-- An item is listed by a unit under its role. -/
theorem exists_unit_of_item (formed : t.WellFormed) (item : y ∈ t.items a) (plays : t.role? y = some role) :
    role ∈ itemRoles ∧ ∃ u ∈ t.units a, y ∈ t.membersOf role u := by
  obtain ⟨u, unit, member⟩ := List.mem_flatMap.mp item
  obtain ⟨role', among, member⟩ := mem_kids.mp member
  have child := formed.child_of_mem (listed_itemRoles role' among) member
  obtain rfl : role = role' := Option.some.inj (plays.symm.trans child.2)
  exact ⟨among, u, unit, member⟩

/-- A generate statement among the items has a body of its own. -/
theorem mem_units_of_item (formed : t.WellFormed) (item : y ∈ t.items a)
    (plays : t.role? y = some .generate) : y ∈ t.units a := by
  obtain ⟨_, u, unit, member⟩ := formed.exists_unit_of_item item plays
  exact formed.generate_mem_units unit member

/-- A statement among the items is an assignment. -/
theorem assignment_of_item (formed : t.WellFormed) (architecture : t.role? a = some .architecture)
    (item : y ∈ t.items a) (plays : t.role? y = some .statement) :
    ∃ statement, t.construct? y = some (.assignment statement) := by
  obtain ⟨_, u, unit, member⟩ := formed.exists_unit_of_item item plays
  have concurrent : (t.construct? y).map Construct.isAssignment = some true := by
    obtain ⟨isUnit, _⟩ := formed.mem_units architecture u unit
    obtain ⟨c, known⟩ : ∃ c, t.construct? u = some c := exists_construct? (isUnit.elim lt_size_of_role? lt_size_of_role?)
    rw [membersOf_of_construct? known] at member
    rw [IsUnit, role?_of_construct? known] at isUnit
    cases c <;> simp only [Construct.role, Option.some.injEq, reduceCtorEq, or_false, or_self] at isUnit
    all_goals exact (formed.holds_of_pos known (formed.pos_of_ne_file known (by simp)) rfl).2 y member
  obtain ⟨c, known, same⟩ := Option.map_eq_some_iff.mp concurrent
  cases c <;> simp [Construct.isAssignment] at same
  exact ⟨_, known⟩

theorem pos_of_architecture (formed : t.WellFormed) (architecture : t.role? a = some .architecture) : 0 < a := by
  obtain ⟨c, known, same⟩ := Option.map_eq_some_iff.mp architecture
  refine formed.pos_of_ne_file known ?_
  rintro rfl
  simp [Construct.role] at same

/-- What stands below an architecture has a parent that is the architecture or stands below it too. -/
theorem exists_parent_of_below (formed : t.WellFormed) (architecture : t.role? a = some .architecture)
    (below : t.Below a x) : ∃ p c, t.parent? x = some p ∧ t.construct? p = some c ∧ 0 < p ∧ t.AtOrBelow a p := by
  have positive := formed.pos_of_architecture architecture
  have named {p : Nat} (parent : t.parent? x = some p) : ∃ c, t.construct? p = some c := by
    have := formed.rooted.lt_of_parent? parent
    have := lt_size_of_parent? parent
    exact exists_construct? (by omega)
  cases below with
  | child parent =>
    obtain ⟨c, known⟩ := named parent
    exact ⟨a, c, parent, known, positive, .inl rfl⟩
  | step parent above =>
    obtain ⟨c, known⟩ := named parent
    exact ⟨_, c, parent, known, Nat.lt_trans positive (formed.rooted.below_lt above), .inr above⟩

/-- Nothing below an architecture is an architecture. -/
theorem not_architecture_below (formed : t.WellFormed) (architecture : t.role? a = some .architecture)
    (below : t.Below a x) : t.role? x ≠ some .architecture := by
  intro plays
  obtain ⟨p, c, parent, known, positive, _⟩ := formed.exists_parent_of_below architecture below
  have child : t.Child .architecture p x := ⟨parent, plays⟩
  have member := formed.mem_members_of_child known positive (fun c => by cases c <;> rfl) (by simp) child
  cases c <;> simp [Construct.members, Body.members] at member

/-- What is neither a statement nor a part of one is reached as an item only. -/
theorem mem_items_of_reached (formed : t.WellFormed) (reached : t.Reached a x) (plays : t.role? x = some role)
    (other : role ∉ statementRoles) : x ∈ t.items a := by
  rcases reached with item | ⟨y, _, process, member⟩
  · exact item
  · obtain ⟨role', among, plays'⟩ := (formed.mem_nested process x member).1
    rw [plays] at plays'
    exact absurd (Option.some.inj plays' ▸ among) other

theorem mem_nested_of_mem (formed : t.WellFormed) (member : x ∈ t.membersOf .statement y) : x ∈ t.nested y :=
  mem_under_of_mem formed listed_statementRoles (fun _ member => lt_size_of_parent?
    (formed.child_of_mem (listed_statementRoles .statement (by simp [statementRoles])) member).1) member

/-- The parts of a compound statement are reached with it. -/
theorem reached_of_mem_kids (formed : t.WellFormed) (architecture : t.role? a = some .architecture)
    (reached : t.Reached a x) (plays : t.role? x = some role) (among : role ∈ statementRoles)
    (compound : ∀ statement, t.construct? x ≠ some (.assignment statement))
    (member : y ∈ t.kids statementRoles x) : t.Reached a y := by
  rcases reached with item | ⟨process, item, isProcess, inside⟩
  · -- The items with statements among their parts are processes, as concurrent statements are simple.
    have isItem := (formed.exists_unit_of_item item plays).1
    obtain rfl : role = .statement := by
      simp only [itemRoles, statementRoles, List.mem_cons, List.not_mem_nil, or_false] at isItem among
      rcases among with rfl | rfl | rfl <;> simp at isItem ⊢
    obtain ⟨statement, known⟩ := formed.assignment_of_item architecture item plays
    exact absurd known (compound statement)
  · refine .inr ⟨process, item, isProcess, ?_⟩
    refine mem_under_of_mem_kids formed listed_statementRoles (fun _ among => ?_) inside member
    exact lt_size_of_parent?
      (formed.child_of_mem (listed_statementRoles .statement (by simp [statementRoles])) among).1

/-- Items are listed by architectures and generate statements, and statements by processes and compound statements. -/
theorem lister_cases {c : Construct} (among : role ∈ itemRoles ++ statementRoles) (member : x ∈ c.members role) :
    (∃ unit, c = .architecture unit) ∧ role ∈ itemRoles ∨ (∃ statement, c = .generate statement) ∧ role ∈ itemRoles ∨
      (∃ process, c = .process process) ∧ role = .statement ∨
      c.role ∈ statementRoles ∧ (∀ statement, c ≠ .assignment statement) ∧ role ∈ statementRoles := by
  have isItem {b : Body} (listed : x ∈ b.members role) : role ∈ itemRoles := by
    unfold Body.members at listed
    split at listed <;> first | decide | exact absurd among (by decide) | cases listed
  unfold Construct.members at member
  split at member
  all_goals first
    | exact absurd among (by decide)
    | exact .inl ⟨⟨_, rfl⟩, isItem member⟩
    | exact .inr (.inl ⟨⟨_, rfl⟩, isItem member⟩)
    | exact .inr (.inr (.inr ⟨List.elem_iff.mp rfl, nofun, by decide⟩))
    | cases member
    | unfold Construct.statements at member
      split at member
  all_goals first
    | exact .inr (.inr (.inl ⟨⟨_, rfl⟩, rfl⟩))
    | exact .inr (.inr (.inr ⟨List.elem_iff.mp rfl, nofun, by decide⟩))
    | cases member

/-- What a reached node lists among the statements is reached. -/
theorem reached_of_mem_members (formed : t.WellFormed) (architecture : t.role? a = some .architecture) {p : Nat}
    {c : Construct} (known : t.construct? p = some c) (above : p = a ∨ t.Below a p)
    (reached : ∀ role ∈ itemRoles ++ statementRoles, t.role? p = some role → t.Reached a p)
    (among : role ∈ itemRoles ++ statementRoles) (member : x ∈ c.members role) : t.Reached a x := by
  have plays := role?_of_construct? known
  have listed : x ∈ t.membersOf role p := by rwa [membersOf_of_construct? known]
  have reached (sort : c.role ∈ itemRoles ++ statementRoles) : t.Reached a p := reached _ sort plays
  have ofUnit (unit : p ∈ t.units a) (isItem : role ∈ itemRoles) : t.Reached a x :=
    .inl (List.mem_flatMap.mpr ⟨p, unit, mem_kids.mpr ⟨role, isItem, listed⟩⟩)
  have ofCompound (sort : c.role ∈ statementRoles) (compound : ∀ statement, c ≠ .assignment statement)
      (isPart : role ∈ statementRoles) : t.Reached a x := by
    refine formed.reached_of_mem_kids architecture (reached (List.mem_append_right _ sort)) plays sort ?_
      (mem_kids.mpr ⟨role, isPart, listed⟩)
    rintro statement found
    rw [known] at found
    exact compound statement (Option.some.inj found)
  rcases lister_cases among member with ⟨⟨unit, rfl⟩, isItem⟩ | ⟨⟨statement, rfl⟩, isItem⟩ | ⟨⟨process, rfl⟩, rfl⟩ |
    ⟨sort, compound, isPart⟩
  · refine ofUnit ?_ isItem
    rcases above with rfl | below
    · exact List.mem_cons_self
    · exact absurd plays (formed.not_architecture_below architecture below)
  · refine ofUnit (formed.mem_units_of_item ?_ plays) isItem
    refine formed.mem_items_of_reached (reached ?_) plays ?_ <;>
      simp [Construct.role, itemRoles, statementRoles]
  · have item : p ∈ t.items a := by
      refine formed.mem_items_of_reached (reached ?_) plays ?_ <;>
        simp [Construct.role, itemRoles, statementRoles]
    exact .inr ⟨p, item, plays, formed.mem_nested_of_mem listed⟩
  · exact ofCompound sort compound isPart

/-- A statement below an architecture is an item or stands inside a process among the items. -/
theorem reached_of_below (formed : t.WellFormed) (architecture : t.role? a = some .architecture)
    (below : t.Below a x) (plays : t.role? x = some role) (among : role ∈ itemRoles ++ statementRoles) :
    t.Reached a x := by
  have listed {role : Role} (among : role ∈ itemRoles ++ statementRoles) : role.Listed :=
    (List.mem_append.mp among).elim (listed_itemRoles role) (listed_statementRoles role)
  have other {role : Role} (among : role ∈ itemRoles ++ statementRoles) : role ≠ .read := by
    rintro rfl
    simp [itemRoles, statementRoles] at among
  induction below generalizing role with
  | child parent =>
    obtain ⟨c, known, _⟩ := Option.map_eq_some_iff.mp architecture
    have member := formed.mem_members_of_child known (formed.pos_of_architecture architecture) (listed among) (other among)
      ⟨parent, plays⟩
    refine formed.reached_of_mem_members architecture known (.inl rfl) (fun role among plays => ?_) among member
    rw [architecture] at plays
    simp [← Option.some.inj plays, itemRoles, statementRoles] at among
  | step parent above ih =>
    obtain ⟨p, c, parent', known, positive, _⟩ := formed.exists_parent_of_below architecture (.step parent above)
    obtain rfl := Option.some.inj (parent.symm.trans parent')
    have member := formed.mem_members_of_child known positive (listed among) (other among) ⟨parent, plays⟩
    exact formed.reached_of_mem_members architecture known (.inr above) (fun role among plays => ih plays among)
      among member

end WellFormed
end DesignLint.Tree
