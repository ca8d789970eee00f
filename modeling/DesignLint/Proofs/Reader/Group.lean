import DesignLint.Reader.Declaration
import DesignLint.Proofs.Reader.Phrase

/-! Groups: the nodes of several names that are declared together. They are added side by side before the
rest of the declaration is read, and drawn up together at its end. The objects of a group share their
initial value, whose reads stand below the first of them. -/
namespace DesignLint

/-- A reader added one node for each of some names, side by side. -/
structure Groups (text : Bytes) (tokens : List Token) (s s' : ReaderState) (owner : Nat) (role : Role)
    (construct : Token → Construct) (items : List (Token × NodeId)) : Prop where
  adds : Adds text tokens s s' owner (Part.all role (items.map Prod.snd))
  left_eq : s'.left = s.left
  ids_eq : items.map Prod.snd = List.range' s.tree.nodes.size items.length
  size_eq : s'.tree.nodes.size = s.tree.nodes.size + items.length
  begun : ∀ item ∈ items, s'.tree.construct? item.2 = some (construct item.1)

/-- A reader drew up the nodes of a group, all of which end with the last token. -/
structure Completes (text : Bytes) (tokens : List Token) (s s' : ReaderState) (construct : Token → Construct)
    (ids : List Nat) : Prop where
  ready : Ready text tokens s'
  left_eq : s'.left = s.left
  last_eq : s'.lastStop = s.lastStop
  redrawn : s.tree.Redrawn s'.tree (· ∈ ids)
  drawn : ∀ id ∈ ids, ∃ n node, s'.tree.node? id = some node ∧ node.construct = construct n ∧
    s'.lastStop = some node.stop
  units : SameUnits s.tree s'.tree
  uses_eq : s'.tree.uses = s.tree.uses
  settled : s'.Settled

variable {text : Bytes} {tokens : List Token} {s s₁ s₂ s₃ s₄ : ReaderState} {owner : Nat} {role : Role}
  {construct : Token → Construct} {items : List (Token × NodeId)}

namespace Completes

variable {ids : List Nat} {id : Nat}

theorem construct?_eq (completes : Completes text tokens s s₁ construct ids) (member : id ∈ ids) :
    ∃ n, s₁.tree.construct? id = some (construct n) := by
  obtain ⟨n, node, known, drawn, _⟩ := completes.drawn id member
  exact ⟨n, by rw [Tree.construct?, known, Option.map_some, drawn]⟩

/-- The nodes of a group cover what has been passed. -/
theorem covers (completes : Completes text tokens s s₁ construct ids) (member : id ∈ ids)
    (tight : ∀ (i : Nat) (child : Node), s₁.tree.node? i = some child → child.parent = some id →
      child.construct.role.isLoose = false) : s₁.tree.Covers id := by
  obtain ⟨n, node, known, _, last⟩ := completes.drawn id member
  refine ⟨node, known, fun i child found parent => ?_⟩
  have above := completes.ready.rooted.lt_of_parent? ((Tree.parent?_of_node? found).trans parent)
  have passed := completes.settled i child (Nat.zero_lt_of_lt above) found (tight i child found parent)
  exact ⟨passed.1.le_last last, passed.2.le_last last⟩

end Completes

namespace Groups

theorem mem_iff (groups : Groups text tokens s s₁ owner role construct items) (id : Nat) :
    id ∈ items.map Prod.snd ↔ s.tree.nodes.size ≤ id ∧ id < s₁.tree.nodes.size := by
  rw [groups.ids_eq, List.mem_range'_1, groups.size_eq]

theorem pos (groups : Groups text tokens s s₁ owner role construct items) {id : Nat}
    (member : id ∈ items.map Prod.snd) : 0 < id := by
  have := ((groups.mem_iff id).mp member).1
  have := groups.adds.grows.owner_lt
  omega

theorem construct?_eq (groups : Groups text tokens s s₁ owner role construct items) {id : Nat}
    (member : id ∈ items.map Prod.snd) : ∃ n, s₁.tree.construct? id = some (construct n) := by
  obtain ⟨item, found, rfl⟩ := List.mem_map.mp member
  exact ⟨item.1, groups.begun item found⟩

theorem parent?_eq (groups : Groups text tokens s s₁ owner role construct items) {id : Nat}
    (member : id ∈ items.map Prod.snd) : s₁.tree.parent? id = some owner := by
  have part : (role, id) ∈ s₁.tree.partsFrom s.tree.nodes.size owner := by
    rw [groups.adds.grows.added_eq]
    exact List.mem_map.mpr ⟨id, member, rfl⟩
  exact (Tree.mem_partsFrom.mp part).2.1

/-- The first of a group is the first new node. -/
theorem headD_eq (groups : Groups text tokens s s₁ owner role construct items) (nonempty : items ≠ []) :
    (items.map Prod.snd).headD 0 = s.tree.nodes.size := by
  rw [groups.ids_eq]
  cases items with
  | nil => exact absurd rfl nonempty
  | cons item items => rw [List.length_cons, List.range'_succ, List.headD_cons]

theorem headD_lt (groups : Groups text tokens s s₁ owner role construct items) (nonempty : items ≠ []) :
    (items.map Prod.snd).headD 0 < s₁.tree.nodes.size := by
  rw [groups.headD_eq nonempty, groups.size_eq]
  exact Nat.lt_add_of_pos_right (List.length_pos_of_ne_nil nonempty)

/-- A group of objects without initial values has no parts. -/
theorem partsOf_eq_nil (groups : Groups text tokens s s₁ owner role construct items)
    (bare : ∀ n, (construct n).initial? = some []) {id : Nat} (member : id ∈ items.map Prod.snd) :
    s₁.tree.partsOf id = [] := by
  obtain ⟨new, lt⟩ := (groups.mem_iff id).mp member
  obtain ⟨n, known⟩ := groups.construct?_eq member
  obtain ⟨c, found, fields⟩ := groups.adds.grows.drawn id new lt
  rw [known] at found
  cases found
  rw [bare n] at fields
  obtain ⟨first, _, _, none_, rfl | none_⟩ := fields
  · exact none_
  · exact none_

/-- Objects that got their initial value and were then drawn up are new parts of their owner. -/
theorem close {begun : Token → Construct} {initial : List NodeId}
    (groups : Groups text tokens s s₁ owner role begun items) (nonempty : items ≠ [])
    (bare : ∀ n, (begun n).initial? = some [])
    (inner : Adds text tokens s₁ s₂ ((items.map Prod.snd).headD 0) (Part.all .read initial))
    (completes : Completes text tokens s₂ s₃ construct (items.map Prod.snd))
    (value : ∀ n, (construct n).initial? = some initial)
    (renames : ∀ n m, ∃ name, construct n = (construct m).rename name) :
    Adds text tokens s s₃ owner (Part.all role (items.map Prod.snd)) := by
  rw [groups.headD_eq nonempty] at inner
  have parents {i : Nat} (member : i ∈ items.map Prod.snd) : s₃.tree.parent? i = some owner := by
    rw [completes.redrawn.parent_eq, inner.grows.parent?_old i ((groups.mem_iff i).mp member).2]
    exact groups.parent?_eq member
  have first_mem : s.tree.nodes.size ∈ items.map Prod.snd := by
    rw [groups.mem_iff, groups.size_eq]
    have := List.length_pos_of_ne_nil nonempty
    omega
  have inner_le {j : Nat} (other : j ∉ items.map Prod.snd) (from_ : s.tree.nodes.size ≤ j) :
      s₁.tree.nodes.size ≤ j := by
    by_contra early
    exact other ((groups.mem_iff j).mpr ⟨from_, by omega⟩)
  refine ⟨completes.ready, ?_, ⟨?_, ?_, ?_, ?_, ?_⟩, (groups.adds.units.trans inner.units).trans completes.units,
    ?_, fun _ => completes.settled⟩
  · have := inner.left_le
    have := groups.left_eq
    have := completes.left_eq
    omega
  · refine (groups.adds.grows.within inner.grows.toExtends (Nat.le_refl _)).redraw completes.redrawn ?_
    exact fun i member => ((groups.mem_iff i).mp member).1
  · intro i new lt
    by_cases member : i ∈ items.map Prod.snd
    · -- One of the objects: the reads of the value are the parts of the first of them.
      obtain ⟨n, known⟩ := completes.construct?_eq member
      refine ⟨_, known, ?_⟩
      rw [value n]
      refine ⟨s.tree.nodes.size, new, (parents first_mem).trans (parents member).symm, ?_, ?_⟩
      · rw [completes.redrawn.partsOf_eq, inner.grows.partsOf_owner, groups.partsOf_eq_nil bare first_mem]
        rfl
      · by_cases isFirst : s.tree.nodes.size = i
        · exact .inl isFirst
        · have old := ((groups.mem_iff i).mp member).2
          rw [completes.redrawn.partsOf_eq, inner.grows.partsOf_of_ne old (fun h => isFirst h.symm),
            groups.partsOf_eq_nil bare member]
          exact .inr rfl
    · -- Anything else was added below the first object.
      exact completes.redrawn.drawn i member
        (inner.grows.drawn i (inner_le member new) (completes.redrawn.size_eq ▸ lt))
  · intro i new lt
    by_cases member : i ∈ items.map Prod.snd
    · -- What stands below one of the objects was added below the first of them, and is a read.
      refine completes.covers member fun j child found parent => ?_
      have above := (Tree.parent?_of_node? found).trans parent
      have later := completes.ready.rooted.lt_of_parent? above
      have other : j ∉ items.map Prod.snd := by
        intro inGroup
        rw [parents inGroup] at above
        cases above
        have := groups.adds.grows.owner_lt
        omega
      rw [completes.redrawn.parent_eq] at above
      obtain ⟨q, known, _, isFirst⟩ := inner.grows.parent j (inner_le other (by omega)) (Tree.lt_size_of_parent? above)
      rw [above] at known
      cases known
      obtain rfl : i = s.tree.nodes.size := by
        have := ((groups.mem_iff i).mp member).2
        omega
      have part : (child.construct.role, j) ∈ s₂.tree.partsFrom s₁.tree.nodes.size s.tree.nodes.size := by
        refine Tree.mem_partsFrom.mpr ⟨inner_le other (by omega), above, ?_⟩
        rw [← completes.redrawn.construct?_eq j other, Tree.construct?, found]
        rfl
      rw [inner.grows.added_eq] at part
      obtain ⟨_, _, same⟩ := List.mem_map.mp part
      rw [← (Prod.mk.inj same).1]
      rfl
    · refine completes.redrawn.covers i member (fun j inGroup above => ?_)
        (inner.grows.covers i (inner_le member new) (completes.redrawn.size_eq ▸ lt))
      rw [← completes.redrawn.parent_eq, parents inGroup] at above
      cases above
      have := groups.adds.grows.owner_lt
      omega
  · intro i new lt
    by_cases member : i ∈ items.map Prod.snd
    · obtain ⟨n, known⟩ := completes.construct?_eq member
      intro c found here declared
      rw [known] at here
      cases here
      rw [value n] at declared
      cases declared
      -- The objects before it are those of the group before it.
      have before {j : Nat} (from_ : s.tree.nodes.size ≤ j) (lt : j < i) : j ∈ items.map Prod.snd :=
        (groups.mem_iff j).mpr ⟨from_, Nat.lt_trans lt ((groups.mem_iff i).mp member).2⟩
      refine ⟨s.tree.nodes.size, ⟨new, fun j from_ lt => ?_, fun j from_ lt => ?_⟩, fun read below => ?_⟩
      · rw [parents (before from_ lt), parents member]
      · obtain ⟨m, known'⟩ := completes.construct?_eq (before from_ lt)
        obtain ⟨name, renamed⟩ := renames m n
        exact ⟨name, by rw [known', known, Option.map_some, renamed]⟩
      · have part : (Role.read, read) ∈ s₂.tree.partsFrom s₁.tree.nodes.size s.tree.nodes.size := by
          rw [inner.grows.added_eq]
          exact List.mem_map.mpr ⟨read, below, rfl⟩
        obtain ⟨later, above, _⟩ := Tree.mem_partsFrom.mp part
        refine ⟨Nat.lt_of_lt_of_le ((groups.mem_iff i).mp member).2 later, ?_⟩
        rw [completes.redrawn.parent_eq, above]
    · refine completes.redrawn.shares i member (fun j c inGroup beside _ => ?_)
        (inner.grows.shares i (inner_le member new) (completes.redrawn.size_eq ▸ lt))
      -- What was added below the first object does not stand beside the objects.
      obtain ⟨q, known, _, isFirst⟩ := inner.grows.parent i (inner_le member new) (completes.redrawn.size_eq ▸ lt)
      rw [← completes.redrawn.parent_eq, parents inGroup, known] at beside
      cases beside
      have := groups.adds.grows.owner_lt
      have := groups.adds.size_le
      omega
  · intro i new lt
    by_cases member : i ∈ items.map Prod.snd
    · -- The objects are the ones that are not packed.
      obtain ⟨n, known⟩ := completes.construct?_eq member
      intro plain
      have object := Construct.isSome_initial? (construct n)
      rw [known, Option.map_some, Function.comp_apply, ← object, value n] at plain
      simp at plain
    · exact completes.redrawn.packed (inner.grows.packed i (inner_le member new) (completes.redrawn.size_eq ▸ lt))
  · exact (groups.adds.uses.trans inner.uses groups.adds.size_le inner.grows.toExtends).redraw completes.redrawn
      completes.uses_eq

end Groups

section

variable {make : Declared → Construct}

/-- Declared objects are of no loose role. -/
theorem Construct.tight_of_initial? (plays : ∀ o, (make o).role = role)
    (keeps : ∀ o, (make o).initial? = some o.initial) : role.isLoose = false := by
  have declared := keeps {}
  rw [← plays {}]
  cases shape : make {} <;> rw [shape] at declared <;> simp [Construct.initial?, Construct.role, Role.isLoose] at declared ⊢

/-- Nor are they marks of occurrences. -/
theorem Construct.branch_of_initial? (plays : ∀ o, (make o).role = role)
    (keeps : ∀ o, (make o).initial? = some o.initial) : role.isMark = false := by
  have declared := keeps {}
  rw [← plays {}]
  cases shape : make {} <;> rw [shape] at declared <;> simp [Construct.initial?, Construct.role, Role.isMark] at declared ⊢

theorem Construct.use_ne_of_initial? (plays : ∀ o, (make o).role = role)
    (keeps : ∀ o, (make o).initial? = some o.initial) : role ≠ .use := by
  have declared := keeps {}
  rw [← plays {}]
  cases shape : make {} <;> rw [shape] at declared <;> simp [Construct.initial?, Construct.role] at declared ⊢

end

namespace Reader

theorem attachEach_ends (role : Role) (ready : Ready text tokens s) (owner_lt : owner < s.tree.nodes.size) {names : List Token}
    (seen : ∀ t ∈ names, ∀ owner, s.Seen owner t) (plays : ∀ n, (construct n).role = role)
    (bare : ∀ n, (construct n).Bare) (other : role ≠ .use) (plain : ∀ n, (construct n).Plain) :
    Ends text (attachEach owner construct names) s fun items s' =>
      Groups text tokens s s' owner role construct items ∧ items.length = names.length := by
  unfold attachEach
  refine Ends.mapM (fun items s' => Groups text tokens s s' owner role construct items) ?_ ?_
  · intro n member items s₁ groups
    have lt := Nat.lt_of_lt_of_le owner_lt groups.adds.size_le
    refine (attachToken_ends groups.adds.ready lt (groups.adds.seen ready owner_lt (seen n member owner)) _ (plain n)).bind ?_
    rintro id s₂ ⟨rfl, opens, settles⟩
    have one := opens.leaf groups.adds.ready settles (bare n) (plays n ▸ other)
    rw [plays n] at one
    refine .pure ⟨?_, opens.left_eq.trans groups.left_eq, ?_, ?_, ?_⟩
    · rw [List.map_append, Part.all_append]
      exact groups.adds.trans one ready
    · rw [List.map_append, groups.ids_eq, groups.size_eq, List.length_append, List.length_singleton,
        List.range'_concat]
      simp
    · rw [opens.size_eq, groups.size_eq, List.length_append]
      simp only [List.length_singleton]
      omega
    · intro item member
      rcases List.mem_append.mp member with old | new
      · have lt := ((groups.mem_iff item.2).mp (List.mem_map_of_mem old)).2
        rw [one.grows.construct?_old _ lt]
        exact groups.begun item old
      · obtain rfl := List.mem_singleton.mp new
        exact opens.construct?
  · exact ⟨(Steps.refl ready).adds owner_lt, rfl, rfl, rfl, by simp⟩

theorem completeEach_ends (role : Role) (ready : Ready text tokens s) (settled : s.Settled)
    (plays : ∀ n, (construct n).role = role) (other : role ≠ .statement) (tight : role.isLoose = false)
    (branch : role.isMark = false) (plain : ∀ n, (construct n).Plain)
    (known : ∀ id ∈ items.map Prod.snd, 0 < id ∧ (s.tree.construct? id).map Construct.role = some role) :
    Ends text (completeEach construct items) s fun ids s' => ids = items.map Prod.snd ∧
      Completes text tokens s s' construct ids := by
  unfold completeEach
  induction items generalizing s with
  | nil => exact .pure ⟨rfl, ready, rfl, rfl, (Tree.Redrawn.refl _).weaken (by simp), by simp, .refl _, rfl, settled⟩
  | cons item items ih =>
    obtain ⟨n, id⟩ := item
    obtain ⟨⟨positive, here⟩, others⟩ := List.forall_mem_cons.mp known
    obtain ⟨c, drawn, same⟩ := Option.map_eq_some_iff.mp here
    obtain ⟨node, found, rfl⟩ := Option.map_eq_some_iff.mp drawn
    have tight' : node.construct.role.isLoose = false := same ▸ tight
    have ordered : node.start ≤ node.stop := by
      rcases ready.spans.ordered id node found with le | ⟨mapping, _⟩
      · exact le
      · rw [mapping] at tight'
        contradiction
    have passed := settled id node positive found tight'
    rw [List.mapM_cons, bind_assoc]
    refine (complete_ends ready found (Construct.kind_eq ((plays n).trans same.symm) (same ▸ other)) ordered
      passed.1 (same ▸ branch) (.inl (plain n))).bind ?_
    rintro _ s₁ ⟨last, lastStop, _, redraws⟩
    rw [pure_bind]
    have settled₁ : s₁.Settled :=
      redraws.settled settled fun _ => ⟨passed.1, ⟨last, lastStop, Nat.le_refl _⟩⟩
    refine (ih redraws.ready settled₁ ?_).bind ?_
    · intro id member
      rw [redraws.redrawn.role_eq]
      exact others id member
    rintro ids s₂ ⟨rfl, completes⟩
    refine .pure ⟨rfl, completes.ready, completes.left_eq.trans redraws.left_eq,
      completes.last_eq.trans redraws.last_eq, ?_, ?_,
      redraws.units.trans completes.units, completes.uses_eq.trans redraws.uses_eq, completes.settled⟩
    · refine (redraws.redrawn.trans completes.redrawn).weaken fun i changed => ?_
      exact changed.elim (fun h => h ▸ List.mem_cons_self) (List.mem_cons_of_mem _)
    · intro i member
      by_cases later : i ∈ items.map Prod.snd
      · exact completes.drawn i later
      · obtain rfl := (List.mem_cons.mp member).resolve_right later
        refine ⟨n, _, (completes.redrawn.other _ later).trans redraws.drawn, rfl, ?_⟩
        rw [completes.last_eq, redraws.last_eq, lastStop]

theorem subtypeText_ends (ready : Ready text tokens s) :
    Ends text subtypeText s fun _ s' => Steps text tokens s s' := by
  unfold subtypeText
  refine (phraseUpTo_ends ready _).bind ?_
  rintro p s₁ ⟨steps₁, _⟩
  refine .ite (fun _ => ?_) fun _ => ?_
  · refine (peek_ends steps₁.ready).bind ?_
    rintro t s' ⟨rfl, head⟩
    exact failExpecting_ends steps₁.ready _ head
  · refine (textOf_ends p).mono ?_
    rintro _ _ rfl
    exact steps₁

theorem fieldGroup_ends (ready : Ready text tokens s) (owner_lt : owner < s.tree.nodes.size) :
    Ends text (fieldGroup owner) s fun ids s' => Adds text tokens s s' owner (Part.all .field ids) ∧
      s'.left < s.left := by
  unfold fieldGroup
  refine (nameList_ends ready).bind ?_
  rintro names s₁ ⟨steps₁, forward₁, _, seen⟩
  have owner_lt₁ : owner < s₁.tree.nodes.size := steps₁.tree_eq ▸ owner_lt
  refine (attachEach_ends .field steps₁.ready owner_lt₁ seen (fun _ => rfl) (fun n =>
    Construct.bare_of_isLeaf rfl) Role.noConfusion (by exact fun _ => trivial)).bind ?_
  rintro items s₂ ⟨groups, _⟩
  refine (skip_ends groups.adds.ready (by decide)).bind ?_
  rintro _ s₃ ⟨steps₃, _⟩
  refine (subtypeText_ends steps₃.ready).bind ?_
  intro typeText s₄ steps₄
  refine (skip_ends steps₄.ready (by decide)).bind ?_
  rintro _ s₅ ⟨steps₅, forward₅⟩
  have steps := (steps₃.trans steps₄).trans steps₅
  have forward : s₅.left < s.left := by
    have := steps.left_le
    have := groups.left_eq
    omega
  have clear := steps₅.clear steps₄.ready forward₅
  refine (completeEach_ends .field steps.ready clear.settled (fun _ => rfl) (by decide) rfl rfl (by exact fun _ => trivial) ?_).mono ?_
  · intro id member
    obtain ⟨n, known⟩ := groups.construct?_eq member
    rw [steps.tree_eq, known]
    exact ⟨groups.pos member, rfl⟩
  rintro ids s₆ ⟨rfl, completes⟩
  have added := groups.adds.steps steps
  have grows : s₁.tree.Grows s₆.tree owner (Part.all .field (items.map Prod.snd)) := by
    have parents {i : Nat} (member : i ∈ items.map Prod.snd) : s₅.tree.parent? i = some owner := by
      rw [steps.tree_eq]
      exact groups.parent?_eq member
    have plain (i : Nat) (c : Construct) (member : i ∈ items.map Prod.snd)
        (known : s₅.tree.construct? i = some c ∨ s₆.tree.construct? i = some c) : c.initial? = none := by
      obtain ⟨n, before⟩ := groups.construct?_eq member
      obtain ⟨n', after⟩ := completes.construct?_eq member
      rw [steps.tree_eq, before, after] at known
      obtain known | known := known <;> cases known <;> rfl
    refine added.grows.redraw completes.redrawn (fun i member => ⟨((groups.mem_iff i).mp member).1, parents member⟩)
      plain (fun i member => ?_) fun i member => completes.covers member fun j child found parent => ?_
    rotate_left
    · -- Nothing was added behind the fields, so nothing stands below them.
      have above := (Tree.parent?_of_node? found).trans parent
      rw [completes.redrawn.parent_eq] at above
      have later := steps.ready.rooted.lt_of_parent? above
      have lt := Tree.lt_size_of_parent? above
      rw [steps.tree_eq] at lt
      have new := ((groups.mem_iff i).mp member).1
      rw [parents ((groups.mem_iff j).mpr ⟨by omega, lt⟩)] at above
      cases above
      omega
    obtain ⟨new, lt⟩ := (groups.mem_iff i).mp member
    obtain ⟨n, known⟩ := completes.construct?_eq member
    obtain ⟨n', known'⟩ := groups.construct?_eq member
    obtain ⟨c, found, fields⟩ := added.grows.drawn i new (steps.tree_eq ▸ lt)
    rw [steps.tree_eq, known'] at found
    cases found
    refine ⟨_, known, ?_⟩
    rw [completes.redrawn.partsOf_eq]
    exact ⟨fields.1.of_isLeaf rfl rfl, .nil⟩
  refine ⟨steps₁.then_adds ⟨completes.ready, ?_, grows, added.units.trans completes.units,
    added.uses.redraw completes.redrawn completes.uses_eq, fun _ => completes.settled⟩, ?_⟩
  · have := added.left_le
    have := completes.left_eq
    omega
  · have := completes.left_eq
    omega

theorem initialValue_ends (ready : Ready text tokens s) {objects : List (Token × NodeId)}
    (exists_ : (objects.map Prod.snd).headD 0 < s.tree.nodes.size) :
    Ends text (initialValue objects) s fun ids s' =>
      Adds text tokens s s' ((objects.map Prod.snd).headD 0) (Part.all .read ids) := by
  unfold initialValue
  refine ifAccepted_ends _ ready (by decide) ?_ fun s' steps => steps.adds exists_
  intro s₁ steps₁ _
  exact (expression_ends steps₁.ready (steps₁.tree_eq ▸ exists_) _).mono fun _ _ adds => steps₁.then_adds adds

theorem direction_ends (ready : Ready text tokens s) :
    Ends text direction s fun mode s' => Steps text tokens s s' ∧ mode.IsMode := by
  unfold direction
  refine (accept_ends ready (by decide)).bind ?_
  rintro _ s₁ ⟨steps₁, _⟩
  refine .ite (fun _ => .pure ⟨steps₁, trivial⟩) fun _ => ?_
  refine (accept_ends steps₁.ready (by decide)).bind ?_
  rintro _ s₂ ⟨steps₂, _⟩
  refine .ite (fun _ => .pure ⟨steps₁.trans steps₂, trivial⟩) fun _ => ?_
  refine (accept_ends steps₂.ready (by decide)).bind ?_
  rintro _ s₃ ⟨steps₃, _⟩
  have steps := (steps₁.trans steps₂).trans steps₃
  exact .ite (fun _ => .pure ⟨steps, trivial⟩) fun _ => .pure ⟨steps, trivial⟩

section

variable {make : Declared → Construct}

theorem objectNames_ends (role : Role) (ready : Ready text tokens s) (owner_lt : owner < s.tree.nodes.size)
    (plays : ∀ o, (make o).role = role) (keeps : ∀ o, (make o).initial? = some o.initial)
    (plain : ∀ o, (make o).Plain) :
    Ends text (objectNames owner make) s fun items s' => items ≠ [] ∧ ∃ s₁, Steps text tokens s s₁ ∧
      s₁.left < s.left ∧ Groups text tokens s₁ s' owner role (fun _ => make {}) items := by
  unfold objectNames
  refine (nameList_ends ready).bind ?_
  rintro names s₁ ⟨steps₁, forward₁, nonempty, seen⟩
  refine (attachEach_ends role steps₁.ready (steps₁.tree_eq ▸ owner_lt) seen (fun _ => plays {})
    (fun _ => .inl (keeps {})) (Construct.use_ne_of_initial? plays keeps) fun _ => plain {}).mono ?_
  rintro items s₂ ⟨groups, length⟩
  refine ⟨?_, s₁, steps₁, forward₁, groups⟩
  rintro rfl
  exact nonempty (List.length_eq_zero_iff.mp length.symm)

/-- The end of a declaration of objects: the rest of it was read, and the objects are drawn up. -/
theorem completeObjects_ends {items : List (Token × NodeId)} {initial : List NodeId} {typeText : Bytes}
    {make₀ : Declared → Construct} (nonempty : items ≠ [])
    (groups : Groups text tokens s s₁ owner role (fun _ => make₀ {}) items)
    (keeps₀ : ∀ o, (make₀ o).initial? = some o.initial)
    (inner : Adds text tokens s₁ s₂ ((items.map Prod.snd).headD 0) (Part.all .read initial))
    (settled : s₂.Settled) (tight : role.isLoose = false) (plays : ∀ o, (make o).role = role)
    (plays₀ : ∀ o, (make₀ o).role = role) (keeps : ∀ o, (make o).initial? = some o.initial)
    (renames : ∀ o name, make { o with name } = (make o).rename name) (plain : ∀ o, (make o).Plain) :
    Ends text (completeEach (fun n => make ⟨n.text, typeText, initial⟩) items) s₂ fun ids s' =>
      Adds text tokens s s' owner (Part.all role ids) ∧ s'.left = s₂.left := by
  refine (completeEach_ends role inner.ready settled (fun _ => plays _)
    (plays {} ▸ Construct.role_ne_statement (keeps {})) tight (Construct.branch_of_initial? plays keeps)
    (fun _ => plain _) ?_).mono ?_
  · intro id member
    obtain ⟨n, known⟩ := groups.construct?_eq member
    rw [inner.grows.construct?_old id ((groups.mem_iff id).mp member).2, known, Option.map_some, plays₀]
    exact ⟨groups.pos member, rfl⟩
  · rintro ids s₃ ⟨rfl, completes⟩
    refine ⟨groups.close nonempty (fun _ => keeps₀ {}) inner completes (fun _ => keeps _) ?_, completes.left_eq⟩
    exact fun n m => ⟨n.text, renames ⟨m.text, typeText, initial⟩ n.text⟩

theorem objects_ends (role : Role) (ready : Ready text tokens s) (owner_lt : owner < s.tree.nodes.size)
    (plays : ∀ o, (make o).role = role) (keeps : ∀ o, (make o).initial? = some o.initial)
    (renames : ∀ o name, make { o with name } = (make o).rename name) (plain : ∀ o, (make o).Plain) :
    Ends text (objects owner make) s fun ids s' => Adds text tokens s s' owner (Part.all role ids) ∧
      s'.left < s.left := by
  unfold objects
  refine (objectNames_ends role ready owner_lt plays keeps plain).bind ?_
  rintro items s₂ ⟨nonempty, s₁, steps₁, forward₁, groups⟩
  refine (skip_ends groups.adds.ready (by decide)).bind ?_
  rintro _ s₃ ⟨steps₃, _⟩
  refine (subtypeText_ends steps₃.ready).bind fun typeText s₄ steps₄ => ?_
  have before := steps₃.trans steps₄
  refine (initialValue_ends before.ready ?_).bind fun initial s₅ inner₅ => ?_
  · rw [before.tree_eq]
    exact groups.headD_lt nonempty
  refine (skip_ends inner₅.ready (by decide)).bind ?_
  rintro _ s₆ ⟨steps₆, forward₆⟩
  have inner := (before.then_adds inner₅).steps steps₆
  have forward : s₆.left < s.left := by
    have := inner.left_le
    have := groups.left_eq
    omega
  have settled := (steps₆.clear inner₅.ready forward₆).settled
  refine (completeObjects_ends nonempty groups keeps inner settled (Construct.tight_of_initial? plays keeps) plays plays
    keeps renames plain).mono ?_
  rintro ids s₇ ⟨adds, same⟩
  exact ⟨steps₁.then_adds adds, same ▸ forward⟩

end

theorem interfaceElement_ends {make : Direction → Declared → Construct} (role : Role)
    (ready : Ready text tokens s) (owner_lt : owner < s.tree.nodes.size)
    (plays : ∀ mode o, (make mode o).role = role)
    (keeps : ∀ mode o, (make mode o).initial? = some o.initial)
    (renames : ∀ mode o name, make mode { o with name } = (make mode o).rename name)
    (plain : ∀ mode o, mode.IsMode → (make mode o).Plain) :
    Ends text (interfaceElement owner make) s fun ids s' =>
      Adds text tokens s s' owner (Part.all role ids) ∧ s'.left < s.left := by
  unfold interfaceElement
  refine (objectNames_ends role ready owner_lt (plays .input) (keeps .input) fun o => plain .input o trivial).bind ?_
  rintro items s₂ ⟨nonempty, s₁, steps₁, forward₁, groups⟩
  refine (skip_ends groups.adds.ready (by decide)).bind ?_
  rintro _ s₃ ⟨steps₃, forward₃⟩
  refine (direction_ends steps₃.ready).bind ?_
  rintro mode s₄ ⟨steps₄, isMode⟩
  refine (subtypeText_ends steps₄.ready).bind fun typeText s₅ steps₅ => ?_
  have before := (steps₃.trans steps₄).trans steps₅
  refine (initialValue_ends before.ready ?_).bind fun initial s₆ inner₆ => ?_
  · rw [before.tree_eq]
    exact groups.headD_lt nonempty
  have inner := before.then_adds inner₆
  have forward : s₆.left < s.left := by
    have := inner.left_le
    have := groups.left_eq
    omega
  -- Only reads were added since the colon, and their tokens had been read.
  have settled := inner₆.settles ((steps₄.trans steps₅).settled (steps₃.clear groups.adds.ready forward₃).settled)
  refine (completeObjects_ends nonempty groups (keeps _) inner settled
    (Construct.tight_of_initial? (plays mode) (keeps mode)) (plays mode) (plays _) (keeps mode)
    (renames mode) fun o => plain mode o isMode).mono ?_
  rintro ids s₇ ⟨adds, same⟩
  exact ⟨steps₁.then_adds adds, same ▸ forward⟩

end Reader
end DesignLint
