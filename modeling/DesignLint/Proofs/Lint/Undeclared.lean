import DesignLint.Proofs.Lint.Occurrences
import DesignLint.Proofs.Parse.Outcome
import DesignLint.Proofs.Scope.Resolve

/-! The check for undeclared names. It goes once through the occurrences of all items and reports those that
resolve to nothing. -/
namespace DesignLint.Lint

open Tree

/-- A file of a design whose tree is well formed and no deeper than a walk may go. -/
structure Subject.Sound (s : Subject) : Prop where
  formed : s.tree.WellFormed
  shallow : ∀ id : Nat, id < s.tree.nodes.size → s.tree.depth id ≤ maxDepth
  placed : s.design.tree? s.file = some s.tree

/-- The occurrences that are examined, in order. -/
def Subject.occurrences (s : Subject) : List NodeId :=
  s.tree.architecture.elim [] fun a => (s.tree.items a).flatMap s.occurrencesIn

/-- Whether an occurrence resolves to a declaration. -/
def Subject.resolves (s : Subject) (id : Nat) : Bool :=
  match s.tree.construct? id with
  | some (.read _ _) => (s.design.resolveRead s.file id s.packages).toOption.any Option.isSome
  | some (.write _) => (s.design.resolveWrite s.file id).toOption.any fun found => found
  | _ => true

/-- The finding about an occurrence. -/
def Subject.complaint (s : Subject) (id : Nat) : Diagnostic :=
  match s.tree.construct? id with
  | some (.write name) => undeclared s id name "written"
  | some (.read name _) => undeclared s id name "read"
  | _ => undeclared s id [] "read"

/-- One finding for each occurrence that does not resolve. -/
def Subject.complaints (s : Subject) (ids : List NodeId) : List Diagnostic :=
  (ids.filter fun id => !s.resolves id).map s.complaint

variable {s : Subject} {a id y : Nat} {ids : List Nat} {rules : InferenceRules}

namespace Subject

theorem complaints_append (ids more : List NodeId) : s.complaints (ids ++ more) = s.complaints ids ++ s.complaints more := by
  rw [complaints, List.filter_append, List.map_append, complaints, complaints]

theorem complaints_flatMap {α : Type} (xs : List α) (f : α → List NodeId) :
    s.complaints (xs.flatMap f) = xs.flatMap fun x => s.complaints (f x) := by
  induction xs with
  | nil => rfl
  | cons x xs ih => rw [List.flatMap_cons, complaints_append, ih, List.flatMap_cons]

theorem complaints_eq_flatMap (ids : List NodeId) : s.complaints ids = ids.flatMap fun id => s.complaints [id] := by
  rw [← complaints_flatMap, List.flatMap_singleton']

theorem mem_occurrences_iff (formed : s.tree.WellFormed) : id ∈ s.occurrences ↔ s.Examined id := by
  rw [occurrences]
  cases found : s.tree.architecture with
  | none => simp [Examined, found]
  | some a =>
    have architecture := formed.architecture a found
    rw [Option.elim_some, List.mem_flatMap]
    constructor
    · rintro ⟨y, item, member⟩
      obtain ⟨owner, inside, counts⟩ := counts_of_mem_occurrencesIn formed member
      obtain ⟨_, _, _, _, _, _, below⟩ := formed.mem_items architecture item
      refine ⟨a, owner, found, ?_, counts⟩
      rcases inside.atOrBelow with rfl | lower
      · exact .step counts.parent below
      · exact .step counts.parent (below.trans lower)
    · rintro ⟨a', owner, found', below, counts⟩
      rw [found] at found'
      cases found'
      exact exists_item formed architecture below counts

theorem occurrences_nodup (formed : s.tree.WellFormed) : s.occurrences.Nodup := by
  rw [occurrences]
  cases found : s.tree.architecture with
  | none => exact .nil
  | some a =>
    have architecture := formed.architecture a found
    refine nodup_flatMap_of_eq formed.items_nodup (fun y _ => occurrencesIn_nodup formed) ?_
    intro y item z item' id left right
    obtain ⟨owner, inside, counts⟩ := counts_of_mem_occurrencesIn formed left
    obtain ⟨owner', inside', counts'⟩ := counts_of_mem_occurrencesIn formed right
    obtain rfl := Option.some.inj (counts.parent.symm.trans counts'.parent)
    obtain ⟨u, _, _, _, child, unit, _⟩ := formed.mem_items architecture item
    obtain ⟨v, _, _, _, child', unit', _⟩ := formed.mem_items architecture item'
    exact inside.unique inside' child.1 unit child'.1 unit'

end Subject

theorem checkWrite_eq (sound : s.Sound) (write : s.tree.role? id = some .write) :
    checkWrite s id = (.ok (s.complaints [id]) : Except Fault _) := by
  obtain ⟨c, known, same⟩ := Option.map_eq_some_iff.mp write
  cases c <;> simp only [Construct.role, reduceCtorEq] at same
  obtain ⟨found, resolved⟩ := Design.exists_resolveWrite sound.placed sound.formed.rooted
    (sound.shallow id (lt_size_of_construct? known))
  rw [checkWrite, resolved]
  cases found <;>
    simp [liftTree, Subject.complaints, Subject.resolves, Subject.complaint, known, resolved, Except.toOption, get?,
      Construct.write?, pure, Except.pure, bind, Except.bind]

theorem checkRead_eq (sound : s.Sound) (read : s.tree.role? id = some .read) :
    checkRead s id = (.ok (s.complaints [id]) : Except Fault _) := by
  obtain ⟨c, known, same⟩ := Option.map_eq_some_iff.mp read
  cases c <;> simp only [Construct.role, reduceCtorEq] at same
  obtain ⟨found, resolved⟩ := Design.exists_resolveRead sound.placed sound.formed.rooted
    (sound.shallow id (lt_size_of_construct? known)) s.packages
  rw [checkRead, resolved]
  cases found <;>
    simp [liftTree, Subject.complaints, Subject.resolves, Subject.complaint, known, resolved, Except.toOption, get?,
      Construct.read?, pure, Except.pure, bind, Except.bind]

/-- Checking some occurrences one by one reports those that do not resolve. -/
theorem checkWrites_eq (sound : s.Sound) (writes : ∀ id ∈ ids, s.tree.role? id = some .write) :
    checkWrites s ids = (.ok (s.complaints ids) : Except Fault _) := by
  rw [checkWrites, mapM_eq_ok fun id member => checkWrite_eq sound (writes id member), Subject.complaints_eq_flatMap]
  rfl

theorem checkReads_eq (sound : s.Sound) (reads : ∀ id ∈ ids, s.tree.role? id = some .read) :
    checkReads s ids = (.ok (s.complaints ids) : Except Fault _) := by
  rw [checkReads, mapM_eq_ok fun id member => checkRead_eq sound (reads id member), Subject.complaints_eq_flatMap]
  rfl

theorem checkProcess_eq (sound : s.Sound) {p : Process} (known : s.tree.construct? y = some (.process p)) :
    checkProcess (s.tree.facts rules) s y = (.ok (s.complaints (s.occurrencesIn y)) : Except Fault _) := by
  have process := role?_of_construct? known
  have writes : ∀ id ∈ (s.tree.nested y).flatMap s.tree.ownWrites, s.tree.role? id = some .write :=
    fun _ member => sound.formed.role?_of_mem_nestedWrites process member
  have reads : ∀ id ∈ (s.tree.nested y).flatMap s.tree.ownReads, s.tree.role? id = some .read :=
    fun _ member => sound.formed.role?_of_mem_nestedReads process member
  have sensitivity : ∀ id ∈ p.sensitivity, s.tree.role? id = some .read := fun id member =>
    sound.formed.role?_of_mem_members listed_read known member
  have sensed : ((s.tree.get? Construct.process? y).map Process.sensitivity).getD [] = p.sensitivity := by
    rw [get?, known]
    rfl
  rw [checkProcess, sensed]
  simp only [facts, flattenWrites, flattenReads, sound.formed.flatten_process known, liftTree]
  change ((checkWrites s ((s.tree.nested y).flatMap s.tree.ownWrites) >>= fun written =>
    checkReads s p.sensitivity >>= fun sensitive =>
      checkReads s ((s.tree.nested y).flatMap s.tree.ownReads) >>= fun found =>
        pure (written ++ sensitive ++ found)) : Except Fault _) = _
  rw [checkWrites_eq sound writes, checkReads_eq sound sensitivity, checkReads_eq sound reads, Subject.occurrencesIn,
    known, Subject.complaints_append, Subject.complaints_append]
  rfl

theorem checkAssignment_eq (sound : s.Sound) {statement : Assignment}
    (known : s.tree.construct? y = some (.assignment statement)) :
    checkAssignment s y = (.ok (s.complaints (s.occurrencesIn y)) : Except Fault _) := by
  have writes : ∀ id ∈ statement.writes, s.tree.role? id = some .write := fun id member =>
    sound.formed.role?_of_mem_members listed_write known member
  have reads : ∀ id ∈ statement.reads, s.tree.role? id = some .read := fun id member =>
    sound.formed.role?_of_mem_members listed_read known member
  have here : (s.tree.get? Construct.assignment? y).getD {} = statement := by
    rw [get?, known]
    rfl
  rw [checkAssignment, here, checkWrites_eq sound writes, checkReads_eq sound reads, Subject.occurrencesIn, known, Subject.complaints_append]
  rfl

theorem checkGenerate_eq (sound : s.Sound) {g : Generate} (known : s.tree.construct? y = some (.generate g)) :
    checkGenerate s y = (.ok (s.complaints (s.occurrencesIn y)) : Except Fault _) := by
  have reads : ∀ id ∈ g.bounds ++ g.condition, s.tree.role? id = some .read := fun id member =>
    sound.formed.role?_of_mem_members listed_read known member
  have here : (s.tree.get? Construct.generate? y).getD {} = g := by
    rw [get?, known]
    rfl
  rw [checkGenerate, here, checkReads_eq sound fun id member => reads id (List.mem_append_left _ member),
    checkReads_eq sound fun id member => reads id (List.mem_append_right _ member), Subject.occurrencesIn, known,
    Subject.complaints_append]
  rfl

theorem checkInstance_eq (sound : s.Sound) {i : Instantiation}
    (known : s.tree.construct? y = some (.instantiation i)) :
    checkInstance (s.tree.facts rules) s y = (.ok (s.complaints (s.occurrencesIn y)) : Except Fault _) := by
  obtain ⟨unit, resolved⟩ := Design.exists_resolveInstance sound.placed sound.formed.rooted
    (sound.shallow y (lt_size_of_construct? known)) s.packages s.entities
  have ports : s.targetPorts y = s.design.ports? unit := by
    rw [Subject.targetPorts, resolved]
    rfl
  have writes : ∀ id ∈ s.tree.instanceWrites i (s.design.ports? unit), s.tree.role? id = some .write :=
    fun _ member => sound.formed.role?_of_mem_instanceWrites known member
  have reads : ∀ id ∈ s.tree.instanceReads i (s.design.ports? unit), s.tree.role? id = some .read :=
    fun _ member => sound.formed.role?_of_mem_instanceReads known member
  have here : s.tree.get? Construct.instantiation? y = some i := by
    rw [get?, known]
    rfl
  rw [checkInstance, resolved]
  simp only [liftTree, facts, here, Option.elim_some]
  change ((checkWrites s (s.tree.instanceWrites i (s.design.ports? unit)) >>= fun written =>
    checkReads s (s.tree.instanceReads i (s.design.ports? unit)) >>= fun found => pure (written ++ found)) :
      Except Fault _) = _
  rw [checkWrites_eq sound writes, checkReads_eq sound reads, Subject.occurrencesIn, known, ports,
    Subject.complaints_append]
  rfl

/-- What the body of a unit lists under the role of an item is an item of the architecture. -/
theorem item_of_mem_body (formed : s.tree.WellFormed) (architecture : s.tree.role? a = some .architecture) {u : Nat}
    (unit : u ∈ s.tree.units a) (role : Role) (among : role ∈ itemRoles) (member : y ∈ (s.tree.bodyOf u).members role) :
    y ∈ s.tree.items a ∧ ∃ c, s.tree.construct? y = some c ∧ c.role = role := by
  have isUnit := (formed.mem_units architecture u unit).1
  rw [← membersOf_unit isUnit among] at member
  refine ⟨List.mem_flatMap.mpr ⟨u, unit, mem_kids.mpr ⟨role, among, member⟩⟩, ?_⟩
  exact Option.map_eq_some_iff.mp (formed.child_of_mem (listed_itemRoles role among) member).2

/-- The items of one body are checked in the order of their roles. -/
theorem checkBody_eq (sound : s.Sound) (architecture : s.tree.role? a = some .architecture) {u : Nat}
    (unit : u ∈ s.tree.units a) :
    checkBody (s.tree.facts rules) s (s.tree.bodyOf u) =
      (.ok ((s.tree.kids itemRoles u).flatMap fun y => s.complaints (s.occurrencesIn y)) : Except Fault _) := by
  have formed := sound.formed
  have isUnit := (formed.mem_units architecture u unit).1
  have item (role : Role) (among : role ∈ itemRoles) {y : Nat} (member : y ∈ (s.tree.bodyOf u).members role) :
      y ∈ s.tree.items a ∧ ∃ c, s.tree.construct? y = some c ∧ c.role = role :=
    item_of_mem_body formed architecture unit role among member
  have processes : ∀ y ∈ (s.tree.bodyOf u).processes,
      checkProcess (s.tree.facts rules) s y = (.ok (s.complaints (s.occurrencesIn y)) : Except Fault _) := by
    intro y member
    obtain ⟨_, c, known, same⟩ := item .process (by simp [itemRoles]) member
    cases c <;> simp only [Construct.role, reduceCtorEq] at same
    exact checkProcess_eq sound known
  have assignments : ∀ y ∈ (s.tree.bodyOf u).assignments,
      checkAssignment s y = (.ok (s.complaints (s.occurrencesIn y)) : Except Fault _) := by
    intro y member
    obtain ⟨listed, c, known, same⟩ := item .statement (by simp [itemRoles]) member
    obtain ⟨statement, known⟩ := formed.assignment_of_item architecture listed (same ▸ role?_of_construct? known)
    exact checkAssignment_eq sound known
  have instances : ∀ y ∈ (s.tree.bodyOf u).instantiations,
      checkInstance (s.tree.facts rules) s y = (.ok (s.complaints (s.occurrencesIn y)) : Except Fault _) := by
    intro y member
    obtain ⟨_, c, known, same⟩ := item .instantiation (by simp [itemRoles]) member
    cases c <;> simp only [Construct.role, reduceCtorEq] at same
    exact checkInstance_eq sound known
  have generates : ∀ y ∈ (s.tree.bodyOf u).generates,
      checkGenerate s y = (.ok (s.complaints (s.occurrencesIn y)) : Except Fault _) := by
    intro y member
    obtain ⟨_, c, known, same⟩ := item .generate (by simp [itemRoles]) member
    cases c <;> simp only [Construct.role, reduceCtorEq] at same
    exact checkGenerate_eq sound known
  rw [checkBody, mapM_eq_ok processes, mapM_eq_ok assignments, mapM_eq_ok instances, mapM_eq_ok generates]
  have listed : s.tree.kids itemRoles u = (s.tree.bodyOf u).processes ++ (s.tree.bodyOf u).assignments ++
      (s.tree.bodyOf u).instantiations ++ (s.tree.bodyOf u).generates := by
    rw [kids, List.flatMap_congr fun role among => membersOf_unit isUnit among]
    simp [itemRoles, Body.members]
  rw [listed, List.flatMap_def, List.map_append, List.map_append, List.map_append]
  rfl

/-- The check reports the examined occurrences that do not resolve. -/
theorem checkUndeclared_eq (sound : s.Sound) :
    checkUndeclared (s.tree.facts rules) s = (.ok (s.complaints s.occurrences) : Except Fault _) := by
  rw [checkUndeclared, Subject.occurrences]
  cases found : s.tree.architecture with
  | none =>
    have none_ : s.tree.bodies = [] := by simp [bodies, architectureUnit?, found]
    rw [none_]
    rfl
  | some a =>
    have architecture := sound.formed.architecture a found
    have each : ∀ u ∈ s.tree.units a, (checkBody (s.tree.facts rules) s ∘ s.tree.bodyOf) u =
        (.ok ((s.tree.kids itemRoles u).flatMap fun y => s.complaints (s.occurrencesIn y)) : Except Fault _) :=
      fun u unit => checkBody_eq sound architecture unit
    rw [sound.formed.bodies_eq found, List.mapM_map, mapM_eq_ok each, Option.elim_some, items, List.flatMap_assoc,
      Subject.complaints_flatMap]
    simp only [Subject.complaints_flatMap]
    rfl

/-- A parsed tree that is not too deep and stands in a design. -/
theorem Subject.Sound.ofParsed {path : String} {text : Bytes} {t : Tree} (parsed : Tree.parse path text = .ok t)
    (shallow : ∀ id : Nat, id < t.nodes.size → t.depth id ≤ maxDepth) {library : Bytes}
    (tree : s.tree = { t with library := library }) (placed : s.design.tree? s.file = some s.tree) : s.Sound := by
  have nodes_eq : s.tree.nodes = t.nodes := by rw [tree]
  refine ⟨(wellFormed_of_parse parsed).1.retree nodes_eq (by rw [tree]), fun id lt => ?_, placed⟩
  rw [(redrawn_of_nodes_eq nodes_eq).depth_eq]
  exact shallow id (nodes_eq ▸ lt)

/-- For every parsed text that is not too deep, the check goes through a list of occurrences without repetition:
all reads and writes below the architecture, apart from initial values, bounds of loops and the sides of
associations that do not count. It reports one finding for each of them that does not resolve. The library
that the file belongs to is entered after parsing. -/
theorem checkUndeclared_covers {path : String} {text : Bytes} {t : Tree} (parsed : Tree.parse path text = .ok t)
    (shallow : ∀ id : Nat, id < t.nodes.size → t.depth id ≤ maxDepth) (library : Bytes) (s : Subject)
    (tree : s.tree = { t with library := library }) (placed : s.design.tree? s.file = some s.tree)
    (rules : InferenceRules) :
    ∃ occurrences : List NodeId, occurrences.Nodup ∧ (∀ id, id ∈ occurrences ↔ s.Examined id) ∧
      checkUndeclared (s.tree.facts rules) s =
        (.ok ((occurrences.filter fun id => !s.resolves id).map s.complaint) : Except Fault _) := by
  have sound := Subject.Sound.ofParsed parsed shallow tree placed
  exact ⟨s.occurrences, Subject.occurrences_nodup sound.formed, fun id => Subject.mem_occurrences_iff sound.formed,
    checkUndeclared_eq sound⟩

theorem checkUndeclared_covers_sample :
    ∃ t, Tree.parse "a.vhd" (Bytes.ofString
        "architecture a of e is signal x : bit; begin
           p : process (clk) begin if x = y then x <= z; end if; end process;
           u : entity work.f port map (d => x, q => w);
           g : for i in 0 to n generate x <= i; end generate;
         end;") = .ok t ∧ t.checkRoots = .ok () ∧
      let s : Subject := ⟨⟨#[{ tree := t }]⟩, 0, t, [], fun _ _ => none⟩
      ∃ occurrences : List NodeId, occurrences.Nodup ∧ (∀ id, id ∈ occurrences ↔ s.Examined id) ∧
        checkUndeclared (t.facts .standard) s =
          (.ok ((occurrences.filter fun id => !s.resolves id).map s.complaint) : Except Fault _) := by
  obtain ⟨t, parsed, roots⟩ := exists_ok_of_any (show (Tree.parse "a.vhd" (Bytes.ofString
        "architecture a of e is signal x : bit; begin
           p : process (clk) begin if x = y then x <= z; end if; end process;
           u : entity work.f port map (d => x, q => w);
           g : for i in 0 to n generate x <= i; end generate;
         end;")).toOption.any (fun t => t.checkRoots = .ok ()) = true by
      rw [Bytes.ofString_ofList]
      decide +kernel)
  have roots := of_decide_eq_true roots
  have shallow := (wellFormed_of_parse parsed).1.rooted.checkRoots_iff.mp roots
  exact ⟨t, parsed, roots, checkUndeclared_covers parsed shallow t.library
    ⟨⟨#[{ tree := t }]⟩, 0, t, [], fun _ _ => none⟩ rfl rfl .standard⟩

end DesignLint.Lint
