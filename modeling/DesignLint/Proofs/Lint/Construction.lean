import DesignLint.Lint.Workbench
import DesignLint.Proofs.Inference.Roots
import DesignLint.Proofs.Tree.Arena

/-! Trees that are built on a workbench, node by node, by whoever sends the requests. Constructions may fail at each
of their steps, and questions and field changes may come in between; the tree that is left behind is an arena every
time. The walk to the root is kept from the first time it succeeds, which is safe because parents never change: the
invariant carries both facts together. -/
namespace DesignLint.Workbench

variable {α β : Type} {w : Workbench} {text : Bytes}

/-- The tree is an arena over the text, and every root that is kept was found on a chain that is short enough. -/
structure Sound (text : Bytes) (w : Workbench) : Prop where
  arena : w.file.tree.Arena text
  roots : ∀ id root : Nat, w.memo.root.lookup id = some root →
    root = 0 ∧ id < w.file.tree.nodes.size ∧ w.file.tree.depth id ≤ maxDepth

/-- Whether a construction goes through: the parent exists, its chain is short enough and the range lies in the
text. -/
def Fits (t : Tree) (parent : Option Int) (start stop : Int) : Prop :=
  ∃ p : Nat, parent = some (p : Int) ∧ p < t.nodes.size ∧ t.depth p ≤ maxDepth ∧
    0 ≤ start ∧ start ≤ stop ∧ stop ≤ t.text.length

theorem sound_start (path : String) (text : Bytes) : Sound text (start path text) :=
  ⟨Tree.arena_ofText path text, fun _ _ kept => nomatch kept⟩

theorem bind_apply (x : Work α) (f : α → Work β) (w : Workbench) :
    (x >>= f) w = match x w with
      | (.ok a, w') => f a w'
      | (.error fault, w') => (.error fault, w') := by
  change ExceptT.bindCont f (x w).1 (x w).2 = _
  cases x w with
  | mk answer w' => cases answer <;> rfl

theorem lookup_apply (id : Int) (w : Workbench) :
    lookup id w =
      if 0 ≤ id ∧ id < w.file.tree.nodes.size then (.ok id.toNat, w)
      else (.error (.tree (.outside id w.file.tree.nodes.size)), w) := by
  change (liftTree (w.file.tree.handle id) : Work NodeId) w = _
  unfold Tree.handle
  split <;> rename_i inside <;> simp at inside
  · rw [if_pos inside]
    rfl
  · rw [if_neg (by omega)]
    rfl

theorem setFields_apply (id : NodeId) (fields : List (String × FieldValue)) (w : Workbench) :
    let put (t : Option Tree) (field : String × FieldValue) := t.bind (·.putField? id field.1 field.2)
    setFields id fields w = match fields.foldl put (some w.file.tree) with
      | some t => (.ok true, { w with file := { w.file with tree := t } })
      | none => (.ok false, w) := by
  intro put
  have current : (get : Work Workbench) w = (.ok w, w) := rfl
  rw [setFields, bind_apply, current]
  cases done : fields.foldl put (some w.file.tree) with
  | none =>
    simp only [put] at done
    simp only [done]
    rfl
  | some t =>
    simp only [put] at done
    simp only [done]
    rfl

/-- Setting fields moves no node and forgets nothing. -/
theorem setFields_refills (id : NodeId) (fields : List (String × FieldValue)) (w : Workbench) :
    ∃ (set : Bool) (w' : Workbench), setFields id fields w = (.ok set, w') ∧
      w.file.tree.Refilled w'.file.tree ∧ w'.memo = w.memo ∧ (fields = [] → set = true) := by
  let put (t : Option Tree) (field : String × FieldValue) := t.bind (·.putField? id field.1 field.2)
  have refills (t t' : Tree) (done : fields.foldl put (some t) = some t') : t.Refilled t' := by
    induction fields generalizing t with
    | nil =>
      cases done
      exact .refl _
    | cons field fields ih =>
      rw [List.foldl_cons] at done
      cases first : put (some t) field with
      | none =>
        rw [first, List.foldl_fixed' (fun _ => rfl)] at done
        contradiction
      | some middle =>
        rw [first] at done
        exact (Tree.putField?_refills first).trans (ih middle done)
  cases done : fields.foldl put (some w.file.tree) with
  | none =>
    refine ⟨false, w, ?_, .refl _, rfl, ?_⟩
    · rw [setFields_apply, done]
    · rintro rfl
      contradiction
  | some t =>
    refine ⟨true, { w with file := { w.file with tree := t } }, ?_, refills _ _ done, rfl, fun _ => rfl⟩
    rw [setFields_apply, done]

theorem Sound.refilled {w' : Workbench} (sound : Sound text w) (r : w.file.tree.Refilled w'.file.tree)
    (memo : w'.memo.root = w.memo.root) : Sound text w' where
  arena := r.arena sound.arena
  roots := by
    intro id root kept
    rw [memo] at kept
    obtain ⟨isFile, lt, shallow⟩ := sound.roots id root kept
    refine ⟨isFile, r.size_eq ▸ lt, ?_⟩
    rw [Tree.depth_congr fun i _ => r.parent?_eq i]
    exact shallow

/-- The kept roots never change the answer to a walk: it is found exactly if the chain is short enough. -/
theorem rootOf_apply (sound : Sound text w) {id : Nat} (known : id < w.file.tree.nodes.size) :
    (w.file.tree.depth id ≤ maxDepth ∧ ∃ memo, Memo.rootOf w.file.tree id w.memo = (.ok 0, memo) ∧
        Sound text { w with memo }) ∨
      (maxDepth < w.file.tree.depth id ∧
        Memo.rootOf w.file.tree id w.memo = (.error (.tree (.longChain id)), w.memo)) := by
  rw [Memo.rootOf, Memo.memoize_apply]
  cases found : w.memo.root.lookup id with
  | some root =>
    obtain ⟨rfl, _, shallow⟩ := sound.roots id root found
    exact .inl ⟨shallow, w.memo, rfl, sound⟩
  | none =>
    by_cases shallow : w.file.tree.depth id ≤ maxDepth
    · rw [sound.arena.rooted.checkRoot_iff.mpr shallow]
      refine .inl ⟨shallow, _, rfl, sound.arena, ?_⟩
      intro other root kept
      rw [List.lookup_cons] at kept
      split at kept
      · rename_i same
        cases kept
        rw [beq_iff_eq.mp same]
        exact ⟨rfl, known, shallow⟩
      · exact sound.roots other root kept
    · have deep := Nat.lt_of_not_le shallow
      rw [sound.arena.rooted.checkRoot_error deep]
      exact .inr ⟨deep, rfl⟩

theorem build_apply (parent : NodeId) (start stop : Int) (c : Construct) (fields : List (String × FieldValue))
    (w : Workbench) :
    build parent start stop c fields w = match Memo.rootOf w.file.tree parent w.memo with
      | (.error fault, memo) => (.error fault, { w with memo })
      | (.ok _, memo) => match w.file.tree.place parent start stop c with
        | .error fault => (.error fault, { w with memo })
        | .ok (t, id) => (do if ← setFields id fields then return .node id else return .refused : Work Reply)
            { file := { w.file with tree := t }, memo } := by
  have asked : build parent start stop c fields w =
      (ask (fun _ => Memo.rootOf w.file.tree parent) >>= fun _ => match w.file.tree.place parent start stop c with
        | .error fault => throw fault
        | .ok (t, id) => do
          changeTree fun _ => t
          if ← setFields id fields then return .node id else return .refused) w := rfl
  rw [asked, bind_apply, ask]
  generalize Memo.rootOf w.file.tree parent w.memo = walk
  obtain ⟨answer, memo⟩ := walk
  cases answer with
  | error fault => rfl
  | ok root =>
    simp only
    cases w.file.tree.place parent start stop c with
    | error fault => rfl
    | ok placed => rfl

theorem Sound.push (sound : Sound text w) {parent first last : Nat} {c : Construct}
    (known : parent < w.file.tree.nodes.size) (ordered : first ≤ last) (inText : last ≤ w.file.tree.text.length) :
    Sound text { w with file := { w.file with tree :=
      { w.file.tree with nodes := w.file.tree.nodes.push ⟨some parent, first, last, c⟩ } } } := by
  refine ⟨sound.arena.push known ordered inText, fun i root kept => ?_⟩
  obtain ⟨isFile, lt, shallow⟩ := sound.roots i root kept
  have depth : ({ w.file.tree with nodes := w.file.tree.nodes.push ⟨some parent, first, last, c⟩ } : Tree).depth i =
      w.file.tree.depth i := by
    apply Tree.depth_congr
    intro j le
    rw [Tree.parent?, Tree.node?_push, if_neg (by omega), ← Tree.parent?]
  exact ⟨isFile, Array.size_push _ ▸ Nat.lt_succ_of_lt lt, depth ▸ shallow⟩

/-- What a construction did that went through: one node at the end, where it was asked for, and nothing else. -/
structure Built (t t' : Tree) (parent : Option Int) (start stop : Int) : Prop where
  size_eq : t'.nodes.size = t.nodes.size + 1
  newest : ∃ node, t'.node? t.nodes.size = some node ∧ node.parent.map Int.ofNat = parent ∧
    (node.start : Int) = start ∧ (node.stop : Int) = stop
  old : ∀ i : Nat, i < t.nodes.size → (t'.node? i).map Node.site = (t.node? i).map Node.site

theorem built_of_refilled {t t' : Tree} {parent first last : Nat} {c : Construct}
    (refilled : ({ t with nodes := t.nodes.push ⟨some parent, first, last, c⟩ } : Tree).Refilled t') :
    Built t t' (some parent) first last := by
  have site (i : Nat) := refilled.site_eq i
  simp only [Tree.node?_push] at site
  refine ⟨by rw [refilled.size_eq, Array.size_push], ?_, fun i lt => ?_⟩
  · obtain ⟨node, found, same⟩ := Option.map_eq_some_iff.mp ((site t.nodes.size).trans (by rw [if_pos rfl]; rfl))
    simp only [Node.site, Prod.mk.injEq] at same
    obtain ⟨isChild, begins, ends⟩ := same
    exact ⟨node, found, by rw [isChild]; rfl, by rw [begins], by rw [ends]⟩
  · rw [site, if_neg (Nat.ne_of_lt lt)]

/-- A construction of a known kind fails and leaves the file as it was, or adds one node at the end. -/
theorem new_cases (sound : Sound text w) {kind : String} {c : Construct} (known : Construct.blank? kind = some c)
    (parent : Option Int) (start stop : Int) (fields : List (String × FieldValue)) :
    (¬Fits w.file.tree parent start stop ∧ ∃ fault w', perform (.new kind parent start stop fields) w =
        (.error fault, w') ∧ w'.file = w.file ∧ Sound text w') ∨
      (Fits w.file.tree parent start stop ∧ ∃ reply w', perform (.new kind parent start stop fields) w =
        (.ok reply, w') ∧ Built w.file.tree w'.file.tree parent start stop ∧ Sound text w' ∧
        (fields = [] → reply = .node w.file.tree.nodes.size)) := by
  cases parent with
  | none =>
    refine .inl ⟨?_, .tree (.orphan kind), w, ?_, rfl, sound⟩
    · rintro ⟨p, orphan, _⟩
      contradiction
    · simp only [perform, known]
      rfl
  | some parent =>
    simp only [perform, known]
    rw [bind_apply, lookup_apply]
    by_cases inside : 0 ≤ parent ∧ parent < w.file.tree.nodes.size
    · obtain ⟨p, rfl⟩ := Int.eq_ofNat_of_zero_le inside.1
      have exists_ : p < w.file.tree.nodes.size := by omega
      rw [if_pos inside]
      simp only [Int.toNat_natCast, build_apply]
      obtain ⟨shallow, memo, found, kept⟩ | ⟨deep, missed⟩ := rootOf_apply sound exists_
      · rw [found]
        obtain ⟨first, last, rfl, rfl, ordered, inText, placed⟩ | ⟨outside, fault, placed⟩ :=
          w.file.tree.place_cases p start stop c
        · obtain ⟨set, w', done, refilled, memo_eq, complete⟩ := setFields_refills w.file.tree.nodes.size fields
            { file := { w.file with tree :=
                { w.file.tree with nodes := w.file.tree.nodes.push ⟨some p, first, last, c⟩ } }, memo }
          have sound' := (kept.push exists_ ordered inText).refilled refilled (congrArg Memo.root memo_eq)
          simp only [placed, bind_apply, done]
          refine .inr ⟨⟨p, rfl, exists_, shallow, by omega, by omega, by omega⟩, if set then .node w.file.tree.nodes.size else .refused, w', ?_,
            built_of_refilled refilled, sound', fun bare => by rw [complete bare]; rfl⟩
          cases set <;> rfl
        · simp only [placed]
          refine .inl ⟨?_, _, _, rfl, rfl, kept⟩
          rintro ⟨q, _, _, _, inRange⟩
          exact outside inRange
      · rw [missed]
        refine .inl ⟨?_, _, w, rfl, rfl, sound⟩
        rintro ⟨q, same, _, shallow, _⟩
        cases same
        omega
    · rw [if_neg inside]
      refine .inl ⟨?_, _, w, rfl, rfl, sound⟩
      rintro ⟨p, same, lt, _⟩
      cases same
      exact inside ⟨by omega, by omega⟩

/-- Whatever a computation does, it leaves a sound workbench sound. -/
def Keeps (text : Bytes) (x : Work α) : Prop := ∀ w, Sound text w → Sound text (x w).2

namespace Keeps

theorem pure (a : α) : Keeps text (Pure.pure a) := fun _ sound => sound

theorem get : Keeps text MonadState.get := fun _ sound => sound

theorem liftTree (x : Except TreeFault α) : Keeps text (liftTree x) := by
  intro w sound
  cases x <;> exact sound

theorem bind {x : Work α} {f : α → Work β} (first : Keeps text x) (next : ∀ a, Keeps text (f a)) :
    Keeps text (x >>= f) := by
  intro w sound
  have kept := first w sound
  rw [bind_apply]
  generalize x w = run at kept
  obtain ⟨answer, w'⟩ := run
  cases answer with
  | error fault => exact kept
  | ok a => exact next a w' kept

theorem mapM {f : α → Work β} (each : ∀ a, Keeps text (f a)) (xs : List α) : Keeps text (xs.mapM f) := by
  induction xs with
  | nil => exact pure []
  | cons x xs ih =>
    rw [List.mapM_cons]
    exact (each x).bind fun _ => ih.bind fun _ => pure _

theorem lookup (id : Int) : Keeps text (lookup id) := by
  intro w sound
  rw [lookup_apply]
  split <;> exact sound

theorem ask {question : Facts Query → Query α} (keeps : ∀ t rules, (question (Memo.facts t rules)).KeepsRoots) :
    Keeps text (ask question) := by
  intro w sound
  exact sound.refilled (.refl _) (keeps w.file.tree w.file.rules w.memo)

theorem setFields (id : NodeId) (fields : List (String × FieldValue)) : Keeps text (setFields id fields) := by
  intro w sound
  obtain ⟨set, w', done, refilled, memo, _⟩ := setFields_refills id fields w
  rw [done]
  exact sound.refilled refilled (congrArg Memo.root memo)

/-- Setting fields and answering whether it worked. -/
theorem setting (id : NodeId) (fields : List (String × FieldValue)) (reply : Reply) :
    Keeps text (do if ← Workbench.setFields id fields then return reply else return .refused) := by
  apply (setFields id fields).bind
  intro set
  split <;> exact pure _

theorem fieldOf (id : NodeId) (field : String) : Keeps text (fieldOf id field) := get.bind fun _ => pure _

/-- Putting a child into a field, or a place for one, and answering where it went. -/
theorem adding (id : NodeId) (field : String) (child : Option NodeId) : Keeps text (do
    match (← Workbench.fieldOf id field).bind (FieldValue.adding child) with
    | none => return Reply.refused
    | some (value, size) =>
      if ← Workbench.setFields id [(field, value)] then return Reply.node size else return Reply.refused) := by
  apply (fieldOf id field).bind
  intro value
  split
  · exact pure _
  · exact setting id _ _

/-- A change to the file beside its tree. -/
theorem modify {change : Workbench → Workbench}
    (same : ∀ w, (change w).file.tree = w.file.tree ∧ (change w).memo = w.memo) :
    Keeps text (modify change : Work PUnit) := by
  intro w sound
  obtain ⟨tree, memo⟩ := same w
  exact sound.refilled (tree ▸ .refl _) (congrArg Memo.root memo)

theorem portsOf (unit : Option Int) : Keeps text (portsOf unit) := by
  cases unit with
  | none => exact pure none
  | some id => exact (lookup id).bind fun _ => get.bind fun _ => pure _

theorem packagesOf (packages : List Int) : Keeps text (packagesOf packages) :=
  (mapM lookup packages).bind fun _ => pure _

end Keeps

/-- One request, whatever it asks for. -/
theorem perform_keeps (request : Request) : Keeps text (perform request) := by
  cases request with
  | new kind parent start stop fields =>
    intro w sound
    cases known : Construct.blank? kind with
    | none =>
      simp only [perform, known]
      exact sound
    | some c =>
      obtain ⟨_, _, _, done, _, kept⟩ | ⟨_, _, _, done, _, kept, _⟩ :=
        new_cases sound known parent start stop fields
      all_goals
        rw [done]
        exact kept
  | set node fields => exact (Keeps.lookup node).bind fun id => .setting id fields _
  | add node field child =>
    apply (Keeps.lookup node).bind
    intro id
    cases child with
    | none => exact .adding id field none
    | some c =>
      exact ((Keeps.lookup c).bind fun _ => .pure _ : Keeps text (some <$> lookup c)).bind fun child =>
        .adding id field child
  | clear node field =>
    apply (Keeps.lookup node).bind
    intro id
    apply (Keeps.fieldOf id field).bind
    intro value
    cases value with
    | none => exact .pure _
    | some value => exact .setting id _ _
  | root node =>
    intro w sound
    simp only [perform]
    rw [bind_apply, lookup_apply]
    by_cases inside : 0 ≤ node ∧ node < w.file.tree.nodes.size
    · rw [if_pos inside]
      have asked (id : NodeId) (w : Workbench) : (do
          let t := (← MonadState.get).file.tree
          return Reply.node (← ask fun _ => Memo.rootOf t id) : Work Reply) w =
          (ask (fun _ => Memo.rootOf w.file.tree id) >>= fun root => return Reply.node root) w := rfl
      simp only [asked]
      rw [bind_apply, ask]
      obtain ⟨_, memo, found, kept⟩ | ⟨_, missed⟩ := rootOf_apply sound (by omega : node.toNat < _)
      · rw [found]
        exact kept
      · rw [missed]
        exact sound
    · rw [if_neg inside]
      exact sound
  | scopes node =>
    apply (Keeps.lookup node).bind
    intro id
    apply Keeps.get.bind
    intro w
    simp only
    split
    · exact .pure _
    · exact .liftTree _
  | setRules clock reset =>
    simp only [perform]
    split
    · exact .pure _
    · refine .bind (.modify ?_) fun _ => .pure _
      exact fun _ => ⟨rfl, rfl⟩
  | describe node | parent node | registerProcess node | allProcesses node | formalName node =>
    exact (Keeps.lookup node).bind fun _ => Keeps.get.bind fun _ => .pure _
  | isRegisterProcess process =>
    exact (Keeps.lookup process).bind fun id =>
      (Keeps.ask fun t rules => Memo.keepsRoots_isRegisterProcess t rules id).bind fun _ => .pure _
  | resets process | resetsName process =>
    exact (Keeps.lookup process).bind fun id =>
      (Keeps.ask fun t rules => Memo.keepsRoots_resets t rules id).bind fun _ => .pure _
  | flatWrites process =>
    exact (Keeps.lookup process).bind fun id =>
      (Keeps.ask fun t rules => Memo.keepsRoots_flatWrites t rules id).bind fun _ => .pure _
  | flatReads process =>
    exact (Keeps.lookup process).bind fun id =>
      (Keeps.ask fun t rules => Memo.keepsRoots_flatReads t rules id).bind fun _ => .pure _
  | isRegister signal =>
    exact (Keeps.lookup signal).bind fun id =>
      (Keeps.ask fun t rules => Memo.keepsRoots_registerProcess t rules id).bind fun _ => .pure _
  | instanceReads node unit =>
    exact (Keeps.lookup node).bind fun id => (Keeps.portsOf unit).bind fun ports =>
      (Keeps.ask fun t rules => Memo.keepsRoots_instanceReads t rules id ports).bind fun _ => .pure _
  | instanceWrites node unit =>
    exact (Keeps.lookup node).bind fun id => (Keeps.portsOf unit).bind fun ports =>
      (Keeps.ask fun t rules => Memo.keepsRoots_instanceWrites t rules id ports).bind fun _ => .pure _
  | resolveRead node packages | resolveInstance node packages =>
    exact (Keeps.lookup node).bind fun _ => (Keeps.packagesOf packages).bind fun _ => Keeps.get.bind fun _ =>
      (Keeps.liftTree _).bind fun _ => .pure _
  | resolveWrite node =>
    exact (Keeps.lookup node).bind fun _ => Keeps.get.bind fun _ => (Keeps.liftTree _).bind fun _ => .pure _
  | setPackages packages =>
    refine (Keeps.packagesOf packages).bind fun _ => .bind (.modify ?_) fun _ => .pure _
    exact fun _ => ⟨rfl, rfl⟩
  | linkEntity entity =>
    refine (Keeps.lookup entity).bind fun _ => .bind (.modify ?_) fun _ => Keeps.get.bind fun _ => .pure _
    exact fun _ => ⟨rfl, rfl⟩
  | lint =>
    intro w sound
    let subject : Lint.Subject := ⟨w.design, 0, w.file.tree, w.file.packages, fun _ _ => none⟩
    have kept : Sound text (ask (fun facts => Lint.checkAll facts subject) w).2 :=
      Keeps.ask (fun t rules => Lint.keepsRoots_checkAll t rules subject) w sound
    simp only [perform]
    split <;> rename_i done <;> rw [done] at kept <;> exact kept
  | count | tree => exact Keeps.get.bind fun _ => .pure _

theorem run_sound (sound : Sound text w) (request : Request) : Sound text (w.run request).1 := by
  have kept := perform_keeps request w sound
  unfold run
  split <;> rename_i done <;> rw [done] at kept <;> exact kept

/-- The workbench that requests leave behind. -/
def after (w : Workbench) (requests : List Request) : Workbench :=
  requests.foldl (fun w request => (w.run request).1) w

/-- Each request is answered by the workbench that the ones before it left behind. -/
theorem runAll_append (w : Workbench) (before : List Request) (request : Request) :
    w.runAll (before ++ [request]) = w.runAll before ++ [((w.after before).run request).2] := by
  induction before generalizing w with
  | nil => rfl
  | cons first before ih =>
    change _ :: (w.run first).1.runAll (before ++ [request]) = _
    rw [ih]
    rfl

theorem after_sound (sound : Sound text w) (requests : List Request) : Sound text (w.after requests) := by
  induction requests generalizing w with
  | nil => exact sound
  | cons request requests ih => exact ih (run_sound sound request)

/-- Whatever is asked of a workbench, its tree stays an arena: the nodes are numbered in the order of construction,
node zero is the file and the only node without a parent, every chain of parents descends to it, and all ranges lie in
the text. The next construction of any kind adds exactly the node it was asked for, or is answered by a fault and
leaves the file as it was. -/
theorem constructions_keep_arena (path : String) (text : Bytes) (requests : List Request) :
    let w := (start path text).after requests
    let t := w.file.tree
    (t.construct? 0 = some .file ∧ ∀ id : Nat, id < t.nodes.size → (t.parent? id = none ↔ id = 0)) ∧
    (∀ id parent : Nat, t.parent? id = some parent → parent < id) ∧
    (∀ id : Nat, 0 < id → id < t.nodes.size → t.Below 0 id) ∧
    (∀ (id : Nat) (node : Node), t.node? id = some node → node.start ≤ node.stop ∧ node.stop ≤ text.length) ∧
    ∀ (kind : String) (parent : Option Int) (start stop : Int) (fields : List (String × FieldValue)),
      (Construct.blank? kind).isSome →
      let made := w.run (.new kind parent start stop fields)
      (Fits t parent start stop ∧ Built t made.1.file.tree parent start stop ∧
        (fields = [] → made.2 = .node t.nodes.size)) ∨
      (¬Fits t parent start stop ∧ (∃ fault, made.2 = .fault fault) ∧ made.1.file = w.file) := by
  intro w t
  have sound : Sound text w := after_sound (sound_start path text) requests
  have rooted := sound.arena.rooted
  refine ⟨⟨sound.arena.file, ?_⟩, fun _ _ known => rooted.lt_of_parent? known, ?_, sound.arena.inText, ?_⟩
  · intro id lt
    constructor
    · intro orphan
      by_contra positive
      obtain ⟨parent, known, _⟩ := rooted.parent_lt id (Nat.pos_of_ne_zero positive) lt
      rw [orphan] at known
      contradiction
    · rintro rfl
      exact rooted.file
  · intro id positive lt
    induction id using Nat.strongRecOn with
    | ind id ih =>
      obtain ⟨parent, known, less⟩ := rooted.parent_lt id positive lt
      by_cases top : parent = 0
      · exact .child (top ▸ known)
      · exact .step known (ih parent less (by omega) (by omega))
  · intro kind parent start stop fields known made
    obtain ⟨c, known⟩ := Option.isSome_iff_exists.mp known
    obtain ⟨misfit, fault, w', done, same, _⟩ | ⟨fits, reply, w', done, built, _, bare⟩ :=
      new_cases sound known parent start stop fields
    · have faulted : made = (w', .fault fault) := by simp only [made, run, done]
      exact .inr ⟨misfit, ⟨fault, by rw [faulted]⟩, by rw [faulted]; exact same⟩
    · have answered : made = (w', reply) := by simp only [made, run, done]
      exact .inl ⟨fits, by rw [answered]; exact built, fun none_ => by rw [answered]; exact bare none_⟩

end DesignLint.Workbench
