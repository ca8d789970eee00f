import DesignLint.Proofs.Token.Lossless
import DesignLint.Proofs.Reader.Building
import DesignLint.Proofs.Reader.Grammar

/-! Runs that come to a result. Where the next tokens are known, a reader cannot fail but for want of depth: it reads these
tokens, leaves the nodes that are there alone, and what the new nodes show stays true as long as they are kept. Readers that
run one after the other read their tokens one after the other and show what each of them shows. -/
namespace DesignLint

variable {s s₁ s₂ s₃ : ReaderState} {a b rest ts : List Token} {t u : Token}

namespace Tree

/-- A tree that still has the nodes by which `t'` has more than `t`. -/
structure Keeps (later t t' : Tree) : Prop where
  text_eq : later.text = t'.text
  node?_eq : ∀ i : Nat, t.nodes.size ≤ i → i < t'.nodes.size → later.node? i = t'.node? i

theorem Keeps.self (t t' : Tree) : t'.Keeps t t' := ⟨rfl, fun _ _ _ => rfl⟩

end Tree

/-- From `s` to `s'` the tokens were read, and the nodes that there were are as before. -/
structure Took (s : ReaderState) (ts : List Token) (s' : ReaderState) : Prop where
  rest_eq : s.rest = ts ++ s'.rest
  libraries_eq : s'.libraryNames = s.libraryNames
  text_eq : s'.tree.text = s.tree.text
  rooted : s.tree.Rooted → s'.tree.Rooted
  size_le : s.tree.nodes.size ≤ s'.tree.nodes.size
  old : ∀ i : Nat, i < s.tree.nodes.size → s'.tree.node? i = s.tree.node? i
  lastStop : ts ≠ [] ∨ s.lastStop.isSome → s'.lastStop.isSome

/-- From `s` to `s'` the tokens were read and nothing else happened. -/
structure Moves (s : ReaderState) (ts : List Token) (s' : ReaderState) : Prop extends Took s ts s' where
  tree_eq : s'.tree = s.tree

/-- From `s` to `s'` the tokens were read, and every later tree that keeps the new nodes is as `shown` says. -/
structure Builds (s : ReaderState) (ts : List Token) (s' : ReaderState) (shown : Tree → Prop) : Prop
    extends Took s ts s' where
  shows : ∀ later : Tree, later.Keeps s.tree s'.tree → shown later

namespace Took

theorem refl (s : ReaderState) : Took s [] s :=
  ⟨rfl, rfl, rfl, id, Nat.le_refl _, fun _ _ => rfl, fun known => known.resolve_left (absurd rfl)⟩

theorem trans (first : Took s a s₁) (next : Took s₁ b s₂) : Took s (a ++ b) s₂ where
  rest_eq := by rw [first.rest_eq, next.rest_eq, List.append_assoc]
  libraries_eq := next.libraries_eq.trans first.libraries_eq
  text_eq := next.text_eq.trans first.text_eq
  rooted known := next.rooted (first.rooted known)
  size_le := Nat.le_trans first.size_le next.size_le
  old i lt := (next.old i (Nat.lt_of_lt_of_le lt first.size_le)).trans (first.old i lt)
  lastStop known := by
    apply next.lastStop
    cases b with
    | cons => exact .inl (List.cons_ne_nil _ _)
    | nil => exact .inr (first.lastStop (by rwa [List.append_nil] at known))

theorem parent?_eq (took : Took s ts s₁) {i : Nat} (lt : i < s.tree.nodes.size) :
    s₁.tree.parent? i = s.tree.parent? i := by
  rw [Tree.parent?, Tree.parent?, took.old i lt]

theorem depth_eq (took : Took s ts s₁) {i : Nat} (lt : i < s.tree.nodes.size) : s₁.tree.depth i = s.tree.depth i :=
  Tree.depth_congr fun _ le => took.parent?_eq (Nat.lt_of_le_of_lt le lt)

/-- What is kept of two stretches is kept of each. -/
theorem split (first : Took s a s₁) (next : Took s₁ b s₂) {later : Tree} (keeps : later.Keeps s.tree s₂.tree) :
    later.Keeps s.tree s₁.tree ∧ later.Keeps s₁.tree s₂.tree := by
  constructor
  · exact ⟨keeps.text_eq.trans next.text_eq, fun i from_ lt =>
      (keeps.node?_eq i from_ (Nat.lt_of_lt_of_le lt next.size_le)).trans (next.old i lt)⟩
  · exact ⟨keeps.text_eq, fun i from_ lt => keeps.node?_eq i (Nat.le_trans first.size_le from_) lt⟩

end Took

theorem Moves.refl (s : ReaderState) : Moves s [] s := ⟨Took.refl s, rfl⟩

theorem Moves.trans (first : Moves s a s₁) (next : Moves s₁ b s₂) : Moves s (a ++ b) s₂ :=
  ⟨first.toTook.trans next.toTook, next.tree_eq.trans first.tree_eq⟩

/-- A cursor that moves on over tokens. -/
theorem Moves.of_rest {last : Option Nat} (split : s.rest = ts ++ rest) (known : ts ≠ [] ∨ s.lastStop.isSome → last.isSome) :
    Moves s ts { s with rest, lastStop := last } :=
  ⟨⟨split, rfl, rfl, id, Nat.le_refl _, fun _ _ => rfl, known⟩, rfl⟩

namespace Builds

variable {p q : Tree → Prop}

theorem mono (builds : Builds s ts s₁ p) (implies : ∀ later, p later → q later) : Builds s ts s₁ q :=
  ⟨builds.toTook, fun later keeps => implies later (builds.shows later keeps)⟩

theorem trans (first : Builds s a s₁ p) (next : Builds s₁ b s₂ q) : Builds s (a ++ b) s₂ fun t => p t ∧ q t :=
  ⟨first.toTook.trans next.toTook, fun later keeps =>
    have ⟨kept, kept'⟩ := first.toTook.split next.toTook keeps
    ⟨first.shows later kept, next.shows later kept'⟩⟩

theorem then_moves (first : Builds s a s₁ p) (next : Moves s₁ b s₂) : Builds s (a ++ b) s₂ p :=
  ⟨first.toTook.trans next.toTook, fun later keeps => first.shows later (first.toTook.split next.toTook keeps).1⟩

end Builds

theorem Moves.then_builds {p : Tree → Prop} (first : Moves s a s₁) (next : Builds s₁ b s₂ p) : Builds s (a ++ b) s₂ p :=
  ⟨first.toTook.trans next.toTook, fun later keeps => next.shows later (first.toTook.split next.toTook keeps).2⟩

theorem Moves.builds (moves : Moves s ts s₁) {p : Tree → Prop} (always : ∀ later, p later) : Builds s ts s₁ p :=
  ⟨moves.toTook, fun later _ => always later⟩

/-- A reader of a text that stands somewhere in its tokens, below an owner at a depth. -/
structure Under (text : Bytes) (tokens : List Token) (libraries : List String) (owner depth : Nat) (s : ReaderState) :
    Prop where
  text_eq : s.tree.text = text
  rooted : s.tree.Rooted
  suffix : s.rest <:+ tokens
  libraries_eq : s.libraryNames = libraries
  owner_lt : owner < s.tree.nodes.size
  depth_eq : s.tree.depth owner = depth

variable {text : Bytes} {tokens : List Token} {libraries : List String} {owner depth : Nat}

theorem Under.took (under : Under text tokens libraries owner depth s) (took : Took s ts s₁) :
    Under text tokens libraries owner depth s₁ where
  text_eq := took.text_eq.trans under.text_eq
  rooted := took.rooted under.rooted
  suffix := (took.rest_eq ▸ List.suffix_append _ _ : s₁.rest <:+ s.rest).trans under.suffix
  libraries_eq := took.libraries_eq.trans under.libraries_eq
  owner_lt := Nat.lt_of_lt_of_le under.owner_lt took.size_le
  depth_eq := (took.depth_eq under.owner_lt).trans under.depth_eq

theorem Moves.behind (moves : Moves s [t] s₁) (under : Under text tokens libraries owner depth s) :
    t :: s₁.rest <:+ tokens := by
  have suffix := under.suffix
  rwa [moves.rest_eq] at suffix

namespace Reader

/-- A reader started in `s` comes to a result and a state that `post` accepts. -/
def Runs {α : Type} (x : Reader α) (s : ReaderState) (post : α → ReaderState → Prop) : Prop :=
  ∃ a s', x s = .ok (a, s') ∧ post a s'

variable {α β σ : Type} {x y : Reader α} {post : α → ReaderState → Prop}

namespace Runs

theorem mono {weaker : α → ReaderState → Prop} (runs : Runs x s post) (implies : ∀ a s', post a s' → weaker a s') :
    Runs x s weaker := by
  obtain ⟨a, s', run, holds⟩ := runs
  exact ⟨a, s', run, implies a s' holds⟩

theorem pure {a : α} (holds : post a s) : Runs (Pure.pure a) s post := ⟨a, s, rfl, holds⟩

theorem bind {f : α → Reader β} {final : β → ReaderState → Prop} (first : Runs x s post)
    (next : ∀ a s', post a s' → Runs (f a) s' final) : Runs (x >>= f) s final := by
  obtain ⟨a, s', run, holds⟩ := first
  obtain ⟨b, s'', run', holds'⟩ := next a s' holds
  refine ⟨b, s'', ?_, holds'⟩
  change (x s >>= fun p => f p.1 p.2) = _
  rw [run]
  exact run'

theorem get_bind {f : ReaderState → Reader α} (next : Runs (f s) s post) : Runs (get >>= f) s post := next

theorem modify_bind {change : ReaderState → ReaderState} {f : Unit → Reader α} (next : Runs (f ()) (change s) post) :
    Runs (modify change >>= f) s post := next

theorem discard {final : Unit → ReaderState → Prop} (runs : Runs x s fun _ s' => final () s') :
    Runs (Functor.discard x) s final := by
  change Runs (x >>= fun _ => Pure.pure ()) s final
  exact runs.bind fun _ _ holds => .pure holds

theorem discard_bind {f : Unit → Reader β} {final : β → ReaderState → Prop} (first : Runs x s post)
    (next : ∀ a s', post a s' → Runs (f ()) s' final) : Runs (Functor.discard x >>= f) s final :=
  (discard (first.mono next)).bind fun _ _ runs => runs

/-- A loop whose first turn ends it, or reads on and is followed by the others. -/
theorem loop {body : σ → Reader (Turn σ α)} {state : σ}
    (turn : Runs (body state) s fun decision s' => match decision with
      | .again state' => s'.rest.length < s.rest.length ∧ Runs (Reader.loop body state') s' post
      | .done result => post result s') : Runs (Reader.loop body state) s post := by
  obtain ⟨decision, s', run, holds⟩ := turn
  rw [Runs, Reader.loop]
  simp only [run]
  cases decision with
  | done result => exact ⟨result, s', rfl, holds⟩
  | again state' =>
    obtain ⟨less, more⟩ := holds
    simp only
    rw [if_pos less]
    exact more

end Runs

/-- A token that is not the end of the text stands next. -/
structure Next (s : ReaderState) (t : Token) (rest : List Token) : Prop where
  rest_eq : s.rest = t :: rest
  significant : t.kind ≠ .endOfText

theorem peek_runs (head : s.rest = t :: rest) : Runs peek s fun u s' => u = t ∧ s' = s := by
  unfold peek peekAt
  apply Runs.get_bind
  rw [head]
  exact .pure ⟨rfl, rfl⟩

theorem sees_runs (head : s.rest = t :: rest) (words : List String) :
    Runs (sees words) s fun seen s' => seen = words.contains t.word ∧ s' = s := by
  unfold sees
  apply (peek_runs head).bind
  rintro u s' ⟨rfl, rfl⟩
  exact .pure ⟨rfl, rfl⟩

theorem ifSees_runs {words : List String} (head : s.rest = t :: rest) (member : t.word ∈ words) (then_ : Runs x s post) :
    Runs (sees words >>= fun seen => if seen = true then x else y) s post := by
  apply (sees_runs head words).bind
  rintro seen s ⟨rfl, rfl⟩
  rwa [if_pos (by simpa using member)]

theorem ifSees_other_runs {words : List String} (head : s.rest = t :: rest) (other : t.word ∉ words)
    (else_ : Runs y s post) : Runs (sees words >>= fun seen => if seen = true then x else y) s post := by
  apply (sees_runs head words).bind
  rintro seen s ⟨rfl, rfl⟩
  rwa [if_neg (by simpa using other)]

theorem atEnd_runs (next_ : Next s t rest) : Runs atEnd s fun ended s' => ended = false ∧ s' = s := by
  unfold atEnd
  apply (peek_runs next_.rest_eq).bind
  rintro u s ⟨rfl, rfl⟩
  exact .pure ⟨decide_eq_false next_.significant, rfl⟩

theorem seesName_runs (head : s.rest = t :: rest) : Runs seesName s fun seen s' => seen = t.isName ∧ s' = s := by
  unfold seesName
  apply (peek_runs head).bind
  rintro u s' ⟨rfl, rfl⟩
  exact .pure ⟨rfl, rfl⟩

theorem seesSecond_runs (head : s.rest = t :: u :: rest) (words : List String) :
    Runs (seesSecond words) s fun seen s' => seen = words.contains u.word ∧ s' = s := by
  have second : Runs (peekAt 1) s fun v s' => v = u ∧ s' = s := by
    unfold peekAt
    apply Runs.get_bind
    rw [head]
    exact .pure ⟨rfl, rfl⟩
  unfold seesSecond
  apply second.bind
  rintro v s' ⟨rfl, rfl⟩
  exact .pure ⟨rfl, rfl⟩

/-- Looking at the token after the next one changes nothing. -/
theorem seesSecond_any_runs (head : s.rest = t :: rest) (words : List String) :
    Runs (seesSecond words) s fun _ s' => s' = s := by
  cases rest with
  | cons u rest => exact (seesSecond_runs head words).mono fun _ _ found => found.2
  | nil =>
    unfold seesSecond peekAt
    refine .bind (.get_bind ?_) fun u s' (same : s' = s) => .pure same
    rw [head]
    exact .pure rfl

theorem next_runs (next_ : Next s t rest) : Runs next s fun u s' => u = t ∧ Moves s [t] s' := by
  unfold next
  apply Runs.get_bind
  rw [next_.rest_eq]
  simp only [if_neg next_.significant]
  exact .modify_bind (.pure ⟨rfl, .of_rest (by rw [next_.rest_eq]; rfl) fun _ => rfl⟩)

theorem expect_runs {word : String} (next_ : Next s t rest) (same : t.word = word) :
    Runs (expect word) s fun u s' => u = t ∧ Moves s [t] s' := by
  unfold expect
  apply (sees_runs next_.rest_eq _).bind
  rintro seen s' ⟨rfl, rfl⟩
  rw [if_pos (by simp [same])]
  exact next_runs next_

theorem skip_runs {word : String} (next_ : Next s t rest) (same : t.word = word) :
    Runs (skip word) s fun _ s' => Moves s [t] s' :=
  .discard ((expect_runs next_ same).mono fun _ _ found => found.2)

theorem name_runs (next_ : Next s t rest) (named : t.isName = true) : Runs name s fun u s' => u = t ∧ Moves s [t] s' := by
  unfold name
  apply (seesName_runs next_.rest_eq).bind
  rintro seen s' ⟨rfl, rfl⟩
  rw [if_pos named]
  exact next_runs next_

theorem accept_runs {words : List String} (next_ : Next s t rest) (member : t.word ∈ words) :
    Runs (accept words) s fun accepted s' => accepted = true ∧ Moves s [t] s' := by
  unfold accept
  apply (sees_runs next_.rest_eq _).bind
  rintro seen s' ⟨rfl, rfl⟩
  rw [if_pos (by simpa using member)]
  exact (next_runs next_).discard_bind fun _ _ found => .pure ⟨rfl, found.2⟩

theorem accept_other_runs {words : List String} (head : s.rest = t :: rest) (other : t.word ∉ words) :
    Runs (accept words) s fun accepted s' => accepted = false ∧ s' = s := by
  unfold accept
  apply (sees_runs head _).bind
  rintro seen s' ⟨rfl, rfl⟩
  rw [if_neg (by simpa using other)]
  exact .pure ⟨rfl, rfl⟩

theorem ifAccepted_runs {words : List String} {otherwise : α} (next_ : Next s t rest) (member : t.word ∈ words)
    (then_ : ∀ s', Moves s [t] s' → Runs x s' post) : Runs (ifAccepted words otherwise x) s post := by
  unfold ifAccepted
  apply (accept_runs next_ member).bind
  rintro accepted s₁ ⟨rfl, moves⟩
  exact then_ s₁ moves

theorem ifAccepted_other_runs {words : List String} {otherwise : α} (head : s.rest = t :: rest) (other : t.word ∉ words)
    (holds : post otherwise s) : Runs (ifAccepted words otherwise x) s post := by
  unfold ifAccepted
  apply (accept_other_runs head other).bind
  rintro accepted s ⟨rfl, rfl⟩
  exact .pure holds

/-! ### Nodes -/

/-- A node was added below its owner, and nothing was read. -/
structure Placed (s s₁ : ReaderState) (owner start stop : Nat) (c : Construct) : Prop extends Took s [] s₁ where
  node?_eq : s₁.tree.node? s.tree.nodes.size = some ⟨some owner, start, stop, c⟩
  size_eq : s₁.tree.nodes.size = s.tree.nodes.size + 1

section

variable {start stop : Nat} {c c' : Construct}

theorem Placed.head (placed : Placed s s₁ owner start stop c) (head : s.rest = rest) : s₁.rest = rest :=
  placed.rest_eq.symm.trans head

theorem Placed.new_lt (placed : Placed s s₁ owner start stop c) : s.tree.nodes.size < s₁.tree.nodes.size :=
  placed.size_eq ▸ Nat.lt_succ_self _

/-- Below a new node one stands one level further down. -/
theorem Placed.under (placed : Placed s s₁ owner start stop c) (under : Under text tokens libraries owner depth s) :
    Under text tokens libraries s.tree.nodes.size (depth + 1) s₁ := by
  have at_ := under.took placed.toTook
  have parent : s₁.tree.parent? s.tree.nodes.size = some owner := by rw [Tree.parent?, placed.node?_eq]; rfl
  refine ⟨at_.text_eq, at_.rooted, at_.suffix, at_.libraries_eq, placed.new_lt, ?_⟩
  rw [Tree.depth_of_parent? parent under.owner_lt, at_.depth_eq]

theorem attach_runs (under : Under text tokens libraries owner depth s) (shallow : depth ≤ maxDepth)
    (ordered : start ≤ stop) (inside : stop ≤ text.length) (c : Construct) :
    Runs (attach owner start stop c) s fun id s' => id = s.tree.nodes.size ∧ Placed s s' owner start stop c := by
  have range : checkRange s.tree.text.length start stop = .ok () := by
    rw [checkRange, if_neg]
    rw [under.text_eq]
    simp only [Bool.or_eq_true, decide_eq_true_eq]
    omega
  have root := under.rooted.checkRoot_iff.mpr (under.depth_eq.trans_le shallow)
  have pushed : s.tree.Extends { s.tree with nodes := s.tree.nodes.push ⟨some owner, start, stop, c⟩ } owner _ :=
    Tree.extends_push rfl under.owner_lt
  unfold attach
  apply Runs.get_bind
  simp only [Tree.attach, Tree.place, root, range, Int.toNat_natCast]
  refine .modify_bind (.pure ⟨rfl, ⟨?_, ?_, ?_⟩⟩)
  · exact ⟨rfl, rfl, rfl, pushed.rooted, pushed.size_le, pushed.old, fun known => known.resolve_left (absurd rfl)⟩
  · exact (Tree.node?_push _).trans (if_pos rfl)
  · exact Array.size_push _

theorem begin_runs (under : Under text tokens libraries owner depth s) (shallow : depth ≤ maxDepth)
    (inside : t.stop ≤ text.length) (c : Construct) :
    Runs (begin owner t c) s fun id s' => id = s.tree.nodes.size ∧ Placed s s' owner t.offset t.offset c :=
  attach_runs under shallow (Nat.le_refl _) (Nat.le_trans (Nat.le_add_right _ _) inside) c

theorem Placed.after (placed : Placed s s₁ owner start stop c) (inner : Took s₁ ts s₂) :
    s₂.tree.node? s.tree.nodes.size = some ⟨some owner, start, stop, c⟩ :=
  (inner.old _ placed.new_lt).trans placed.node?_eq

/-- Once a node has become what it is, it shows that beside what is shown inside it. -/
theorem Placed.close {p : Tree → Prop} (placed : Placed s s₁ owner start stop c) (inner : Builds s₁ ts s₂ p)
    (rest_eq : s₃.rest = s₂.rest) (libraries_eq : s₃.libraryNames = s₂.libraryNames) (lastStop : s₃.lastStop = s₂.lastStop)
    (text_eq : s₃.tree.text = s₂.tree.text) (size_eq : s₃.tree.nodes.size = s₂.tree.nodes.size)
    (drawn : s₃.tree.Draws owner s.tree.nodes.size c')
    (other : ∀ i : Nat, i ≠ s.tree.nodes.size → s₃.tree.node? i = s₂.tree.node? i) :
    Builds s ts s₃ fun later => later.Draws owner s.tree.nodes.size c' ∧ p later := by
  have known := placed.after inner.toTook
  have outer : Took s ts s₂ := placed.toTook.trans inner.toTook
  obtain ⟨start', stop', drawn⟩ := drawn
  have parent (i : Nat) : s₃.tree.parent? i = s₂.tree.parent? i := by
    by_cases here : i = s.tree.nodes.size
    · rw [Tree.parent?, Tree.parent?, here, drawn, known]
      rfl
    · rw [Tree.parent?, Tree.parent?, other i here]
  have rooted (known : s.tree.Rooted) : s₃.tree.Rooted := by
    have rooted₂ := outer.rooted known
    refine ⟨size_eq ▸ rooted₂.nonempty, (parent 0).trans rooted₂.file, fun i positive lt => ?_⟩
    rw [parent]
    exact rooted₂.parent_lt i positive (size_eq ▸ lt)
  refine ⟨⟨rest_eq ▸ outer.rest_eq, libraries_eq.trans outer.libraries_eq, text_eq.trans outer.text_eq, rooted,
    size_eq ▸ outer.size_le, fun i lt => (other i (Nat.ne_of_lt lt)).trans (outer.old i lt), lastStop ▸ outer.lastStop⟩,
    fun later keeps => ⟨?_, ?_⟩⟩
  · have lt := Nat.lt_of_lt_of_le placed.new_lt inner.size_le
    exact ⟨start', stop', (keeps.node?_eq _ (Nat.le_refl _) (size_eq ▸ lt)).trans drawn⟩
  · refine inner.shows later ⟨keeps.text_eq.trans text_eq, fun i from_ lt => ?_⟩
    have := placed.new_lt
    rw [keeps.node?_eq i (by omega) (size_eq ▸ lt), other i (by omega)]

/-- Redrawing a node and letting it end somewhere changes no other node. -/
theorem node?_redrawn {tree : Tree} {id : Nat} {node : Node} (known : tree.node? id = some node) (c' : Construct)
    (stop i : Nat) :
    ((tree.update id fun _ => c').modify id fun node => { node with stop }).node? i =
      if i = id then some { node with construct := c', stop } else tree.node? i := by
  rw [Tree.node?_modify, Tree.update, Tree.node?_modify]
  by_cases here : i = id
  · rw [if_pos here.symm, if_pos here.symm, if_pos here, here, known]
    rfl
  · rw [if_neg (Ne.symm here), if_neg (Ne.symm here), if_neg here]

theorem complete_runs {p : Tree → Prop} (placed : Placed s s₁ owner start stop c) (inner : Builds s₁ ts s₂ p)
    (nonempty : ts ≠ []) (c' : Construct) : Runs (complete s.tree.nodes.size c') s₂ fun _ s' =>
      Builds s ts s' fun later => later.Draws owner s.tree.nodes.size c' ∧ p later := by
  obtain ⟨last, lastStop⟩ := Option.isSome_iff_exists.mp (inner.lastStop (.inl nonempty))
  have redrawn := node?_redrawn (placed.after inner.toTook) c' last
  unfold complete finish become endAt modifyTree
  refine .modify_bind (.get_bind ?_)
  simp only [lastStop]
  exact ⟨(), _, rfl, placed.close inner rfl rfl lastStop.symm rfl (Array.size_modify.trans Array.size_modify)
    ⟨start, last, (redrawn _).trans (if_pos rfl)⟩ fun i other => (redrawn i).trans (if_neg other)⟩

end

end Reader
end DesignLint
