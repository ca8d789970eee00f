import DesignLint.Reader.DesignUnit
import DesignLint.Proofs.Lockstep.Outline

/-! Two texts of one design read in lockstep. Tokens that stand for each other have the same kind and the same word;
readers that see such tokens build trees of the same outline, and stop at the same place for the same reason.
As with single runs, sequences, choices and loops have one rule each. -/
namespace DesignLint

/-- Two texts of one design at one path: what they have in common and which tokens stand for each other. -/
structure Pairing extends Likeness where
  path : String
  meets : Token → Token → Prop

/-- Two tokens that stand for each other. -/
structure Token.Twin (r : Pairing) (t u : Token) : Prop where
  meets : r.meets t u
  kind_eq : t.kind = u.kind
  name_eq : r.NameTwin t.text u.text
  word_eq : t.word = u.word
  offset_eq : r.place t.offset = r.place u.offset
  nonempty : t.isName → t.text ≠ []

/-- Two nodes that start at tokens that stand for each other; reads and writes span these tokens. -/
def Node.Beside (r : Pairing) (n n' : Node) : Prop :=
  ∃ t u, Token.Twin r t u ∧ n.start = t.offset ∧ n'.start = u.offset ∧
    (n.construct.isOccurrence → n.stop = t.stop ∧ n'.stop = u.stop)

/-- Two trees of one outline, whose nodes other than the file stand beside each other. -/
structure Tree.Twin (r : Pairing) (t t' : Tree) : Prop where
  path_eq : t.path = r.path
  outline : t.outline r.toLikeness = t'.outline r.toLikeness
  beside : ∀ (id : Nat) n n', t.node? id = some n → t'.node? id = some n' → n.parent.isSome → n.Beside r n'
  libraries : ∀ (id : Nat) c, t.construct? id = some c → c.NamesLibrary

/-- Two states in which the same is left to read. -/
structure ReaderState.Twin (r : Pairing) (s s' : ReaderState) : Prop where
  rest : List.Forall₂ (Token.Twin r) s.rest s'.rest
  lastStop : s.lastStop.map r.place = s'.lastStop.map r.place
  tree : s.tree.Twin r s'.tree
  libraryNames : s.libraryNames = s'.libraryNames

namespace ReadFault

/-- A fault that no file leads to, since its tokens lie inside its text. -/
def Spurious : ReadFault → Prop
  | outside | stalled | tree _ (.range _) => True
  | _ => False

/-- Two faults at one place for one reason, which quotes the text as it is spelt. -/
inductive Twin (r : Pairing) : ReadFault → ReadFault → Prop
  | unexpected {t u : Token} (twin : t.Twin r u) {message message' : Bytes}
    (reason : r.anyCase = false → message = message') :
    Twin r (.unexpected t.offset message) (.unexpected u.offset message')
  | tree (t t' : Tree) (fault : TreeFault) : Twin r (.tree t (.tree fault)) (.tree t' (.tree fault))

end ReadFault

namespace Reader

/-- Two runs that end alike: in results that `post` relates and states with the same left to read, or in faults at
one place. A run that ends in a spurious fault is not compared. -/
inductive Agree {α β : Type} (r : Pairing) (post : α → β → Prop) :
    Except ReadFault (α × ReaderState) → Except ReadFault (β × ReaderState) → Prop
  | ok {a : α} {b : β} {s s' : ReaderState} (related : post a b) (twin : s.Twin r s') :
    Agree r post (.ok (a, s)) (.ok (b, s'))
  | error {e e' : ReadFault} (twin : e.Twin r e') : Agree r post (.error e) (.error e')
  | left {e : ReadFault} (spurious : e.Spurious) (y : Except ReadFault (β × ReaderState)) : Agree r post (.error e) y
  | right (x : Except ReadFault (α × ReaderState)) {e : ReadFault} (spurious : e.Spurious) : Agree r post x (.error e)

/-- Two readers that end alike whenever the same is left to read. -/
def Alike {α β : Type} (r : Pairing) (post : α → β → Prop) (x : Reader α) (y : Reader β) : Prop :=
  ∀ s s', s.Twin r s' → Agree r post (x s) (y s')

/-- Two loops that decide alike. -/
inductive Turn.Twin {σ τ α β : Type} (invariant : σ → τ → Prop) (post : α → β → Prop) :
    Turn σ α → Turn τ β → Prop
  | again {a : σ} {b : τ} (kept : invariant a b) : Twin invariant post (.again a) (.again b)
  | done {a : α} {b : β} (related : post a b) : Twin invariant post (.done a) (.done b)

namespace Alike

variable {α β γ δ σ τ : Type} {r : Pairing} {post : α → β → Prop} {final : γ → δ → Prop}
  {x x' : Reader α} {y y' : Reader β}

theorem pure {a : α} {b : β} (related : post a b) : Alike r post (Pure.pure a) (Pure.pure b) :=
  fun _ _ twin => .ok related twin

theorem mono {weaker : α → β → Prop} (alike : Alike r post x y) (implies : ∀ a b, post a b → weaker a b) :
    Alike r weaker x y := by
  intro s s' twin
  have agree := alike s s' twin
  generalize x s = run, y s' = run' at agree ⊢
  cases agree with
  | ok related twin => exact .ok (implies _ _ related) twin
  | error twin => exact .error twin
  | left spurious => exact .left spurious _
  | right _ spurious => exact .right _ spurious

theorem bind {f : α → Reader γ} {g : β → Reader δ} (first : Alike r post x y)
    (next : ∀ a b, post a b → Alike r final (f a) (g b)) : Alike r final (x >>= f) (y >>= g) := by
  intro s s' twin
  have agree := first s s' twin
  change Agree r final (x s >>= fun p => f p.1 p.2) (y s' >>= fun p => g p.1 p.2)
  generalize x s = run, y s' = run' at agree ⊢
  cases agree with
  | ok related twin => exact next _ _ related _ _ twin
  | error twin => exact .error twin
  | left spurious => exact .left spurious _
  | right _ spurious => exact .right _ spurious

/-- The first readers give the same result. -/
theorem eq_bind {x y : Reader α} {f : α → Reader γ} {g : α → Reader δ} (first : Alike r Eq x y)
    (next : ∀ a, Alike r final (f a) (g a)) : Alike r final (x >>= f) (y >>= g) :=
  first.bind fun a _ same => same ▸ next a

theorem discard (alike : Alike r post x y) : Alike r Eq (Functor.discard x) (Functor.discard y) := by
  change Alike r Eq (x >>= fun _ => Pure.pure ()) (y >>= fun _ => Pure.pure ())
  exact alike.bind fun _ _ _ => .pure rfl

/-- The results of the first readers are not needed. -/
theorem discard_bind {f : Unit → Reader γ} {g : Unit → Reader δ} (first : Alike r post x y)
    (next : Alike r final (f ()) (g ())) :
    Alike r final (Functor.discard x >>= f) (Functor.discard y >>= g) :=
  first.discard.eq_bind fun _ => next

theorem ite {p q : Prop} [Decidable p] [Decidable q] (same : p ↔ q) (yes : Alike r post x y)
    (no : Alike r post x' y') : Alike r post (if p then x else x') (if q then y else y') := by
  by_cases holds : p
  · rw [if_pos holds, if_pos (same.mp holds)]
    exact yes
  · rw [if_neg holds, if_neg fun h => holds (same.mpr h)]
    exact no

/-- Both readers take the same branch, since they look at the same flag. -/
theorem cond {c : Bool} (yes : Alike r post x y) (no : Alike r post x' y') :
    Alike r post (if c = true then x else x') (if c = true then y else y') :=
  ite Iff.rfl yes no

theorem get : Alike r (ReaderState.Twin r) get get := fun _ _ twin => .ok twin twin

theorem set {s s' : ReaderState} (twin : s.Twin r s') : Alike r Eq (set s) (set s') := fun _ _ _ => .ok rfl twin

theorem modify {change change' : ReaderState → ReaderState}
    (kept : ∀ s s', s.Twin r s' → (change s).Twin r (change' s')) : Alike r Eq (modify change) (modify change') :=
  fun s s' twin => .ok rfl (kept s s' twin)

theorem throw {e e' : ReadFault} (twin : e.Twin r e') : Alike r post (throw e) (throw e') :=
  fun _ _ _ => .error twin

/-- Two loops run the same number of turns, since a turn reads as much on both sides. -/
theorem loop {body : σ → Reader (Turn σ α)} {body' : τ → Reader (Turn τ β)} (invariant : σ → τ → Prop)
    (turn : ∀ a b, invariant a b → Alike r (Turn.Twin invariant post) (body a) (body' b)) {a : σ} {b : τ}
    (start : invariant a b) : Alike r post (Reader.loop body a) (Reader.loop body' b) := by
  intro s s' twin
  generalize size : s.rest.length = n
  induction n using Nat.strongRecOn generalizing a b s s' with
  | ind n ih =>
    have agree := turn a b start s s' twin
    rw [Reader.loop, Reader.loop]
    generalize body a s = run, body' b s' = run' at agree
    cases agree with
    | @ok c d s₁ s₁' related after =>
      cases related with
      | done related => exact .ok related after
      | @again a' b' kept =>
        have lengths := twin.rest.length_eq
        have lengths' := after.rest.length_eq
        simp only [← lengths, ← lengths']
        split
        · exact ih _ (by omega) kept _ _ after rfl
        · exact .left (show ReadFault.stalled.Spurious from trivial) _
    | error twin => exact .error twin
    | left spurious => exact .left spurious _
    | right _ spurious => exact .right _ spurious

/-- A loop whose states and results are the same on both sides. -/
theorem eq_loop {body body' : σ → Reader (Turn σ α)} (turn : ∀ a, Alike r Eq (body a) (body' a)) (a : σ) :
    Alike r Eq (Reader.loop body a) (Reader.loop body' a) := by
  refine loop Eq (fun a b same => ?_) rfl
  subst same
  refine (turn a).mono fun decision _ same => ?_
  subst same
  cases decision with
  | again state => exact .again rfl
  | done result => exact .done rfl

theorem mapM {f : σ → Reader α} {g : τ → Reader β} {related : σ → τ → Prop}
    (each : ∀ a b, related a b → Alike r post (f a) (g b)) {xs : List σ} {ys : List τ}
    (lists : List.Forall₂ related xs ys) : Alike r (List.Forall₂ post) (xs.mapM f) (ys.mapM g) := by
  induction lists with
  | nil => exact .pure .nil
  | cons first others ih =>
    rw [List.mapM_cons, List.mapM_cons]
    refine (each _ _ first).bind fun _ _ head => ?_
    exact ih.bind fun _ _ tail => .pure (.cons head tail)

end Alike
end Reader
end DesignLint
