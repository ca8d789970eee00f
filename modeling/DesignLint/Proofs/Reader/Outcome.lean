import DesignLint.Reader.Cursor
import DesignLint.Proofs.Token.Naming
import DesignLint.Proofs.Tree.Growth

/-! What the run of a reader can end in. A statement about a reader says what holds of its result and of the
state that it leaves, for every state that it may be started in; the faults it may end in are the same for
all readers. Sequences, choices and loops of readers have one rule each. -/
namespace DesignLint

/-- What is expected where a message complains about the token that was read last. -/
def lateWords : List String := ["enumeration literal", "subprogram name"]

/-- What a message about an offset complains about: the token there, the one before it, which has been read, or none. -/
inductive Complains (tokens : List Token) : Nat → Bytes → Prop where
  | here {t : Token} (what : String) (member : t ∈ tokens) : Complains tokens t.offset (t.unlike what)
  | late {what : String} {before after : List Token} {t next : Token} (known : what ∈ lateWords)
      (significant : t.kind ≠ .endOfText) (split : tokens = before ++ t :: next :: after) :
      Complains tokens next.offset (t.unlike what)
  | plain {t : Token} {message : Bytes} (member : t ∈ tokens) (plain : message.NamesNothing) :
      Complains tokens t.offset message

/-- The faults that the reading of a text may end in: a complaint about its tokens, or a parent that is too deep for another
node. -/
def ReadFault.Admissible (text : Bytes) : ReadFault → Prop
  | .unexpected offset message => ∃ tokens, tokenize text = .ok tokens ∧ Complains tokens offset message
  | .tree t (.tree (.longChain id)) => t.Rooted ∧ id < t.nodes.size ∧ maxDepth < t.depth id
  | _ => False

theorem Complains.offset_le {text : Bytes} {tokens : List Token} {offset : Nat} {message : Bytes}
    (complains : Complains tokens offset message) (read : tokenize text = .ok tokens) : offset ≤ text.length := by
  have inside {t : Token} (member : t ∈ tokens) : t.offset ≤ text.length :=
    Nat.le_trans (Nat.le_add_right _ _) ((tokenize_tokensOf read).inside t member)
  cases complains with
  | here what member => exact inside member
  | late known significant split => exact inside (by simp [split])
  | plain member => exact inside member

/-- The number of tokens that are left to read. -/
def ReaderState.left (s : ReaderState) : Nat := s.rest.length

namespace Reader

/-- A reader started in `s` ends in a result and a state that `post` accepts, or in an admissible fault. -/
def Ends {α : Type} (text : Bytes) (x : Reader α) (s : ReaderState) (post : α → ReaderState → Prop) : Prop :=
  match x s with
  | .ok (a, s') => post a s'
  | .error fault => fault.Admissible text

variable {α β σ : Type} {text : Bytes} {s : ReaderState} {x y : Reader α} {post : α → ReaderState → Prop}

namespace Ends

theorem mono {weaker : α → ReaderState → Prop} (ends : Ends text x s post)
    (implies : ∀ a s', post a s' → weaker a s') : Ends text x s weaker := by
  unfold Ends at ends ⊢
  split at ends
  · exact implies _ _ ends
  · exact ends

theorem and {other : α → ReaderState → Prop} (ends : Ends text x s post) (also : Ends text x s other) :
    Ends text x s fun a s' => post a s' ∧ other a s' := by
  unfold Ends at ends also ⊢
  split at ends
  · rename_i a s' run
    rw [run] at also
    exact ⟨ends, also⟩
  · exact ends

theorem pure {a : α} (holds : post a s) : Ends text (Pure.pure a) s post := holds

theorem bind {f : α → Reader β} {final : β → ReaderState → Prop} (first : Ends text x s post)
    (next : ∀ a s', post a s' → Ends text (f a) s' final) : Ends text (x >>= f) s final := by
  unfold Ends at first
  change match (x s >>= fun p => f p.1 p.2) with
    | .ok (b, s') => final b s'
    | .error fault => fault.Admissible text
  split at first
  · rename_i a s' run
    rw [run]
    exact next a s' first
  · rename_i fault run
    rw [run]
    exact first

theorem get_bind {f : ReaderState → Reader α} (next : Ends text (f s) s post) :
    Ends text (get >>= f) s post := next

theorem modify_bind {change : ReaderState → ReaderState} {f : Unit → Reader α}
    (next : Ends text (f ()) (change s) post) : Ends text (modify change >>= f) s post := next

theorem discard {final : Unit → ReaderState → Prop} (ends : Ends text x s fun _ s' => final () s') :
    Ends text (Functor.discard x) s final := by
  change Ends text (x >>= fun _ => Pure.pure ()) s final
  exact ends.bind fun _ _ holds => holds

theorem discard_bind {f : Unit → Reader β} {final : β → ReaderState → Prop} (first : Ends text x s post)
    (next : ∀ a s', post a s' → Ends text (f ()) s' final) :
    Ends text (Functor.discard x >>= f) s final :=
  (discard (first.mono fun a s' holds => next a s' holds)).bind fun _ _ ends => ends

theorem ite {c : Bool} (yes : c = true → Ends text x s post) (no : c = false → Ends text y s post) :
    Ends text (if c = true then x else y) s post := by
  cases c with
  | false => exact no rfl
  | true => exact yes rfl

theorem split {p : Prop} [Decidable p] (yes : p → Ends text x s post) (no : ¬p → Ends text y s post) :
    Ends text (if p then x else y) s post := by
  by_cases holds : p
  · rw [if_pos holds]
    exact yes holds
  · rw [if_neg holds]
    exact no holds

/-- A loop keeps an invariant. Every turn that is followed by another has read on, so the loop is never
refused. -/
theorem loop {body : σ → Reader (Turn σ α)} {state : σ} (invariant : σ → ReaderState → Prop)
    (post : α → ReaderState → Prop)
    (turn : ∀ state s, invariant state s → Ends text (body state) s fun decision s' =>
      match decision with
      | .again state' => invariant state' s' ∧ s'.left < s.left
      | .done result => post result s')
    (start : invariant state s) : Ends text (Reader.loop body state) s post := by
  generalize size : s.left = n
  induction n using Nat.strongRecOn generalizing state s with
  | ind n ih =>
    have ends := turn state s start
    unfold Ends at ends ⊢
    rw [Reader.loop]
    split at ends
    · rename_i decision s' run
      simp only [run]
      cases decision with
      | again state' =>
        obtain ⟨kept, less⟩ := ends
        simp only
        rw [if_pos (show s'.rest.length < s.rest.length from less)]
        exact ih s'.left (by omega) kept rfl
      | done result => exact ends
    · rename_i fault run
      simp only [run]
      exact ends

/-- Readers run one after the other over a list keep an invariant on the results so far. -/
theorem mapM {f : σ → Reader α} {xs : List σ} (invariant : List α → ReaderState → Prop)
    (each : ∀ x ∈ xs, ∀ done s, invariant done s →
      Ends text (f x) s fun a s' => invariant (done ++ [a]) s')
    (start : invariant [] s) :
    Ends text (xs.mapM f) s fun as s' => invariant as s' ∧ as.length = xs.length := by
  have go : ∀ done s, invariant done s →
      Ends text (xs.mapM f) s fun as s' => invariant (done ++ as) s' ∧ as.length = xs.length := by
    clear start
    induction xs with
    | nil =>
      intro done s kept
      rw [List.mapM_nil]
      exact .pure ⟨by rwa [List.append_nil], rfl⟩
    | cons x xs ih =>
      intro done s kept
      rw [List.mapM_cons]
      refine (each x List.mem_cons_self done s kept).bind fun a s' kept => ?_
      refine (ih (fun x member => each x (List.mem_cons_of_mem _ member)) _ s' kept).bind ?_
      rintro as s'' ⟨kept, length⟩
      refine .pure ⟨?_, congrArg (· + 1) length⟩
      rwa [List.append_assoc] at kept
  exact go [] s start

end Ends
end Reader
end DesignLint
