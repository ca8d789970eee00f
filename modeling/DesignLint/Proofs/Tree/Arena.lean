import DesignLint.Tree.Fields
import DesignLint.Proofs.Tree.Growth

/-! Trees as arenas. Nodes are added at the end, below older ones and with a range in the text, and setting a field
moves nothing; what the two leave alone is the place of a node, its parent and its range. -/
namespace DesignLint

/-- The parent and the range of a node. -/
def Node.site (node : Node) : Option NodeId × Nat × Nat := (node.parent, node.start, node.stop)

namespace Tree

/-- The same nodes at the same places; only what they hold may differ. -/
structure Refilled (t t' : Tree) : Prop where
  text_eq : t'.text = t.text
  size_eq : t'.nodes.size = t.nodes.size
  site_eq : ∀ i : Nat, (t'.node? i).map Node.site = (t.node? i).map Node.site
  file : t.construct? 0 = some .file → t'.construct? 0 = some .file

/-- An arena: node zero is the file and the only node without a parent, parents come before their children, and
every range lies in the text. -/
structure Arena (t : Tree) (text : Bytes) : Prop where
  text_eq : t.text = text
  rooted : t.Rooted
  file : t.construct? 0 = some .file
  inText : ∀ (id : Nat) (node : Node), t.node? id = some node → node.start ≤ node.stop ∧ node.stop ≤ text.length

variable {t t₁ t₂ : Tree} {text : Bytes} {id : Nat}

namespace Refilled

theorem refl (t : Tree) : t.Refilled t := ⟨rfl, rfl, fun _ => rfl, fun file => file⟩

theorem trans (first : t.Refilled t₁) (next : t₁.Refilled t₂) : t.Refilled t₂ where
  text_eq := next.text_eq.trans first.text_eq
  size_eq := next.size_eq.trans first.size_eq
  site_eq i := (next.site_eq i).trans (first.site_eq i)
  file known := next.file (first.file known)

theorem parent?_eq (r : t.Refilled t₁) (i : Nat) : t₁.parent? i = t.parent? i := by
  have same := r.site_eq i
  rw [parent?, parent?]
  cases known : t.node? i <;> cases known₁ : t₁.node? i <;> simp [known, known₁, Node.site] at same ⊢
  exact same.1

theorem arena (r : t.Refilled t₁) (arena : t.Arena text) : t₁.Arena text where
  text_eq := r.text_eq.trans arena.text_eq
  rooted :=
    { nonempty := r.size_eq ▸ arena.rooted.nonempty
      file := by rw [r.parent?_eq, arena.rooted.file]
      parent_lt := by
        intro i positive lt
        rw [r.parent?_eq]
        exact arena.rooted.parent_lt i positive (r.size_eq ▸ lt) }
  file := r.file arena.file
  inText := by
    intro i node known
    have same := r.site_eq i
    rw [known] at same
    obtain ⟨old, found, site⟩ := Option.map_eq_some_iff.mp same.symm
    simp only [Node.site, Prod.mk.injEq] at site
    obtain ⟨-, start, stop⟩ := site
    rw [← start, ← stop]
    exact arena.inText i old found

end Refilled

theorem refilled_of_nodes_eq (text_eq : t₁.text = t.text) (nodes_eq : t₁.nodes = t.nodes) : t.Refilled t₁ := by
  have node? (i : Nat) : t₁.node? i = t.node? i := by rw [Tree.node?, nodes_eq, Tree.node?]
  constructor
  · exact text_eq
  · rw [nodes_eq]
  · intro i
    rw [node?]
  · intro file
    rw [Tree.construct?, node?]
    exact file

theorem putFileField?_refills {name : String} {value : FieldValue} (put : t.putFileField? name value = some t₁) :
    t.Refilled t₁ := by
  unfold putFileField? at put
  split at put
  all_goals first
    | contradiction
    | (cases put; exact refilled_of_nodes_eq rfl rfl)

/-- Setting a field moves no node. The file has no fields among the nodes, so node zero stays the file. -/
theorem putField?_refills {name : String} {value : FieldValue} (put : t.putField? id name value = some t₁) :
    t.Refilled t₁ := by
  unfold putField? at put
  split at put
  · exact putFileField?_refills put
  · rename_i c notFile known
    obtain ⟨c', _, rfl⟩ := Option.map_eq_some_iff.mp put
    have site (i : Nat) : ((t.update id fun _ => c').node? i).map Node.site = (t.node? i).map Node.site := by
      rw [update, node?_modify]
      split
      · rw [Option.map_map]
        rfl
      · rfl
    have file (file : t.construct? 0 = some .file) : (t.update id fun _ => c').construct? 0 = some .file := by
      have other : id ≠ 0 := by
        rintro rfl
        rw [known] at file
        exact notFile (Option.some.inj file)
      rw [construct?, update, node?_modify, if_neg other]
      exact file
    exact ⟨rfl, by simp [update, modify], site, file⟩
  · contradiction

theorem arena_ofText (path : String) (text : Bytes) : (ofText path text).Arena text where
  text_eq := rfl
  rooted :=
    { nonempty := Nat.one_pos
      file := rfl
      parent_lt := by
        intro id positive lt
        exact absurd lt (by simp [ofText]; omega) }
  file := rfl
  inText := by
    intro id node known
    obtain ⟨lt, rfl⟩ := Array.getElem?_eq_some_iff.mp known
    obtain rfl : id = 0 := Nat.lt_one_iff.mp lt
    exact ⟨Nat.zero_le _, Nat.le_refl _⟩

theorem place_cases (t : Tree) (parent : Nat) (start stop : Int) (c : Construct) :
    (∃ first last : Nat, start = first ∧ stop = last ∧ first ≤ last ∧ last ≤ t.text.length ∧
        t.place parent start stop c =
          .ok ({ t with nodes := t.nodes.push ⟨some parent, first, last, c⟩ }, t.nodes.size)) ∨
      (¬(0 ≤ start ∧ start ≤ stop ∧ stop ≤ t.text.length) ∧
        ∃ fault, t.place parent start stop c = .error (.range fault)) := by
  unfold place checkRange
  by_cases inside : 0 ≤ start ∧ start ≤ stop ∧ stop ≤ t.text.length
  · obtain ⟨positive, ordered, inText⟩ := inside
    obtain ⟨first, rfl⟩ := Int.eq_ofNat_of_zero_le positive
    obtain ⟨last, rfl⟩ := Int.eq_ofNat_of_zero_le (Int.le_trans positive ordered)
    rw [if_neg (by simp; omega)]
    exact .inl ⟨first, last, rfl, rfl, by omega, by omega, rfl⟩
  · rw [if_pos (by simp; omega)]
    exact .inr ⟨inside, _, rfl⟩

/-- A new node with an older parent and a range in the text keeps the arena. -/
theorem Arena.push (arena : t.Arena text) {parent first last : Nat} {c : Construct}
    (known : parent < t.nodes.size) (ordered : first ≤ last) (inText : last ≤ t.text.length) :
    ({ t with nodes := t.nodes.push ⟨some parent, first, last, c⟩ } : Tree).Arena text := by
  have node? (i : Nat) : ({ t with nodes := t.nodes.push ⟨some parent, first, last, c⟩ } : Tree).node? i =
      if i = t.nodes.size then some ⟨some parent, first, last, c⟩ else t.node? i := node?_push i
  have old (i : Nat) (lt : i < t.nodes.size) := (node? i).trans (if_neg (Nat.ne_of_lt lt))
  have newest := (node? t.nodes.size).trans (if_pos rfl)
  refine ⟨arena.text_eq, ⟨?_, ?_, ?_⟩, ?_, ?_⟩
  · simp
  · rw [parent?, old 0 arena.rooted.nonempty]
    exact arena.rooted.file
  · intro i positive lt
    by_cases new : i = t.nodes.size
    · subst new
      exact ⟨parent, by rw [parent?, newest]; rfl, known⟩
    · simp only [Array.size_push] at lt
      rw [parent?, old i (by omega)]
      exact arena.rooted.parent_lt i positive (by omega)
  · rw [construct?, old 0 arena.rooted.nonempty]
    exact arena.file
  · intro i node found
    rw [node?] at found
    split at found
    · cases found
      exact ⟨ordered, arena.text_eq ▸ inText⟩
    · exact arena.inText i node found

end Tree
end DesignLint
