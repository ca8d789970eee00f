import DesignLint.Inference.Facts
import DesignLint.Proofs.Parse.Outcome
import DesignLint.Proofs.Text.Decoding
import Mathlib.Data.List.Forall2
import Mathlib.Data.List.Perm.Basic

/-! Association by position and by name. The port of an association is the one at its position, or the first one that has
the name of its formal. Where the names of the ports tell them apart, an association may name its port instead of standing
in its place, and the associations that name their ports may stand in any order. -/
namespace DesignLint

/-- Two associations with the same actual. `shown` and `shown'` say what is compared of the nodes of the two trees. -/
structure Mapping.SameActual {α : Type} (shown shown' : NodeId → α) (m m' : Mapping) : Prop where
  ifInput : m'.ifInput.map shown' = m.ifInput.map shown
  ifOutputReads : m'.ifOutputReads.map shown' = m.ifOutputReads.map shown
  ifOutputWrites : m'.ifOutputWrites.map shown' = m.ifOutputWrites.map shown

instance {α : Type} [DecidableEq α] (shown shown' : NodeId → α) (m m' : Mapping) :
    Decidable (m.SameActual shown shown' m') :=
  decidable_of_iff (m'.ifInput.map shown' = m.ifInput.map shown ∧
      m'.ifOutputReads.map shown' = m.ifOutputReads.map shown ∧ m'.ifOutputWrites.map shown' = m.ifOutputWrites.map shown)
    ⟨fun ⟨inputs, reads, writes⟩ => ⟨inputs, reads, writes⟩, fun same => ⟨same.1, same.2, same.3⟩⟩

namespace Mapping.SameActual

variable {α : Type} {shown shown' : NodeId → α} {m m' : Mapping}

theorem readsFor (same : SameActual shown shown' m m') (mode : Option Direction) :
    (m'.readsFor mode).map shown' = (m.readsFor mode).map shown := by
  rcases mode with _ | _ | _ | _ | _
  · exact same.ifInput
  · exact same.ifInput
  · exact same.ifOutputReads
  · exact same.ifInput
  · rfl

theorem writesFor (same : SameActual shown shown' m m') (mode : Option Direction) :
    (m'.writesFor mode).map shown' = (m.writesFor mode).map shown := by
  cases mode with
  | none => rfl
  | some mode =>
    rw [Mapping.writesFor, Mapping.writesFor]
    split
    · exact same.ifOutputWrites
    · rfl

end Mapping.SameActual

/-- Only the empty name is the same as the empty name. -/
theorem ne_nil_of_sameName {a b : Bytes} (same : sameName a b = true) (filled : b ≠ []) : a ≠ [] := by
  rintro rfl
  obtain ⟨c, rest, rfl⟩ := List.exists_cons_of_ne_nil filled
  simp [sameName, Bytes.folded, Bytes.chars, Bytes.units] at same

/-- Names that are the same are the same as the same names. -/
theorem sameName_congr {a b : Bytes} (same : sameName a b = true) (c : Bytes) : sameName c a = sameName c b := by
  rw [sameName, beq_iff_eq] at same
  rw [sameName, sameName, same]

namespace Tree

/-- What the associations of a port map contribute, each by the direction of its port. -/
def portUses (t : Tree) (use : Mapping → Option Direction → List NodeId) (unit : UnitPorts) (mappings : List Mapping) :
    List NodeId :=
  mappings.zipIdx.flatMap fun (m, position) => use m (t.formalDirection? unit m position)

variable {t t' : Tree} {unit : UnitPorts} {ports : List (Bytes × Direction)} {m m' : Mapping}

theorem instanceReads_eq_portUses (i : Instantiation) : t.instanceReads i unit =
    (t.mappingsOf i.genericMap).flatMap Mapping.ifInput ++ t.portUses Mapping.readsFor unit (t.mappingsOf i.portMap) := rfl

theorem instanceWrites_eq_portUses (i : Instantiation) :
    t.instanceWrites i unit = t.portUses Mapping.writesFor unit (t.mappingsOf i.portMap) := rfl

theorem formalDirection?_positional (positional : m.formal = []) (position : Nat) :
    t.formalDirection? (some ports) m position = (ports[position]?).map Prod.snd := by
  simp [formalDirection?, formalName, positional]

/-- The direction of the port that has a name. -/
def namedDirection? (ports : List (Bytes × Direction)) (name : Bytes) : Option Direction :=
  (ports.find? fun port => sameName port.1 name).map Prod.snd

theorem formalDirection?_of_formal (formal : t.formalName m ≠ []) (position : Nat) :
    t.formalDirection? (some ports) m position = namedDirection? ports (t.formalName m) := by
  simp only [formalDirection?, Option.bind_eq_bind, Option.bind_some]
  generalize t.formalName m = name at formal
  cases name with
  | nil => contradiction
  | cons b rest => rfl

theorem namedDirection?_congr {a b : Bytes} (same : sameName a b = true) :
    namedDirection? ports a = namedDirection? ports b := by
  simp only [namedDirection?, sameName_congr same]

/-- Where the names tell the ports apart, a port is found by any spelling of its name. -/
theorem namedDirection?_of_mem (distinct : ports.Pairwise fun a b => ¬sameName a.1 b.1 = true) {port : Bytes × Direction}
    (mem : port ∈ ports) {name : Bytes} (same : sameName name port.1 = true) :
    namedDirection? ports name = some port.2 := by
  induction ports with
  | nil => contradiction
  | cons first rest ih =>
    obtain ⟨apart, distinct⟩ := List.pairwise_cons.mp distinct
    rw [namedDirection?, List.find?_cons]
    rcases List.mem_cons.mp mem with rfl | later
    · rw [sameName_symm same]
      rfl
    · cases found : sameName first.1 name with
      | true => exact absurd (sameName_trans found same) (apart port later)
      | false => exact ih distinct later

/-- Positional associations take the ports in their order. -/
theorem portUses_positional (use : Mapping → Option Direction → List NodeId) {ms : List Mapping}
    (positional : ∀ m ∈ ms, m.formal = []) (fits : ms.length ≤ ports.length) :
    t.portUses use (some ports) ms = (ms.zip ports).flatMap fun p => use p.1 (some p.2.2) := by
  suffices general : ∀ passed, passed + ms.length ≤ ports.length →
      ((ms.zipIdx passed).flatMap fun p => use p.1 (t.formalDirection? (some ports) p.1 p.2)) =
        (ms.zip (ports.drop passed)).flatMap fun p => use p.1 (some p.2.2) from
    general 0 (by rwa [Nat.zero_add])
  clear fits
  induction ms with
  | nil => intro _ _; rfl
  | cons m ms ih =>
    intro passed fits
    rw [List.length_cons] at fits
    have inside : passed < ports.length := by omega
    have first : t.formalDirection? (some ports) m passed = (ports[passed]?).map Prod.snd :=
      formalDirection?_positional (positional m List.mem_cons_self) passed
    rw [List.drop_eq_getElem_cons inside, List.zipIdx_cons, List.zip_cons_cons, List.flatMap_cons, List.flatMap_cons,
      ih (fun m' mem => positional m' (List.mem_cons_of_mem _ mem)) (passed + 1) (by omega), first,
      List.getElem?_eq_getElem inside, Option.map_some]

/-- Where associations that name their ports stand does not matter. -/
theorem portUses_named (use : Mapping → Option Direction → List NodeId) {ms : List Mapping}
    (formal : ∀ m ∈ ms, t.formalName m ≠ []) :
    t.portUses use (some ports) ms = ms.flatMap fun m => use m (namedDirection? ports (t.formalName m)) := by
  have each : ∀ p ∈ ms.zipIdx, use p.1 (t.formalDirection? (some ports) p.1 p.2) =
      use p.1 (namedDirection? ports (t.formalName p.1)) := by
    intro p mem
    rw [formalDirection?_of_formal (formal p.1 (List.fst_mem_of_mem_zipIdx mem))]
  calc t.portUses use (some ports) ms
      = ms.zipIdx.flatMap fun p => use p.1 (namedDirection? ports (t.formalName p.1)) := List.flatMap_congr each
    _ = (ms.zipIdx.map Prod.fst).flatMap fun m => use m (namedDirection? ports (t.formalName m)) := by
        rw [List.flatMap_map]
    _ = _ := by rw [List.zipIdx_map_fst]

end Tree

section Agreement

variable {α : Type} {shown shown' : NodeId → α} {t t' : Tree} {ports : List (Bytes × Direction)}
  {use : Mapping → Option Direction → List NodeId}

theorem map_flatMap_of_forall₂ {β γ : Type} {R : β → γ → Prop} {f : β → List NodeId} {g : γ → List NodeId} {xs : List β}
    {ys : List γ} (related : List.Forall₂ R xs ys)
    (each : ∀ x ∈ xs, ∀ y, R x y → (g y).map shown' = (f x).map shown) :
    (ys.flatMap g).map shown' = (xs.flatMap f).map shown := by
  induction related with
  | nil => rfl
  | cons head _ ih =>
    rw [List.flatMap_cons, List.flatMap_cons, List.map_append, List.map_append, each _ List.mem_cons_self _ head,
      ih fun x mem => each x (List.mem_cons_of_mem _ mem)]

/-- What an association contributes follows from its actual and the direction of its port. -/
def Mapping.Follows (shown shown' : NodeId → α) (use : Mapping → Option Direction → List NodeId) : Prop :=
  ∀ m m' mode, Mapping.SameActual shown shown' m m' → (use m' mode).map shown' = (use m mode).map shown

/-- `m` has the actual of an association and names the port that stands beside it. -/
def Tree.Names (shown shown' : NodeId → α) (t' : Tree) (p : Mapping × Bytes × Direction) (m : Mapping) : Prop :=
  p.1.SameActual shown shown' m ∧ sameName (t'.formalName m) p.2.1 = true

/-- Two associations with the same actual and with the same name of the formal. -/
def Tree.SameFormal (shown shown' : NodeId → α) (t t' : Tree) (m m' : Mapping) : Prop :=
  m.SameActual shown shown' m' ∧ sameName (t'.formalName m') (t.formalName m) = true

instance [DecidableEq α] (p : Mapping × Bytes × Direction) (m : Mapping) : Decidable (t'.Names shown shown' p m) :=
  inferInstanceAs (Decidable (_ ∧ _))

instance [DecidableEq α] (m m' : Mapping) : Decidable (t.SameFormal shown shown' t' m m') :=
  inferInstanceAs (Decidable (_ ∧ _))

/-- Associations that name the ports contribute, in any order, what the positional ones contribute. -/
theorem Tree.portUses_perm (follows : Mapping.Follows shown shown' use) (filled : ∀ port ∈ ports, port.1 ≠ [])
    (distinct : ports.Pairwise fun a b => ¬sameName a.1 b.1 = true) {ms named ms' : List Mapping}
    (positional : ∀ m ∈ ms, m.formal = []) (fits : ms.length ≤ ports.length)
    (replaced : List.Forall₂ (t'.Names shown shown') (ms.zip ports) named) (permuted : ms'.Perm named) :
    ((t'.portUses use (some ports) ms').map shown').Perm ((t.portUses use (some ports) ms).map shown) := by
  have known : ∀ p ∈ ms.zip ports, p.2.1 ≠ [] := fun p among => filled p.2 (List.of_mem_zip among).2
  have formals : List.Forall₂ (fun m _ => t'.formalName m ≠ [] ∧ True) named (ms.zip ports) :=
    ((List.forall₂_and_left _ _).mpr ⟨known, replaced⟩).flip.imp fun _ _ both =>
      ⟨ne_nil_of_sameName both.2.2 both.1, trivial⟩
  have formal : ∀ m ∈ ms', t'.formalName m ≠ [] := fun m mem =>
    ((List.forall₂_and_left _ _).mp formals).1 m (permuted.mem_iff.mp mem)
  have each : ∀ p ∈ ms.zip ports, ∀ m, t'.Names shown shown' p m →
      (use m (namedDirection? ports (t'.formalName m))).map shown' = (use p.1 (some p.2.2)).map shown := by
    rintro p among m ⟨actual, same⟩
    rw [namedDirection?_of_mem distinct (List.of_mem_zip among).2 same]
    exact follows p.1 m _ actual
  rw [portUses_positional use positional fits, portUses_named use formal, ← map_flatMap_of_forall₂ replaced each]
  exact (permuted.flatMap_right _).map shown'

theorem Tree.formalDirection?_congr {m m' : Mapping} (same : sameName (t'.formalName m') (t.formalName m) = true)
    (unit : UnitPorts) (position : Nat) : t'.formalDirection? unit m' position = t.formalDirection? unit m position := by
  cases unit with
  | none => rfl
  | some ports =>
    by_cases formal : t.formalName m = []
    · have formal' : t'.formalName m' = [] := by
        by_contra named
        exact ne_nil_of_sameName (sameName_symm same) named formal
      simp only [formalDirection?, formal, formal']
    · rw [formalDirection?_of_formal formal, formalDirection?_of_formal (ne_nil_of_sameName same formal),
        namedDirection?_congr same]

/-- The letter case of the formals changes nothing, whatever the unit is. -/
theorem Tree.portUses_congr (follows : Mapping.Follows shown shown' use) (unit : UnitPorts) {ms ms' : List Mapping}
    (recased : List.Forall₂ (t.SameFormal shown shown' t') ms ms') :
    (t'.portUses use unit ms').map shown' = (t.portUses use unit ms).map shown := by
  suffices general : ∀ passed, List.Forall₂ (fun p p' => t.SameFormal shown shown' t' p.1 p'.1 ∧ p'.2 = p.2)
      (ms.zipIdx passed) (ms'.zipIdx passed) by
    apply map_flatMap_of_forall₂ (general 0)
    rintro ⟨m, _⟩ _ ⟨m', position⟩ ⟨⟨actual, same⟩, rfl⟩
    change (use m' (t'.formalDirection? unit m' position)).map shown' = _
    rw [formalDirection?_congr same]
    exact follows m m' _ actual
  induction recased with
  | nil => exact fun _ => .nil
  | cons head _ ih => exact fun passed => .cons ⟨head, rfl⟩ (ih (passed + 1))

end Agreement

/-- Positional and named association agree. Of a unit whose ports have names that tell them apart, the positional
associations of a port map may be replaced by ones that name the ports, in any order: what the instantiation reads and
drives stays the same up to order. And whatever the unit is, how the names of the formals are spelled changes nothing. -/
theorem Tree.association_agrees {α : Type} {shown shown' : NodeId → α} {t t' : Tree} {i i' : Instantiation}
    (generics : List.Forall₂ (Mapping.SameActual shown shown') (t.mappingsOf i.genericMap) (t'.mappingsOf i'.genericMap)) :
    (∀ (ports : List (Bytes × Direction)) (named : List Mapping), (∀ port ∈ ports, port.1 ≠ []) →
      (ports.Pairwise fun a b => ¬sameName a.1 b.1 = true) → (∀ m ∈ t.mappingsOf i.portMap, m.formal = []) →
      (t.mappingsOf i.portMap).length ≤ ports.length →
      List.Forall₂ (t'.Names shown shown') ((t.mappingsOf i.portMap).zip ports) named →
      (t'.mappingsOf i'.portMap).Perm named →
      ((t'.instanceReads i' (some ports)).map shown').Perm ((t.instanceReads i (some ports)).map shown) ∧
        ((t'.instanceWrites i' (some ports)).map shown').Perm ((t.instanceWrites i (some ports)).map shown)) ∧
    (List.Forall₂ (t.SameFormal shown shown' t') (t.mappingsOf i.portMap) (t'.mappingsOf i'.portMap) →
      ∀ unit, (t'.instanceReads i' unit).map shown' = (t.instanceReads i unit).map shown ∧
        (t'.instanceWrites i' unit).map shown' = (t.instanceWrites i unit).map shown) := by
  have reads : Mapping.Follows shown shown' Mapping.readsFor := fun _ _ mode actual => actual.readsFor mode
  have writes : Mapping.Follows shown shown' Mapping.writesFor := fun _ _ mode actual => actual.writesFor mode
  have inputs : ((t'.mappingsOf i'.genericMap).flatMap Mapping.ifInput).map shown' =
      ((t.mappingsOf i.genericMap).flatMap Mapping.ifInput).map shown :=
    map_flatMap_of_forall₂ generics fun _ _ _ actual => actual.ifInput
  constructor
  · intro ports named filled distinct positional fits replaced permuted
    constructor
    · rw [instanceReads_eq_portUses, instanceReads_eq_portUses, List.map_append, List.map_append, inputs]
      exact (portUses_perm reads filled distinct positional fits replaced permuted).append_left _
    · exact portUses_perm writes filled distinct positional fits replaced permuted
  · intro recased unit
    constructor
    · rw [instanceReads_eq_portUses, instanceReads_eq_portUses, List.map_append, List.map_append, inputs,
        portUses_congr reads unit recased]
    · exact portUses_congr writes unit recased

/-- An instantiation of a text. -/
def instantiationOf (text : Bytes) (id : NodeId) : Option (Tree × Instantiation) := do
  let t ← (Tree.parse "design.vhd" text).toOption
  let i ← t.get? Construct.instantiation? id
  return (t, i)

/-- A counter whose port map is `associations`. -/
def counterWith (associations : String) : Bytes :=
  Bytes.ofString ("architecture a of e is\nbegin\nu: counter port map (" ++ associations ++ ");\nend;\n")

theorem counterWith_ofList (associations : List Char) : counterWith (String.ofList associations) =
    Bytes.ofString "architecture a of e is\nbegin\nu: counter port map (" ++ Bytes.ofChars associations ++
      Bytes.ofString ");\nend;\n" := by
  rw [counterWith, Bytes.ofString_append, Bytes.ofString_append, Bytes.ofString_ofList associations]

/-- A node as a read, and as a write. -/
def Tree.use? (t : Tree) (id : NodeId) : Option (Bytes × Bool) × Option Bytes :=
  (t.get? Construct.read? id, t.get? Construct.write? id)

/-- The ports of the counter. -/
def counterPorts : List (Bytes × Direction) := [(Bytes.ofString "enable", .input), (Bytes.ofString "count", .output)]

/-- The counter connected by position, by name in the other order, and with other letter case. -/
theorem counter_association_agrees : ∃ t i t' i' t'' i'',
    instantiationOf (counterWith "go, n(k)") 2 = some (t, i) ∧
      instantiationOf (counterWith "Count => n(k), enable => go") 2 = some (t', i') ∧
      instantiationOf (counterWith "count => n(k), ENABLE => go") 2 = some (t'', i'') ∧
      ((t'.instanceReads i' counterPorts).map t'.use?).Perm ((t.instanceReads i counterPorts).map t.use?) ∧
      ((t'.instanceWrites i' counterPorts).map t'.use?).Perm ((t.instanceWrites i counterPorts).map t.use?) ∧
      (t''.instanceReads i'' counterPorts).map t''.use? = (t'.instanceReads i' counterPorts).map t'.use? ∧
      (t.instanceReads i counterPorts).map t.use? =
        [(some (Bytes.ofString "go", false), none), (some (Bytes.ofString "k", false), none)] ∧
      (t.instanceWrites i counterPorts).map t.use? = [(none, some (Bytes.ofString "n"))] := by
  have found : (instantiationOf (counterWith "go, n(k)") 2).any (fun (t, i) =>
      (instantiationOf (counterWith "Count => n(k), enable => go") 2).any fun (t', i') =>
      (instantiationOf (counterWith "count => n(k), ENABLE => go") 2).any fun (t'', i'') =>
      decide (i.genericMap = none ∧ i'.genericMap = none ∧ i''.genericMap = none ∧
      (∀ m ∈ t.mappingsOf i.portMap, m.formal = []) ∧ (t.mappingsOf i.portMap).length ≤ counterPorts.length) &&
      decide (List.Forall₂ (t'.Names t.use? t'.use?) ((t.mappingsOf i.portMap).zip counterPorts)
        (t'.mappingsOf i'.portMap).reverse) &&
      decide (List.Forall₂ (t'.SameFormal t'.use? t''.use? t'') (t'.mappingsOf i'.portMap)
        (t''.mappingsOf i''.portMap)) &&
      decide ((t.instanceReads i counterPorts).map t.use? =
        [(some (Bytes.ofString "go", false), none), (some (Bytes.ofString "k", false), none)] ∧
      (t.instanceWrites i counterPorts).map t.use? = [(none, some (Bytes.ofString "n"))])) = true := by
    rw [counterWith_ofList, counterWith_ofList, counterWith_ofList, Bytes.ofString_ofList, Bytes.ofString_ofList]
    decide +kernel
  obtain ⟨⟨t, i⟩, positional, found⟩ := (Option.any_eq_true _ _).mp found
  obtain ⟨⟨t', i'⟩, named, found⟩ := (Option.any_eq_true _ _).mp found
  obtain ⟨⟨t'', i''⟩, recased, found⟩ := (Option.any_eq_true _ _).mp found
  simp only [Bool.and_eq_true, decide_eq_true_eq] at found
  obtain ⟨⟨⟨⟨generics, generics', generics'', formals, fits⟩, replaced⟩, respelled⟩, reads, writes⟩ := found
  have agrees := (Tree.association_agrees (show List.Forall₂ (Mapping.SameActual t.use? t'.use?) _ _ by
    rw [generics, generics']; exact .nil)).1 counterPorts _ (by decide) (by decide +kernel) formals fits replaced
      (List.reverse_perm _).symm
  have recases := (Tree.association_agrees (show List.Forall₂ (Mapping.SameActual t'.use? t''.use?) _ _ by
    rw [generics', generics'']; exact .nil)).2 respelled (some counterPorts)
  exact ⟨t, i, t', i', t'', i'', positional, named, recased, agrees.1, agrees.2, recases.1, reads, writes⟩

end DesignLint
