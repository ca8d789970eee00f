import DesignLint.Proofs.Parse.Outcome
import DesignLint.Proofs.Tree.Export

/-! The structure of the tree of a text. Fields and parents are set apart from each other while a text is read, and
they agree in the end; what is left out of the fields is what processes have no field for, and the export of the tree
keeps its contract. -/
namespace DesignLint.Tree

variable {path : String} {text : Bytes} {t : Tree}

theorem arranged_of_parse (parsed : parse path text = .ok t) : t.Arranged := by
  obtain ⟨formed, _⟩ := wellFormed_of_parse parsed
  obtain ⟨tokens, s, _, rfl, units⟩ := units_of_parse parsed
  obtain ⟨parts, grows, entered⟩ := units.grows
  obtain ⟨more, listed, isUse, placed⟩ := units.uses
  have mem_more (id : Nat) : id ∈ more ↔ s.tree.role? id = some .use := by
    rw [isUse]
    refine and_iff_right_of_imp fun plays => Nat.pos_of_ne_zero ?_
    rintro rfl
    rw [formed.file] at plays
    contradiction
  refine { formed with
    units := fun part => ?_
    uses := fun id => by rw [listed, show (Tree.ofText path text).uses ++ more = more from List.nil_append _, mem_more]
    useParent := fun id plays => placed id ((mem_more id).mpr plays)
    shares := grows.shares }
  rw [entered, unitParts_ofText, or_iff_right List.not_mem_nil, and_congr_left_iff]
  intro _
  obtain ⟨role, id⟩ := part
  rw [← grows.added_eq, mem_partsFrom, mem_partsOf]
  refine and_iff_right_of_imp fun child => ?_
  exact Nat.one_le_of_lt (formed.rooted.lt_of_parent? child.1)

/-- Only the initial value of a declaration of several objects is read out of turn. -/
theorem packed_of_parse (parsed : parse path text = .ok t) {id : Nat} (positive : 0 < id) (lt : id < t.nodes.size) :
    t.Packed id := by
  obtain ⟨_, s, _, rfl, units⟩ := units_of_parse parsed
  obtain ⟨_, grows, _⟩ := units.grows
  exact grows.packed id positive lt

/-- The structure does not depend on the library that a file is put into. -/
theorem Arranged.inLibrary (arranged : t.Arranged) (library : Bytes) : ({ t with library } : Tree).Arranged where
  rooted := { arranged.rooted with }
  shallow id lt := by
    have same : ({ t with library } : Tree).depth id = t.depth id := depth_congr fun _ _ => rfl
    exact same ▸ arranged.shallow id lt
  file := arranged.file
  drawn := arranged.drawn
  architecture := arranged.architecture
  units := arranged.units
  uses := arranged.uses
  useParent := arranged.useParent
  shares id positive lt c initial known declared := by
    obtain ⟨first, together, reads⟩ := arranged.shares id positive lt c initial known declared
    exact ⟨first, { together with }, reads⟩

/-- Fields agree with parents. What a node holds in a field stands below it, apart from the use clauses, which the file
holds, and the initial value of a declaration of several objects, which stands below the first of them. What no chain of
fields leads to from the file is the signals and components in the declarations of processes, with all that stands
below them. In whatever library, the export keeps the contract for trees, so that only a byte order mark in a text can
have it refused. -/
theorem parse_fields (parsed : parse path text = .ok t) :
    (∀ holder id : Nat, t.HeldBy holder id →
      (t.role? id = some .use ∧ holder = 0) ∨
        (t.role? id ≠ some .use ∧
          (t.parent? id = some holder ∨ ∃ first, t.SharesValue first holder id ∧ t.HeldBy first id))) ∧
    (∀ id : Nat, t.role? id = some .use → t.HeldBy 0 id) ∧
    (∀ id < t.nodes.size, ¬t.Attached id ↔ ∃ top, t.Dropped top ∧ t.AtOrBelow top id) ∧
    ∀ library ≠ [], ({ t with library } : Tree).toJson.Fits Contract.tree ∧
      Contract.check Contract.tree ({ t with library } : Tree).toJson =
        if ({ t with library } : Tree).toJson.holdsMark then .error .byteOrderMark else .ok () := by
  have arranged := arranged_of_parse parsed
  refine ⟨fun holder id held => ?_, fun id isUse => ?_, fun id lt => arranged.not_attached_iff lt,
    fun library filled => ?_⟩
  · refine (arranged.heldBy_cases held).imp_right (And.imp_right (Or.imp_right ?_))
    rintro ⟨first, shares⟩
    refine ⟨first, shares, arranged.heldBy_of_parent shares.parent ?_ ?_⟩
    · simp [arranged.role?_of_sharesValue shares]
    · rintro ⟨_, _, _, declared⟩
      simp [arranged.role?_of_sharesValue shares] at declared
  · exact (heldBy_file_iff arranged.file).mpr (.inl ((arranged.uses id).mpr isUse))
  · have fits := fits_toJson (arranged.inLibrary library) filled
    exact ⟨fits, fits.check⟩

/-- A process with a declaration of two signals, which share their initial value, and one of a component. -/
def signalsInProcess : Bytes := Bytes.ofString
  ("use lib.pkg.all;\narchitecture a of e is\nbegin\nprocess\nsignal s, u : t := k;\n" ++
    "component c port (p : in t);\nend component;\nbegin\nend process;\nend;\n")

/-- The signals are dropped, and their initial value, which stands below the first, is out of reach of the file. -/
theorem signalsInProcess_fields : ∃ t, parse "design.vhd" signalsInProcess = .ok t ∧ t.Dropped 4 ∧ t.Dropped 5 ∧
    t.HeldBy 5 6 ∧ t.SharesValue 4 5 6 ∧ ¬t.Attached 6 ∧ t.HeldBy 0 1 ∧
    ({ t with library := Bytes.ofString "work" } : Tree).toJson.Fits Contract.tree := by
  obtain ⟨t, parsed, found⟩ := exists_ok_of_any (show (parse "design.vhd" signalsInProcess).toOption.any (fun t =>
    t.parent? 4 = some 3 ∧ t.parent? 5 = some 3 ∧ t.role? 3 = some .process ∧ t.role? 4 = some .signal ∧
      t.role? 5 = some .signal ∧ t.role? 1 = some .use ∧ t.parent? 6 = some 4 ∧ t.role? 6 ≠ some .use ∧
      6 ∈ (t.fieldsOf 5).flatMap fun field => field.2.ids) = true by
      rw [signalsInProcess, Bytes.ofString_append, Bytes.ofString_ofList, Bytes.ofString_ofList]
      decide +kernel)
  obtain ⟨parent4, parent5, process, signal4, signal5, isUse, parent6, other, value⟩ := of_decide_eq_true found
  obtain ⟨holders, uses, apart, exported⟩ := parse_fields parsed
  have dropped : t.Dropped 4 := ⟨3, parent4, process, .inl signal4⟩
  have held : t.HeldBy 5 6 := List.mem_flatMap.mp value
  have shares : t.SharesValue 4 5 6 := by
    rcases holders 5 6 held with ⟨use, _⟩ | ⟨_, parent | ⟨first, shares, _⟩⟩
    · contradiction
    · rw [parent6] at parent
      contradiction
    · cases parent6.symm.trans shares.parent
      exact shares
  have below : ¬t.Attached 6 := (apart 6 (lt_size_of_parent? parent6)).mpr ⟨4, dropped, .inr (.child parent6)⟩
  exact ⟨t, parsed, dropped, ⟨3, parent5, process, .inl signal5⟩, held, shares, below, uses 1 isUse,
    (exported _ (by decide)).1⟩

end DesignLint.Tree
