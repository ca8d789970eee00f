import Mathlib.Data.List.Nodup
import DesignLint.Proofs.Contract.Fits

/-! What values that keep a contract are like. What a member states firmly is stated by the whole record, even if two
names are composed alike; and a record of which nothing is required keeps its contract member by member. -/
namespace DesignLint

open Json

theorem lookup_filter_key {α : Type} {members : List (String × α)} (test : String → Bool) {name : String} {value : α}
    (passes : test name = true) (there : members.lookup name = some value) :
    (members.filter fun m => test m.1).lookup name = some value := by
  obtain ⟨before, after, rfl, none_⟩ := List.lookup_eq_some_iff.mp there
  rw [List.filter_append, List.filter_cons_of_pos (by exact passes)]
  refine List.lookup_eq_some_iff.mpr ⟨_, _, rfl, fun m member => none_ m (List.mem_filter.mp member).1⟩

namespace Term

/-- A property that is not lost when more is said. -/
def IsFirm (p : Term → Prop) : Prop :=
  ∀ term other both, p term → (term.meet? other = some both ∨ other.meet? term = some both) → p both

/-- Whether something with a property is said under a name. -/
def Tells (members : List (String × Term)) (name : String) (p : Term → Prop) : Prop :=
  ∃ term, members.lookup name = some term ∧ p term

theorem eq_of_ofKind? {kind : TermKind} {term both : Term} (met : term.ofKind? kind = some both) : both = term := by
  obtain ⟨_, _, same⟩ := Option.map_eq_some_iff.mp met
  exact same.symm

theorem meet?_text (s s' : String) : meet? (text s) (text s') = if s = s' then some (text s) else none := rfl

theorem isFirm_text (s : String) : IsFirm (· = text s) := by
  rintro _ other both rfl met
  cases other with
  | unstated => rcases met with met | met <;> exact (Option.some.inj met).symm
  | kind k => rcases met with met | met <;> exact eq_of_ofKind? met
  | text s' => rcases met with met | met <;> rw [meet?_text] at met <;> split at met <;> grind
  | _ => rcases met with met | met <;> cases met

theorem isFirm_null : IsFirm (· = null) := by
  rintro _ other both rfl met
  cases other with
  | unstated | null => rcases met with met | met <;> exact (Option.some.inj met).symm
  | kind k => rcases met with met | met <;> exact eq_of_ofKind? met
  | _ => rcases met with met | met <;> cases met

theorem lookup_meetMembers? {members others common : List (String × Term)} (met : meetMembers? members others = some common)
    (name : String) : match members.lookup name with
      | none => common.lookup name = none
      | some value => ∃ both, common.lookup name = some both ∧
          (others.lookup name).elim (both = value) fun other => value.meet? other = some both := by
  induction members generalizing common with
  | nil =>
    rw [meetMembers?] at met
    cases met
    rfl
  | cons m members ih =>
    obtain ⟨key, value⟩ := m
    obtain ⟨both, rest, first, later, rfl⟩ : ∃ both rest,
        (others.lookup key).elim (both = value) (fun other => value.meet? other = some both) ∧
          meetMembers? members others = some rest ∧ common = (key, both) :: rest := by
      rw [meetMembers?] at met
      cases found : others.lookup key with
      | none =>
        rw [found] at met
        obtain ⟨rest, later, met⟩ := Option.bind_eq_some_iff.mp (show (meetMembers? members others).bind _ = _ from met)
        exact ⟨value, rest, rfl, later, (Option.some.inj met).symm⟩
      | some other =>
        rw [found] at met
        obtain ⟨both, first, met⟩ := Option.bind_eq_some_iff.mp met
        obtain ⟨rest, later, met⟩ := Option.bind_eq_some_iff.mp met
        exact ⟨both, rest, first, later, (Option.some.inj met).symm⟩
    by_cases here : name = key
    · subst here
      simpa only [List.lookup_cons, beq_self_eq_true] using ⟨both, rfl, first⟩
    · have differs : (name == key) = false := by simpa using here
      simpa only [List.lookup_cons, differs] using ih later

theorem meet?_record (members others : List (String × Term)) : meet? (record members) (record others) =
    (meetMembers? members others).map fun common =>
      record (common ++ others.filter fun other => (members.lookup other.1).isNone) := rfl

/-- What a record says firmly under a name it goes on saying. -/
theorem isFirm_record (name : String) {p : Term → Prop} (firm : IsFirm p) :
    IsFirm fun term => ∃ members, term = record members ∧ Tells members name p := by
  rintro _ other both ⟨members, rfl, value, stated, holds⟩ (met | met)
  · cases other with
    | unstated => exact ⟨members, (Option.some.inj met).symm, value, stated, holds⟩
    | record others =>
      rw [meet?_record] at met
      obtain ⟨common, meets, rfl⟩ := Option.map_eq_some_iff.mp met
      have there := lookup_meetMembers? meets name
      rw [stated] at there
      obtain ⟨after, there, met⟩ := there
      refine ⟨_, rfl, after, by rw [List.lookup_append, there]; rfl, ?_⟩
      cases found : others.lookup name with
      | none => rw [found] at met; exact met ▸ holds
      | some old => rw [found] at met; exact firm value old after holds (.inl met)
    | _ => cases met
  · cases other with
    | unstated => exact ⟨members, (Option.some.inj met).symm, value, stated, holds⟩
    | record others =>
      rw [meet?_record] at met
      obtain ⟨common, meets, rfl⟩ := Option.map_eq_some_iff.mp met
      have there := lookup_meetMembers? meets name
      cases found : others.lookup name with
      | none =>
        rw [found] at there
        refine ⟨_, rfl, value, ?_, holds⟩
        rw [List.lookup_append, there, Option.none_or]
        exact lookup_filter_key (fun key => (others.lookup key).isNone) (by rw [found]; rfl) stated
      | some old =>
        rw [found, stated] at there
        obtain ⟨after, there, met⟩ := there
        exact ⟨_, rfl, after, by rw [List.lookup_append, there]; rfl, firm value old after holds (.inr met)⟩
    | _ => cases met

variable {before terms : List (String × Term)} {p : Term → Prop}

theorem lookup_replaced (name other : String) (both : Term) (members : List (String × Term)) :
    (members.map fun m => if m.1 = name then (name, both) else m).lookup other =
      if other = name then (members.lookup name).map fun _ => both else members.lookup other := by
  induction members with
  | nil => simp
  | cons m members ih =>
    obtain ⟨key, value⟩ := m
    by_cases here : key = name
    · subst here
      by_cases asked : other = key
      · simp [asked]
      · have differs : (other == key) = false := by simpa using asked
        simpa [List.lookup_cons, differs, asked] using ih
    · have differs : (name == key) = false := by simpa using Ne.symm here
      by_cases asked : other = name
      · subst asked
        simpa [List.lookup_cons, here, differs] using ih
      · simp only [asked, if_false] at ih
        simp [List.lookup_cons, here, asked, ih]

theorem Tells.exists_mem {name : String} (told : Tells terms name p) : ∃ term, (name, term) ∈ terms ∧ p term := by
  obtain ⟨term, there, holds⟩ := told
  obtain ⟨_, _, rfl, _⟩ := List.lookup_eq_some_iff.mp there
  exact ⟨term, by simp, holds⟩

/-- What is said firmly is said after more has been added. -/
theorem Tells.addMember? {name other : String} {value : Term} (told : Tells before other p) (firm : IsFirm p)
    (added : addMember? before name value = some terms) : Tells terms other p := by
  obtain ⟨term, there, holds⟩ := told
  rw [Term.addMember?] at added
  cases found : before.lookup name with
  | none =>
    rw [found] at added
    exact ⟨term, by rw [← Option.some.inj added, List.lookup_append, there]; rfl, holds⟩
  | some old =>
    rw [found] at added
    obtain ⟨both, met, rfl⟩ := Option.map_eq_some_iff.mp added
    rw [Tells, lookup_replaced]
    split
    · next same =>
      rw [same, found] at there
      cases there
      exact ⟨both, by rw [found]; rfl, firm _ _ _ holds (.inl met)⟩
    · exact ⟨term, there, holds⟩

/-- What is added is said from then on. -/
theorem tells_addMember? {name : String} {value : Term} (holds : p value) (firm : IsFirm p)
    (added : addMember? before name value = some terms) : Tells terms name p := by
  rw [Term.addMember?] at added
  cases found : before.lookup name with
  | none =>
    rw [found] at added
    exact ⟨value, by rw [← Option.some.inj added, List.lookup_append, found]; simp, holds⟩
  | some old =>
    rw [found] at added
    obtain ⟨both, met, rfl⟩ := Option.map_eq_some_iff.mp added
    refine ⟨both, ?_, firm _ _ _ holds (.inr met)⟩
    rw [lookup_replaced, if_pos rfl, found]
    rfl

/-- Members say what each of them says firmly, under the composed form of its name. -/
theorem tells_ofMembers? {members : List (String × Json)} (said : ofMembers? before members = some terms)
    (firm : IsFirm p) : (∀ name, Tells before name p → Tells terms name p) ∧
      ∀ m ∈ members, (∀ term, ofJson? m.2 = some term → p term) → Tells terms (composed m.1) p := by
  induction members generalizing before with
  | nil =>
    rw [ofMembers?] at said
    cases said
    exact ⟨fun _ => id, fun _ member => (List.not_mem_nil member).elim⟩
  | cons m members ih =>
    obtain ⟨name, value⟩ := m
    rw [ofMembers?] at said
    obtain ⟨term, first, said⟩ := Option.bind_eq_some_iff.mp said
    obtain ⟨between, added, said⟩ := Option.bind_eq_some_iff.mp said
    obtain ⟨kept, others⟩ := ih said
    refine ⟨fun other told => kept other (told.addMember? firm added), List.forall_mem_cons.mpr ⟨fun holds => ?_, others⟩⟩
    exact kept _ (tells_addMember? (holds term first) firm added)

theorem exists_ofJson?_of_ofMembers? {members : List (String × Json)} (said : ofMembers? before members = some terms) :
    ∀ m ∈ members, ∃ term, ofJson? m.2 = some term := by
  induction members generalizing before with
  | nil => exact fun _ member => nomatch member
  | cons m members ih =>
    obtain ⟨name, value⟩ := m
    rw [ofMembers?] at said
    obtain ⟨term, first, said⟩ := Option.bind_eq_some_iff.mp said
    obtain ⟨between, _, said⟩ := Option.bind_eq_some_iff.mp said
    exact List.forall_mem_cons.mpr ⟨⟨term, first⟩, ih said⟩

end Term

namespace Json

variable {members : List (String × Json)}

/-- Members of a record that fits are allowed. -/
theorem NamedApart.fits_of_record {isOpen : Bool} {fields : List Field} (apart : NamedApart members)
    (fits : (object members).Fits (Shape.record isOpen fields)) {m : String × Json} (member : m ∈ members) :
    m.2.Fits fun term => Shape.allows isOpen fields (m.1, term) := by
  obtain ⟨record, said, holds⟩ := fits
  rw [Json.ofJson?_object] at said
  obtain ⟨terms, each, rfl⟩ := Option.map_eq_some_iff.mp said
  obtain ⟨terms', same, names, all⟩ := apart.ofJson?_object
    (p := fun name term => ∃ m ∈ members, m.1 = name ∧ Term.ofJson? m.2 = some term) fun m member => by
      obtain ⟨term, value⟩ := Term.exists_ofJson?_of_ofMembers? each m member
      exact ⟨term, value, m, member, rfl, value⟩
  rw [Json.ofJson?_object, each] at same
  cases same
  have listed : m.1 ∈ terms.map Prod.fst := names ▸ List.mem_map_of_mem member
  obtain ⟨u, among, name⟩ := List.mem_map.mp listed
  obtain ⟨m', member', name', value⟩ := all u among
  obtain rfl := List.inj_on_of_nodup_map apart.distinct member member' (name.symm.trans name'.symm)
  refine ⟨u.2, value, ?_⟩
  rw [Shape.record, Shape.holdsFields, Bool.and_eq_true, List.all_eq_true] at holds
  rw [← name]
  exact holds.1 u among

/-- Whether a member keeps what fields say of it. -/
def KeepsMember (fields : List Field) (m : String × Json) : Prop :=
  m.1.toList.contains Bytes.orderMark = false ∧ m.2.Keeps fun term => Shape.allows false fields (m.1, term)

/-- A record without members that have to be there keeps its contract member by member. -/
theorem NamedApart.keeps_record {shape : Shape} {fields : List Field} (apart : NamedApart members)
    (known : shape = Shape.record false fields) (optional : fields.all (fun f => !f.required) = true) :
    (object members).Keeps shape ↔ ∀ m ∈ members, KeepsMember fields m := by
  have marks : (object members).holdsMark = false ↔
      ∀ m ∈ members, m.1.toList.contains Bytes.orderMark = false ∧ m.2.holdsMark = false := by
    rw [holdsMark, membersHoldMark_eq, List.any_eq_false]
    refine forall₂_congr fun m _ => ?_
    rw [Bool.not_eq_true, Bool.or_eq_false_iff]
  rw [known, Keeps, marks]
  refine ⟨fun keeps m member => ?_, fun each => ⟨fun m member => ?_, ?_⟩⟩
  · obtain ⟨unmarked, fits⟩ := keeps
    exact ⟨(unmarked m member).1, (unmarked m member).2, apart.fits_of_record fits member⟩
  · exact ⟨(each m member).1, (each m member).2.1⟩
  · refine apart.fits_record (fun m member => (each m member).2.2) fun f listed required => ?_
    have missing := List.all_eq_true.mp optional f listed
    rw [required] at missing
    contradiction

theorem NamedApart.of_sublist (names : List String) (apart : areApart names = true)
    (sub : (members.map Prod.fst).Sublist names) : NamedApart members := by
  rw [areApart, Bool.and_eq_true, decide_eq_true_iff, List.all_eq_true] at apart
  refine ⟨fun m member => ?_, sub.nodup apart.1⟩
  rw [composed, if_pos (apart.2 m.1 (sub.subset (List.mem_map_of_mem member)))]

end Json

end DesignLint
