import DesignLint.Contract.Formats
import DesignLint.Proofs.Text.Decoding

/-! Values that keep a contract. A JSON value fits a shape if what it says is a term of that shape. Lists fit item by
item. The members of an object speak for themselves if no two of them have the same name, and then an object fits
member by member. -/
namespace DesignLint

namespace Json

theorem digitsValue?_toDigits (n : Nat) : int?.digitsValue? (Nat.toDigits 10 n) = some n := by
  have digits : (Nat.toDigits 10 n).all Char.isDigit = true :=
    List.all_eq_true.mpr fun _ member => Nat.isDigit_of_mem_toDigits (by decide) (by decide) member
  have value := Nat.ofDigitChars_ten_toDigits (n := n)
  simp only [Nat.ofDigitChars, Nat.mul_comm 10] at value
  simp only [int?.digitsValue?, digits, List.isEmpty_iff, Nat.toDigits_ne_nil, Bool.not_true, Bool.or_false,
    if_false]
  exact congrArg some value

/-- A natural number is read back as it was written. -/
theorem int?_ofNat (n : Nat) : (ofNat n).int? = some (n : Int) := by
  have first : ∀ rest, (toString n).toList ≠ '-' :: rest := by
    intro rest same
    have digit : '-'.isDigit = true := by
      refine Nat.isDigit_of_mem_toDigits (b := 10) (n := n) (by decide) (by decide) ?_
      rw [← Nat.toList_repr]
      exact same ▸ List.mem_cons_self
    contradiction
  rw [ofNat, int?]
  split
  · rename_i digits same
    exact absurd same (first digits)
  · change (int?.digitsValue? n.repr.toList).map Int.ofNat = _
    rw [Nat.toList_repr, digitsValue?_toDigits]
    rfl

/-- A whole number is read back as it was written. -/
theorem int?_ofInt (n : Int) : (ofInt n).int? = some n := by
  cases n with
  | ofNat n => exact int?_ofNat n
  | negSucc n =>
    have written : (toString (Int.negSucc n)).toList = '-' :: (n + 1).repr.toList := by
      change ("-" ++ (n + 1).repr).toList = _
      rw [String.toList_append]
      rfl
    rw [ofInt, int?, written]
    change (int?.digitsValue? (n + 1).repr.toList).map (fun n => -Int.ofNat n) = _
    rw [Nat.toList_repr, digitsValue?_toDigits]
    rfl

theorem ofJson?_string (text : Bytes) : Term.ofJson? (string text) = some (.text text.decode) := rfl

theorem ofJson?_number (literal : String) : Term.ofJson? (number literal) = some (.ofLiteral literal) := rfl

theorem ofJson?_bool (b : Bool) : Term.ofJson? (bool b) = some (.flag b) := rfl

theorem ofJson?_array (items : List Json) :
    Term.ofJson? (array items) = (Term.ofItems? items).map (.list · false) := rfl

theorem ofJson?_object (members : List (String × Json)) :
    Term.ofJson? (object members) = (Term.ofMembers? [] members).map .record := rfl

/-- What the value says is as the shape asks. -/
def Fits (shape : Shape) (j : Json) : Prop := ∃ term, Term.ofJson? j = some term ∧ shape term = true

/-- A value passes the check of a contract if it fits and no text in it holds the byte order mark. -/
theorem Fits.check {shape : Shape} {j : Json} (fits : j.Fits shape) :
    Contract.check shape j = if j.holdsMark then .error .byteOrderMark else .ok () := by
  obtain ⟨term, said, holds⟩ := fits
  rw [Contract.check, said]
  simp only [holds, if_true]

/-- The value fits, and no text in it holds the byte order mark. -/
def Keeps (shape : Shape) (j : Json) : Prop := j.holdsMark = false ∧ j.Fits shape

theorem check_eq_ok {shape : Shape} {j : Json} : Contract.check shape j = .ok () ↔ j.Keeps shape := by
  rw [Contract.check, Keeps, Fits]
  cases j.holdsMark with
  | true => simp
  | false =>
    cases said : Term.ofJson? j with
    | none => simp
    | some term => cases holds : shape term <;> simp [holds]

theorem membersHoldMark_eq (members : List (String × Json)) : membersHoldMark members =
    members.any fun m => m.1.toList.contains Bytes.orderMark || m.2.holdsMark := by
  induction members with
  | nil => rw [membersHoldMark, List.any_nil]
  | cons m members ih => rw [membersHoldMark, List.any_cons, ih]

theorem Fits.mono {shape shape' : Shape} {j : Json} (fits : j.Fits shape)
    (weaker : ∀ term, shape term = true → shape' term = true) : j.Fits shape' := by
  obtain ⟨term, said, holds⟩ := fits
  exact ⟨term, said, weaker term holds⟩

theorem fits_string {shape : Shape} {text : Bytes} (holds : shape (.text text.decode) = true) :
    (string text).Fits shape :=
  ⟨_, ofJson?_string text, holds⟩

theorem fits_ofNat {shape : Shape} {n : Nat} (holds : shape (.whole n) = true) : (ofNat n).Fits shape := by
  refine ⟨.whole n, ?_, holds⟩
  have read := int?_ofNat n
  rw [ofNat] at read ⊢
  rw [ofJson?_number, Term.ofLiteral, read]

theorem fits_natural (n : Nat) : (ofNat n).Fits Shape.natural := fits_ofNat (by simp [Shape.natural])

theorem fits_bool {shape : Shape} {b : Bool} (holds : shape (.flag b) = true) : (bool b).Fits shape :=
  ⟨_, ofJson?_bool b, holds⟩

/-- What items say, one by one. -/
theorem ofItems?_of_fits {shape : Shape} {items : List Json} (each : ∀ item ∈ items, item.Fits shape) :
    ∃ terms, Term.ofItems? items = some terms ∧ ∀ term ∈ terms, shape term = true := by
  induction items with
  | nil => exact ⟨[], by rw [Term.ofItems?], by simp⟩
  | cons item items ih =>
    obtain ⟨term, said, holds⟩ := each item List.mem_cons_self
    obtain ⟨terms, others, all⟩ := ih fun other member => each other (List.mem_cons_of_mem _ member)
    refine ⟨term :: terms, by rw [Term.ofItems?, said, others]; rfl, ?_⟩
    exact List.forall_mem_cons.mpr ⟨holds, all⟩

theorem fits_listOf {shape : Shape} {items : List Json} (each : ∀ item ∈ items, item.Fits shape) :
    (array items).Fits (Shape.listOf shape) := by
  obtain ⟨terms, said, all⟩ := ofItems?_of_fits each
  exact ⟨.list terms false, by rw [ofJson?_array, said]; rfl, List.all_eq_true.mpr all⟩

end Json

namespace Term

theorem allConcrete_iff {terms : List Term} : allConcrete terms = true ↔ ∀ term ∈ terms, term.isConcrete = true := by
  induction terms with
  | nil => simp [allConcrete]
  | cons term terms ih => simp [allConcrete, ih]

theorem membersConcrete_iff {members : List (String × Term)} :
    membersConcrete members = true ↔ ∀ m ∈ members, m.2.isConcrete = true := by
  induction members with
  | nil => simp [membersConcrete]
  | cons m members ih => simp [membersConcrete, ih]

theorem addMember?_of_not_mem {members : List (String × Term)} {name : String} {value : Term}
    (new : name ∉ members.map Prod.fst) : addMember? members name value = some (members ++ [(name, value)]) := by
  have missing : members.lookup name = none := by
    rw [List.lookup_eq_none_iff]
    intro m member
    have other : name ≠ m.1 := fun same => new (same ▸ List.mem_map_of_mem member)
    exact bne_iff_ne.mpr other
  rw [addMember?, missing]

/-- Members under different names, written as they are composed, say one thing each. -/
theorem ofMembers?_of_distinct {p : String → Term → Prop} {members : List (String × Json)}
    (plain : ∀ m ∈ members, composed m.1 = m.1)
    (each : ∀ m ∈ members, ∃ term, ofJson? m.2 = some term ∧ p m.1 term) (before : List (String × Term))
    (distinct : (before.map Prod.fst ++ members.map Prod.fst).Nodup) :
    ∃ terms, ofMembers? before members = some (before ++ terms) ∧ terms.map Prod.fst = members.map Prod.fst ∧
      ∀ u ∈ terms, p u.1 u.2 := by
  induction members generalizing before with
  | nil => exact ⟨[], by rw [ofMembers?, List.append_nil], rfl, by simp⟩
  | cons m members ih =>
    obtain ⟨name, value⟩ := m
    obtain ⟨term, said, holds⟩ := each (name, value) List.mem_cons_self
    have new : name ∉ before.map Prod.fst := fun old =>
      (List.nodup_append.mp distinct).2.2 name old name (by simp) rfl
    obtain ⟨terms, others, names, all⟩ := ih (fun other member => plain other (List.mem_cons_of_mem _ member))
      (fun other member => each other (List.mem_cons_of_mem _ member)) (before ++ [(name, term)]) (by simpa using distinct)
    refine ⟨(name, term) :: terms, ?_, by simp [names], List.forall_mem_cons.mpr ⟨holds, all⟩⟩
    have composes : composed name = name := plain (name, value) List.mem_cons_self
    rw [ofMembers?, said, composes]
    simp only [bind, Option.bind, addMember?_of_not_mem new, others, List.append_assoc, List.singleton_append]

end Term

namespace Json

/-- Different names of ASCII characters. -/
def areApart (names : List String) : Bool :=
  decide names.Nodup && names.all fun name => name.toList.all (·.toNat < 0x80)

/-- The names of members are different, and each is the composed form of itself. -/
structure NamedApart (members : List (String × Json)) : Prop where
  plain : ∀ m ∈ members, composed m.1 = m.1
  distinct : (members.map Prod.fst).Nodup

theorem fits_allows_known {isOpen : Bool} {fields : List Field} {name : String} {f : Field} {j : Json}
    (found : fields.find? (fun f => f.name == name) = some f) (fits : j.Fits f.shape) :
    j.Fits fun term => Shape.allows isOpen fields (name, term) :=
  fits.mono fun _ holds => by rw [Shape.allows, found]; exact holds

theorem fits_allows_other {fields : List Field} {name : String} {j : Json}
    (missing : fields.find? (fun f => f.name == name) = none) (fits : j.Fits Term.isConcrete) :
    j.Fits fun term => Shape.allows true fields (name, term) :=
  fits.mono fun _ holds => by rw [Shape.allows, missing]; exact holds

variable {members members' : List (String × Json)}

theorem NamedApart.perm (apart : NamedApart members) (perm : members'.Perm members) : NamedApart members' where
  plain m member := apart.plain m (perm.mem_iff.mp member)
  distinct := (perm.map _).nodup_iff.mpr apart.distinct

theorem NamedApart.append {name : String} (apart : NamedApart members) (new : name ∉ members.map Prod.fst)
    (plain : composed name = name) (j : Json) : NamedApart (members ++ [(name, j)]) where
  plain := List.forall_mem_append.mpr ⟨apart.plain, by simpa using plain⟩
  distinct := by
    rw [List.map_append, List.nodup_append]
    refine ⟨apart.distinct, by simp, fun old member other single same => ?_⟩
    rw [List.map_singleton, List.mem_singleton] at single
    subst single same
    exact new member

theorem NamedApart.ofJson?_object {p : String → Term → Prop} (apart : NamedApart members)
    (each : ∀ m ∈ members, ∃ term, Term.ofJson? m.2 = some term ∧ p m.1 term) :
    ∃ terms, Term.ofJson? (object members) = some (.record terms) ∧
      terms.map Prod.fst = members.map Prod.fst ∧ ∀ u ∈ terms, p u.1 u.2 := by
  obtain ⟨terms, said, names, all⟩ := Term.ofMembers?_of_distinct apart.plain each [] (by simpa using apart.distinct)
  exact ⟨terms, by rw [Json.ofJson?_object, said]; rfl, names, all⟩

/-- A record fits if each member is allowed and none is missing. -/
theorem NamedApart.fits_record {isOpen : Bool} {fields : List Field} (apart : NamedApart members)
    (each : ∀ m ∈ members, m.2.Fits fun term => Shape.allows isOpen fields (m.1, term))
    (complete : ∀ f ∈ fields, f.required = true → f.name ∈ members.map Prod.fst) :
    (object members).Fits (Shape.record isOpen fields) := by
  obtain ⟨terms, said, names, all⟩ :=
    apart.ofJson?_object (p := fun name term => Shape.allows isOpen fields (name, term) = true) each
  refine ⟨.record terms, said, ?_⟩
  rw [Shape.record, Shape.holdsFields, Bool.and_eq_true]
  refine ⟨List.all_eq_true.mpr all, List.all_eq_true.mpr fun f listed => ?_⟩
  by_cases required : f.required = true
  · have stated := complete f listed required
    rw [← names, List.mem_map] at stated
    obtain ⟨u, member, same⟩ := stated
    have found : terms.any (fun m => m.1 == f.name) = true := List.any_eq_true.mpr ⟨u, member, beq_iff_eq.mpr same⟩
    simp [found]
  · simp [required]

theorem NamedApart.fits_isConcrete (apart : NamedApart members) (each : ∀ m ∈ members, m.2.Fits Term.isConcrete) :
    (object members).Fits Term.isConcrete := by
  obtain ⟨terms, said, _, all⟩ := apart.ofJson?_object (p := fun _ term => term.isConcrete = true) each
  exact ⟨.record terms, said, Term.membersConcrete_iff.2 all⟩

theorem fits_array_isConcrete {items : List Json} (each : ∀ item ∈ items, item.Fits Term.isConcrete) :
    (array items).Fits Term.isConcrete := by
  obtain ⟨terms, said, all⟩ := ofItems?_of_fits each
  exact ⟨.list terms false, by rw [ofJson?_array, said]; rfl, Term.allConcrete_iff.2 all⟩

end Json

end DesignLint
