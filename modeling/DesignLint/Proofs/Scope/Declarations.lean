import DesignLint.Proofs.Scope.Visibility
import DesignLint.Proofs.Tree.Fields

/-! The declarations of scopes, by the views of their constructs: bodies and processes list theirs, loops and
for-generates declare their variable. -/
namespace DesignLint

namespace Construct

/-- The body of an architecture or a generate statement. -/
def body? : Construct → Option Body
  | architecture a => some a.body
  | generate g => some g.body
  | _ => none

/-- The variable that a for-generate or a loop declares. -/
def iterator? : Construct → Option Bytes
  | generate g => if g.kind = .forRange then some g.iterator else none
  | loop l => if l.iterator ≠ [] then some l.iterator else none
  | _ => none

end Construct

/-- The roles of what a body declares and makes visible. -/
def Role.declared : List Role := [signal, constant, function, typeDecl]

namespace Tree

variable {t : Tree} {id scope : NodeId} {n : Bytes} {isElement : Bool} {types more : List NodeId}

/-- What a scope makes visible, by the views of its construct. -/
theorem ofScope_iff : t.OfScope scope isElement id n ↔
    (∃ b, t.get? Construct.body? scope = some b ∧ t.OfBody b isElement id ∧ t.nameOf? id = some n) ∨
      (∃ p, t.get? Construct.process? scope = some p ∧ t.OfProcess p id ∧ t.nameOf? id = some n) ∨
      id = scope ∧ t.get? Construct.iterator? scope = some n := by
  constructor
  · intro held
    cases held with
    | architecture kind held named => exact .inl ⟨_, by rw [get?, kind]; rfl, held, named⟩
    | generate kind held named => exact .inl ⟨_, by rw [get?, kind]; rfl, held, named⟩
    | range kind isFor => exact .inr (.inr ⟨rfl, by rw [get?, kind]; exact if_pos isFor⟩)
    | process kind held named => exact .inr (.inl ⟨_, by rw [get?, kind]; rfl, held, named⟩)
    | loop kind named => exact .inr (.inr ⟨rfl, by rw [get?, kind]; exact if_pos named⟩)
  · rintro (⟨b, known, held, named⟩ | ⟨p, known, held, named⟩ | ⟨rfl, known⟩) <;>
      obtain ⟨c, kind, chosen⟩ := Option.bind_eq_some_iff.mp known <;> cases c <;>
      simp [Construct.body?, Construct.process?, Construct.iterator?] at chosen
    · subst chosen
      exact .architecture kind held named
    · subst chosen
      exact .generate kind held named
    · subst chosen
      exact .process kind held named
    · obtain ⟨isFor, rfl⟩ := chosen
      exact .range kind isFor
    · obtain ⟨isNamed, rfl⟩ := chosen
      exact .loop kind isNamed

theorem ofScope_of_body {b : Body} (known : t.get? Construct.body? scope = some b) : t.OfScope scope isElement id n ↔
    t.OfBody b isElement id ∧ t.nameOf? id = some n ∨ id = scope ∧ t.get? Construct.iterator? scope = some n := by
  obtain ⟨c, kind, chosen⟩ := Option.bind_eq_some_iff.mp known
  have noProcess : t.get? Construct.process? scope = none := by
    rw [get?, kind]
    cases c <;> simp [Construct.body?] at chosen <;> rfl
  rw [ofScope_iff, known, noProcess]
  simp

theorem ofScope_of_process {p : Process} (known : t.get? Construct.process? scope = some p) :
    t.OfScope scope isElement id n ↔ t.OfProcess p id ∧ t.nameOf? id = some n := by
  obtain ⟨c, kind, chosen⟩ := Option.bind_eq_some_iff.mp known
  have noBody : t.get? Construct.body? scope = none := by
    rw [get?, kind]
    cases c <;> simp [Construct.process?] at chosen
    rfl
  have noIterator : t.get? Construct.iterator? scope = none := by
    rw [get?, kind]
    cases c <;> simp [Construct.process?] at chosen
    rfl
  rw [ofScope_iff, known, noBody, noIterator]
  simp

/-- What a body declares stands directly in its construct. -/
theorem Arranged.child_of_body (arranged : t.Arranged) {b : Body} (known : t.get? Construct.body? scope = some b)
    {role : Role} (own : role ∈ Role.declared) (among : id ∈ b.members role) : t.Child role scope id := by
  obtain ⟨c, kind, chosen⟩ := Option.bind_eq_some_iff.mp known
  refine arranged.child_of_members kind ?_
  cases c <;> simp [Construct.body?] at chosen
  all_goals
    rw [← chosen] at among
    simp only [Role.declared, List.mem_cons, List.not_mem_nil, or_false] at own
    rcases own with rfl | rfl | rfl | rfl <;> exact among

theorem not_ofTypes_nil : ¬t.OfTypes [] isElement id := by
  rintro (listed | listed | listed) <;> exact absurd listed List.not_mem_nil

theorem OfTypes.mono (held : t.OfTypes types isElement id) (sub : ∀ type ∈ types, type ∈ more) :
    t.OfTypes more isElement id := by
  cases held with
  | type listed => exact .type (sub _ listed)
  | state listed known held => exact .state (sub _ listed) known held
  | field listed known element held => exact .field (sub _ listed) known element held

/-- What types make visible apart from fields, they make visible to every read. -/
theorem OfTypes.plain (held : t.OfTypes types isElement id)
    (noField : ∀ type ∈ types, ∀ d, t.get? Construct.typeDecl? type = some d → id ∉ d.fields) :
    t.OfTypes types false id := by
  cases held with
  | type listed => exact .type listed
  | state listed known held => exact .state listed known held
  | field listed known _ held => exact absurd held (noField _ listed _ known)

theorem OfTypes.of_plain (held : t.OfTypes types false id) (isElement : Bool) : t.OfTypes types isElement id := by
  cases held with
  | type listed => exact .type listed
  | state listed known held => exact .state listed known held
  | field _ _ element _ => contradiction

/-- What types make visible depends on their declarations only. -/
theorem OfTypes.congr {t' : Tree} (held : t.OfTypes types isElement id)
    (same : ∀ type, t'.get? Construct.typeDecl? type = t.get? Construct.typeDecl? type) :
    t'.OfTypes types isElement id := by
  cases held with
  | type listed => exact .type listed
  | state listed known held => exact .state listed ((same _).trans known) held
  | field listed known element held => exact .field listed ((same _).trans known) element held

theorem Arranged.parent?_of_body (arranged : t.Arranged) {b : Body} (known : t.get? Construct.body? scope = some b) {x : NodeId}
    (listed : x ∈ b.signals ∨ x ∈ b.constants ∨ x ∈ b.functions ∨ x ∈ b.types) :
    t.parent? x = some scope ∧ t.role? x ≠ some .field := by
  obtain ⟨role, own, child⟩ : ∃ role ∈ Role.declared, t.Child role scope x := by
    rcases listed with listed | listed | listed | listed
    · exact ⟨.signal, by decide, arranged.child_of_body known (by decide) listed⟩
    · exact ⟨.constant, by decide, arranged.child_of_body known (by decide) listed⟩
    · exact ⟨.function, by decide, arranged.child_of_body known (by decide) listed⟩
    · exact ⟨.typeDecl, by decide, arranged.child_of_body known (by decide) listed⟩
  refine ⟨child.1, fun field => ?_⟩
  obtain rfl := Option.some.inj (child.2.symm.trans field)
  simp [Role.declared] at own

end Tree
end DesignLint
