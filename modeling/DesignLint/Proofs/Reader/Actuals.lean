import DesignLint.Reader.Phrase
import DesignLint.Proofs.Tree.WellFormed
import Mathlib.Data.List.Forall2

/-! What the nodes of a tree say about the tokens. The actual of an association is recorded twice, as what is read of it
and as what is written and read of it, and the nodes of both stand at the tokens of the one phrase. A port has one of the
three modes of the language. A read or a write stands at a name and quotes it. -/
namespace DesignLint

/-- The token that an occurrence was found at. -/
def Occurrence.token : Occurrence → Token
  | .read t _ => t
  | .write t => t

/-- An occurrence that is written. -/
def Occurrence.isWrite : Occurrence → Bool
  | .write _ => true
  | .read _ _ => false

/-- Whether a construct of this role is the mark of an occurrence. -/
def Role.isMark : Role → Bool
  | read | write => true
  | _ => false

theorem Role.isLeaf_of_isMark {role : Role} (mark : role.isMark = true) : role.isLeaf = true := by
  cases role <;> first | rfl | contradiction

theorem Role.ne_use_of_isMark {role : Role} (mark : role.isMark = true) : role ≠ .use := by
  rintro rfl
  contradiction

/-- What a mark quotes of the text. -/
def Construct.quoted? : Construct → Option Bytes
  | .read text _ => some text
  | .write text => some text
  | _ => none

/-- A mode of the language. -/
def Direction.IsMode : Direction → Prop
  | .other _ => False
  | _ => True

/-- A construct that says nothing about a token, and whose mode is one of the language if it is a port. -/
def Construct.Plain : Construct → Prop
  | .mapping m => m = {}
  | .port _ mode => mode.IsMode
  | .read _ _ => False
  | .write _ => False
  | _ => True

/-- The tokens of an association from its first one on, without its formal and the arrow behind it. -/
def behindFormal (rest : List Token) : List Token :=
  match (Phrase.split (["=>", ","].contains ·.word) 0 rest).2 with
  | arrow :: later => if arrow.word = "=>" then later else rest
  | [] => rest

/-- The actual of an association that begins at `start`: what stands behind its formal, up to a comma outside brackets. -/
def Phrase.IsActual (tokens : List Token) (start : Nat) (p : Phrase) : Prop :=
  ∃ before rest later, tokens = before ++ rest ∧ rest.head?.map Token.offset = some start ∧
    split ([","].contains ·.word) 0 (behindFormal rest) = (p.tokens, p.follow :: later)

/-- The depth at which the names of an actual are written: it is driven as a whole if it is a name. -/
def Phrase.actualDepth (p : Phrase) : Option Nat := if p.isName then some 0 else none

namespace Construct

variable {c : Construct}

theorem isSome_quoted? (c : Construct) : c.quoted?.isSome = c.role.isMark := by cases c <;> rfl

theorem Plain.isMark (plain : c.Plain) : c.role.isMark = false := by
  cases c <;> first | rfl | exact plain.elim

end Construct

namespace Tree

/-- The node of an occurrence. -/
def Marks (t : Tree) (owner : Nat) : Occurrence → NodeId → Prop
  | .read tok isElement, id => t.node? id = some ⟨some owner, tok.offset, tok.stop, .read tok.text isElement⟩
  | .write tok, id => t.node? id = some ⟨some owner, tok.offset, tok.stop, .write tok.text⟩

/-- An association whose nodes are those of its actual, as an input and as an output. -/
def Associates (t : Tree) (tokens : List Token) (id start : Nat) (m : Mapping) : Prop :=
  ∃ (libraries : List String) (p : Phrase), p.IsActual tokens start ∧
    List.Forall₂ (t.Marks id) (p.occurrences libraries none) m.ifInput ∧
    List.Forall₂ (t.Marks id) ((p.occurrences libraries p.actualDepth).filter Occurrence.isWrite) m.ifOutputWrites ∧
    List.Forall₂ (t.Marks id) ((p.occurrences libraries p.actualDepth).filter (!·.isWrite)) m.ifOutputReads

/-- The nodes of occurrences that were found in the order of the text. -/
def Records (t : Tree) (tokens : List Token) (owner : Nat) (ids : List NodeId) : Prop :=
  ∃ os : List Occurrence, (os.map Occurrence.token).Sublist tokens ∧ List.Forall₂ (t.Marks owner) os ids

/-- What a construct says holds of the tokens, if it is no mark. -/
def Fits (t : Tree) (tokens : List Token) (id start : Nat) (c : Construct) : Prop :=
  c.Plain ∨ c.role.isMark = true ∨ ∃ m, c = .mapping m ∧ t.Records tokens id m.formal ∧
    (m.ifInput = [] ∧ m.ifOutputReads = [] ∧ m.ifOutputWrites = [] ∨ t.Associates tokens id start m)

/-- What the nodes of a tree say holds of the tokens. -/
def Faithful (t : Tree) (tokens : List Token) : Prop :=
  ∀ (id : Nat) (node : Node), t.node? id = some node → t.Fits tokens id node.start node.construct

/-- The marks of a tree stand at names, and those of one owner stand in the order of the text, unless the owner is an
association. -/
structure Marked (t : Tree) (tokens : List Token) : Prop where
  quoted : ∀ (id : Nat) (node : Node) (name : Bytes), t.node? id = some node → node.construct.quoted? = some name →
    0 < id ∧ ∃ tok ∈ tokens, tok.isName = true ∧ node.start = tok.offset ∧ node.stop = tok.stop ∧ name = tok.text
  ordered : ∀ (i j owner : Nat) (a b : Node), i < j → t.node? i = some a → t.node? j = some b →
    a.construct.role.isMark = true → b.construct.role.isMark = true → a.parent = some owner → b.parent = some owner →
      t.role? owner ≠ some .mapping → a.stop ≤ b.start

variable {t t' : Tree} {tokens : List Token} {owner id start : Nat} {node : Node} {c : Construct}

theorem Marks.mark {o : Occurrence} (marks : t.Marks owner o id) :
    ∃ node, t.node? id = some node ∧ node.construct.role.isMark = true := by
  cases o with
  | read => exact ⟨_, marks, rfl⟩
  | write => exact ⟨_, marks, rfl⟩

/-- Marks stay where they are as long as only other nodes change. -/
theorem Marks.mono {o : Occurrence} (same : ∀ (i : Nat) (node : Node), t.node? i = some node →
    node.construct.role.isMark = true → t'.node? i = some node) (marks : t.Marks owner o id) : t'.Marks owner o id := by
  cases o with
  | read => exact same id _ marks rfl
  | write => exact same id _ marks rfl

theorem exists_of_marks {os : List Occurrence} {ids : List NodeId} (marks : List.Forall₂ (t.Marks owner) os ids) :
    (∀ id ∈ ids, ∃ o ∈ os, t.Marks owner o id) ∧ ∀ o ∈ os, ∃ id ∈ ids, t.Marks owner o id := by
  induction marks with
  | nil => simp
  | cons head _ ih =>
    obtain ⟨left, right⟩ := ih
    constructor
    · rintro id (_ | ⟨_, member⟩)
      · exact ⟨_, List.mem_cons_self, head⟩
      · obtain ⟨o, among, marked⟩ := left id member
        exact ⟨o, List.mem_cons_of_mem _ among, marked⟩
    · rintro o (_ | ⟨_, member⟩)
      · exact ⟨_, List.mem_cons_self, head⟩
      · obtain ⟨id, among, marked⟩ := right o member
        exact ⟨id, List.mem_cons_of_mem _ among, marked⟩

theorem Records.mono {ids : List NodeId} (same : ∀ (i : Nat) (node : Node), t.node? i = some node →
    node.construct.role.isMark = true → t'.node? i = some node) (records : t.Records tokens owner ids) :
    t'.Records tokens owner ids := by
  obtain ⟨os, sublist, marks⟩ := records
  exact ⟨os, sublist, marks.imp fun _ _ marks => marks.mono same⟩

theorem Fits.mono (same : ∀ (i : Nat) (node : Node), t.node? i = some node →
    node.construct.role.isMark = true → t'.node? i = some node) (fits : t.Fits tokens id start c) :
    t'.Fits tokens id start c := by
  rcases fits with plain | mark | ⟨m, rfl, formal, actual⟩
  · exact .inl plain
  · exact .inr (.inl mark)
  · refine .inr (.inr ⟨m, rfl, formal.mono same, actual.imp_right ?_⟩)
    rintro ⟨libraries, p, actual, inputs, writes, reads⟩
    have marks (o : Occurrence) (i : NodeId) (marks : t.Marks id o i) : t'.Marks id o i := marks.mono same
    exact ⟨libraries, p, actual, inputs.imp marks, writes.imp marks, reads.imp marks⟩

namespace Faithful

theorem of_nodes_eq (faithful : t.Faithful tokens) (nodes_eq : t'.nodes = t.nodes) : t'.Faithful tokens := by
  have same (i : Nat) : t'.node? i = t.node? i := by rw [Tree.node?, nodes_eq, Tree.node?]
  intro id node known
  rw [same] at known
  exact (faithful id node known).mono fun i _ found _ => (same i).trans found

theorem push (faithful : t.Faithful tokens) (plain : node.construct.Plain ∨ node.construct.role.isMark = true) :
    ({ t with nodes := t.nodes.push node } : Tree).Faithful tokens := by
  intro id found known
  rw [node?_push] at known
  split at known
  · cases known
    exact plain.imp_right .inl
  · refine (faithful id found known).mono fun i old here _ => ?_
    rw [node?_push, if_neg (Nat.ne_of_lt (lt_size_of_node? here))]
    exact here

/-- A node that is no mark is redrawn as something that fits the tokens, or stays what it was. -/
theorem modify {change : Node → Node} (faithful : t.Faithful tokens) (known : t.node? id = some node)
    (branch : node.construct.role.isMark = false) (start_eq : (change node).start = node.start)
    (fits : t.Fits tokens id node.start (change node).construct) : (t.modify id change).Faithful tokens := by
  have same (i : Nat) (old : Node) (here : t.node? i = some old) (mark : old.construct.role.isMark = true) :
      (t.modify id change).node? i = some old := by
    rw [node?_modify]
    split
    · subst_vars
      rw [known] at here
      cases here
      rw [branch] at mark
      contradiction
    · exact here
  intro i found here
  rw [node?_modify] at here
  split at here
  · subst_vars
    rw [known] at here
    cases here
    rw [start_eq]
    exact fits.mono same
  · exact (faithful i found here).mono same

theorem ofText {text : Bytes} (path : String) : (Tree.ofText path text).Faithful tokens := by
  intro id node known
  have lt : id < 1 := lt_size_of_node? known
  obtain rfl : id = 0 := by omega
  cases known
  exact .inl trivial

end Faithful

namespace Marked

theorem of_nodes_eq (marked : t.Marked tokens) (nodes_eq : t'.nodes = t.nodes) : t'.Marked tokens := by
  have same (i : Nat) : t'.node? i = t.node? i := by rw [Tree.node?, nodes_eq, Tree.node?]
  have role (i : Nat) : t'.role? i = t.role? i := by rw [role?, role?, construct?, construct?, same]
  constructor
  · simpa only [same] using marked.quoted
  · simpa only [same, role] using marked.ordered

/-- The owner of an old node is old, so it plays its role in the grown tree too. -/
theorem role?_push {i : Nat} (lt : i < t.nodes.size) : ({ t with nodes := t.nodes.push node } : Tree).role? i = t.role? i := by
  rw [role?, role?, construct?, construct?, node?_push, if_neg (Nat.ne_of_lt lt)]

/-- A new node is no mark, or it stands at a name behind the marks of its owner. -/
theorem push (marked : t.Marked tokens) (rooted : t.Rooted) (owner_lt : owner < t.nodes.size)
    (parent : node.parent = some owner)
    (quoted : ∀ name, node.construct.quoted? = some name →
      ∃ tok ∈ tokens, tok.isName = true ∧ node.start = tok.offset ∧ node.stop = tok.stop ∧ name = tok.text)
    (behind : node.construct.role.isMark = true → t.role? owner ≠ some .mapping → ∀ (i : Nat) (a : Node),
      t.node? i = some a → a.construct.role.isMark = true → a.parent = some owner → a.stop ≤ node.start) :
    ({ t with nodes := t.nodes.push node } : Tree).Marked tokens := by
  constructor
  · intro id found name known quotes
    rw [node?_push] at known
    split at known
    · cases known
      exact ⟨by omega, quoted name quotes⟩
    · exact marked.quoted id found name known quotes
  · intro i j owner' a b lt first next mark mark' above above' other
    rw [node?_push] at first next
    have inside : i < t.nodes.size := by
      split at next
      · omega
      · exact Nat.lt_trans lt (lt_size_of_node? next)
    rw [if_neg (Nat.ne_of_lt inside)] at first
    have old := Nat.lt_trans (rooted.lt_of_parent? ((parent?_of_node? first).trans above)) inside
    rw [role?_push old] at other
    split at next
    · cases next
      obtain rfl : owner = owner' := Option.some.inj (parent.symm.trans above')
      exact behind mark' other i a first mark above
    · exact marked.ordered i j owner' a b lt first next mark mark' above above' other

/-- A node that is no mark is redrawn and keeps its role. -/
theorem modify {change : Node → Node} (marked : t.Marked tokens) (known : t.node? id = some node)
    (branch : node.construct.role.isMark = false)
    (role_eq : (change node).construct.role = node.construct.role) : (t.modify id change).Marked tokens := by
  have same (i : Nat) (found : Node) (here : (t.modify id change).node? i = some found)
      (mark : found.construct.role.isMark = true) : t.node? i = some found := by
    rw [node?_modify] at here
    split at here
    · subst_vars
      rw [known] at here
      cases here
      rw [role_eq, branch] at mark
      contradiction
    · exact here
  have role (i : Nat) : (t.modify id change).role? i = t.role? i := by
    simp only [role?, construct?, node?_modify]
    split
    · subst_vars
      simp [known, role_eq]
    · rfl
  constructor
  · intro i found name here quotes
    refine marked.quoted i found name (same i found here ?_) quotes
    rw [← Construct.isSome_quoted?, quotes]
    rfl
  · intro i j owner a b lt first next mark mark' above above' other
    rw [role] at other
    exact marked.ordered i j owner a b lt (same i a first mark) (same j b next mark') mark mark' above above' other

theorem ofText {text : Bytes} (path : String) : (Tree.ofText path text).Marked tokens := by
  have only (i : Nat) (node : Node) (known : (Tree.ofText path text).node? i = some node) :
      i = 0 ∧ node.construct = .file := by
    have lt : i < 1 := lt_size_of_node? known
    obtain rfl : i = 0 := by omega
    cases known
    exact ⟨rfl, rfl⟩
  constructor
  · intro id node name known quotes
    rw [(only id node known).2] at quotes
    contradiction
  · intro i j _ a b lt first next
    have := (only i a first).1
    have := (only j b next).1
    omega

end Marked
end Tree
end DesignLint
