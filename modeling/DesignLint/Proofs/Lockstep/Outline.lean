import DesignLint.Proofs.Text.Lowered
import DesignLint.Proofs.Tree.Growth
import Mathlib.Data.List.Forall2

/-! The outline of a tree: what it has in common with the tree of another text of the same design. Names keep their
spelling or lose their case; the places of the nodes and the stretches of source that constructs hold are kept only if
the other text has its tokens at the same offsets. -/
namespace DesignLint

/-- What two texts of one design have in common besides the words of their tokens. -/
structure Likeness where
  /-- Letters of either case count as the same. -/
  anyCase : Bool
  /-- Tokens stand at the same offsets. -/
  placed : Bool

namespace Likeness

/-- The same spelling, in another layout. -/
def layout : Likeness := ⟨false, false⟩

/-- The same layout, in another spelling. -/
def spelling : Likeness := ⟨true, true⟩

/-- What is compared of a byte. -/
def letter (l : Likeness) (b : UInt8) : UInt8 := if l.anyCase then lowerByte b else b

/-- What is compared of a name. -/
def name (l : Likeness) (text : Bytes) : Bytes := text.map l.letter

/-- What is compared of a stretch of source. -/
def source (l : Likeness) (text : Bytes) : Bytes := if l.placed then l.name text else []

/-- What is compared of an offset. -/
def place (l : Likeness) (offset : Nat) : Nat := if l.placed then offset else 0

/-- Names that count as the same. -/
def NameTwin (l : Likeness) (a b : Bytes) : Prop := l.name a = l.name b

/-- Stretches of source that count as the same. -/
def SourceTwin (l : Likeness) (a b : Bytes) : Prop := l.source a = l.source b

variable (l : Likeness)

theorem name_eq (text : Bytes) : l.name text = if l.anyCase then text.lowered else text := by
  have letters : l.letter = if l.anyCase then lowerByte else id := by
    funext b
    rw [letter]
    split <;> rfl
  rw [name, letters]
  split
  · rfl
  · exact List.map_id text

@[simp] theorem name_nil : l.name [] = [] := rfl

@[simp] theorem name_append (a b : Bytes) : l.name (a ++ b) = l.name a ++ l.name b := List.map_append

@[simp] theorem length_name (text : Bytes) : (l.name text).length = text.length := List.length_map _

@[simp] theorem isEmpty_name (text : Bytes) : (l.name text).isEmpty = text.isEmpty := List.isEmpty_map

@[simp] theorem name_name (text : Bytes) : l.name (l.name text) = l.name text := by
  cases cased : l.anyCase <;> simp [name_eq, cased]

@[simp] theorem lower_name (text : Bytes) : (l.name text).lower = text.lower := by
  cases cased : l.anyCase <;> simp [name_eq, cased]

@[simp] theorem folded_name (text : Bytes) : (l.name text).folded = text.folded := by
  cases cased : l.anyCase <;> simp [name_eq, cased]

@[simp] theorem sameName_name_left (a b : Bytes) : sameName (l.name a) b = sameName a b := by
  rw [sameName, folded_name, sameName]

@[simp] theorem sameName_name_right (a b : Bytes) : sameName a (l.name b) = sameName a b := by
  rw [sameName, folded_name, sameName]

theorem isTrimmable_letter (b : UInt8) : isTrimmable (l.letter b) = isTrimmable b := by
  rw [letter]
  split
  · exact eq_of_letters (p := isTrimmable) (by decide) b
  · rfl

theorem name_slice (text : Bytes) (start stop : Nat) : l.name (text.slice start stop) = (l.name text).slice start stop := by
  rw [Bytes.slice, Bytes.slice, name, List.map_take, List.map_drop, name]

theorem trimmedEnd_name (text : Bytes) (start stop : Nat) :
    trimmedEnd (l.name text) start stop = trimmedEnd text start stop := by
  have trims : isTrimmable ∘ l.letter = isTrimmable := funext l.isTrimmable_letter
  rw [trimmedEnd, ← name_slice, name, ← List.map_reverse, List.dropWhile_map, List.length_map, trims, trimmedEnd]

variable {l} {a b text text' : Bytes}

theorem NameTwin.length_eq (twin : l.NameTwin a b) : a.length = b.length := by
  rw [← length_name l a, twin, length_name]

theorem NameTwin.append {c d : Bytes} (first : l.NameTwin a b) (second : l.NameTwin c d) :
    l.NameTwin (a ++ c) (b ++ d) := by
  rw [NameTwin, name_append, name_append, first, second]

theorem NameTwin.intercalate (sep : Bytes) {parts parts' : List Bytes} (twins : List.Forall₂ l.NameTwin parts parts') :
    l.NameTwin (List.intercalate sep parts) (List.intercalate sep parts') := by
  induction twins with
  | nil => rfl
  | cons first others ih =>
    cases others with
    | nil => simpa using first
    | cons second others =>
      rw [List.intercalate_cons_cons, List.intercalate_cons_cons]
      exact (first.append rfl).append ih

/-- Names with their spelling are the same only if they are equal. -/
theorem NameTwin.eq (twin : l.NameTwin a b) (spelt : l.anyCase = false) : a = b := by
  simpa [NameTwin, name_eq, spelt] using twin

theorem SourceTwin.place_length (texts : l.SourceTwin text text') : l.place text.length = l.place text'.length := by
  unfold SourceTwin source at texts
  unfold place
  split
  · rename_i placed
    rw [if_pos placed, if_pos placed] at texts
    exact NameTwin.length_eq texts
  · rfl

/-- Stretches between the same places of texts that count as the same. -/
theorem SourceTwin.slice {start start' stop stop' : Nat} (texts : l.SourceTwin text text')
    (starts : l.place start = l.place start') (stops : l.place stop = l.place stop') :
    l.SourceTwin (text.slice start stop) (text'.slice start' stop') := by
  unfold SourceTwin source place at *
  cases placed : l.placed with
  | false => rfl
  | true =>
    simp only [placed, if_true] at *
    subst starts stops
    rw [name_slice, name_slice, texts]

/-- White space is white space in every spelling. -/
theorem SourceTwin.trimmedEnd {start start' stop stop' : Nat} (texts : l.SourceTwin text text')
    (starts : l.place start = l.place start') (stops : l.place stop = l.place stop') :
    l.place (trimmedEnd text start stop) = l.place (trimmedEnd text' start' stop') := by
  unfold SourceTwin source place at *
  cases placed : l.placed with
  | false => rfl
  | true =>
    simp only [placed, if_true] at *
    subst starts stops
    rw [← trimmedEnd_name l text, texts, trimmedEnd_name]

end Likeness

/-- The clause with what is compared of its names. -/
def UseClause.outline (l : Likeness) (u : UseClause) : UseClause := ⟨l.name u.library, l.name u.package, l.name u.item⟩

def Interface.outline (l : Likeness) (u : Interface) : Interface := { u with name := l.name u.name }

def Architecture.outline (l : Likeness) (a : Architecture) : Architecture :=
  { a with name := l.name a.name, entityName := l.name a.entityName }

def Generate.outline (l : Likeness) (g : Generate) : Generate :=
  { g with label := l.name g.label, iterator := l.name g.iterator }

def Package.outline (l : Likeness) (p : Package) : Package := { p with name := l.name p.name }

def Declared.outline (l : Likeness) (d : Declared) : Declared :=
  { d with name := l.name d.name, typeText := l.source d.typeText }

def TypeDecl.outline (l : Likeness) (d : TypeDecl) : TypeDecl := { d with name := l.name d.name }

def Subprogram.outline (l : Likeness) (f : Subprogram) : Subprogram :=
  { f with name := l.name f.name, returnType := l.source f.returnType }

def Instantiation.outline (l : Likeness) (i : Instantiation) : Instantiation :=
  { i with label := l.name i.label, library := l.name i.library, unitName := l.name i.unitName }

def Assignment.outline (l : Likeness) (a : Assignment) : Assignment := { a with label := l.name a.label }

def IfStatement.outline (l : Likeness) (s : IfStatement) : IfStatement := { s with label := l.name s.label }

def IfClause.outline (l : Likeness) (c : IfClause) : IfClause := { c with conditionText := l.source c.conditionText }

def CaseStatement.outline (l : Likeness) (s : CaseStatement) : CaseStatement := { s with label := l.name s.label }

def Loop.outline (l : Likeness) (s : Loop) : Loop := { s with label := l.name s.label, iterator := l.name s.iterator }

def Process.outline (l : Likeness) (p : Process) : Process := { p with label := l.name p.label }

namespace Construct

/-- The construct with what is compared of its names and of the stretches of source that it holds. -/
def outline (l : Likeness) : Construct → Construct
  | file => file
  | useClause u => useClause (u.outline l)
  | entity u => entity (u.outline l)
  | component u => component (u.outline l)
  | architecture a => architecture (a.outline l)
  | generate g => generate (g.outline l)
  | package p => package (p.outline l)
  | signal d => signal (d.outline l)
  | port d direction => port (d.outline l) direction
  | localVariable d => localVariable (d.outline l)
  | constant d => constant (d.outline l)
  | generic d => generic (d.outline l)
  | typeDecl d => typeDecl (d.outline l)
  | state name => state (l.name name)
  | recordField name typeText => recordField (l.name name) (l.source typeText)
  | function f => function (f.outline l)
  | instantiation i => instantiation (i.outline l)
  | map mappings => map mappings
  | mapping m => mapping m
  | read text isElement => read (l.name text) isElement
  | write text => write (l.name text)
  | assignment a => assignment (a.outline l)
  | ifStatement s => ifStatement (s.outline l)
  | ifClause c => ifClause (c.outline l)
  | caseStatement s => caseStatement (s.outline l)
  | caseArm a => caseArm a
  | loop s => loop (s.outline l)
  | process p => process (p.outline l)

/-- Whether the construct is a read or a write, which stands for a single token. -/
def isOccurrence : Construct → Bool
  | read _ _ | write _ => true
  | _ => false

/-- A use clause that names a package names its library. -/
def NamesLibrary : Construct → Prop
  | useClause u => u.package = [] ∨ u.library ≠ []
  | _ => True

end Construct

/-- The node with what is compared of its place and its construct. -/
def Node.outline (l : Likeness) (n : Node) : Node :=
  ⟨n.parent, l.place n.start, l.place n.stop, n.construct.outline l⟩

namespace Tree

/-- The tree with what is compared of its text and its nodes. -/
def outline (l : Likeness) (t : Tree) : Tree :=
  { t with text := l.source t.text, libraries := t.libraries.map l.name, nodes := t.nodes.map (Node.outline l) }

variable {l : Likeness} {t t' : Tree} {id : Nat}

@[simp] theorem outline_size (t : Tree) : (t.outline l).nodes.size = t.nodes.size := Array.size_map

@[simp] theorem outline_node? (t : Tree) (id : Nat) : (t.outline l).node? id = (t.node? id).map (Node.outline l) :=
  Array.getElem?_map

@[simp] theorem outline_construct? (t : Tree) (id : Nat) :
    (t.outline l).construct? id = (t.construct? id).map (Construct.outline l) := by
  simp only [construct?, outline_node?, Option.map_map]
  rfl

@[simp] theorem outline_parent? (t : Tree) (id : Nat) : (t.outline l).parent? id = t.parent? id := by
  rw [parent?, outline_node?, parent?]
  cases t.node? id <;> rfl

theorem outline_reachesFile (t : Tree) (steps id : Nat) :
    (t.outline l).reachesFile steps id = t.reachesFile steps id := by
  induction steps generalizing id with
  | zero => rfl
  | succ steps ih => simp only [reachesFile, outline_parent?, ih]

@[simp] theorem outline_checkRoot (t : Tree) (id : Nat) : (t.outline l).checkRoot id = t.checkRoot id := by
  rw [checkRoot, outline_reachesFile, checkRoot]

theorem outline_push (t : Tree) (node : Node) :
    ({ t with nodes := t.nodes.push node } : Tree).outline l =
      { t.outline l with nodes := (t.outline l).nodes.push (node.outline l) } := by
  simp [outline]

theorem outline_modify {change change' : Node → Node} (same : ∀ n, (change n).outline l = change' (n.outline l)) :
    (t.modify id change).outline l = (t.outline l).modify id change' := by
  have nodes_eq : ((t.modify id change).outline l).nodes = ((t.outline l).modify id change').nodes := by
    refine Array.ext_getElem? fun i => ?_
    simp only [outline, modify, Array.getElem?_map, Array.getElem?_modify]
    split
    · simp only [Option.map_map]
      exact congrArg (Option.map · _) (funext same)
    · rfl
  exact congrArg (fun nodes => ({ t.outline l with nodes } : Tree)) nodes_eq

theorem size_eq (same : t.outline l = t'.outline l) : t.nodes.size = t'.nodes.size := by
  rw [← outline_size (l := l) t, same, outline_size]

end Tree
end DesignLint
