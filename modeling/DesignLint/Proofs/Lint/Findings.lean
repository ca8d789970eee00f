import DesignLint.Proofs.Lint.Undeclared
import DesignLint.Proofs.Parse.Ranges
import DesignLint.Proofs.Project.Symbols
import DesignLint.Proofs.Source.Coordinate
import DesignLint.Proofs.Text.Decoding
import DesignLint.Run.Analysis

/-! What every finding of a file is like: one of the rules with its own severity, in the file, with a message, and
at a place in the text. The checks only pass findings on, so it is enough to look at where one is made. What is said not
to be declared stands at the place of the finding. -/
namespace DesignLint

/-- A coordinate of a place in a text, or of the end of one of its lines. -/
def Coordinate.IsIn (text : Bytes) (c : Coordinate) : Prop :=
  ∃ line character : Nat, c = ⟨line, character⟩ ∧ line ≤ text.length ∧
    (character ≤ text.length ∨ (character : Int) = Coordinate.endOfLine)

/-- A finding as the checks of a tree make it. -/
structure Diagnostic.IsOf (t : Tree) (d : Diagnostic) : Prop where
  rule : ∃ rule : Rule, d.rule = rule.name ∧ d.severity = rule.severity
  file : d.file = t.path
  message : d.message ≠ []
  start : d.range.start.IsIn t.text
  stop : d.range.stop.IsIn t.text

theorem Coordinate.advance_le (line character : Nat) (text : Bytes) :
    (advance line character text).1 ≤ line + text.length ∧ (advance line character text).2 ≤ character + text.length := by
  fun_induction advance line character text with
  | case1 => exact ⟨Nat.le_refl _, Nat.le_refl _⟩
  | case2 line character rest ih => simp only [List.length_cons]; omega
  | case3 line character b rest _ ih => simp only [List.length_cons]; omega

theorem Coordinate.isIn_ofOffset (text : Bytes) (offset : Nat) : (ofOffset text offset).IsIn text := by
  obtain ⟨line, character⟩ := advance_le 0 0 (text.take offset)
  have shorter := List.length_take_le' offset text
  exact ⟨_, _, rfl, by omega, .inl (by omega)⟩

theorem Tree.isIn_span (t : Tree) (id : Nat) : (t.span id).start.IsIn t.text ∧ (t.span id).stop.IsIn t.text := by
  rw [span]
  cases t.node? id with
  | some node => exact ⟨Coordinate.isIn_ofOffset .., Coordinate.isIn_ofOffset ..⟩
  | none => exact ⟨⟨0, 0, rfl, Nat.zero_le _, .inl (Nat.zero_le _)⟩, ⟨0, 0, rfl, Nat.zero_le _, .inl (Nat.zero_le _)⟩⟩

theorem Bytes.ofString_ne_nil {s : String} (filled : s ≠ "") : Bytes.ofString s ≠ [] :=
  fun same => filled (Bytes.ofString_injective (same.trans (show [] = Bytes.ofString "" by decide)))

theorem append_ne_empty {s more : String} (filled : s ≠ "") : s ++ more ≠ "" :=
  fun empty => filled (String.append_eq_empty_iff.mp empty).1

theorem AnalysisFault.message_ne_empty (f : AnalysisFault) : f.message ≠ "" :=
  append_ne_empty (append_ne_empty (append_ne_empty (by decide)))

namespace Lint

/-- A check that makes only findings that something holds of. -/
def Makes (p : Diagnostic → Prop) (check : Except Fault (List Diagnostic)) : Prop := ∀ found, check = .ok found → ∀ d ∈ found, p d

namespace Makes

variable {p : Diagnostic → Prop} {α σ : Type} {x : Except Fault α} {first : Except Fault (List Diagnostic)}
  {check : σ → Except Fault (List Diagnostic)} {xs : List σ}

theorem pure {found : List Diagnostic} (made : ∀ d ∈ found, p d) : Makes p (pure found) := by
  rintro _ ⟨⟩
  exact made

theorem one {d : Diagnostic} (made : p d) : Makes p (Pure.pure [d]) := pure (by simpa using made)

theorem none : Makes p (Pure.pure []) := pure (by simp)

/-- What is computed before plays no part. -/
theorem after {f : α → Except Fault (List Diagnostic)} (next : ∀ a, Makes p (f a)) : Makes p (x >>= f) := by
  cases x with
  | error fault => exact fun _ failed => nomatch failed
  | ok a => exact next a

theorem bind {f : List Diagnostic → Except Fault (List Diagnostic)} (made : Makes p first)
    (next : ∀ found, (∀ d ∈ found, p d) → Makes p (f found)) : Makes p (first >>= f) := by
  cases first with
  | error fault => exact fun _ failed => nomatch failed
  | ok found => exact next found (made found rfl)

/-- Checks of several things, one after the other. -/
theorem each {f : List (List Diagnostic) → Except Fault (List Diagnostic)} (made : ∀ s ∈ xs, Makes p (check s))
    (next : ∀ found, (∀ d ∈ found.flatten, p d) → Makes p (f found)) : Makes p (xs.mapM check >>= f) := by
  induction xs generalizing f with
  | nil => exact next [] (by simp)
  | cons s xs ih =>
    rw [List.mapM_cons, bind_assoc]
    obtain ⟨first, others⟩ := List.forall_mem_cons.mp made
    refine bind first fun found here => ?_
    rw [bind_assoc]
    refine ih others fun more later => next (found :: more) ?_
    rw [List.flatten_cons]
    exact List.forall_mem_append.mpr ⟨here, later⟩

theorem flatten (made : ∀ s ∈ xs, Makes p (check s)) : Makes p (xs.mapM check >>= fun found => Pure.pure found.flatten) :=
  each made fun _ all => pure all

theorem append {second : Except Fault (List Diagnostic)} (before : Makes p first) (later : Makes p second) :
    Makes p (first >>= fun found => second >>= fun more => Pure.pure (found ++ more)) :=
  bind before fun _ found => bind later fun _ more => pure (List.forall_mem_append.mpr ⟨found, more⟩)

end Makes

variable {s : Subject} {facts : Facts (Except Fault)}

theorem isOf_undeclared (s : Subject) (id : NodeId) (name : Bytes) (verb : String) : (undeclared s id name verb).IsOf s.tree where
  rule := ⟨.undeclared, rfl, rfl⟩
  file := rfl
  message := by
    have words := Bytes.ofString_ne_nil (show "signal '" ≠ "" by decide)
    simp [undeclared, Diagnostic.ofRule, words]
  start := (s.tree.isIn_span id).1
  stop := (s.tree.isIn_span id).2

theorem isOf_checkWrite (s : Subject) (id : NodeId) : Makes (Diagnostic.IsOf s.tree) (checkWrite s id) := by
  refine .after fun resolved => ?_
  cases resolved with
  | true => exact .none
  | false => exact .one (isOf_undeclared ..)

theorem isOf_checkRead (s : Subject) (id : NodeId) : Makes (Diagnostic.IsOf s.tree) (checkRead s id) := by
  refine .after fun resolved => ?_
  cases resolved with
  | some _ => exact .none
  | none => exact .one (isOf_undeclared ..)

theorem isOf_checkWrites (s : Subject) (ids : List NodeId) : Makes (Diagnostic.IsOf s.tree) (checkWrites s ids) :=
  .flatten fun id _ => isOf_checkWrite s id

theorem isOf_checkReads (s : Subject) (ids : List NodeId) : Makes (Diagnostic.IsOf s.tree) (checkReads s ids) :=
  .flatten fun id _ => isOf_checkRead s id

theorem isOf_checkProcess (facts : Facts (Except Fault)) (s : Subject) (id : NodeId) :
    Makes (Diagnostic.IsOf s.tree) (checkProcess facts s id) := by
  refine .after fun writes => .after fun reads => ?_
  refine .bind (isOf_checkWrites s writes) fun _ written => .bind (isOf_checkReads s _) fun _ sensitive => ?_
  refine .bind (isOf_checkReads s reads) fun _ read => .pure ?_
  exact List.forall_mem_append.mpr ⟨List.forall_mem_append.mpr ⟨written, sensitive⟩, read⟩

theorem isOf_checkAssignment (s : Subject) (id : NodeId) : Makes (Diagnostic.IsOf s.tree) (checkAssignment s id) :=
  .append (isOf_checkWrites s _) (isOf_checkReads s _)

theorem isOf_checkInstance (facts : Facts (Except Fault)) (s : Subject) (id : NodeId) :
    Makes (Diagnostic.IsOf s.tree) (checkInstance facts s id) := by
  refine .after fun unit => .after fun writes => .bind (isOf_checkWrites s writes) fun _ written => ?_
  refine .after fun reads => .bind (isOf_checkReads s reads) fun _ read => .pure ?_
  exact List.forall_mem_append.mpr ⟨written, read⟩

theorem isOf_checkGenerate (s : Subject) (id : NodeId) : Makes (Diagnostic.IsOf s.tree) (checkGenerate s id) :=
  .append (isOf_checkReads s _) (isOf_checkReads s _)

theorem isOf_checkBody (facts : Facts (Except Fault)) (s : Subject) (b : Body) : Makes (Diagnostic.IsOf s.tree) (checkBody facts s b) := by
  refine .each (fun id _ => isOf_checkProcess facts s id) fun _ processes => ?_
  refine .each (fun id _ => isOf_checkAssignment s id) fun _ assignments => ?_
  refine .each (fun id _ => isOf_checkInstance facts s id) fun _ instances => ?_
  refine .each (fun id _ => isOf_checkGenerate s id) fun _ generates => .pure ?_
  simp only [List.flatten_append, List.forall_mem_append]
  exact ⟨⟨⟨processes, assignments⟩, instances⟩, generates⟩

theorem isOf_checkReset (facts : Facts (Except Fault)) (s : Subject) (b : Body) (signal : NodeId) :
    Makes (Diagnostic.IsOf s.tree) (checkReset facts s b signal) := by
  refine .after fun process => ?_
  cases process with
  | none => exact .none
  | some process =>
    refine .after fun reset => ?_
    cases reset with
    | true => exact .none
    | false =>
      obtain ⟨line, character, start, inside, short⟩ := (s.tree.isIn_span process).1
      refine .one ⟨⟨.missingReset, rfl, rfl⟩, rfl, ?_, ⟨line, character, start, inside, short⟩, ?_⟩
      · have words := Bytes.ofString_ne_nil (show "Reset '" ≠ "" by decide)
        simp [Diagnostic.ofRule, words]
      · exact ⟨line, Coordinate.endOfLine.toNat, by simp [Diagnostic.ofRule, start, Coordinate.endOfLine], inside,
          .inr rfl⟩

/-- All checks make findings of the tree only. -/
theorem isOf_checkAll (facts : Facts (Except Fault)) (s : Subject) : Makes (Diagnostic.IsOf s.tree) (checkAll facts s) := by
  refine .append (.flatten fun b _ => isOf_checkBody facts s b) (.flatten fun b _ => ?_)
  exact .flatten fun signal _ => isOf_checkReset facts s b signal

/-- A finding that a name which is read or written at a node is not declared. -/
def Subject.MissesName (s : Subject) (d : Diagnostic) : Prop :=
  ∃ id node name verb, s.tree.node? id = some node ∧ node.construct.quoted? = some name ∧
    (verb = "read" ∨ verb = "written") ∧ d = undeclared s id name verb

section

open Tree

variable {a y id : Nat} {ids : List NodeId} {rules : InferenceRules}

theorem missesName_checkWrite (write : s.tree.role? id = some .write) : Makes s.MissesName (checkWrite s id) := by
  obtain ⟨c, known, same⟩ := Option.map_eq_some_iff.mp write
  obtain ⟨node, here, rfl⟩ := Option.map_eq_some_iff.mp known
  refine .after fun resolved => ?_
  cases resolved with
  | true => exact .none
  | false =>
    cases drawn : node.construct <;> rw [drawn] at same <;> simp only [Construct.role, reduceCtorEq] at same
    rename_i name
    refine .one ⟨id, node, name, "written", here, by rw [drawn]; rfl, .inr rfl, ?_⟩
    rw [get?, known, drawn]
    rfl

theorem missesName_checkRead (read : s.tree.role? id = some .read) : Makes s.MissesName (checkRead s id) := by
  obtain ⟨c, known, same⟩ := Option.map_eq_some_iff.mp read
  obtain ⟨node, here, rfl⟩ := Option.map_eq_some_iff.mp known
  refine .after fun resolved => ?_
  cases resolved with
  | some _ => exact .none
  | none =>
    cases drawn : node.construct <;> rw [drawn] at same <;> simp only [Construct.role, reduceCtorEq] at same
    rename_i name isElement
    refine .one ⟨id, node, name, "read", here, by rw [drawn]; rfl, .inl rfl, ?_⟩
    rw [get?, known, drawn]
    rfl

theorem missesName_checkWrites (writes : ∀ id ∈ ids, s.tree.role? id = some .write) :
    Makes s.MissesName (checkWrites s ids) :=
  .flatten fun id member => missesName_checkWrite (writes id member)

theorem missesName_checkReads (reads : ∀ id ∈ ids, s.tree.role? id = some .read) :
    Makes s.MissesName (checkReads s ids) :=
  .flatten fun id member => missesName_checkRead (reads id member)

theorem missesName_checkProcess (formed : s.tree.WellFormed) {p : Process} (known : s.tree.construct? y = some (.process p)) :
    Makes s.MissesName (checkProcess (s.tree.facts rules) s y) := by
  have process := role?_of_construct? known
  have sensed : ((s.tree.get? Construct.process? y).map Process.sensitivity).getD [] = p.sensitivity := by
    rw [get?, known]
    rfl
  rw [checkProcess, sensed]
  simp only [facts, flattenWrites, flattenReads, formed.flatten_process known, liftTree]
  have written := missesName_checkWrites fun _ member => formed.role?_of_mem_nestedWrites process member
  have sensitive : Makes s.MissesName (checkReads s p.sensitivity) :=
    missesName_checkReads fun _ member => formed.role?_of_mem_members listed_read known member
  have read := missesName_checkReads fun _ member => formed.role?_of_mem_nestedReads process member
  refine .bind written fun _ written => .bind sensitive fun _ sensitive => .bind read fun _ read => .pure ?_
  exact List.forall_mem_append.mpr ⟨List.forall_mem_append.mpr ⟨written, sensitive⟩, read⟩

theorem missesName_checkAssignment (formed : s.tree.WellFormed) {statement : Assignment}
    (known : s.tree.construct? y = some (.assignment statement)) : Makes s.MissesName (checkAssignment s y) := by
  have here : (s.tree.get? Construct.assignment? y).getD {} = statement := by
    rw [get?, known]
    rfl
  rw [checkAssignment, here]
  exact .append (missesName_checkWrites fun _ member => formed.role?_of_mem_members listed_write known member)
    (missesName_checkReads fun _ member => formed.role?_of_mem_members listed_read known member)

theorem missesName_checkGenerate (formed : s.tree.WellFormed) {g : Generate}
    (known : s.tree.construct? y = some (.generate g)) : Makes s.MissesName (checkGenerate s y) := by
  have here : (s.tree.get? Construct.generate? y).getD {} = g := by
    rw [get?, known]
    rfl
  have reads : ∀ id ∈ g.bounds ++ g.condition, s.tree.role? id = some .read := fun id member =>
    formed.role?_of_mem_members listed_read known member
  rw [checkGenerate, here]
  exact .append (missesName_checkReads fun id member => reads id (List.mem_append_left _ member))
    (missesName_checkReads fun id member => reads id (List.mem_append_right _ member))

theorem missesName_checkInstance (formed : s.tree.WellFormed) {i : Instantiation}
    (known : s.tree.construct? y = some (.instantiation i)) :
    Makes s.MissesName (checkInstance (s.tree.facts rules) s y) := by
  have here : s.tree.get? Construct.instantiation? y = some i := by
    rw [get?, known]
    rfl
  refine .after fun unit => ?_
  simp only [facts, here, Option.elim_some]
  exact .append (missesName_checkWrites fun _ member => formed.role?_of_mem_instanceWrites known member)
    (missesName_checkReads fun _ member => formed.role?_of_mem_instanceReads known member)

theorem missesName_checkBody (formed : s.tree.WellFormed) (architecture : s.tree.role? a = some .architecture) {u : Nat}
    (unit : u ∈ s.tree.units a) : Makes s.MissesName (checkBody (s.tree.facts rules) s (s.tree.bodyOf u)) := by
  have item (role : Role) (among : role ∈ itemRoles) {y : Nat} (member : y ∈ (s.tree.bodyOf u).members role) :=
    item_of_mem_body formed architecture unit role among member
  refine .each (fun y member => ?processes) fun _ processes => .each (fun y member => ?assignments) fun _ assignments => ?_
  case processes =>
    obtain ⟨_, c, known, same⟩ := item .process (by simp [itemRoles]) member
    cases c <;> simp only [Construct.role, reduceCtorEq] at same
    exact missesName_checkProcess formed known
  case assignments =>
    obtain ⟨listed, c, known, same⟩ := item .statement (by simp [itemRoles]) member
    obtain ⟨statement, known⟩ := formed.assignment_of_item architecture listed (same ▸ role?_of_construct? known)
    exact missesName_checkAssignment formed known
  refine .each (fun y member => ?instances) fun _ instances => .each (fun y member => ?generates) fun _ generates => .pure ?_
  case instances =>
    obtain ⟨_, c, known, same⟩ := item .instantiation (by simp [itemRoles]) member
    cases c <;> simp only [Construct.role, reduceCtorEq] at same
    exact missesName_checkInstance formed known
  case generates =>
    obtain ⟨_, c, known, same⟩ := item .generate (by simp [itemRoles]) member
    cases c <;> simp only [Construct.role, reduceCtorEq] at same
    exact missesName_checkGenerate formed known
  simp only [List.flatten_append, List.forall_mem_append]
  exact ⟨⟨⟨processes, assignments⟩, instances⟩, generates⟩

/-- The check for undeclared names makes findings about reads and writes only. -/
theorem missesName_checkUndeclared (formed : s.tree.WellFormed) :
    Makes s.MissesName (checkUndeclared (s.tree.facts rules) s) := by
  refine .flatten fun b member => ?_
  cases found : s.tree.architecture with
  | none =>
    have none_ : s.tree.bodies = [] := by simp [bodies, architectureUnit?, found]
    rw [none_] at member
    contradiction
  | some a =>
    rw [formed.bodies_eq found] at member
    obtain ⟨u, unit, rfl⟩ := List.mem_map.mp member
    exact missesName_checkBody formed (formed.architecture a found) unit

/-- What is missed stands between the coordinates of the finding. -/
theorem Subject.MissesName.slice {path : String} {text library : Bytes} {t : Tree} {tokens : List Token} {d : Diagnostic}
    (parsed : Tree.parse path text = .ok t) (lexed : tokenize text = .ok tokens) (tree : s.tree = { t with library })
    (misses : s.MissesName d) : ∃ tok ∈ tokens, tok.isName = true ∧ ∃ verb, (verb = "read" ∨ verb = "written") ∧
      d.message = Bytes.ofString "signal '" ++ tok.text ++ Bytes.ofString ("' is " ++ verb ++ " but not declared") ∧
      text.slice (Coordinate.toOffset text d.range.start) (Coordinate.toOffset text d.range.stop) = tok.text := by
  obtain ⟨id, node, name, verb, known, quotes, isVerb, rfl⟩ := misses
  obtain ⟨_, lexed', marks, _⟩ := marks_of_parse parsed
  cases lexed.symm.trans lexed'
  have here : t.node? id = some node := by
    rw [tree] at known
    exact known
  obtain ⟨piece, _, tok, member, named, rfl, starts, stops⟩ := marks id node name here quotes
  have inside := (tokenize_tokensOf lexed).inside tok member
  have start_le : tok.offset ≤ text.length := Nat.le_trans (Nat.le_add_right _ _) inside
  have text_eq : s.tree.text = text := by
    rw [tree]
    exact (wellFormed_of_parse parsed).2
  have span : (undeclared s id tok.text verb).range =
      ⟨Coordinate.ofOffset text node.start, Coordinate.ofOffset text node.stop⟩ := by
    rw [undeclared, Diagnostic.ofRule, Tree.span, known, text_eq]
  refine ⟨tok, member, named, verb, isVerb, rfl, ?_⟩
  rw [span, Coordinate.toOffset_ofOffset (starts ▸ start_le), Coordinate.toOffset_ofOffset (stops ▸ inside)]
  exact piece

/-- Findings point at the name that they are about. In a parsed text the range of every read and write cuts out what the
node quotes, and that is a name of the text, no reserved word. Between the coordinates of every finding about an undeclared
name stands exactly the name that its message quotes, whatever the file is linked to. No two reads and no two writes
that one field holds have the same range. -/
theorem findings_point_at_names {path : String} {text : Bytes} {t : Tree} (parsed : Tree.parse path text = .ok t) :
    ∃ tokens, tokenize text = .ok tokens ∧
      (∀ (id : Nat) (node : Node) (name : Bytes), t.node? id = some node → node.construct.quoted? = some name →
        text.slice node.start node.stop = name ∧
          ∃ tok ∈ tokens, tok.isName = true ∧ tok.text = name ∧ tok.offset = node.start ∧ tok.stop = node.stop) ∧
      (∀ (library : Bytes) (s : Subject), s.tree = { t with library } → ∀ (rules : InferenceRules) (found : List Diagnostic),
        checkUndeclared (s.tree.facts rules) s = (.ok found : Except Fault _) → ∀ d ∈ found,
          ∃ tok ∈ tokens, tok.isName = true ∧ ∃ verb, (verb = "read" ∨ verb = "written") ∧
            d.message = Bytes.ofString "signal '" ++ tok.text ++ Bytes.ofString ("' is " ++ verb ++ " but not declared") ∧
            text.slice (Coordinate.toOffset text d.range.start) (Coordinate.toOffset text d.range.stop) = tok.text) ∧
      ∀ holder : Nat, ∀ field ∈ t.fieldsOf holder, field.2.ids.Pairwise fun i j => ∀ a b : Node,
        t.node? i = some a → t.node? j = some b → a.construct.role.isMark = true → b.construct.role.isMark = true →
          (a.start, a.stop) ≠ (b.start, b.stop) := by
  obtain ⟨tokens, lexed, marks, fields⟩ := marks_of_parse parsed
  refine ⟨tokens, lexed, fun id node name known quotes => ?_, fun library s tree rules found checked d member => ?_,
    fun holder field member => ?_⟩
  · obtain ⟨piece, _, tok, among, named⟩ := marks id node name known quotes
    exact ⟨piece, tok, among, named⟩
  · have formed : s.tree.WellFormed := (wellFormed_of_parse parsed).1.retree (by rw [tree]) (by rw [tree])
    exact (missesName_checkUndeclared formed found checked d member).slice parsed lexed tree
  · refine (fields holder field member).imp fun {i j} precedes a b first next mark mark' same => ?_
    obtain ⟨name, quotes⟩ := Option.isSome_iff_exists.mp ((Construct.isSome_quoted? a.construct).trans mark)
    have filled := (marks i a name first quotes).2.1
    have := precedes a b first next mark mark'
    obtain ⟨starts, _⟩ := Prod.mk.inj same
    omega

/-- A name with blanks and an apostrophe is driven by another one, which stands twice behind a line break. -/
def oddNames : Bytes := Bytes.ofString
  "architecture a of e is\nbegin\n  \\it's odd\\ <=\n\tnone_ and -- twice\n\tnone_;\nend;\n"

/-- Each of the three names is found at its own place. -/
theorem oddNames_pointed_at : ∃ t d₁ d₂ d₃, Tree.parse "design.vhd" oddNames = .ok t ∧
    checkUndeclared (t.facts .standard) ⟨⟨#[{ tree := t }]⟩, 0, t, [], fun _ _ => none⟩ =
      (.ok [d₁, d₂, d₃] : Except Fault _) ∧
    d₁.message = Bytes.ofString "signal '\\it's odd\\' is written but not declared" ∧
    d₁.range = ⟨⟨2, 2⟩, ⟨2, 12⟩⟩ ∧ d₂.range = ⟨⟨3, 1⟩, ⟨3, 6⟩⟩ ∧ d₃.range = ⟨⟨4, 1⟩, ⟨4, 6⟩⟩ ∧
    (∃ tokens, tokenize oddNames = .ok tokens ∧ ∀ d ∈ [d₁, d₂, d₃], ∃ tok ∈ tokens, tok.isName = true ∧
      oddNames.slice (Coordinate.toOffset oddNames d.range.start) (Coordinate.toOffset oddNames d.range.stop) = tok.text) ∧
    ∃ field ∈ t.fieldsOf 2, field.2.ids = [4, 5] ∧ ∀ a b, t.node? 4 = some a → t.node? 5 = some b →
      a.construct.role.isMark = true → b.construct.role.isMark = true → (a.start, a.stop) ≠ (b.start, b.stop) := by
  obtain ⟨t, parsed, holds⟩ := exists_ok_of_any (show (Tree.parse "design.vhd" oddNames).toOption.any (fun t =>
    (t.fieldsOf 2).any (fun field => decide (field.2.ids = [4, 5])) &&
    (checkUndeclared (t.facts .standard) ⟨⟨#[{ tree := t }]⟩, 0, t, [], fun _ _ => none⟩ : Except Fault _).toOption.any
      fun found => decide (found.length = 3 ∧ found.map Diagnostic.range =
          [⟨⟨2, 2⟩, ⟨2, 12⟩⟩, ⟨⟨3, 1⟩, ⟨3, 6⟩⟩, ⟨⟨4, 1⟩, ⟨4, 6⟩⟩] ∧
        found.head?.map Diagnostic.message =
          some (Bytes.ofString "signal '\\it's odd\\' is written but not declared"))) = true by
      rw [oddNames, Bytes.ofString_ofList]
      decide +kernel)
  obtain ⟨held, checked⟩ := Bool.and_eq_true_iff.mp holds
  obtain ⟨field, listed, ids⟩ := List.any_eq_true.mp held
  cases made : (checkUndeclared (t.facts .standard) ⟨⟨#[{ tree := t }]⟩, 0, t, [], fun _ _ => none⟩ : Except Fault _) with
  | error fault =>
    rw [made] at checked
    contradiction
  | ok found =>
    rw [made] at checked
    obtain ⟨three, ranges, message⟩ := of_decide_eq_true checked
    obtain ⟨d₁, d₂, d₃, rfl⟩ := List.length_eq_three.mp three
    obtain ⟨tokens, lexed, _, pointed, fields⟩ := findings_point_at_names parsed
    simp only [List.map_cons, List.map_nil, List.cons.injEq, and_true] at ranges
    refine ⟨t, d₁, d₂, d₃, parsed, made, Option.some.inj message, ranges.1, ranges.2.1, ranges.2.2,
      ⟨tokens, lexed, fun d member => ?_⟩, field, listed, of_decide_eq_true ids, ?_⟩
    · obtain ⟨tok, among, named, _, _, _, piece⟩ := pointed t.library
        ⟨⟨#[{ tree := t }]⟩, 0, t, [], fun _ _ => none⟩ rfl .standard _ made d member
      exact ⟨tok, among, named, piece⟩
    · have apart := fields 2 field listed
      rw [of_decide_eq_true ids] at apart
      exact (List.pairwise_cons.mp apart).1 5 (List.mem_singleton_self 5)

end

end Lint

namespace Project

theorem isOf_unresolvedUses {f : DesignFile} {d : Diagnostic} (member : d ∈ unresolvedUses f) : d.IsOf f.tree := by
  obtain ⟨⟨id, u⟩, _, rfl⟩ := List.mem_map.mp member
  refine ⟨⟨.unresolvedUse, rfl, rfl⟩, rfl, ?_, (f.tree.isIn_span id).1, (f.tree.isIn_span id).2⟩
  have words := Bytes.ofString_ne_nil (show "package '" ≠ "" by decide)
  simp [Diagnostic.ofRule, words]

theorem isOf_findings {p : Project} {ignoreRegions : Bool} {f : DesignFile} {file : Nat} {found : List Diagnostic}
    (checked : p.findings ignoreRegions f file = .ok found) : ∀ d ∈ found, d.IsOf f.tree := by
  rw [findings] at checked
  have made := Lint.isOf_checkAll (f.tree.facts f.rules) (p.subject f file)
  generalize (Lint.checkAll (f.tree.facts f.rules) (p.subject f file) : Except Fault _) = outcome at checked made
  cases outcome with
  | error fault => contradiction
  | ok all =>
    have every : ∀ d ∈ unresolvedUses f ++ all, d.IsOf f.tree :=
      List.forall_mem_append.mpr ⟨fun d => isOf_unresolvedUses, made all rfl⟩
    cases checked
    intro d member
    split at member
    · rw [Region.keepOutside] at member
      split at member
      · exact every d member
      · exact every d (List.mem_filter.mp member).1
    · exact every d member

theorem eq_of_link {options : AnalysisOptions} {trees : List Tree} {p : Project} (linked : link options trees = .ok p) :
    p = ofTrees ⟨options.rules, options.followLibraries⟩ trees := by
  rw [link] at linked
  cases roots : trees.forM Tree.checkRoots with
  | error fault => rw [roots] at linked; contradiction
  | ok _ => rw [roots] at linked; exact (Except.ok.inj linked).symm

theorem tree_of_mem_members {settings : LinkSettings} {trees : List Tree} {m : DesignFile × Nat}
    (member : m ∈ (ofTrees settings trees).members) : m.1.tree ∈ trees := by
  rw [members_ofTrees] at member
  obtain ⟨t, listed, same⟩ := List.mem_map.mp (List.fst_mem_of_mem_zipIdx member)
  rw [← same]
  exact listed

/-- The outcome of the checks of a file is about a tree, and a failure says at which step. -/
theorem of_mem_checkFiles {options : AnalysisOptions} {trees : List Tree} {p : Project}
    (linked : link options trees = .ok p) {isThirdParty : String → Bool} {c : CheckedFile}
    (member : c ∈ p.checkFiles options isThirdParty) : ∃ t ∈ trees,
      (∀ found, c.outcome = .ok found → ∀ d ∈ found, d.IsOf t) ∧
      ∀ failed, c.outcome = .error failed → failed.file = t.path ∧ failed.kind = FailureKind.analysis.word ∧
        failed.message ≠ [] := by
  obtain ⟨m, kept, same⟩ := List.mem_map.mp member
  have listed := (List.mem_filter.mp kept).1
  rw [eq_of_link linked] at listed
  refine ⟨m.1.tree, tree_of_mem_members listed, ?_⟩
  cases checked : p.findings options.ignoreRegions m.1 m.2 with
  | ok found =>
    simp only [checked] at same
    subst same
    exact ⟨fun _ same => by cases same; exact isOf_findings checked, fun _ failed => nomatch failed⟩
  | error fault =>
    simp only [checked] at same
    subst same
    refine ⟨fun _ found => (nomatch found), fun _ same => ?_⟩
    cases same
    exact ⟨rfl, rfl, Bytes.ofString_ne_nil fault.message_ne_empty⟩

/-- Every finding of a run is one of the tree of a file. -/
theorem isOf_allFindings {options : AnalysisOptions} {trees : List Tree} {p : Project}
    (linked : link options trees = .ok p) {isThirdParty : String → Bool} {d : Diagnostic}
    (member : d ∈ LintReport.allFindings (p.checkFiles options isThirdParty)) : ∃ t ∈ trees, d.IsOf t := by
  obtain ⟨c, listed, member⟩ := List.mem_flatMap.mp member
  obtain ⟨t, known, made, _⟩ := of_mem_checkFiles linked listed
  cases outcome : c.outcome with
  | error failed => rw [outcome] at member; contradiction
  | ok found => rw [outcome] at member; exact ⟨t, known, made found outcome d member⟩

/-- Every file that fails its checks is that of a tree, and something is said about it. -/
theorem of_mem_checkFailures {options : AnalysisOptions} {trees : List Tree} {p : Project}
    (linked : link options trees = .ok p) {isThirdParty : String → Bool} {failed : FailedFile}
    (member : failed ∈ LintReport.checkFailures (p.checkFiles options isThirdParty)) : ∃ t ∈ trees,
      failed.file = t.path ∧ failed.kind = FailureKind.analysis.word ∧ failed.message ≠ [] := by
  obtain ⟨c, listed, outcome⟩ := List.mem_filterMap.mp member
  obtain ⟨t, known, _, told⟩ := of_mem_checkFiles linked listed
  cases same : c.outcome with
  | ok found => rw [same] at outcome; contradiction
  | error other =>
    rw [same] at outcome
    exact ⟨t, known, told failed (same.trans (congrArg _ (Option.some.inj outcome)))⟩

end Project

end DesignLint
