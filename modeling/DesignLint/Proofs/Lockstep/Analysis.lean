import DesignLint.Lint.Check
import DesignLint.Proofs.Lockstep.Outline

/-! Analysis of outlines. Scopes, bodies, flattened statements and what names resolve to are those of the outline, so
they are the same for two trees of one outline. Only the conditions of if clauses are looked at as text; trees whose
conditions match the patterns alike have the same registers and resets. -/
namespace DesignLint

namespace Construct

variable (l : Likeness) (c : Construct)

theorem name?_outline : (c.outline l).name? = c.name?.map l.name := by cases c <;> rfl

theorem read?_outline : (c.outline l).read? = c.read?.map fun (text, isElement) => (l.name text, isElement) := by
  cases c <;> rfl

theorem write?_outline : (c.outline l).write? = c.write?.map l.name := by cases c <;> rfl

theorem interface?_outline : (c.outline l).interface? = c.interface?.map (Interface.outline l) := by cases c <;> rfl

theorem architecture?_outline : (c.outline l).architecture? = c.architecture?.map (Architecture.outline l) := by
  cases c <;> rfl

theorem generate?_outline : (c.outline l).generate? = c.generate?.map (Generate.outline l) := by cases c <;> rfl

theorem package?_outline : (c.outline l).package? = c.package?.map (Package.outline l) := by cases c <;> rfl

theorem typeDecl?_outline : (c.outline l).typeDecl? = c.typeDecl?.map (TypeDecl.outline l) := by cases c <;> rfl

theorem process?_outline : (c.outline l).process? = c.process?.map (Process.outline l) := by cases c <;> rfl

theorem assignment?_outline : (c.outline l).assignment? = c.assignment?.map (Assignment.outline l) := by cases c <;> rfl

theorem ifStatement?_outline : (c.outline l).ifStatement? = c.ifStatement?.map (IfStatement.outline l) := by
  cases c <;> rfl

theorem ifClause?_outline : (c.outline l).ifClause? = c.ifClause?.map (IfClause.outline l) := by cases c <;> rfl

theorem instantiation?_outline : (c.outline l).instantiation? = c.instantiation?.map (Instantiation.outline l) := by
  cases c <;> rfl

theorem useClause?_outline : (c.outline l).useClause? = c.useClause?.map (UseClause.outline l) := by cases c <;> rfl

theorem mapping?_outline : (c.outline l).mapping? = c.mapping?.map id := by cases c <;> rfl

theorem map?_outline : (c.outline l).map? = c.map?.map id := by cases c <;> rfl

theorem port?_outline : (c.outline l).port? = c.port?.map fun (name, direction) => (l.name name, direction) := by
  cases c <;> rfl

end Construct

/-- What is compared of the ports of a unit. -/
def Likeness.ports (l : Likeness) (ports : List (Bytes × Direction)) : List (Bytes × Direction) :=
  ports.map fun (name, direction) => (l.name name, direction)

/-- A lookup of units that sees of names only what is compared. -/
def UnitLookup.Respects (l : Likeness) (units : UnitLookup) : Prop :=
  ∀ library name, units (l.name library) (l.name name) = units library name

namespace Tree

/-- What an outline determines is the same for two trees of one outline. -/
theorem eq_of_outline {l : Likeness} {α : Type} (f : Tree → α) (outlined : ∀ t, f (t.outline l) = f t) {t t' : Tree}
    (same : t.outline l = t'.outline l) : f t = f t' := by
  rw [← outlined t, same, outlined]

variable {l : Likeness} (t : Tree)

theorem outline_get? {α : Type} {choose : Construct → Option α} {draw : α → α}
    (outlined : ∀ c, choose (c.outline l) = (choose c).map draw) :
    (t.outline l).get? choose = fun id => (t.get? choose id).map draw := by
  funext id
  rw [get?, get?, outline_construct?, Option.bind_map, Option.map_bind]
  exact congrArg (Option.bind _) (funext outlined)

@[simp] theorem outline_read? : (t.outline l).get? Construct.read? =
    fun id => (t.get? Construct.read? id).map fun (text, isElement) => (l.name text, isElement) :=
  t.outline_get? (Construct.read?_outline l)

@[simp] theorem outline_write? :
    (t.outline l).get? Construct.write? = fun id => (t.get? Construct.write? id).map l.name :=
  t.outline_get? (Construct.write?_outline l)

@[simp] theorem outline_unit? :
    (t.outline l).get? Construct.interface? = fun id => (t.get? Construct.interface? id).map (Interface.outline l) :=
  t.outline_get? (Construct.interface?_outline l)

@[simp] theorem outline_architecture? : (t.outline l).get? Construct.architecture? =
    fun id => (t.get? Construct.architecture? id).map (Architecture.outline l) :=
  t.outline_get? (Construct.architecture?_outline l)

@[simp] theorem outline_generate? :
    (t.outline l).get? Construct.generate? = fun id => (t.get? Construct.generate? id).map (Generate.outline l) :=
  t.outline_get? (Construct.generate?_outline l)

@[simp] theorem outline_package? :
    (t.outline l).get? Construct.package? = fun id => (t.get? Construct.package? id).map (Package.outline l) :=
  t.outline_get? (Construct.package?_outline l)

@[simp] theorem outline_typeDecl? :
    (t.outline l).get? Construct.typeDecl? = fun id => (t.get? Construct.typeDecl? id).map (TypeDecl.outline l) :=
  t.outline_get? (Construct.typeDecl?_outline l)

@[simp] theorem outline_process? :
    (t.outline l).get? Construct.process? = fun id => (t.get? Construct.process? id).map (Process.outline l) :=
  t.outline_get? (Construct.process?_outline l)

@[simp] theorem outline_assignment? : (t.outline l).get? Construct.assignment? =
    fun id => (t.get? Construct.assignment? id).map (Assignment.outline l) :=
  t.outline_get? (Construct.assignment?_outline l)

@[simp] theorem outline_ifStatement? : (t.outline l).get? Construct.ifStatement? =
    fun id => (t.get? Construct.ifStatement? id).map (IfStatement.outline l) :=
  t.outline_get? (Construct.ifStatement?_outline l)

@[simp] theorem outline_ifClause? :
    (t.outline l).get? Construct.ifClause? = fun id => (t.get? Construct.ifClause? id).map (IfClause.outline l) :=
  t.outline_get? (Construct.ifClause?_outline l)

@[simp] theorem outline_instantiation? : (t.outline l).get? Construct.instantiation? =
    fun id => (t.get? Construct.instantiation? id).map (Instantiation.outline l) :=
  t.outline_get? (Construct.instantiation?_outline l)

@[simp] theorem outline_mapping? : (t.outline l).get? Construct.mapping? = t.get? Construct.mapping? := by
  simp [t.outline_get? (Construct.mapping?_outline l)]

@[simp] theorem outline_map? : (t.outline l).get? Construct.map? = t.get? Construct.map? := by
  simp [t.outline_get? (Construct.map?_outline l)]

@[simp] theorem outline_port? : (t.outline l).get? Construct.port? =
    fun id => (t.get? Construct.port? id).map fun (name, direction) => (l.name name, direction) :=
  t.outline_get? (Construct.port?_outline l)

@[simp] theorem outline_nameOf? (id : NodeId) : (t.outline l).nameOf? id = (t.nameOf? id).map l.name := by
  rw [nameOf?, t.outline_get? (Construct.name?_outline l), nameOf?]

@[simp] theorem outline_declares (name : Bytes) : (t.outline l).declares (l.name name) = t.declares name := by
  funext id
  simp [declares, Option.any_map]

@[simp] theorem outline_findNamed (ids : List NodeId) (name : Bytes) :
    (t.outline l).findNamed ids (l.name name) = t.findNamed ids name := by
  simp [findNamed]

@[simp] theorem outline_lookupTypes (types : List NodeId) (name : Bytes) (isElement : Bool) :
    (t.outline l).lookupTypes types (l.name name) isElement = t.lookupTypes types name isElement := by
  simp [lookupTypes, Option.bind_map, Function.comp_def, TypeDecl.outline]

@[simp] theorem outline_lookupStates (types : List NodeId) (name : Bytes) :
    (t.outline l).lookupStates types (l.name name) = t.lookupStates types name := by
  simp [lookupStates, Option.bind_map, Function.comp_def, TypeDecl.outline]

@[simp] theorem outline_lookupBody (b : Body) (name : Bytes) (isElement : Bool) :
    (t.outline l).lookupBody b (l.name name) isElement = t.lookupBody b name isElement := by
  simp [lookupBody]

@[simp] theorem outline_lookupPackage (id : NodeId) (p : Package) (name : Bytes) (isElement : Bool) :
    (t.outline l).lookupPackage id (p.outline l) (l.name name) isElement = t.lookupPackage id p name isElement := by
  simp [lookupPackage, Package.outline]

@[simp] theorem outline_lookupProcess (p : Process) (name : Bytes) :
    (t.outline l).lookupProcess (p.outline l) (l.name name) = t.lookupProcess p name := by
  simp [lookupProcess, Process.outline]

@[simp] theorem outline_lookupScope (scope : NodeId) (name : Bytes) (isElement : Bool) :
    (t.outline l).lookupScope scope (l.name name) isElement = t.lookupScope scope name isElement := by
  rw [lookupScope, lookupScope, outline_construct?]
  cases t.construct? scope with
  | none => rfl
  | some c => cases c <;> simp [Construct.outline, Architecture.outline, Generate.outline, Loop.outline]

@[simp] theorem outline_assignableInScope (scope : NodeId) (name : Bytes) :
    (t.outline l).assignableInScope scope (l.name name) = t.assignableInScope scope name := by
  rw [assignableInScope, assignableInScope, outline_construct?]
  cases t.construct? scope with
  | none => rfl
  | some c => cases c <;> simp [Construct.outline, Architecture.outline, Generate.outline, Process.outline]

@[simp] theorem outline_componentsIn (scope : NodeId) :
    Design.componentsIn (t.outline l) scope = Design.componentsIn t scope := by
  rw [Design.componentsIn, Design.componentsIn, outline_construct?]
  cases t.construct? scope with
  | none => rfl
  | some c => cases c <;> rfl

@[simp] theorem outline_ancestors (steps : Nat) (id : NodeId) :
    (t.outline l).ancestors steps id = t.ancestors steps id := by
  induction steps generalizing id with
  | zero => simp [ancestors]
  | succ steps ih => simp [ancestors, ih]

@[simp] theorem outline_scopes (id : NodeId) : (t.outline l).scopes id = t.scopes id := by
  have isScope_eq (c : Construct) : isScope (c.outline l) = isScope c := by cases c <;> rfl
  simp only [scopes, outline_ancestors, outline_construct?, Option.any_map, isScope_eq]

@[simp] theorem outline_searchScopes {α : Type} (id : NodeId) (answer : NodeId → Option α) :
    (t.outline l).searchScopes id answer = t.searchScopes id answer := by
  simp [searchScopes]

@[simp] theorem outline_architectureUnit? :
    (t.outline l).architectureUnit? = t.architectureUnit?.map (Architecture.outline l) := by
  rw [architectureUnit?, outline_architecture?, architectureUnit?, Option.map_bind]
  rfl

@[simp] theorem outline_generateBody? (id : NodeId) : (t.outline l).generateBody? id = t.generateBody? id := by
  simp [generateBody?, Function.comp_def, Generate.outline]

@[simp] theorem outline_bodiesBelow (levels : Nat) (ids : List NodeId) :
    (t.outline l).bodiesBelow levels ids = t.bodiesBelow levels ids := by
  induction levels generalizing ids with
  | zero => rfl
  | succ levels ih => simp [bodiesBelow, ih]

@[simp] theorem outline_bodiesOf (b : Body) : (t.outline l).bodiesOf b = t.bodiesOf b := by simp [bodiesOf]

@[simp] theorem outline_bodies : (t.outline l).bodies = t.bodies := by
  rw [bodies, bodies, outline_architectureUnit?]
  cases t.architectureUnit? with
  | none => rfl
  | some a => simp [Architecture.outline]

@[simp] theorem outline_allProcesses (a : Architecture) :
    (t.outline l).allProcesses (a.outline l) = t.allProcesses a := by
  simp [allProcesses, Architecture.outline]

@[simp] theorem outline_portsOf (unit : Interface) :
    (t.outline l).portsOf (unit.outline l) = l.ports (t.portsOf unit) := by
  simp [portsOf, Interface.outline, Likeness.ports, List.map_filterMap]

@[simp] theorem outline_writtenTexts (ids : List NodeId) :
    (t.outline l).writtenTexts ids = (t.writtenTexts ids).map l.name := by
  simp [writtenTexts, List.map_filterMap]

@[simp] theorem outline_processStatements (process : NodeId) :
    (t.outline l).processStatements process = t.processStatements process := by
  simp [processStatements, Function.comp_def, Process.outline]

@[simp] theorem outline_candidateProcesses (signal : NodeId) :
    (t.outline l).candidateProcesses signal = t.candidateProcesses signal := by
  rw [candidateProcesses, candidateProcesses, outline_parent?]
  cases t.parent? signal with
  | none => rfl
  | some parent =>
    simp only [outline_construct?]
    cases t.construct? parent with
    | none => rfl
    | some c =>
      cases c with
      | entity unit =>
        simp only [Option.map_some, Construct.outline, outline_checkRoot, outline_architectureUnit?]
        cases t.architectureUnit? <;> simp
      | _ => simp [Construct.outline, Architecture.outline, Generate.outline]

@[simp] theorem outline_mappingsOf (map : Option NodeId) : (t.outline l).mappingsOf map = t.mappingsOf map := by
  cases map <;> simp [mappingsOf]

@[simp] theorem outline_formalName (m : Mapping) : (t.outline l).formalName m = l.name (t.formalName m) := by
  have reads : m.formal.filterMap ((t.outline l).get? Construct.read?) =
      (m.formal.filterMap (t.get? Construct.read?)).map fun (text, isElement) => (l.name text, isElement) := by
    simp [List.map_filterMap]
  rw [formalName, formalName, reads, List.find?_map]
  simp only [Function.comp_def]
  cases List.find? _ (m.formal.filterMap (t.get? Construct.read?)) <;> simp

@[simp] theorem outline_formalDirection? (unit : UnitPorts) (m : Mapping) (position : Nat) :
    (t.outline l).formalDirection? (unit.map l.ports) m position = t.formalDirection? unit m position := by
  rw [formalDirection?, formalDirection?, outline_formalName]
  cases unit with
  | none => rfl
  | some ports =>
    cases t.formalName m with
    | nil => simp [Likeness.ports, Function.comp_def]
    | cons b rest =>
      have nonempty : l.name (b :: rest) = l.letter b :: l.name rest := rfl
      have same (portName : Bytes) : sameName portName (l.letter b :: l.name rest) = sameName portName (b :: rest) := by
        rw [← nonempty, Likeness.sameName_name_right]
      simp [nonempty, same, Likeness.ports, List.find?_map, Function.comp_def]

@[simp] theorem outline_instanceReads (i : Instantiation) (unit : UnitPorts) :
    (t.outline l).instanceReads (i.outline l) (unit.map l.ports) = t.instanceReads i unit := by
  simp [instanceReads, Instantiation.outline]

@[simp] theorem outline_instanceWrites (i : Instantiation) (unit : UnitPorts) :
    (t.outline l).instanceWrites (i.outline l) (unit.map l.ports) = t.instanceWrites i unit := by
  simp [instanceWrites, Instantiation.outline]

@[simp] theorem outline_flattenBranch {branch? : Construct → Option (List NodeId × List (Option NodeId))}
    (outlined : ∀ c, branch? (c.outline l) = branch? c)
    (inside : List (Option NodeId) → Except TreeFault (List NodeId)) :
    (t.outline l).flattenBranch inside branch? = t.flattenBranch inside branch? := by
  have same : (t.outline l).get? branch? = t.get? branch? := by
    have drawn (c : Construct) : branch? (c.outline l) = (branch? c).map id := by rw [outlined, Option.map_id_apply]
    simpa using t.outline_get? drawn
  funext id
  rw [flattenBranch, flattenBranch, same]

section

variable {ofAssignment : Assignment → List NodeId} {ofClause : IfClause → List NodeId}
  {ofCase : CaseStatement → List NodeId} (ofArm : CaseArm → List NodeId)
  (assignments : ∀ a, ofAssignment (a.outline l) = ofAssignment a) (clauses : ∀ c, ofClause (c.outline l) = ofClause c)
  (cases : ∀ s, ofCase (s.outline l) = ofCase s)

include assignments clauses cases

theorem outline_flattenStatement (inside : List (Option NodeId) → Except TreeFault (List NodeId)) :
    (t.outline l).flattenStatement ofAssignment ofClause ofCase ofArm inside =
      t.flattenStatement ofAssignment ofClause ofCase ofArm inside := by
  have branches (c : Construct) : clauseBranch? ofClause (c.outline l) = clauseBranch? ofClause c := by
    cases c with
    | ifClause c => exact congrArg (fun own => some (own, c.body)) (clauses c)
    | _ => rfl
  have arms (c : Construct) : armBranch? ofArm (c.outline l) = armBranch? ofArm c := by cases c <;> rfl
  funext statement
  cases statement with
  | none => rfl
  | some id =>
    simp only [flattenStatement, outline_construct?, outline_flattenBranch t branches, outline_flattenBranch t arms]
    cases t.construct? id with
    | none => rfl
    | some c =>
      cases c with
      | assignment a => exact congrArg Except.ok (assignments a)
      | caseStatement s =>
        simp only [Option.map_some, Construct.outline, cases]
        rfl
      | _ => rfl

/-- Flattening looks at the reads of conditions and selectors, not at labels or texts. -/
theorem outline_flatten (levels : Nat) :
    (t.outline l).flatten ofAssignment ofClause ofCase ofArm levels =
      t.flatten ofAssignment ofClause ofCase ofArm levels := by
  induction levels with
  | zero => rfl
  | succ levels ih =>
    funext statements
    rw [flatten, flatten, ih, outline_flattenStatement t ofArm assignments clauses cases]

end

@[simp] theorem outline_flattenWrites : (t.outline l).flattenWrites = t.flattenWrites := by
  funext statements
  rw [flattenWrites, flattenWrites, outline_size,
    outline_flatten t _ (fun _ => rfl) (fun _ => rfl) (fun _ => rfl)]

@[simp] theorem outline_flattenReads : (t.outline l).flattenReads = t.flattenReads := by
  funext statements
  rw [flattenReads, flattenReads, outline_size,
    outline_flatten t _ (fun _ => rfl) (fun _ => rfl) (fun _ => rfl)]

@[simp] theorem outline_topClauses (statements : List (Option NodeId)) :
    (t.outline l).topClauses statements = (t.topClauses statements).map (IfClause.outline l) := by
  rw [topClauses, topClauses, List.map_flatMap]
  refine congrArg (statements.flatMap ·) (funext fun statement => ?_)
  have drawn : statement.bind ((t.outline l).get? Construct.ifStatement?) =
      (statement.bind (t.get? Construct.ifStatement?)).map (IfStatement.outline l) := by
    rw [outline_ifStatement?, Option.map_bind]
    rfl
  rw [drawn]
  cases statement.bind (t.get? Construct.ifStatement?) with
  | none => rfl
  | some s => simp [IfStatement.outline, List.map_filterMap]

/-- The conditions of the if clauses that stand directly in a process match the patterns alike in two trees. -/
def ConditionsAlike (rules : InferenceRules) (t t' : Tree) (process : NodeId) : Prop :=
  List.Forall₂ (fun c c' => rules.clock.matchesIn c.conditionText = rules.clock.matchesIn c'.conditionText ∧
      rules.reset.matchesIn c.conditionText = rules.reset.matchesIn c'.conditionText)
    (t.topClauses (t.processStatements process)) (t'.topClauses (t'.processStatements process))

section

variable {t t' : Tree} {rules : InferenceRules} {process : NodeId} (same : t.outline l = t'.outline l)
  (conditions : ConditionsAlike rules t t' process)

include conditions in
theorem testsClock_eq :
    t.testsClock rules (t.processStatements process) = t'.testsClock rules (t'.processStatements process) := by
  rw [ConditionsAlike] at conditions
  rw [testsClock, testsClock]
  generalize t.topClauses _ = clauses, t'.topClauses _ = clauses' at conditions
  induction conditions with
  | nil => rfl
  | cons alike _ ih => rw [List.any_cons, List.any_cons, alike.1, ih]

/-- What the statements of a reset clause assign. -/
def assignedNames (t : Tree) (statements : List (Option NodeId)) : List Bytes :=
  statements.flatMap fun statement =>
    match statement.bind (t.get? Construct.assignment?) with
    | some a => t.writtenTexts a.writes
    | none => []

theorem outline_assignedNames (t : Tree) (statements : List (Option NodeId)) :
    (t.outline l).assignedNames statements = (t.assignedNames statements).map l.name := by
  rw [assignedNames, assignedNames, List.map_flatMap]
  refine congrArg (statements.flatMap ·) (funext fun statement => ?_)
  have drawn : statement.bind ((t.outline l).get? Construct.assignment?) =
      (statement.bind (t.get? Construct.assignment?)).map (Assignment.outline l) := by
    rw [outline_assignment?, Option.map_bind]
    rfl
  rw [drawn]
  cases statement.bind (t.get? Construct.assignment?) with
  | none => rfl
  | some a => simp [Assignment.outline]

include same conditions in
theorem resetNames_eq :
    (t.resetNames rules (t.processStatements process)).map l.name =
      (t'.resetNames rules (t'.processStatements process)).map l.name := by
  have names_eq (statements : List (Option NodeId)) :
      (t.assignedNames statements).map l.name = (t'.assignedNames statements).map l.name := by
    rw [← outline_assignedNames, same, outline_assignedNames]
  have bodies_eq : (t.topClauses (t.processStatements process)).map IfClause.body =
      (t'.topClauses (t'.processStatements process)).map IfClause.body :=
    eq_of_outline (fun t => (t.topClauses (t.processStatements process)).map IfClause.body)
      (by simp [Function.comp_def, IfClause.outline]) same
  rw [ConditionsAlike] at conditions
  change (List.flatMap (fun c : IfClause => t.assignedNames c.body) _).map l.name =
    (List.flatMap (fun c : IfClause => t'.assignedNames c.body) _).map l.name
  generalize t.topClauses _ = clauses, t'.topClauses _ = clauses' at conditions bodies_eq
  induction conditions with
  | nil => rfl
  | cons alike _ ih =>
    rw [List.map_cons, List.map_cons, List.cons.injEq] at bodies_eq
    rw [List.filter_cons, List.filter_cons, alike.2]
    split
    · rw [List.flatMap_cons, List.flatMap_cons, List.map_append, List.map_append, ih bodies_eq.2, bodies_eq.1, names_eq]
    · exact ih bodies_eq.2

end

section

variable {m : Type → Type} [Monad m]

@[simp] theorem outline_lastRegister (isRegisterProcess : NodeId → m Bool) (flatWrites : NodeId → m (List NodeId))
    (name : Bytes) (found : Option NodeId) (processes : List NodeId) :
    (t.outline l).lastRegister isRegisterProcess flatWrites (l.name name) found processes =
      t.lastRegister isRegisterProcess flatWrites name found processes := by
  induction processes generalizing found with
  | nil => rfl
  | cons process processes ih => simp [lastRegister, ih, List.any_map, Function.comp_def]

end

section

variable {t t' : Tree} {rules : InferenceRules}

theorem flatWrites_eq (same : t.outline l = t'.outline l) :
    (t.facts rules : Facts (Except Fault)).flatWrites = (t'.facts rules).flatWrites := by
  funext id
  exact eq_of_outline (fun t => liftTree (t.flattenWrites (t.processStatements id))) (by simp) same

theorem flatReads_eq (same : t.outline l = t'.outline l) :
    (t.facts rules : Facts (Except Fault)).flatReads = (t'.facts rules).flatReads := by
  funext id
  exact eq_of_outline (fun t => liftTree (t.flattenReads (t.processStatements id))) (by simp) same

section

variable {unit unit' : UnitPorts} (same : t.outline l = t'.outline l) (units : unit.map l.ports = unit'.map l.ports)
include same units

theorem instanceReads_eq (id : NodeId) :
    (t.facts rules : Facts (Except Fault)).instanceReads id unit = (t'.facts rules).instanceReads id unit' := by
  have drawn (t : Tree) (unit : UnitPorts) : ((t.outline l).get? Construct.instantiation? id).elim []
      ((t.outline l).instanceReads · (unit.map l.ports)) =
      (t.get? Construct.instantiation? id).elim [] (t.instanceReads · unit) := by
    simp only [outline_instantiation?]
    cases t.get? Construct.instantiation? id <;> simp
  simp only [facts]
  rw [← drawn t, same, units, drawn]

theorem instanceWrites_eq (id : NodeId) :
    (t.facts rules : Facts (Except Fault)).instanceWrites id unit = (t'.facts rules).instanceWrites id unit' := by
  have drawn (t : Tree) (unit : UnitPorts) : ((t.outline l).get? Construct.instantiation? id).elim []
      ((t.outline l).instanceWrites · (unit.map l.ports)) =
      (t.get? Construct.instantiation? id).elim [] (t.instanceWrites · unit) := by
    simp only [outline_instantiation?]
    cases t.get? Construct.instantiation? id <;> simp
  simp only [facts]
  rw [← drawn t, same, units, drawn]

end

theorem isRegisterProcess_eq (same : t.outline l = t'.outline l) {process : NodeId}
    (conditions : ConditionsAlike rules t t' process) :
    (t.facts rules : Facts (Except Fault)).isRegisterProcess process = (t'.facts rules).isRegisterProcess process := by
  change t.computeIsRegister rules process = t'.computeIsRegister rules process
  rw [computeIsRegister, computeIsRegister, eq_of_outline (·.checkRoot process) (·.outline_checkRoot process) same,
    testsClock_eq conditions]

/-- Processes whose conditions match alike reset the same names, as far as names are compared. -/
theorem resets_eq (same : t.outline l = t'.outline l) {process : NodeId}
    (conditions : ConditionsAlike rules t t' process) :
    ((t.facts rules : Facts (Except Fault)).resets process).map (List.map l.name) =
      ((t'.facts rules : Facts (Except Fault)).resets process).map (List.map l.name) := by
  change Except.map _ (t.computeResets rules (t.facts rules).isRegisterProcess process) =
    Except.map _ (t'.computeResets rules (t'.facts rules).isRegisterProcess process)
  rw [computeResets, computeResets, isRegisterProcess_eq same conditions,
    eq_of_outline (·.checkRoot process) (·.outline_checkRoot process) same]
  have names_eq := resetNames_eq same conditions
  generalize t.resetNames rules _ = names, t'.resetNames rules _ = names' at names_eq
  cases (t'.facts rules : Facts (Except Fault)).isRegisterProcess process with
  | error fault => rfl
  | ok isRegister =>
    cases isRegister with
    | false => rfl
    | true =>
      cases t'.checkRoot process with
      | error fault => rfl
      | ok _ => exact congrArg Except.ok names_eq

theorem registerProcess_eq (same : t.outline l = t'.outline l)
    (conditions : ∀ process, ConditionsAlike rules t t' process) :
    (t.facts rules : Facts (Except Fault)).registerProcess = (t'.facts rules).registerProcess := by
  have register_eq : (t.facts rules : Facts (Except Fault)).isRegisterProcess = (t'.facts rules).isRegisterProcess :=
    funext fun process => isRegisterProcess_eq same (conditions process)
  funext signal
  change t.computeRegisterProcess (t.facts rules).isRegisterProcess (t.facts rules).flatWrites signal =
    t'.computeRegisterProcess (t'.facts rules).isRegisterProcess (t'.facts rules).flatWrites signal
  have outlined (t : Tree) (isRegister : NodeId → Except Fault Bool) (writes : NodeId → Except Fault (List NodeId)) :
      (t.outline l).computeRegisterProcess isRegister writes signal = t.computeRegisterProcess isRegister writes signal := by
    have name : ((t.nameOf? signal).map l.name).getD [] = l.name ((t.nameOf? signal).getD []) := by
      cases t.nameOf? signal <;> rfl
    simp [computeRegisterProcess, name]
  rw [register_eq, flatWrites_eq same, ← outlined t, same, outlined]

end

end Tree

namespace Design

/-- The design with the outlines of its files. -/
def outline (l : Likeness) (d : Design) : Design := ⟨d.files.map fun f => { f with tree := f.tree.outline l }⟩

variable {l : Likeness} (d : Design)

@[simp] theorem outline_tree? (file : Nat) : (d.outline l).tree? file = (d.tree? file).map (Tree.outline l) := by
  simp [tree?, outline]
  rfl

@[simp] theorem outline_boundEntity? (file : Nat) : (d.outline l).boundEntity? file = d.boundEntity? file := by
  simp only [boundEntity?, outline, Array.getElem?_map, Option.bind_map]
  rfl

@[simp] theorem outline_interface? (r : Ref) :
    (d.outline l).interface? r = (d.interface? r).map fun (t, u) => (t.outline l, u.outline l) := by
  rw [interface?, interface?, outline_tree?]
  cases d.tree? r.file with
  | none => rfl
  | some t =>
    simp only [Option.map_some, Option.bind_eq_bind, Option.bind_some, Tree.outline_unit?]
    cases t.get? Construct.interface? r.node <;> rfl

@[simp] theorem outline_ports? (unit : Option Ref) : (d.outline l).ports? unit = (d.ports? unit).map l.ports := by
  cases unit with
  | none => rfl
  | some r => simp [ports?, Function.comp_def]

@[simp] theorem outline_lookupPackages (packages : List Ref) (name : Bytes) (isElement : Bool) :
    (d.outline l).lookupPackages packages (l.name name) isElement = d.lookupPackages packages name isElement := by
  refine congrArg (packages.findSome? ·) (funext fun r => ?_)
  rw [outline_tree?]
  cases d.tree? r.file with
  | none => rfl
  | some t =>
    simp only [Option.map_some, Option.bind_eq_bind, Option.bind_some, Tree.outline_package?, Option.bind_map,
      Function.comp_def, Tree.outline_lookupPackage]

@[simp] theorem outline_lookupEntity (file : Nat) (t : Tree) (name : Bytes) :
    (d.outline l).lookupEntity file (t.outline l) (l.name name) = d.lookupEntity file t name := by
  simp only [lookupEntity, outline_boundEntity?, outline_interface?, Tree.outline_architectureUnit?]
  cases d.boundEntity? file with
  | none => rfl
  | some entity =>
    cases t.architectureUnit? with
    | none => rfl
    | some a => cases found : d.interface? entity <;> simp [found, Architecture.outline, Interface.outline]

@[simp] theorem outline_resolveRead (file : Nat) (id : NodeId) (packages : List Ref) :
    (d.outline l).resolveRead file id packages = d.resolveRead file id packages := by
  rw [resolveRead, resolveRead, outline_tree?]
  cases d.tree? file with
  | none => rfl
  | some t =>
    have named : ((t.outline l).get? Construct.read? id).getD ([], false) =
        (l.name ((t.get? Construct.read? id).getD ([], false)).1, ((t.get? Construct.read? id).getD ([], false)).2) := by
      simp only [Tree.outline_read?]
      cases t.get? Construct.read? id <;> rfl
    simp only [Option.map_some, named, outline_lookupPackages, Tree.outline_lookupScope, Tree.outline_searchScopes,
      Tree.outline_checkRoot, outline_lookupEntity]

@[simp] theorem outline_resolveWrite (file : Nat) (id : NodeId) :
    (d.outline l).resolveWrite file id = d.resolveWrite file id := by
  rw [resolveWrite, resolveWrite, outline_tree?]
  cases d.tree? file with
  | none => rfl
  | some t =>
    have named : ((t.outline l).get? Construct.write? id).getD [] = l.name ((t.get? Construct.write? id).getD []) := by
      simp only [Tree.outline_write?]
      cases t.get? Construct.write? id <;> rfl
    have ports : ((d.ports? (d.boundEntity? file)).map l.ports).getD [] =
        l.ports ((d.ports? (d.boundEntity? file)).getD []) := by
      cases d.ports? (d.boundEntity? file) <;> rfl
    simp only [Option.map_some, named, Tree.outline_assignableInScope, Tree.outline_searchScopes,
      Tree.outline_checkRoot, outline_boundEntity?, outline_ports?, ports, Likeness.ports, List.any_map,
      Function.comp_def, Likeness.sameName_name_left, Likeness.sameName_name_right, Tree.outline_architectureUnit?,
      Option.map_map, Option.any_map, Tree.outline_findNamed, Tree.outline_lookupStates, Architecture.outline]

@[simp] theorem outline_componentOfPackages (packages : List Ref) (name : Bytes) :
    (d.outline l).componentOfPackages packages (l.name name) = d.componentOfPackages packages name := by
  refine congrArg (packages.findSome? ·) (funext fun r => ?_)
  rw [outline_tree?]
  cases d.tree? r.file with
  | none => rfl
  | some t =>
    simp only [Option.map_some, Option.bind_eq_bind, Option.bind_some, Tree.outline_package?, Option.bind_map,
      Function.comp_def, Package.outline, Tree.outline_findNamed]

/-- The library that a name means, as far as names are compared. -/
theorem name_libraryOf (t : Tree) (library : Bytes) :
    l.name (libraryOf (t.outline l) (l.name library)) = l.name (libraryOf t library) := by
  simp only [libraryOf, Likeness.isEmpty_name, Likeness.sameName_name_left]
  split
  · rfl
  · exact l.name_name library

theorem outline_resolveInstance {entities : UnitLookup} (respects : entities.Respects l) (file : Nat) (id : NodeId)
    (packages : List Ref) :
    (d.outline l).resolveInstance file id packages entities = d.resolveInstance file id packages entities := by
  rw [resolveInstance, resolveInstance, outline_tree?]
  cases d.tree? file with
  | none => rfl
  | some t =>
    have drawn : ((t.outline l).get? Construct.instantiation? id).getD {} =
        ((t.get? Construct.instantiation? id).getD {}).outline l := by
      simp only [Tree.outline_instantiation?]
      cases t.get? Construct.instantiation? id <;> rfl
    have entity (i : Instantiation) : entities (libraryOf (t.outline l) (l.name i.library)) (l.name i.unitName) =
        entities (libraryOf t i.library) i.unitName := by
      rw [← respects, name_libraryOf, l.name_name, respects]
    simp only [Option.map_some, Tree.outline_checkRoot, drawn, Instantiation.outline, entity,
      Tree.outline_searchScopes, Tree.outline_findNamed, Tree.outline_componentsIn, outline_componentOfPackages]

end Design
end DesignLint
