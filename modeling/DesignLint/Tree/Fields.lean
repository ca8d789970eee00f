import DesignLint.Tree.Arena

/-! The fields of constructs by name. Every construct lists its fields in a fixed order, with their values in
one of a few shapes, and can have a field of the same shape put back. The tree export and the stepwise
construction of trees go through this list. -/
namespace DesignLint

/-- The value of a field. -/
inductive FieldValue where
  | text (value : Bytes)
  | flag (value : Bool)
  | names (value : List Bytes)
  | child (value : Option NodeId)
  | children (value : List NodeId)
  | statements (value : List (Option NodeId))

namespace FieldValue

/-- The value of a field with a child added and how many it then holds. -/
def adding (child : Option NodeId) : FieldValue → Option (FieldValue × Nat)
  | .children ids => child.map fun id => (.children (ids ++ [id]), ids.length + 1)
  | .statements ids => some (.statements (ids ++ [child]), ids.length + 1)
  | .child _ => some (.child child, 1)
  | _ => none

/-- The value of a field emptied. -/
def cleared : FieldValue → FieldValue
  | .text _ => .text []
  | .flag _ => .flag false
  | .names _ => .names []
  | .child _ => .child none
  | .children _ => .children []
  | .statements _ => .statements []

end FieldValue

namespace Body

/-- The fields of a body. -/
def fieldList (b : Body) : List (String × FieldValue) :=
  [("signals", .children b.signals), ("constants", .children b.constants),
   ("types", .children b.types), ("functions", .children b.functions),
   ("components", .children b.components), ("processes", .children b.processes),
   ("instantiations", .children b.instantiations), ("generates", .children b.generates),
   ("assignments", .children b.assignments)]

/-- The body with another list under a name. -/
def putField? (b : Body) (name : String) (ids : List NodeId) : Option Body :=
  match name with
  | "signals" => some { b with signals := ids }
  | "constants" => some { b with constants := ids }
  | "types" => some { b with types := ids }
  | "functions" => some { b with functions := ids }
  | "components" => some { b with components := ids }
  | "processes" => some { b with processes := ids }
  | "instantiations" => some { b with instantiations := ids }
  | "generates" => some { b with generates := ids }
  | "assignments" => some { b with assignments := ids }
  | _ => none

end Body

namespace Declared

/-- The fields of an object whose initial value has the given name. -/
def fieldList (d : Declared) (initial : String) : List (String × FieldValue) :=
  [("name", .text d.name), ("type", .text d.typeText), (initial, .children d.initial)]

/-- The object with another value for a field. -/
def putField? (d : Declared) (initial name : String) (value : FieldValue) : Option Declared :=
  match name, value with
  | "name", .text t => some { d with name := t }
  | "type", .text t => some { d with typeText := t }
  | _, .children ids => if name = initial then some { d with initial := ids } else none
  | _, _ => none

end Declared

namespace Interface

def fieldList (u : Interface) : List (String × FieldValue) :=
  [("name", .text u.name), ("generics", .children u.generics), ("ports", .children u.ports)]

def putField? (u : Interface) (name : String) (value : FieldValue) : Option Interface :=
  match name, value with
  | "name", .text t => some { u with name := t }
  | "generics", .children ids => some { u with generics := ids }
  | "ports", .children ids => some { u with ports := ids }
  | _, _ => none

end Interface

namespace Construct

/-- The name of a construct's kind. -/
def kindName : Construct → String
  | file => "File"
  | useClause _ => "UseClause"
  | entity _ => "Entity"
  | component _ => "Component"
  | architecture _ => "Architecture"
  | generate _ => "Generate"
  | package _ => "Package"
  | signal _ => "Signal"
  | port _ _ => "Port"
  | localVariable _ => "Variable"
  | constant _ => "Constant"
  | generic _ => "Generic"
  | typeDecl _ => "Type"
  | state _ => "State"
  | recordField _ _ => "RecordField"
  | function _ => "Function"
  | instantiation _ => "Instantiation"
  | map _ => "Map"
  | mapping _ => "Mapping"
  | read _ _ => "Read"
  | write _ => "Write"
  | assignment _ => "Assignment"
  | ifStatement _ => "If"
  | ifClause _ => "IfClause"
  | caseStatement _ => "Case"
  | caseArm _ => "When"
  | loop _ => "Loop"
  | process _ => "Process"

/-- An empty construct of each kind that can be made on its own. -/
def blanks : List Construct :=
  [useClause {}, entity {}, component {}, architecture {}, generate {}, package {}, signal {},
   port {} (.other []), localVariable {}, constant {}, generic {}, typeDecl {}, state [],
   recordField [] [], function {}, instantiation {}, map [], mapping {}, read [] false, write [],
   assignment {}, ifStatement {}, ifClause {}, caseStatement {}, caseArm {}, loop {}, process {}]

/-- The empty construct of a named kind. -/
def blank? (kind : String) : Option Construct := blanks.find? (·.kindName = kind)

/-- The fields of a construct other than the file. -/
def fieldList : Construct → List (String × FieldValue)
  | file => []
  | useClause c => [("library", .text c.library), ("package", .text c.package), ("item", .text c.item)]
  | entity u => u.fieldList
  | component u => u.fieldList
  | architecture a =>
    [("name", .text a.name), ("entityName", .text a.entityName)] ++ a.body.fieldList
  | generate g =>
    [("label", .text g.label), ("kind", .text g.kind.word), ("variable", .text g.iterator),
     ("bounds", .children g.bounds), ("condition", .children g.condition)] ++ g.body.fieldList
  | package p =>
    [("name", .text p.name), ("constants", .children p.constants), ("signals", .children p.signals),
     ("types", .children p.types), ("functions", .children p.functions),
     ("components", .children p.components)]
  | signal o => o.fieldList "default"
  | port o d => o.fieldList "default" ++ [("direction", .text d.word)]
  | localVariable o => o.fieldList "default"
  | constant o => o.fieldList "value"
  | generic o => o.fieldList "default"
  | typeDecl t =>
    [("name", .text t.name), ("kind", .text t.kind.word), ("states", .children t.states),
     ("fields", .children t.fields)]
  | state n => [("name", .text n)]
  | recordField n t => [("name", .text n), ("type", .text t)]
  | function f =>
    [("name", .text f.name), ("procedure", .flag f.isProcedure), ("returnType", .text f.returnType)]
  | instantiation i =>
    [("label", .text i.label), ("kind", .text i.kind.word), ("library", .text i.library),
     ("componentName", .text i.unitName), ("genericMap", .child i.genericMap),
     ("portMap", .child i.portMap)]
  | map ms => [("mappings", .children ms)]
  | mapping m =>
    [("formal", .children m.formal), ("ifInput", .children m.ifInput),
     ("ifOutputReads", .children m.ifOutputReads), ("ifOutputWrites", .children m.ifOutputWrites)]
  | read t e => [("text", .text t), ("element", .flag e)]
  | write t => [("text", .text t)]
  | assignment a =>
    [("label", .text a.label), ("variable", .flag a.isVariable), ("writes", .children a.writes),
     ("reads", .children a.reads)]
  | ifStatement i =>
    [("label", .text i.label), ("clauses", .children i.clauses), ("else", .statements i.otherwise)]
  | ifClause c =>
    [("condition", .children c.condition), ("conditionText", .text c.conditionText),
     ("body", .statements c.body)]
  | caseStatement c =>
    [("label", .text c.label), ("selector", .children c.selector), ("arms", .children c.arms)]
  | caseArm a => [("choices", .children a.choices), ("body", .statements a.body)]
  | loop l =>
    [("label", .text l.label), ("variable", .text l.iterator), ("bounds", .children l.bounds),
     ("body", .statements l.body)]
  | process p =>
    [("label", .text p.label), ("sensitivity", .children p.sensitivity),
     ("variables", .children p.locals), ("constants", .children p.constants),
     ("types", .children p.types), ("functions", .children p.functions),
     ("statements", .statements p.statements)]

/-- The construct with another value for a field, if it has that field in that shape. -/
def putField? (c : Construct) (name : String) (value : FieldValue) : Option Construct :=
  match c, name, value with
  | useClause u, "library", .text t => some (useClause { u with library := t })
  | useClause u, "package", .text t => some (useClause { u with package := t })
  | useClause u, "item", .text t => some (useClause { u with item := t })
  | entity u, _, _ => (u.putField? name value).map entity
  | component u, _, _ => (u.putField? name value).map component
  | architecture a, "name", .text t => some (architecture { a with name := t })
  | architecture a, "entityName", .text t => some (architecture { a with entityName := t })
  | architecture a, _, .children ids =>
    (a.body.putField? name ids).map fun body => architecture { a with body }
  | generate g, "label", .text t => some (generate { g with label := t })
  | generate g, "kind", .text t => some (generate { g with kind := .ofWord t })
  | generate g, "variable", .text t => some (generate { g with iterator := t })
  | generate g, "bounds", .children ids => some (generate { g with bounds := ids })
  | generate g, "condition", .children ids => some (generate { g with condition := ids })
  | generate g, _, .children ids =>
    (g.body.putField? name ids).map fun body => generate { g with body }
  | package p, "name", .text t => some (package { p with name := t })
  | package p, "constants", .children ids => some (package { p with constants := ids })
  | package p, "signals", .children ids => some (package { p with signals := ids })
  | package p, "types", .children ids => some (package { p with types := ids })
  | package p, "functions", .children ids => some (package { p with functions := ids })
  | package p, "components", .children ids => some (package { p with components := ids })
  | signal o, _, _ => (o.putField? "default" name value).map signal
  | port o _, "direction", .text t => some (port o (.ofWord t))
  | port o d, _, _ => (o.putField? "default" name value).map (port · d)
  | localVariable o, _, _ => (o.putField? "default" name value).map localVariable
  | constant o, _, _ => (o.putField? "value" name value).map constant
  | generic o, _, _ => (o.putField? "default" name value).map generic
  | typeDecl d, "name", .text t => some (typeDecl { d with name := t })
  | typeDecl d, "kind", .text t => some (typeDecl { d with kind := .ofWord t })
  | typeDecl d, "states", .children ids => some (typeDecl { d with states := ids })
  | typeDecl d, "fields", .children ids => some (typeDecl { d with fields := ids })
  | state _, "name", .text t => some (state t)
  | recordField _ ty, "name", .text t => some (recordField t ty)
  | recordField n _, "type", .text t => some (recordField n t)
  | function f, "name", .text t => some (function { f with name := t })
  | function f, "procedure", .flag b => some (function { f with isProcedure := b })
  | function f, "returnType", .text t => some (function { f with returnType := t })
  | instantiation i, "label", .text t => some (instantiation { i with label := t })
  | instantiation i, "kind", .text t => some (instantiation { i with kind := .ofWord t })
  | instantiation i, "library", .text t => some (instantiation { i with library := t })
  | instantiation i, "componentName", .text t => some (instantiation { i with unitName := t })
  | instantiation i, "genericMap", .child m => some (instantiation { i with genericMap := m })
  | instantiation i, "portMap", .child m => some (instantiation { i with portMap := m })
  | map _, "mappings", .children ids => some (map ids)
  | mapping m, "formal", .children ids => some (mapping { m with formal := ids })
  | mapping m, "ifInput", .children ids => some (mapping { m with ifInput := ids })
  | mapping m, "ifOutputReads", .children ids => some (mapping { m with ifOutputReads := ids })
  | mapping m, "ifOutputWrites", .children ids => some (mapping { m with ifOutputWrites := ids })
  | read _ e, "text", .text t => some (read t e)
  | read t _, "element", .flag e => some (read t e)
  | write _, "text", .text t => some (write t)
  | assignment a, "label", .text t => some (assignment { a with label := t })
  | assignment a, "variable", .flag b => some (assignment { a with isVariable := b })
  | assignment a, "writes", .children ids => some (assignment { a with writes := ids })
  | assignment a, "reads", .children ids => some (assignment { a with reads := ids })
  | ifStatement i, "label", .text t => some (ifStatement { i with label := t })
  | ifStatement i, "clauses", .children ids => some (ifStatement { i with clauses := ids })
  | ifStatement i, "else", .statements ids => some (ifStatement { i with otherwise := ids })
  | ifClause i, "condition", .children ids => some (ifClause { i with condition := ids })
  | ifClause i, "conditionText", .text t => some (ifClause { i with conditionText := t })
  | ifClause i, "body", .statements ids => some (ifClause { i with body := ids })
  | caseStatement s, "label", .text t => some (caseStatement { s with label := t })
  | caseStatement s, "selector", .children ids => some (caseStatement { s with selector := ids })
  | caseStatement s, "arms", .children ids => some (caseStatement { s with arms := ids })
  | caseArm a, "choices", .children ids => some (caseArm { a with choices := ids })
  | caseArm a, "body", .statements ids => some (caseArm { a with body := ids })
  | loop l, "label", .text t => some (loop { l with label := t })
  | loop l, "variable", .text t => some (loop { l with iterator := t })
  | loop l, "bounds", .children ids => some (loop { l with bounds := ids })
  | loop l, "body", .statements ids => some (loop { l with body := ids })
  | process p, "label", .text t => some (process { p with label := t })
  | process p, "sensitivity", .children ids => some (process { p with sensitivity := ids })
  | process p, "variables", .children ids => some (process { p with locals := ids })
  | process p, "constants", .children ids => some (process { p with constants := ids })
  | process p, "types", .children ids => some (process { p with types := ids })
  | process p, "functions", .children ids => some (process { p with functions := ids })
  | process p, "statements", .statements ids => some (process { p with statements := ids })
  | _, _, _ => none

end Construct

namespace Tree

/-- The fields of the file itself. -/
def fileFields (t : Tree) : List (String × FieldValue) :=
  [("path", .text (Bytes.ofString t.path)), ("library", .text t.library),
   ("libraries", .names t.libraries), ("uses", .children t.uses), ("entity", .child t.entity),
   ("architecture", .child t.architecture), ("package", .child t.package),
   ("packageBody", .child t.packageBody)]

/-- The fields of a node. -/
def fieldsOf (t : Tree) (id : NodeId) : List (String × FieldValue) :=
  match t.construct? id with
  | some .file => t.fileFields
  | some c => c.fieldList
  | none => []

/-- The file with another value for one of its fields. -/
def putFileField? (t : Tree) (name : String) (value : FieldValue) : Option Tree :=
  match name, value with
  | "path", .text p => some { t with path := p.decode }
  | "library", .text l => some { t with library := l }
  | "libraries", .names ls => some { t with libraries := ls }
  | "uses", .children ids => some { t with uses := ids }
  | "entity", .child c => some { t with entity := c }
  | "architecture", .child c => some { t with architecture := c }
  | "package", .child c => some { t with package := c }
  | "packageBody", .child c => some { t with packageBody := c }
  | _, _ => none

/-- The tree with another value for a field of a node. -/
def putField? (t : Tree) (id : NodeId) (name : String) (value : FieldValue) : Option Tree :=
  match t.construct? id with
  | some .file => t.putFileField? name value
  | some c => (c.putField? name value).map fun c' => t.update id fun _ => c'
  | none => none

end Tree
end DesignLint
