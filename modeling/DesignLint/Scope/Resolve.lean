import DesignLint.Scope.Design

/-! Name resolution. A read or write resolves if some declaration of its name is visible from where it
stands; which of several is nearest does not matter, shadowing is not modelled. Imported packages come
first, then the scopes around the occurrence, then the ports and generics of the entity. -/
namespace DesignLint
namespace Tree

/-- A type of the name, one of its states or, for element reads, one of its fields. -/
def lookupTypes (t : Tree) (types : List NodeId) (name : Bytes) (isElement : Bool) : Option NodeId :=
  types.findSome? fun id =>
    if t.declares name id then some id
    else
      (t.get? Construct.typeDecl? id).bind fun d =>
        (t.findNamed d.states name).or (if isElement then t.findNamed d.fields name else none)

/-- A state of the name. -/
def lookupStates (t : Tree) (types : List NodeId) (name : Bytes) : Option NodeId :=
  types.findSome? fun id => (t.get? Construct.typeDecl? id).bind fun d => t.findNamed d.states name

/-- A declaration of a body. -/
def lookupBody (t : Tree) (b : Body) (name : Bytes) (isElement : Bool) : Option NodeId :=
  (t.findNamed b.signals name).or <| (t.findNamed b.constants name).or <|
    (t.findNamed b.functions name).or <| t.lookupTypes b.types name isElement

/-- A declaration of a package, or the package itself unless an element is read. -/
def lookupPackage (t : Tree) (id : NodeId) (p : Package) (name : Bytes) (isElement : Bool) :
    Option NodeId :=
  if !isElement && sameName p.name name then some id
  else
    (t.findNamed p.constants name).or <| (t.findNamed p.signals name).or <|
      (t.findNamed p.functions name).or <| t.lookupTypes p.types name isElement

/-- A declaration of a process. Elements of records are not looked up there. -/
def lookupProcess (t : Tree) (p : Process) (name : Bytes) : Option NodeId :=
  (t.findNamed p.locals name).or <| (t.findNamed p.constants name).or <|
    (t.findNamed p.functions name).or <| t.lookupTypes p.types name false

/-- What a scope declares under a name. A loop or for-generate is the declaration of its iterator. -/
def lookupScope (t : Tree) (scope : NodeId) (name : Bytes) (isElement : Bool) : Option NodeId :=
  match t.construct? scope with
  | some (.architecture a) => t.lookupBody a.body name isElement
  | some (.generate g) =>
    if g.kind = .forRange && sameName g.iterator name then some scope
    else t.lookupBody g.body name isElement
  | some (.process p) => t.lookupProcess p name
  | some (.loop l) => if !l.iterator.isEmpty && sameName l.iterator name then some scope else none
  | _ => none

/-- Whether a scope declares something of the name that can be assigned. -/
def assignableInScope (t : Tree) (scope : NodeId) (name : Bytes) : Bool :=
  match t.construct? scope with
  | some (.architecture a) => (t.findNamed a.body.signals name).isSome
  | some (.generate g) => (t.findNamed g.body.signals name).isSome
  | some (.process p) => (t.findNamed p.locals name).isSome
  | _ => false

/-- The first answer of the scopes around a node, nearest first. A chain of parents that is too long is a
fault only if no scope on the way answers. -/
def searchScopes {α : Type} (t : Tree) (id : NodeId) (answer : NodeId → Option α) :
    Except TreeFault (Option α) :=
  let (scopes, complete) := t.scopes id
  match scopes.findSome? answer with
  | some a => .ok (some a)
  | none => if complete then .ok none else .error (.longChain id)

end Tree

namespace Design

/-- What the packages declare under a name: the first package with a match decides. -/
def lookupPackages (d : Design) (packages : List Ref) (name : Bytes) (isElement : Bool) : Option Ref :=
  packages.findSome? fun r => do
    let t ← d.tree? r.file
    let p ← t.get? Construct.package? r.node
    let id ← t.lookupPackage r.node p name isElement
    return ⟨r.file, id⟩

/-- What the entity and the architecture of a file offer to every read in it. -/
def lookupEntity (d : Design) (file : Nat) (t : Tree) (name : Bytes) : Option Ref := do
  let entity ← d.boundEntity? file
  let a ← t.architectureUnit?
  let fromUnit : Option Ref := do
    let (owner, unit) ← d.interface? entity
    let id ← (owner.findNamed unit.generics name).or (owner.findNamed unit.ports name)
    return ⟨entity.file, id⟩
  fromUnit.or ((t.lookupStates a.body.types name).map (⟨file, ·⟩))

/-- The declaration that a read refers to, if there is one. -/
def resolveRead (d : Design) (file : Nat) (id : NodeId) (packages : List Ref) :
    Except TreeFault (Option Ref) := do
  match d.tree? file with
  | none => return none
  | some t =>
    let (name, isElement) := (t.get? Construct.read? id).getD ([], false)
    match d.lookupPackages packages name isElement with
    | some r => return some r
    | none =>
      match ← t.searchScopes id (t.lookupScope · name isElement) with
      | some node => return some ⟨file, node⟩
      | none =>
        t.checkRoot id
        return d.lookupEntity file t name

/-- Whether a write targets something that can be assigned: a signal of a body around it or of the file's
architecture, a variable of its process, an output of the entity, or a state of the architecture. -/
def resolveWrite (d : Design) (file : Nat) (id : NodeId) : Except TreeFault Bool := do
  match d.tree? file with
  | none => return false
  | some t =>
    let name := (t.get? Construct.write? id).getD []
    match ← t.searchScopes id (fun s => if t.assignableInScope s name then some () else none) with
    | some () => return true
    | none =>
      t.checkRoot id
      let body := t.architectureUnit?.map Architecture.body
      let signal := body.any fun b => (t.findNamed b.signals name).isSome
      let output := ((d.ports? (d.boundEntity? file)).getD []).any fun (portName, direction) =>
        direction.writable && sameName portName name
      let state := body.any fun b => (t.lookupStates b.types name).isSome
      return signal || output || state

/-- The library that a name means in a file: `work` and nothing mean the file's own. -/
def libraryOf (t : Tree) (library : Bytes) : Bytes :=
  if library.isEmpty || sameName library ownLibrary then t.library else library

/-- The components that a scope declares. -/
def componentsIn (t : Tree) (scope : NodeId) : List NodeId :=
  match t.construct? scope with
  | some (.architecture a) => a.body.components
  | some (.generate g) => g.body.components
  | _ => []

/-- The component that one of the packages declares under a name. -/
def componentOfPackages (d : Design) (packages : List Ref) (name : Bytes) : Option Ref :=
  packages.findSome? fun r => do
    let owner ← d.tree? r.file
    let p ← owner.get? Construct.package? r.node
    let node ← owner.findNamed p.components name
    return ⟨r.file, node⟩

/-- The component or entity that an instantiation connects to. A component instantiation uses the nearest
component around it or in an imported package, and else the entity of that name. -/
def resolveInstance (d : Design) (file : Nat) (id : NodeId) (packages : List Ref)
    (entities : UnitLookup) : Except TreeFault (Option Ref) := do
  match d.tree? file with
  | none => return none
  | some t =>
    t.checkRoot id
    let i := (t.get? Construct.instantiation? id).getD {}
    let component ← if i.kind = .component then do
        match ← t.searchScopes id (fun s => t.findNamed (componentsIn t s) i.unitName) with
        | some node => pure (some (Ref.mk file node))
        | none => pure (d.componentOfPackages packages i.unitName)
      else pure none
    return component.or (entities (libraryOf t i.library) i.unitName)

end Design
end DesignLint
