import GraphLayer.Catalog
import GraphLayer.Classification
import GraphLayer.Descriptor

/-!
# Describing an entity from a catalog

* `describe`, the descriptor of an entity and the findings on the way;
* `describeFields` and `describeMethods`, its two parts.
-/

namespace GraphLayer

/-- A descriptor with the findings that did not stop its making. -/
structure Described where
  descriptor : Descriptor
  warnings : List String
  deriving DecidableEq

namespace Introspection

/-- Read a type; a text that is none counts as the name of an unknown class. -/
def typeOf (text : String) : SourceType :=
  match SourceType.parse text with
  | .ok t => t
  | .error _ => .named (Text.trim text)

/-- The service of a configuration: a bare class lies in the module of services. -/
def serviceOf (modules : ModulePaths) (service : String) : Service :=
  match Text.splitLast? [':', ':'] service.toList with
  | some (_, name) => ⟨String.ofList name, service⟩
  | none => ⟨service, modules.service ++ "::" ++ service⟩

/-- The field behind an accessor: a member without parameters and with a result; one that
begins with `is` must be a truth value. -/
def accessorField? (m : MemberDef) : Option (String × AccessorKind) :=
  if !m.params.isEmpty || m.name == "getClass" || m.returns == "void" then none
  else
    (Naming.fieldOfAccessor? m.name).bind fun name =>
      if (Text.stripStart? ['i', 's'] m.name.toList).isSome then
        if (typeOf m.returns).isBoolean then some (name, .booleanGetter) else none
      else some (name, .getter)

/-- The accessors of a class, the first one of each field. -/
def accessors (seen : List String) : List MemberDef → List (MemberDef × String × AccessorKind)
  | [] => []
  | m :: ms =>
    match accessorField? m with
    | none => accessors seen ms
    | some (name, kind) =>
      if name ∈ seen then accessors seen ms else (m, name, kind) :: accessors (name :: seen) ms

/-- The fields behind some accessors and a warning for each ignored one of a type that has no
counterpart. -/
def fieldsOf (known : KeySet String) (entity : String) (ignored : KeySet String) :
    List (MemberDef × String × AccessorKind) →
    Except GenerationError (List Field × List String)
  | [] => .ok ([], [])
  | (m, name, kind) :: rest =>
    let source := typeOf m.returns
    match ignored.contains name, mapType known source with
    | true, .error _ => do
      let (fields, warnings) ← fieldsOf known entity ignored rest
      return (fields, (entity ++ ": dropped ignored field '" ++ name ++ "' of unmappable type '" ++
        m.returns ++ "'") :: warnings)
    | true, .ok _ => fieldsOf known entity ignored rest
    | false, .error e => .error (.unmappableType entity m.name e.type)
    | false, .ok type => do
      let (fields, warnings) ← fieldsOf known entity ignored rest
      return (⟨name, m.name, kind, source, type⟩ :: fields, warnings)

/-- The fields of an entity. -/
def describeFields (known : KeySet String) (entity : String) (c : ClassDef)
    (ignored : KeySet String) : Except GenerationError (List Field × List String) :=
  fieldsOf known entity ignored (accessors [] c.accessibleMembers)

/-- A member as an operation. -/
def signatureOf (m : MemberDef) : Signature :=
  ⟨m.name, m.params.map fun p => (p.name, typeOf p.type), typeOf m.returns⟩

/-- The first parameter with an entity at its leaf; objects are no input types. -/
def entityParam? (known : KeySet String) (m : Signature) : Option (String × String) :=
  m.params.findSome? fun (name, t) =>
    match mapType known t with
    | .ok g => g.leafEntity?.map fun target => (name, target)
    | .error _ => none

/-- The parameters of an operation. -/
def paramsOf (known : KeySet String) (entity operation : String) :
    List (String × SourceType) → Except GenerationError (List Param)
  | [] => .ok []
  | (name, source) :: rest =>
    match mapType known source with
    | .error e => .error (.unmappableType entity operation e.type)
    | .ok type => do
      let params ← paramsOf known entity operation rest
      return ⟨name, source, type⟩ :: params

/-- An operation with its kind and its types. -/
def describeMethod (known : KeySet String) (entity : String) (config : EntityConfig)
    (m : Signature) (kind : OperationKind) : Except GenerationError Method := do
  let params ← paramsOf known entity m.name m.params
  match mapReturn known m.returns with
  | .error e => .error (.unmappableType entity m.name e.type)
  | .ok returns =>
    return {
      kind
      name := m.name
      rootName := config.operationNames.find? m.name
      params
      returnSource := m.returns
      returns
      target := if returns.isList then .collection else .single
      asynchronous := kind == .readOne }

/-- The operations with their types; one with an entity as an argument is dropped with a
warning. -/
def methodsOf (known : KeySet String) (entity : String) (config : EntityConfig) :
    List (Signature × OperationKind) → Except GenerationError (List Method × List String)
  | [] => .ok ([], [])
  | (m, kind) :: rest =>
    match entityParam? known m with
    | some (param, target) => do
      let (methods, warnings) ← methodsOf known entity config rest
      return (methods, (entity ++ ": dropped '" ++ m.name ++ "', argument '" ++ param ++
        "' has entity type '" ++ target ++ "'") :: warnings)
    | none => do
      let method ← describeMethod known entity config m kind
      let (methods, warnings) ← methodsOf known entity config rest
      return (method :: methods, warnings)

/-- The operations of an entity. -/
def describeMethods (known : KeySet String) (entity : String) (c : ClassDef)
    (config : EntityConfig) : Except GenerationError (List Method × List String) :=
  let fault (what : String) : GenerationError :=
    .introspection entity ("service '" ++ c.name ++ "' " ++ what)
  let signatures := c.accessibleMembers.map signatureOf
  if signatures.isEmpty then .error (fault "exposes no public operations")
  else do
    let classified ← (Classifier.ofConfig config).classifyAll entity signatures
    if classified.operations.isEmpty then .error (fault "has no classifiable operations")
    else
      let (methods, warnings) ← methodsOf known entity config classified.operations
      if methods.isEmpty then .error (fault "has no operations with mappable arguments")
      else return (methods, classified.warnings ++ warnings)

end Introspection

open Introspection in
/-- Describe an entity by its class and its service in a catalog; `known` holds the names that
may stand as types. -/
def describe (catalog : Catalog) (known : KeySet String) (modules : ModulePaths)
    (entity : String) (config : EntityConfig) : Except GenerationError Described :=
  let service := serviceOf modules config.service
  match catalog.class? entity with
  | none => .error (.classNotFound entity entity)
  | some entityClass =>
    match catalog.class? service.class with
    | none => .error (.classNotFound entity service.class)
    | some serviceClass => do
      let (fields, fieldWarnings) ← describeFields known entity entityClass config.ignoredFields
      let (methods, methodWarnings) ← describeMethods known entity serviceClass config
      return {
        descriptor :=
          { name := entity
            service
            fields
            methods
            overwrite := config.overwrite
            ignoredFields := config.ignoredFields }
        warnings := fieldWarnings ++ methodWarnings }

end GraphLayer
