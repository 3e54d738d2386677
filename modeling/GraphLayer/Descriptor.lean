import GraphLayer.Artifact
import GraphLayer.Operation
import GraphLayer.Types.Graph

/-!
# Descriptors of entities

What is known about one entity once its class and its service have been looked at.

* `Field`, `Param`, `Method`, `Service` and `Descriptor`;
* `Descriptor.id?`, the identifier of an entity;
* `Descriptor.entityRefs` and `Descriptor.scalars`, the types that it refers to.
-/

namespace GraphLayer

/-- How a field is exposed. -/
inductive AccessorKind where
  | getter
  | booleanGetter
  deriving DecidableEq, Repr

/-- A field of an entity. -/
structure Field where
  name : String
  accessor : String
  accessorKind : AccessorKind
  sourceType : SourceType
  type : GraphType
  deriving DecidableEq, Repr

/-- A parameter of an operation. -/
structure Param where
  name : String
  sourceType : SourceType
  type : GraphType
  deriving DecidableEq, Repr

/-- Whether an operation is about one entity or a collection. -/
inductive Target where
  | single
  | collection
  deriving DecidableEq, Repr

/-- An operation with its kind. -/
structure Method where
  kind : OperationKind
  name : String
  /-- The configured root field. -/
  rootName : Option String
  params : List Param
  returnSource : SourceType
  returns : GraphType
  target : Target
  asynchronous : Bool
  deriving DecidableEq, Repr

namespace Method

/-- The root field of an operation of an entity. -/
def rootField (m : Method) (entity : String) : String :=
  m.rootName.getD (Naming.rootField m.kind entity m.name)

/-- Whether the operation has no result. -/
def returnsVoid (m : Method) : Bool := m.returnSource == .void

/-- The types of the parameters and of the result. -/
def types (m : Method) : List GraphType := m.params.map Param.type ++ [m.returns]

end Method

/-- The identifier of an entity. -/
structure Identifier where
  name : String
  scalar : Scalar
  deriving DecidableEq, Repr

/-- The service behind an entity: its class in the catalog, and its path in generated code. -/
structure Service where
  «class» : String
  path : String
  deriving DecidableEq, Repr

/-- The description of one entity. -/
structure Descriptor where
  name : String
  service : Service
  fields : List Field
  methods : List Method
  overwrite : OverwritePolicy
  ignoredFields : KeySet String
  deriving DecidableEq

namespace Descriptor

/-- The identifier under a name, if its type is a whole number. -/
def identifierOf? (name : String) : GraphType → Option Identifier
  | .scalar .int _ => some ⟨name, .int⟩
  | .scalar .long _ => some ⟨name, .long⟩
  | _ => none

/-- The single parameter of the first read-one operation that has just one. -/
def readOneId? (d : Descriptor) : Option Identifier := do
  let m ← d.methods.find? fun m => m.kind == .readOne && m.params.length == 1
  let p ← m.params.head?
  identifierOf? p.name p.type

/-- The first field named `id` or by the conventional identifier of the entity. -/
def fieldId? (d : Descriptor) : Option Identifier := do
  let f ← d.fields.find? fun f => f.name == "id" || f.name == Naming.idField d.name
  identifierOf? f.name f.type

/-- The identifier: the parameter of the read-one operation before a field. -/
def id? (d : Descriptor) : Option Identifier := d.readOneId?.or d.fieldId?

/-- The first operation of a kind. -/
def method? (d : Descriptor) (kind : OperationKind) : Option Method :=
  d.methods.find? fun m => m.kind == kind

/-- The types of all fields, parameters and results. -/
def types (d : Descriptor) : List GraphType :=
  d.fields.map Field.type ++ d.methods.flatMap Method.types

/-- The entities at the leaves of all types. -/
def entityRefs (d : Descriptor) : KeySet String :=
  KeySet.ofList (d.types.filterMap GraphType.leafEntity?)

/-- The entities at the leaves of the types of operations. -/
def operationRefs (d : Descriptor) : KeySet String :=
  KeySet.ofList ((d.methods.flatMap Method.types).filterMap GraphType.leafEntity?)

/-- The scalars at the leaves of all types, in their order. -/
def scalars (d : Descriptor) : List Scalar :=
  let used := d.types.filterMap GraphType.leafScalar?
  Scalar.all.filter fun s => used.contains s

end Descriptor

end GraphLayer
