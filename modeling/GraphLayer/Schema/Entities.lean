import GraphLayer.Descriptor
import GraphLayer.Schema.Document

/-!
# The schema of described entities

* `Descriptor.fragment`, the schema of one entity: its object and what it adds to the roots;
* `merged`, the schema of some entities with their roots put together.
-/

namespace GraphLayer

open Schema

/-- A field of an entity in its object. -/
def Field.toDef (f : Field) : FieldDef := ⟨f.name, [], f.type.toRef⟩

/-- A parameter as an argument. -/
def Param.toArgument (p : Param) : Argument := ⟨p.name, p.type.toRef⟩

/-- The field of a root that an operation of an entity stands behind. -/
def Method.toDef (m : Method) (entity : String) : FieldDef :=
  ⟨m.rootField entity, m.params.map Param.toArgument, m.returns.toRef⟩

namespace Descriptor

/-- The object of an entity. -/
def objectDef (d : Descriptor) : Definition := .object d.name (d.fields.map Field.toDef)

/-- The operations behind fields of `Query`. -/
def queries (d : Descriptor) : List Method := d.methods.filter fun m => !m.kind.isMutation

/-- The operations behind fields of `Mutation`. -/
def mutations (d : Descriptor) : List Method := d.methods.filter fun m => m.kind.isMutation

/-- The fields of `Query`, in the order of the operations. -/
def queryFields (d : Descriptor) : List FieldDef := d.queries.map fun m => m.toDef d.name

/-- The fields of `Mutation`, in the order of the operations. -/
def mutationFields (d : Descriptor) : List FieldDef := d.mutations.map fun m => m.toDef d.name

end Descriptor

namespace Schema

/-- A definition of a root, unless it has no fields. -/
def rootOf (define : String → List FieldDef → Definition) (root : String)
    (fields : List FieldDef) : Document :=
  if fields.isEmpty then [] else [define root fields]

/-- The two roots. -/
def rootsOf (define : String → List FieldDef → Definition)
    (queries mutations : List FieldDef) : Document :=
  rootOf define "Query" queries ++ rootOf define "Mutation" mutations

/-- The schema of one entity. -/
def fragment (d : Descriptor) : Document :=
  d.objectDef :: rootsOf .extension d.queryFields d.mutationFields

/-- Whether some type of the entities ends in `Long`. -/
def usesLong (ds : List Descriptor) : Bool := ds.any fun d => d.scalars.contains .long

/-- The schema of some entities: the scalar that is not built in if it is used, the objects and
the roots. -/
def merged (ds : List Descriptor) : Document :=
  (if usesLong ds then [.scalar Scalar.long.name] else []) ++ ds.map Descriptor.objectDef ++
    rootsOf .object (ds.flatMap Descriptor.queryFields) (ds.flatMap Descriptor.mutationFields)

end Schema

end GraphLayer
