import GraphLayer.Catalog
import GraphLayer.Descriptor
import GraphLayer.Config
import GraphLayer.Json.Basic

/-!
# Serialized forms

The JSON values that stand for types, descriptors, catalogs and configurations.  A choice
without contents is a string, one with contents a record of one field; an absent value is
null.
-/

namespace GraphLayer

/-- A list of strings. -/
def Json.texts (l : List String) : Json := .list (l.map .text)

/-- A value that may be absent. -/
def Json.optional {α : Type} (f : α → Json) : Option α → Json
  | none => .null
  | some a => f a

/-! ### Types -/

/-- The name of a primitive kind. -/
def Primitive.name : Primitive → String
  | int => "Int"
  | long => "Long"
  | double => "Double"
  | boolean => "Boolean"

/-- The serialized source type. -/
def SourceType.toJson : SourceType → Json
  | primitive k => .record [("Primitive", .text k.name)]
  | boxed k => .record [("Boxed", .text k.name)]
  | string => .text "String"
  | array item => .record [("Array", item.toJson)]
  | void => .text "Void"
  | named name => .record [("Named", .text name)]

/-- A kind of type with the mark for null. -/
def GraphType.wrap (kind : Json) (nullable : Bool) : Json :=
  .record [("kind", kind), ("nullable", .bool nullable)]

/-- The serialized type. -/
def GraphType.toJson : GraphType → Json
  | scalar s n => wrap (.record [("Scalar", .text s.name)]) n
  | entity name n => wrap (.record [("Entity", .text name)]) n
  | list item n => wrap (.record [("List", item.toJson)]) n

/-! ### Descriptors -/

/-- The serialized policy. -/
def OverwritePolicy.toJson (p : OverwritePolicy) : Json :=
  .record [("schema", .bool p.schema), ("contract", .bool p.contract),
    ("implementation", .bool p.implementation), ("loader", .bool p.loader)]

/-- The serialized field. -/
def Field.toJson (f : Field) : Json :=
  .record [("name", .text f.name), ("accessor", .text f.accessor),
    ("accessor_kind", .text (match f.accessorKind with
      | .getter => "Getter"
      | .booleanGetter => "BooleanGetter")),
    ("source_type", f.sourceType.toJson), ("graph_type", f.type.toJson)]

/-- The serialized parameter. -/
def Param.toJson (p : Param) : Json :=
  .record [("name", .text p.name), ("source_type", p.sourceType.toJson),
    ("graph_type", p.type.toJson)]

/-- The serialized operation. -/
def Method.toJson (m : Method) : Json :=
  .record [("kind", .text m.kind.key), ("method_name", .text m.name),
    ("operation_override", Json.optional .text m.rootName),
    ("params", .list (m.params.map Param.toJson)),
    ("return_source", m.returnSource.toJson), ("returns", m.returns.toJson),
    ("target", .text (match m.target with
      | .single => "Single"
      | .collection => "Collection")),
    ("asynchronous", .bool m.asynchronous)]

/-- The serialized identifier. -/
def Identifier.toJson (i : Identifier) : Json :=
  .record [("name", .text i.name), ("scalar", .text i.scalar.name)]

/-- The serialized descriptor. -/
def Descriptor.toJson (d : Descriptor) : Json :=
  .record [("name", .text d.name),
    ("service", .record [("class", .text d.service.class), ("path", .text d.service.path)]),
    ("fields", .list (d.fields.map Field.toJson)),
    ("methods", .list (d.methods.map Method.toJson)),
    ("id", Json.optional Identifier.toJson d.id?),
    ("overwrite", d.overwrite.toJson),
    ("ignored_fields", Json.texts d.ignoredFields.keys)]

/-! ### Catalogs -/

/-- The serialized parameter. -/
def ParamDef.toJson (p : ParamDef) : Json :=
  .record [("name", .text p.name), ("type", .text p.type)]

/-- The serialized member. -/
def MemberDef.toJson (m : MemberDef) : Json :=
  .record [("name", .text m.name), ("params", .list (m.params.map ParamDef.toJson)),
    ("returns", .text m.returns), ("public", .bool m.isPublic), ("static", .bool m.isStatic)]

/-- The serialized class. -/
def ClassDef.toJson (c : ClassDef) : Json :=
  .record [("name", .text c.name), ("members", .list (c.members.map MemberDef.toJson))]

/-- The serialized catalog. -/
def Catalog.toJson (c : Catalog) : Json :=
  .record [("classes", .list (c.classes.map ClassDef.toJson))]

/-! ### Configurations -/

/-- A word as a number. -/
def Json.word (n : UInt64) : Json := .integer n.toNat

/-- The serialized directories. -/
def OutputDirs.toJson (o : OutputDirs) : Json :=
  let dir : Option Path → Json := Json.optional fun p => .text p.text
  .record [("schema_dir", dir o.schema), ("contract_dir", dir o.contract),
    ("implementation_dir", dir o.implementation), ("loader_dir", dir o.loader)]

/-- The serialized module paths. -/
def ModulePaths.toJson (m : ModulePaths) : Json :=
  .record [("model", .text m.model), ("service", .text m.service),
    ("contract", .text m.contract), ("implementation", .text m.implementation),
    ("loader", .text m.loader), ("sdk", .text m.sdk)]

/-- The serialized limits. -/
def LoaderOptions.toJson (o : LoaderOptions) : Json :=
  .record [("max_batch_size", Json.word o.maxBatchSize), ("cache_ttl_ms", Json.word o.cacheTtl),
    ("cache_max_size", Json.word o.cacheMaxSize)]

/-- The serialized overrides. -/
def MethodOverrides.toJson (m : MethodOverrides) : Json :=
  .record [("create", Json.optional .text m.create), ("read_one", Json.optional .text m.readOne),
    ("read_all", Json.optional .text m.readAll), ("update", Json.optional .text m.update),
    ("delete", Json.optional .text m.delete)]

/-- The serialized settings of an entity. -/
def EntityConfig.toJson (c : EntityConfig) : Json :=
  .record [("service", .text c.service), ("ignored_fields", Json.texts c.ignoredFields.keys),
    ("methods", c.methods.toJson),
    ("operation_names", .record (c.operationNames.toList.map fun p => (p.1, .text p.2))),
    ("overwrite", c.overwrite.toJson)]

/-- The serialized configuration. -/
def GeneratorConfig.toJson (c : GeneratorConfig) : Json :=
  .record [("catalog", .text c.catalog.text), ("output", c.output.toJson),
    ("modules", c.modules.toJson), ("loader", c.loader.toJson),
    ("entities", .record (c.entities.toList.map fun p => (p.1, p.2.toJson)))]

end GraphLayer
