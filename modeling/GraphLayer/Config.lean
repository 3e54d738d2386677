import GraphLayer.Artifact
import GraphLayer.Batching.Loader
import GraphLayer.GenerationError
import GraphLayer.Text.Blank

/-!
# Configurations

* `EntityConfig`, the settings of one entity, with its `MethodOverrides`;
* `GeneratorConfig`, the settings of a run;
* `GeneratorConfig.resolve`, which sets every relative path below a base directory;
* `GeneratorConfig.validate`, what a run needs before it looks at any entity.
-/

namespace GraphLayer

/-- The directories of the four categories. -/
structure OutputDirs where
  schema : Option Path := none
  contract : Option Path := none
  implementation : Option Path := none
  loader : Option Path := none
  deriving DecidableEq

/-- The directory of a category. -/
def OutputDirs.get (o : OutputDirs) : Category → Option Path
  | .schema => o.schema
  | .contract => o.contract
  | .implementation => o.implementation
  | .loader => o.loader

/-- The module paths that generated code refers to. -/
structure ModulePaths where
  model : String := "crate::model"
  service : String := "crate::service"
  contract : String := "crate::graphql::contract"
  implementation : String := "crate::graphql::resolvers"
  loader : String := "crate::graphql::loaders"
  sdk : String := "servgraph_sdk"
  deriving DecidableEq

/-- Operations whose kind is given by name. -/
structure MethodOverrides where
  create : Option String := none
  readOne : Option String := none
  readAll : Option String := none
  update : Option String := none
  delete : Option String := none
  deriving DecidableEq

/-- The overrides as pairs of an operation and its kind, in the order of the kinds. -/
def MethodOverrides.pairs (m : MethodOverrides) : List (String × OperationKind) :=
  [(m.create, OperationKind.create), (m.readOne, .readOne), (m.readAll, .readAll),
    (m.update, .update), (m.delete, .delete)].filterMap fun (name, kind) =>
      name.map fun n => (n, kind)

/-- The settings of one entity. -/
structure EntityConfig where
  /-- The class of the service, with or without its module path. -/
  service : String := ""
  ignoredFields : KeySet String := .empty
  methods : MethodOverrides := {}
  /-- Root fields by operation. -/
  operationNames : Dict String String := .empty
  overwrite : OverwritePolicy := {}
  deriving DecidableEq

/-- The settings of a run. -/
structure GeneratorConfig where
  catalog : Path
  output : OutputDirs := {}
  modules : ModulePaths := {}
  loader : LoaderOptions := {}
  entities : Dict String EntityConfig := .empty
  deriving DecidableEq

namespace GeneratorConfig

/-- The directory of a category; one that is not set is the current directory. -/
def dir (c : GeneratorConfig) (k : Category) : Path := (c.output.get k).getD ⟨"."⟩

/-- Set a relative path below a base directory. -/
def resolvePath (base p : Path) : Path := if p.isAbsolute then p else base.join p

/-- Set every relative path below a base directory. -/
def resolve (base : Path) (c : GeneratorConfig) : GeneratorConfig :=
  let at? (p : Option Path) : Option Path := p.map (resolvePath base)
  { c with
    catalog := resolvePath base c.catalog
    output :=
      { schema := at? c.output.schema
        contract := at? c.output.contract
        implementation := at? c.output.implementation
        loader := at? c.output.loader } }

/-- The categories without a directory, by the keys of their settings. -/
def missingDirs (c : GeneratorConfig) : List String :=
  (Category.all.filter fun k =>
    match c.output.get k with
    | none => true
    | some p => p.text.isEmpty).map fun k => k.name ++ "_dir"

/-- The first entity without a service. -/
def unserved? (c : GeneratorConfig) : Option String :=
  (c.entities.toList.find? fun p => (Text.trim p.2.service).isEmpty).map Prod.fst

/-- Check what a run needs before it looks at any entity. -/
def validate (c : GeneratorConfig) : Except GenerationError Unit :=
  if c.missingDirs ≠ [] then
    .error (.config ("output directories not set: " ++ String.intercalate ", " c.missingDirs))
  else if c.entities.isEmpty then .error (.config "no entities configured")
  else if c.loader.maxBatchSize = 0 then
    .error (.config "loader.max_batch_size must be at least 1")
  else
    match c.unserved? with
    | some name => .error (.config ("entity '" ++ name ++ "' has no backing service"))
    | none => .ok ()

end GeneratorConfig

end GraphLayer
