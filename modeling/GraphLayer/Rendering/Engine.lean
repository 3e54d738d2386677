import GraphLayer.Rendering.Operations

/-!
# The wiring of the engine

* `engine`, the file that binds the contracts of all entities to their implementations and
  lists the fields of both roots;
* `rootEntries`, these fields.
-/

namespace GraphLayer.Rendering

open Code

/-- The services of all entities. -/
def serviceSet (ds : List Descriptor) : Structure :=
  { doc := "Backing services of every generated entity"
    name := "ServiceSet"
    fields := ds.map fun d =>
      ⟨"pub " ++ Naming.moduleName d.name, "Arc<" ++ serviceClass d ++ ">"⟩ }

/-- The contracts of all entities. -/
def bindingSet (ds : List Descriptor) : Structure :=
  { doc := "Operation contracts bound to their implementations"
    name := "Bindings"
    fields := ds.map fun d =>
      ⟨"pub " ++ Naming.moduleName d.name, "Arc<dyn " ++ contractType d.name ++ ">"⟩ }

/-- The line that binds the contract of an entity. -/
def bindingLine (d : Descriptor) : String :=
  let field := Naming.moduleName d.name
  "    " ++ field ++ ": Arc::new(" ++ implementationType d.name ++
    "::new(Arc::clone(&services." ++ field ++ "))),"

/-- The function that binds all contracts. -/
def bindingBlock (ds : List Descriptor) : Block :=
  { target := "Bindings"
    functions :=
      [{ isPublic := true
         name := "new"
         params := [⟨"services", "&ServiceSet"⟩]
         result := "Self"
         body := some (["Self \x7b"] ++ ds.map bindingLine ++ ["\x7d"]) }] }

/-- A field of a root with its entity and the kind of its operation. -/
structure RootEntry where
  name : String
  entity : String
  kind : OperationKind
  deriving DecidableEq, Repr

/-- The fields of one root, entity by entity. -/
def rootEntries (ds : List Descriptor) (isMutation : Bool) : List RootEntry :=
  ds.flatMap fun d =>
    (d.methods.filter fun m => m.kind.isMutation == isMutation).map fun m =>
      ⟨m.rootField d.name, d.name, m.kind⟩

/-- The line of a field of a root. -/
def RootEntry.line (e : RootEntry) : String :=
  "    RootField \x7b name: \"" ++ e.name ++ "\", entity: \"" ++ e.entity ++
    "\", kind: MethodKind::" ++ e.kind.codeName ++ " \x7d,"

/-- A constant with the fields of a root. -/
def rootConstant (name : String) (es : List RootEntry) : Item :=
  let body :=
    if es.isEmpty then "&[]"
    else "&[\n" ++ String.intercalate "\n" (es.map RootEntry.line) ++ "\n]"
  .raw ("pub const " ++ name ++ ": &[RootField] = " ++ body ++ ";")

/-- The imports of the engine. -/
def engineImports (modules : ModulePaths) (ds : List Descriptor) : List (String × String) :=
  [("std::sync", "Arc"), (modules.sdk ++ "::descriptor", "MethodKind"),
    (modules.sdk ++ "::engine", "RootField")] ++
  ds.flatMap fun d =>
    serviceImport d ++
      [(modules.contract ++ "::" ++ contractModule d.name, contractType d.name),
       (modules.implementation ++ "::" ++ implementationModule d.name,
        implementationType d.name)]

/-- The file of the wiring. -/
def engine (config : GeneratorConfig) (ds : List Descriptor) : Artifact :=
  { category := .contract
    path := filePath config .contract "engine.rs"
    aggregate := true
    contents := file ["//! Generated execution engine wiring", generatedNotice]
      { imports := engineImports config.modules ds
        items :=
          [.struct (serviceSet ds), .struct (bindingSet ds), .block (bindingBlock ds),
           rootConstant "QUERY_FIELDS" (rootEntries ds false),
           rootConstant "MUTATION_FIELDS" (rootEntries ds true)] } }

end GraphLayer.Rendering
