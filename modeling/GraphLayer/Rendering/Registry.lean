import GraphLayer.Rendering.Operations

/-!
# The registry of loaders

* `registry`, the file that registers the loaders of all entities that have one.
-/

namespace GraphLayer.Rendering

open Code

/-- The entities with a loader. -/
def loaded (ds : List Descriptor) : List Descriptor := ds.filter hasLoader

/-- The keys of the loaders. -/
def loaderKeys (ds : List Descriptor) : List String := (loaded ds).map fun d => loaderKey d.name

/-- The imports of the registry. -/
def registryImports (modules : ModulePaths) (ds : List Descriptor) : List (String × String) :=
  (if (loaded ds).isEmpty then [] else [("std::sync", "Arc")]) ++
    [("std::time", "Duration")] ++
    (["BatchingRuntime", "LoaderOptions", "LoaderRegistry", "RuntimeError"].map fun name =>
      (modules.sdk ++ "::runtime", name)) ++
    [(modules.contract ++ "::engine", "ServiceSet")] ++
    (loaded ds).flatMap fun d =>
      let path := modules.loader ++ "::" ++ loaderModule d.name
      [(path, loaderType d.name), (path, loaderKey d.name)]

/-- The function with the limits of a configuration. -/
def optionsFunction (o : LoaderOptions) : Function :=
  { doc := "Batch loader options the generator was configured with"
    isPublic := true
    name := "loader_options"
    result := "LoaderOptions"
    body := some
      ["LoaderOptions \x7b",
       "    max_batch_size: " ++ toString o.maxBatchSize.toNat ++ ",",
       "    cache_ttl: Duration::from_millis(" ++ toString o.cacheTtl.toNat ++ "),",
       "    cache_max_size: " ++ toString o.cacheMaxSize.toNat ++ ",",
       "\x7d"] }

/-- The line that registers the loader of an entity. -/
def registration (d : Descriptor) : String :=
  "registry.register(" ++ loaderKey d.name ++ ", " ++ loaderType d.name ++
    "::new(Arc::clone(&services." ++ Naming.moduleName d.name ++ ")))?;"

/-- The function that registers the loaders. -/
def registryFunction (ds : List Descriptor) : Function :=
  let some? := !(loaded ds).isEmpty
  { doc := "Register one batch loader per entity under its stable key"
    isPublic := true
    name := "build_registry"
    params := [⟨if some? then "services" else "_services", "&ServiceSet"⟩]
    result := "Result<LoaderRegistry, RuntimeError>"
    body := some
      (if some? then
        ["let mut registry = LoaderRegistry::new();"] ++ (loaded ds).map registration ++
          ["Ok(registry)"]
       else ["Ok(LoaderRegistry::new())"]) }

/-- The function that makes the runtime. -/
def runtimeFunction : Function :=
  { isPublic := true
    name := "build_runtime"
    params := [⟨"services", "&ServiceSet"⟩]
    result := "Result<BatchingRuntime, RuntimeError>"
    body := some ["Ok(BatchingRuntime::new(build_registry(services)?, loader_options()))"] }

/-- The file that registers the loaders. -/
def registry (config : GeneratorConfig) (ds : List Descriptor) : Artifact :=
  { category := .loader
    path := filePath config .loader "registry.rs"
    aggregate := true
    contents := file ["//! Generated loader registry wiring", generatedNotice]
      { imports := registryImports config.modules ds
        items :=
          [.raw ("/// Registry keys of every generated loader\n" ++
            "pub const LOADER_KEYS: &[&str] = &[" ++
            String.intercalate ", " (loaderKeys ds) ++ "];"),
           .function (optionsFunction config.loader),
           .function (registryFunction ds),
           .function runtimeFunction] } }

end GraphLayer.Rendering
