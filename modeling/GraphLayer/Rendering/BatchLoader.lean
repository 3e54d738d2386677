import GraphLayer.Rendering.Operations

/-!
# Batch loaders

* `fetchBody`, the lines that fetch the entities of some identifiers;
* `batchLoader`, the file of a loader.
-/

namespace GraphLayer.Rendering

open Code

/-- The lines of a fetch by one call. -/
def batchBody (narrow : Bool) (method : String) (keysNullable : Bool) (accessor : String)
    (accessorNullable : Bool) : List String :=
  [if narrow then
    "let keys = ids.iter().map(|id| i32::try_from(*id)).collect::<Result<Vec<_>, _>>()" ++
      ".map_err(LoadError::failed)?;"
   else "let keys = ids.to_vec();",
   "let items = self.service." ++ method ++ "(" ++
     (if keysNullable then "Some(keys.into_iter().map(Some).collect())" else "Some(keys)") ++
     ").map_err(LoadError::failed)?;",
   "let mut found = HashMap::with_capacity(ids.len());",
   "for item in items.into_iter().flatten().flatten() \x7b"] ++
  (if accessorNullable then
    ["    if let Some(id) = item." ++ accessor ++ "() \x7b",
     "        found.insert(i64::from(id), Ok(item));",
     "    \x7d"]
   else ["    found.insert(i64::from(item." ++ accessor ++ "()), Ok(item));"]) ++
  ["\x7d"]

/-- The lines of a fetch by one call for each identifier. -/
def perIdBody (narrow : Bool) (method : String) (paramNullable : Bool) : List String :=
  ["let mut found = HashMap::with_capacity(ids.len());",
   "for id in ids \x7b"] ++
  (if narrow then
    ["    let key = match i32::try_from(*id) \x7b",
     "        Ok(key) => key,",
     "        Err(e) => \x7b",
     "            found.insert(*id, Err(LoadError::failed(e)));",
     "            continue;",
     "        \x7d",
     "    \x7d;"]
   else ["    let key = *id;"]) ++
  ["    match self.service." ++ method ++ "(" ++
     (if paramNullable then "Some(key)" else "key") ++ ") \x7b",
   "        Ok(Some(value)) => \x7b",
   "            found.insert(*id, Ok(value));",
   "        \x7d",
   "        Ok(None) => \x7b\x7d",
   "        Err(e) => \x7b",
   "            found.insert(*id, Err(LoadError::failed(e)));",
   "        \x7d",
   "    \x7d",
   "\x7d"]

/-- The lines that fetch the entities of some identifiers; an identifier of 32 bits is narrowed
first. -/
def fetchBody (plan : LoaderPlan) : List String :=
  let narrow := plan.id.scalar == .int
  (match plan.fetch with
   | .batch method keysNullable accessor accessorNullable =>
     batchBody narrow method keysNullable accessor accessorNullable
   | .perId method paramNullable => perIdBody narrow method paramNullable) ++ ["Ok(found)"]

/-- What a loader makes of its interface. -/
def loaderBlock (entity : String) (plan : LoaderPlan) : Block :=
  { interface := some "BatchLoader"
    target := loaderType entity
    types := [⟨"Value", entity⟩]
    functions :=
      [{ isAsync := true
         name := "load"
         onSelf := true
         params := [⟨"ids", "&[i64]"⟩]
         result := "BatchResult<" ++ entity ++ ">"
         body := some (fetchBody plan) }] }

/-- The file of a loader. -/
def batchLoader (config : GeneratorConfig) (d : Descriptor) (plan : LoaderPlan) : Artifact :=
  let modules := config.modules
  let runtime := modules.sdk ++ "::runtime"
  { category := .loader
    path := filePath config .loader (loaderModule d.name ++ ".rs")
    contents := file ["//! Generated batch loader: " ++ d.name, generatedNotice]
      { imports :=
          [("std::collections", "HashMap"), ("std::sync", "Arc"), (modules.sdk, "async_trait"),
            (runtime, "BatchLoader"), (runtime, "BatchResult"), (runtime, "LoadError"),
            (modules.model, d.name)] ++ serviceImport d
        items :=
          [.raw ("/// Registry key of the \x60" ++ d.name ++ "\x60 batch loader\npub const " ++
            loaderKey d.name ++ ": &str = \"" ++ d.name ++ "\";")] ++
          serviceHolder (loaderType d.name)
            ("Loads \x60" ++ d.name ++ "\x60 values by \x60" ++ plan.id.name ++
              "\x60, many ids per call")
            ("Arc<" ++ serviceClass d ++ ">") ++
          [marked "#[async_trait]" (.block (loaderBlock d.name plan))] } }

end GraphLayer.Rendering
