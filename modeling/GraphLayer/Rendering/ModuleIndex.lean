import GraphLayer.Rendering.Operations

/-!
# Indexes of modules

* `Inhabitant`, a module in the directory of its category;
* `directories`, the modules of every directory: paths that mean the same are one directory,
  which keeps the spelling and the category that came first;
* `moduleIndexes`, the files that declare these modules.
-/

namespace GraphLayer.Rendering

/-- A module in the directory of its category. -/
structure Inhabitant where
  category : Category
  module : String
  deriving DecidableEq, Repr

/-- The modules of an entity. -/
def entityModules (d : Descriptor) : List Inhabitant :=
  [⟨.contract, contractModule d.name⟩, ⟨.implementation, implementationModule d.name⟩] ++
    (if hasLoader d then [⟨.loader, loaderModule d.name⟩] else [])

/-- The modules of a run. -/
def runModules (ds : List Descriptor) : List Inhabitant :=
  [⟨.contract, "engine"⟩, ⟨.loader, "registry"⟩] ++ ds.flatMap entityModules

/-- A directory with its modules. -/
structure Directory where
  path : Path
  category : Category
  modules : KeySet String

/-- The directories in their order. -/
abbrev Directories := Dict (List (List Nat)) Directory

/-- Put a module into its directory. -/
def addModule (config : GeneratorConfig) (ds : Directories) (i : Inhabitant) : Directories :=
  let path := config.dir i.category
  ds.upsert path.rank fun
    | none => ⟨path, i.category, KeySet.ofList [i.module]⟩
    | some d => { d with modules := d.modules.insert i.module () }

/-- The modules of every directory. -/
def directories (config : GeneratorConfig) (is : List Inhabitant) : List Directory :=
  (is.foldl (addModule config) .empty).toList.map Prod.snd

/-- The file that declares the modules of a directory. -/
def Directory.index (d : Directory) : Artifact :=
  { category := d.category
    path := d.path.join ⟨"mod.rs"⟩
    aggregate := true
    contents := "//! Generated module index\n" ++ generatedNotice ++ "\n\n" ++
      String.join (d.modules.keys.map fun m => "pub mod " ++ m ++ ";\n") }

/-- The files that declare the modules of a run. -/
def moduleIndexes (config : GeneratorConfig) (ds : List Descriptor) : List Artifact :=
  (directories config (runModules ds)).map Directory.index

end GraphLayer.Rendering
