import GraphLayer.Rendering.BatchLoader
import GraphLayer.Schema.Entities

/-!
# The files of one entity

* `fragmentFile`, the file of the schema of an entity;
* `entityArtifacts`, all files of an entity, in the order of their categories, and
  `entityWarnings`, the findings of their making.
-/

namespace GraphLayer.Rendering

/-- The file of the schema of an entity. -/
def fragmentFile (config : GeneratorConfig) (d : Descriptor) : Artifact :=
  { category := .schema
    path := filePath config .schema (Naming.moduleName d.name ++ ".graphql")
    contents := "# Generated schema fragment: " ++ d.name ++
      "\n# This file is auto-generated. Do not edit manually.\n\n" ++
      Schema.Document.text (Schema.fragment d) }

/-- The file of the loader of an entity that has one. -/
def loaderFile? (config : GeneratorConfig) (d : Descriptor) : Option Artifact :=
  (LoaderPlan.ofDescriptor? d).map (batchLoader config d)

/-- The files of an entity. -/
def entityArtifacts (config : GeneratorConfig) (d : Descriptor) : List Artifact :=
  [fragmentFile config d, contract config d, implementation config d] ++
    (loaderFile? config d).toList

/-- The findings about the files of an entity: there may be no loader. -/
def entityWarnings (d : Descriptor) : List String :=
  if hasLoader d then []
  else [d.name ++
    ": no identifier with an id-keyed read operation, batch loader not generated"]

end GraphLayer.Rendering
