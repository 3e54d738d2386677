import GraphLayer.Rendering.Engine
import GraphLayer.Rendering.Gates
import GraphLayer.Rendering.ModuleIndex
import GraphLayer.Rendering.Registry
import GraphLayer.Schema.Check
import GraphLayer.Schema.Entities

/-!
# The files of all entities together

* `mergedSchema`, the file of the whole schema, which must pass the check of a schema;
* `coordinate`, all files that belong to no single entity, or the reason why there are none.
-/

namespace GraphLayer.Rendering

/-- The file of the whole schema. -/
def mergedFile (config : GeneratorConfig) (ds : List Descriptor) : Artifact :=
  { category := .schema
    path := filePath config .schema "schema.graphql"
    aggregate := true
    contents :=
      "# Generated merged schema\n# This file is auto-generated. Do not edit manually.\n\n" ++
        Schema.Document.text (Schema.merged ds) }

/-- The file of the whole schema, if the schema can be served. -/
def mergedSchema (config : GeneratorConfig) (ds : List Descriptor) :
    Except GenerationError Artifact := do
  let a := mergedFile config ds
  Schema.check a.contents
  return a

/-- The files that belong to no single entity. -/
def coordinate (config : GeneratorConfig) (ds : List Descriptor) :
    Except GenerationError (List Artifact) := do
  resolveReferences ds
  checkRootFields ds
  let schema ← mergedSchema config ds
  return [schema, registry config ds, engine config ds] ++ moduleIndexes config ds

end GraphLayer.Rendering
