import GraphLayer.Generation.Write
import GraphLayer.Introspection
import GraphLayer.Record.Format
import GraphLayer.Rendering.Aggregate
import GraphLayer.Rendering.Entity

/-!
# Generation runs

* `describeAll`, the descriptors of all entities of a configuration;
* `run`, which writes the files of every entity that can be described and, if no entity
  failed, those that belong to all entities together;
* `check`, which finds the same faults without writing.
-/

namespace GraphLayer.Generation

open Rendering

variable {m : Type → Type} [Monad m] [FileStore m]

/-! ### Descriptions -/

/-- Read the catalog at a path. -/
def loadCatalog (p : Path) : m (Except GenerationError Catalog) := do
  match ← FileStore.readText p with
  | none => return .error (.catalog ("Failed to read service catalog: " ++ p.text))
  | some text =>
    let failed := "Failed to parse service catalog: " ++ p.text
    match Catalog.read (Catalog.formatOf p) text with
    | .ok c => return .ok c
    | .error .unreadable => return .error (.catalog failed)
    | .error (.repeated e) => return .error (.catalog (failed ++ ": " ++ e.message))

/-- The names that may stand as types: the entities and the classes of the catalog. -/
def knownNames (config : GeneratorConfig) (catalog : Catalog) : KeySet String :=
  KeySet.ofList (config.entities.keys ++ catalog.classNames)

/-- Describe some entities in order; one that fails is noted and left out. -/
def describeEach (catalog : Catalog) (known : KeySet String) (modules : ModulePaths) :
    List (String × EntityConfig) → List Descriptor × Report → List Descriptor × Report
  | [], s => s
  | (entity, config) :: rest, (ds, r) =>
    match describe catalog known modules entity config with
    | .ok d =>
      let r := r.warn entity d.warnings
      describeEach catalog known modules rest
        (ds ++ [d.descriptor], { r with entities := r.entities ++ [entity] })
    | .error e => describeEach catalog known modules rest (ds, r.fail entity e)

/-- Describe every entity of a configuration that is valid. -/
def describeAll (config : GeneratorConfig) :
    m (Except GenerationError (List Descriptor × Report)) := do
  match config.validate with
  | .error e => return .error e
  | .ok _ =>
    match ← loadCatalog config.catalog with
    | .error e => return .error e
    | .ok catalog =>
      return .ok (describeEach catalog (knownNames config catalog) config.modules
        config.entities.toList ([], {}))

/-! ### Runs -/

/-- Write the files of some entities; of one that fails the rest is left out. -/
def writeEntities (config : GeneratorConfig) (r : Report) : List Descriptor → m Report
  | [] => return r
  | d :: ds => do
    let (r, fault?) ← offerAll d.overwrite (r.warn d.name (entityWarnings d))
      (entityArtifacts config d)
    writeEntities config ((fault?.map (r.fail d.name)).getD r) ds

/-- Write the files that belong to all entities together. -/
def writeAggregates (config : GeneratorConfig) (r : Report) (ds : List Descriptor) :
    m (Except GenerationError Report) := do
  match coordinate config ds with
  | .error e => return .error e
  | .ok as =>
    match ← offerAll .everything r as with
    | (_, some e) => return .error e
    | (r, none) => return .ok { r with aggregatesWritten := true }

/-- Write all files. -/
def run (config : GeneratorConfig) : m (Except GenerationError Report) := do
  match ← describeAll config with
  | .error e => return .error e
  | .ok (ds, r) =>
    let r ← writeEntities config r ds
    if r.isSuccess then writeAggregates config r ds else return .ok r

/-- Find what a run would find, without writing. -/
def check (config : GeneratorConfig) : m (Except GenerationError Report) := do
  match ← describeAll config with
  | .error e => return .error e
  | .ok (ds, r) =>
    let r := ds.foldl (fun r d => r.warn d.name (entityWarnings d)) r
    if r.isSuccess then return (coordinate config ds).map fun _ => r else return .ok r

end GraphLayer.Generation
