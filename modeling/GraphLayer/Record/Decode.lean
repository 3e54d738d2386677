import GraphLayer.Catalog
import GraphLayer.Config
import GraphLayer.Record.Node

/-!
# Reading structures

* `Catalog.ofNode?`, `GeneratorConfig.ofNode?`, `EntityConfig.ofNode?` and the readers of their
  parts.
-/

namespace GraphLayer

open Node (text? bool? word? list? optional?)

/-! ### Catalogs -/

/-- Read a parameter. -/
def ParamDef.ofNode? (n : Node) : Option ParamDef := do
  let g ← n.fields? ["name", "type"] 2
  return { name := ← g.required? "name" text?, type := ← g.required? "type" text? }

/-- Read a member. -/
def MemberDef.ofNode? (n : Node) : Option MemberDef := do
  let g ← n.fields? ["name", "params", "returns", "public", "static"] 1
  return {
    name := ← g.required? "name" text?
    params := ← g.default? "params" (list? ParamDef.ofNode?) []
    returns := ← g.default? "returns" text? "void"
    isPublic := ← g.default? "public" bool? true
    isStatic := ← g.default? "static" bool? false }

/-- Read a class. -/
def ClassDef.ofNode? (n : Node) : Option ClassDef := do
  let g ← n.fields? ["name", "members"] 1
  return {
    name := ← g.required? "name" text?
    members := ← g.default? "members" (list? MemberDef.ofNode?) [] }

/-- Read a catalog, whether its classes are distinct or not. -/
def Catalog.ofNode? (n : Node) : Option Catalog := do
  let g ← n.fields? ["classes"] 0
  return { classes := ← g.default? "classes" (list? ClassDef.ofNode?) [] }

/-! ### Configurations -/

/-- Read a path. -/
def Path.ofNode? (n : Node) : Option Path := (text? n).map Path.mk

/-- Read the directories. -/
def OutputDirs.ofNode? (n : Node) : Option OutputDirs := do
  let g ← n.fields? ["schema_dir", "contract_dir", "implementation_dir", "loader_dir"] 4
  let dir (name : String) : Option (Option Path) :=
    g.default? name (optional? Path.ofNode?) none
  return {
    schema := ← dir "schema_dir"
    contract := ← dir "contract_dir"
    implementation := ← dir "implementation_dir"
    loader := ← dir "loader_dir" }

/-- Read the module paths. -/
def ModulePaths.ofNode? (n : Node) : Option ModulePaths := do
  let g ← n.fields? ["model", "service", "contract", "implementation", "loader", "sdk"] 0
  let d : ModulePaths := {}
  return {
    model := ← g.default? "model" text? d.model
    service := ← g.default? "service" text? d.service
    contract := ← g.default? "contract" text? d.contract
    implementation := ← g.default? "implementation" text? d.implementation
    loader := ← g.default? "loader" text? d.loader
    sdk := ← g.default? "sdk" text? d.sdk }

/-- Read the limits of loaders. -/
def LoaderOptions.ofNode? (n : Node) : Option LoaderOptions := do
  let g ← n.fields? ["max_batch_size", "cache_ttl_ms", "cache_max_size"] 0
  let d : LoaderOptions := {}
  return {
    maxBatchSize := ← g.default? "max_batch_size" word? d.maxBatchSize
    cacheTtl := ← g.default? "cache_ttl_ms" word? d.cacheTtl
    cacheMaxSize := ← g.default? "cache_max_size" word? d.cacheMaxSize }

/-- Read a policy. -/
def OverwritePolicy.ofNode? (n : Node) : Option OverwritePolicy := do
  let g ← n.fields? ["schema", "contract", "implementation", "loader"] 0
  let d : OverwritePolicy := {}
  return {
    schema := ← g.default? "schema" bool? d.schema
    contract := ← g.default? "contract" bool? d.contract
    implementation := ← g.default? "implementation" bool? d.implementation
    loader := ← g.default? "loader" bool? d.loader }

/-- Read overrides. -/
def MethodOverrides.ofNode? (n : Node) : Option MethodOverrides := do
  let g ← n.fields? ["create", "read_one", "read_all", "update", "delete"] 0
  let name (key : String) : Option (Option String) := g.default? key (optional? text?) none
  return {
    create := ← name "create"
    readOne := ← name "read_one"
    readAll := ← name "read_all"
    update := ← name "update"
    delete := ← name "delete" }

/-- Read the settings of an entity. -/
def EntityConfig.ofNode? (n : Node) : Option EntityConfig := do
  let g ← n.fields? ["service", "ignored_fields", "methods", "operation_names", "overwrite"] 0
  return {
    service := ← g.default? "service" text? ""
    ignoredFields := ← g.default? "ignored_fields" Node.set? .empty
    methods := ← g.default? "methods" MethodOverrides.ofNode? {}
    operationNames := ← g.default? "operation_names" (Node.dict? text?) .empty
    overwrite := ← g.default? "overwrite" OverwritePolicy.ofNode? {} }

/-- Read a configuration. -/
def GeneratorConfig.ofNode? (n : Node) : Option GeneratorConfig := do
  let g ← n.fields? ["catalog", "output", "modules", "loader", "entities"] 1
  return {
    catalog := ← g.required? "catalog" Path.ofNode?
    output := ← g.default? "output" OutputDirs.ofNode? {}
    modules := ← g.default? "modules" ModulePaths.ofNode? {}
    loader := ← g.default? "loader" LoaderOptions.ofNode? {}
    entities := ← g.default? "entities" (Node.dict? EntityConfig.ofNode?) .empty }

end GraphLayer
