import GraphLayer.Rendering.LoaderPlan
import GraphLayer.Config

/-!
# Contracts and implementations

The operations of an entity as functions: declared in its contract, and defined in its
implementation by calls of its service or of its loader.

* `contract` and `implementation`, the two files;
* `contractInterface` and `implementationBlock`, what they are about.
-/

namespace GraphLayer.Rendering

open Code

/-- The path of a file of an entity. -/
def filePath (config : GeneratorConfig) (category : Category) (name : String) : Path :=
  (config.dir category).join ⟨name⟩

/-- The parameters of an operation. -/
def bindings (m : Method) : List Binding :=
  m.params.map fun p => ⟨identifier p.name, p.type.codeType⟩

/-- The head of the function of an operation. -/
def operationHead (entity : String) (m : Method) (context : String) : Function :=
  { isAsync := m.asynchronous
    name := identifier (m.rootField entity)
    onSelf := true
    params := ⟨context, "&RequestContext"⟩ :: bindings m
    result := "FieldResult<" ++ m.returns.codeType ++ ">" }

/-! ### The contract -/

/-- The description of an operation. -/
def operationDoc (entity : String) (m : Method) : String :=
  m.kind.root ++ " field \x60" ++ m.rootField entity ++ "\x60 (" ++ m.kind.text ++
    "), served by \x60" ++ m.name ++ "\x60"

/-- The operations of an entity, declared. -/
def contractInterface (d : Descriptor) : Interface :=
  { doc := "Operations exposed for \x60" ++ d.name ++ "\x60"
    name := contractType d.name
    parents := ["Send + Sync"]
    functions := d.methods.map fun m =>
      { operationHead d.name m "ctx" with doc := operationDoc d.name m } }

/-- The models that the operations refer to. -/
def modelImports (modules : ModulePaths) (d : Descriptor) : List (String × String) :=
  d.operationRefs.keys.map fun name => (modules.model, name)

/-- The file of the contract. -/
def contract (config : GeneratorConfig) (d : Descriptor) : Artifact :=
  let modules := config.modules
  { category := .contract
    path := filePath config .contract (contractModule d.name ++ ".rs")
    contents := file ["//! Generated operation contract: " ++ d.name, generatedNotice]
      { imports :=
          [(modules.sdk, "async_trait"), (modules.sdk ++ "::engine", "FieldResult"),
            (modules.sdk ++ "::runtime", "RequestContext")] ++ modelImports modules d
        items := [marked "#[async_trait]" (.interface (contractInterface d))] } }

/-! ### The implementation -/

/-- Whether an operation is answered by the loader of its entity. -/
def viaLoader (d : Descriptor) (m : Method) : Bool := hasLoader d && loadsById d m

/-- A call of the loader. -/
def loadCall (entity id : String) : String :=
  "ctx.load::<" ++ entity ++ ">(" ++ loaderKey entity ++ ", i64::from(" ++ id ++ ")).await?"

/-- The lines of an operation that the loader answers by its parameter; without an identifier
there is no entity. -/
def loadBody (entity : String) (m : Method) : List String :=
  match m.params with
  | [] => []
  | p :: _ =>
    if p.type.nullable then
      ["match " ++ identifier p.name ++ " \x7b",
       "    Some(id) => Ok(" ++ loadCall entity "id" ++ "),",
       "    None => Ok(None),",
       "\x7d"]
    else ["Ok(" ++ loadCall entity (identifier p.name) ++ ")"]

/-- The lines of an operation that the service answers. -/
def serviceBody (m : Method) : List String :=
  let call := "self.service." ++ identifier m.name ++ "(" ++
    String.intercalate ", " (m.params.map fun p => identifier p.name) ++ ")"
  if m.returnsVoid then [call ++ ".map_err(FieldError::service)?;", "Ok(true)"]
  else [call ++ ".map_err(FieldError::service)"]

/-- The function of an operation; the context is named only if it is used. -/
def operationFunction (d : Descriptor) (m : Method) : Function :=
  if viaLoader d m then
    { operationHead d.name m "ctx" with body := some (loadBody d.name m) }
  else { operationHead d.name m "_ctx" with body := some (serviceBody m) }

/-- The operations of an entity, defined. -/
def implementationBlock (d : Descriptor) : Block :=
  { interface := some (contractType d.name)
    target := implementationType d.name
    functions := d.methods.map (operationFunction d) }

/-- A structure that holds a service, and the function that makes it. -/
def serviceHolder (name doc serviceType : String) : List Item :=
  [.struct ⟨doc, name, [⟨"service", serviceType⟩]⟩,
   .block
    { target := name
      functions :=
        [{ isPublic := true
           name := "new"
           params := [⟨"service", serviceType⟩]
           result := "Self"
           body := some ["Self \x7b service \x7d"] }] }]

/-- The import of the class of a service that has a module. -/
def serviceImport (d : Descriptor) : List (String × String) :=
  match splitPath d.service.path with
  | (some module, name) => [(module, name)]
  | (none, _) => []

/-- The class of the service in code. -/
def serviceClass (d : Descriptor) : String := (splitPath d.service.path).2

/-- The imports of the implementation. -/
def implementationImports (modules : ModulePaths) (d : Descriptor) : List (String × String) :=
  let engine := modules.sdk ++ "::engine"
  [("std::sync", "Arc"), (modules.sdk, "async_trait")] ++
    (if d.methods.any fun m => !viaLoader d m then [(engine, "FieldError")] else []) ++
    [(engine, "FieldResult"), (modules.sdk ++ "::runtime", "RequestContext")] ++
    modelImports modules d ++ serviceImport d ++
    [(modules.contract ++ "::" ++ contractModule d.name, contractType d.name)] ++
    (if d.methods.any (viaLoader d) then
      [(modules.loader ++ "::" ++ loaderModule d.name, loaderKey d.name)]
     else [])

/-- The file of the implementation. -/
def implementation (config : GeneratorConfig) (d : Descriptor) : Artifact :=
  { category := .implementation
    path := filePath config .implementation (implementationModule d.name ++ ".rs")
    contents := file
      ["//! Operation implementation: " ++ d.name,
       "// Generated as a starting point. Edits are kept unless overwrite is enabled."]
      { imports := implementationImports config.modules d
        items :=
          serviceHolder (implementationType d.name)
            ("Resolves \x60" ++ d.name ++ "\x60 operations against \x60" ++ serviceClass d ++
              "\x60")
            ("Arc<" ++ serviceClass d ++ ">") ++
          [marked "#[async_trait]" (.block (implementationBlock d))] } }

end GraphLayer.Rendering
