import GraphLayer.Rendering.Names
import GraphLayer.Descriptor

/-!
# How entities are loaded by identifier

* `Fetch`, one call for many identifiers or one call for each of them;
* `LoaderPlan.ofDescriptor?`, the way in which the entities of a descriptor are loaded, if there
  is one: a reading operation for many identifiers comes before one for a single identifier;
* `loadsById`, whether an operation can be answered by the loader.
-/

namespace GraphLayer.Rendering

/-- How a loader reaches the service. -/
inductive Fetch where
  /-- One call for all identifiers; the entities are told apart by an accessor. -/
  | batch (method : String) (keysNullable : Bool) (accessor : String) (accessorNullable : Bool)
  /-- One call for each identifier. -/
  | perId (method : String) (paramNullable : Bool)
  deriving DecidableEq, Repr

/-- The identifier of an entity and the way in which it is loaded. -/
structure LoaderPlan where
  id : Identifier
  fetch : Fetch
  deriving DecidableEq, Repr

/-- Whether an operation results in the entity, or a list of it. -/
def returnsEntity (m : Method) (entity : String) : Bool :=
  m.returns.leafEntity? == some entity

/-- Whether an operation reads one entity by its identifier. -/
def loadsById (d : Descriptor) (m : Method) : Bool :=
  match d.id?, m.params with
  | some id, [p] =>
    m.kind == .readOne && p.type.isScalar id.scalar && !m.returns.isList &&
      returnsEntity m d.name
  | _, _ => false

/-- The first field that holds the identifier. -/
def keyField? (d : Descriptor) (id : Identifier) : Option Field :=
  d.fields.find? fun f => f.type.isScalar id.scalar &&
    (f.name == id.name || f.name == "id" || f.name == Naming.idField d.name)

/-- The way to load many entities by one call. -/
def batchFetch? (d : Descriptor) (id : Identifier) : Option Fetch := do
  let m ← d.method? .readAll
  match m.params with
  | [p] =>
    match p.type with
    | .list item _ =>
      if item.isScalar id.scalar && m.returns.isList && returnsEntity m d.name then
        (keyField? d id).map fun f =>
          .batch (identifier m.name) item.nullable (identifier f.accessor) f.type.nullable
      else none
    | _ => none
  | _ => none

/-- The way to load entities one by one. -/
def perIdFetch? (d : Descriptor) : Option Fetch := do
  let m ← d.method? .readOne
  let p ← m.params.head?
  if loadsById d m then some (.perId (identifier m.name) p.type.nullable) else none

/-- The way in which the entities of a descriptor are loaded. -/
def LoaderPlan.ofDescriptor? (d : Descriptor) : Option LoaderPlan := do
  let id ← d.id?
  let fetch ← (batchFetch? d id).or (perIdFetch? d)
  return ⟨id, fetch⟩

/-- Whether an entity has a loader. -/
def hasLoader (d : Descriptor) : Bool := (LoaderPlan.ofDescriptor? d).isSome

end GraphLayer.Rendering
