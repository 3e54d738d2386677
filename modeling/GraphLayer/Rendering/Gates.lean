import GraphLayer.Descriptor
import GraphLayer.GenerationError

/-!
# What the entities of a run have to agree on

* `resolveReferences`, every entity that a type refers to is one of the run;
* `checkRootFields`, no field of a root comes from two operations.
-/

namespace GraphLayer.Rendering

/-! ### References -/

/-- The least name that an entity refers to and that is none of some names. -/
def danglingRef? (known : List String) (d : Descriptor) : Option String :=
  d.entityRefs.keys.find? fun name => name ∉ known

/-- Check that every entity that a type refers to is one of the run. -/
def resolveReferences (ds : List Descriptor) : Except GenerationError Unit :=
  let known := ds.map Descriptor.name
  match ds.findSome? fun d => (danglingRef? known d).map fun target => (d.name, target) with
  | some (entity, target) => .error (.danglingReference entity target)
  | none => .ok ()

/-! ### Root fields -/

/-- A field of a root with the entity that it comes from. -/
structure RootUse where
  root : String
  field : String
  entity : String
  deriving DecidableEq, Repr

/-- The root fields of all operations, in order. -/
def rootUses (ds : List Descriptor) : List RootUse :=
  ds.flatMap fun d => d.methods.map fun m => ⟨m.kind.root, m.rootField d.name, d.name⟩

/-- The entities that a root field comes from. -/
def owners (us : List RootUse) (root field : String) : List String :=
  (us.filter fun u => u.root == root && u.field == field).map RootUse.entity

/-- The least field of a root that comes from several operations. -/
def repeatedField? (us : List RootUse) (root : String) : Option GenerationError :=
  let fields := KeySet.ofList ((us.filter fun u => u.root == root).map RootUse.field)
  fields.keys.findSome? fun field =>
    let names := owners us root field
    if 1 < names.length then some (.duplicateRootField field root names) else none

/-- Check that no field of a root comes from two operations. -/
def checkRootFields (ds : List Descriptor) : Except GenerationError Unit :=
  let us := rootUses ds
  match (repeatedField? us "Mutation").or (repeatedField? us "Query") with
  | some e => .error e
  | none => .ok ()

end GraphLayer.Rendering
