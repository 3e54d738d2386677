import GraphLayer.Operation
import GraphLayer.Path

/-!
# Errors of a generation run

* `GenerationError`, with `GenerationError.message` and `GenerationError.entityScoped`.
-/

namespace GraphLayer

/-- What may go wrong while entities are described or files are produced. -/
inductive GenerationError where
  /-- The class of an entity or of its service is not in the catalog. -/
  | classNotFound (entity «class» : String)
  /-- The classes expose nothing usable. -/
  | introspection (entity reason : String)
  /-- A type has no counterpart in the query language. -/
  | unmappableType (entity member type : String)
  /-- Several operations compete for one kind. -/
  | ambiguousClassification (entity : String) (kind : OperationKind) (operations : List String)
  /-- A reference to an entity that is not generated. -/
  | danglingReference (entity target : String)
  /-- Several operations contribute one root field. -/
  | duplicateRootField (field root : String) (entities : List String)
  | config (reason : String)
  | catalog (reason : String)
  /-- A rendered file failed its own check. -/
  | render (reason : String)
  | io (path : Path)
  deriving DecidableEq, Repr

namespace GenerationError

/-- The text of the error. -/
def message : GenerationError → String
  | classNotFound entity c =>
    "Class '" ++ c ++ "' for entity '" ++ entity ++ "' not found in the service catalog"
  | introspection entity reason =>
    "Introspection failed for entity '" ++ entity ++ "': " ++ reason
  | unmappableType entity member type =>
    "Unmappable type '" ++ type ++ "' on '" ++ member ++ "' of entity '" ++ entity ++ "'"
  | ambiguousClassification entity kind operations =>
    "Ambiguous " ++ kind.text ++ " classification for entity '" ++ entity ++ "': " ++
      String.intercalate ", " operations
  | danglingReference entity target =>
    "Entity '" ++ entity ++ "' references unknown entity '" ++ target ++ "'"
  | duplicateRootField field root entities =>
    "Duplicate " ++ root ++ " field '" ++ field ++ "' declared by " ++
      String.intercalate " and " entities
  | config reason => "Configuration error: " ++ reason
  | catalog reason => "Catalog error: " ++ reason
  | render reason => "Render error: " ++ reason
  | io path => "Failed to write " ++ path.text

/-- Whether the error concerns no more than the entity for which it was raised. -/
def entityScoped : GenerationError → Bool
  | classNotFound _ _ => true
  | introspection _ _ => true
  | unmappableType _ _ _ => true
  | ambiguousClassification _ _ _ => true
  | _ => false

end GenerationError

end GraphLayer
