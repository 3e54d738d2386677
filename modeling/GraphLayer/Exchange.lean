import GraphLayer.Record.Node

/-!
# Requests and responses

* `Request`, a query with the operation to execute and its variables;
* `FieldError`, why a field could not be resolved, and `Response`, the data with these errors;
* `Response.ofFields`, the response of some resolved fields: one that failed is null and its
  error says where.
-/

namespace GraphLayer

/-- A query with the operation to execute and its variables. -/
structure Request where
  query : String
  operation : Option String := none
  values : Dict String Json := .empty

/-- Why a field could not be resolved. -/
structure FieldError where
  message : String
  path : Option (List String) := none
  deriving DecidableEq, Repr

/-- The error with its place. -/
def FieldError.text (e : FieldError) : String :=
  match e.path with
  | none => e.message
  | some path => e.message ++ " (at " ++ String.intercalate "." path ++ ")"

/-- The data of a request with the errors on the way. -/
structure Response where
  data : Json := .null
  errors : List FieldError := []

namespace Response

/-- Add a field to the data. -/
def addData (d : Dict String Json) (name : String) : Except FieldError Json → Dict String Json
  | .ok j => d.insert name j
  | .error _ => d.insert name .null

/-- The error of a field; without a place of its own it is at the field. -/
def located? (name : String) : Except FieldError Json → Option FieldError
  | .ok _ => none
  | .error e => some { e with path := some (e.path.getD [name]) }

/-- The response of some resolved fields. -/
def ofFields (fields : List (String × Except FieldError Json)) : Response :=
  { data := .record (fields.foldl (fun d f => addData d f.1 f.2) .empty).toList
    errors := fields.filterMap fun f => located? f.1 f.2 }

/-- Whether all fields were resolved. -/
def isOk (r : Response) : Bool := r.errors.isEmpty

end Response

/-! ### Reading -/

/-- Read any value. -/
def Node.any? (n : Node) : Option Json := some n.toJson

/-- Read a request. -/
def Request.ofNode? (n : Node) : Option Request := do
  let g ← n.fields? ["query", "operationName", "variables"] 1
  return {
    query := ← g.required? "query" Node.text?
    operation := ← g.default? "operationName" (Node.optional? Node.text?) none
    values := ← g.default? "variables" (Node.dict? Node.any?) .empty }

/-- Read an error. -/
def FieldError.ofNode? (n : Node) : Option FieldError := do
  let g ← n.fields? ["message", "path"] 1
  return {
    message := ← g.required? "message" Node.text?
    path := ← g.default? "path" (Node.optional? (Node.list? Node.text?)) none }

/-- Read a response. -/
def Response.ofNode? (n : Node) : Option Response := do
  let g ← n.fields? ["data", "errors"] 0
  return {
    data := ← g.default? "data" Node.any? .null
    errors := ← g.default? "errors" (Node.list? FieldError.ofNode?) [] }

/-! ### Writing -/

/-- The serialized request; an absent operation is left out. -/
def Request.toJson (r : Request) : Json :=
  .record ([("query", .text r.query)] ++
    (r.operation.toList.map fun name => ("operationName", .text name)) ++
    [("variables", .record r.values.toList)])

/-- The serialized error; an absent place is left out. -/
def FieldError.toJson (e : FieldError) : Json :=
  .record ([("message", .text e.message)] ++
    e.path.toList.map fun path => ("path", .list (path.map .text)))

/-- The serialized response; errors are left out if there is none. -/
def Response.toJson (r : Response) : Json :=
  .record ([("data", r.data)] ++
    if r.errors.isEmpty then [] else [("errors", .list (r.errors.map FieldError.toJson))])

end GraphLayer
