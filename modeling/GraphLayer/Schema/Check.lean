import GraphLayer.Data.Dict
import GraphLayer.GenerationError
import GraphLayer.Schema.Reader

/-!
# Checking schemas

* `Document.fault?`, the first reason for which a schema cannot be served;
* `checkText` and `check`, the check of a text;
* `Document.Servable`, what the check decides, said without an order of the conditions.
-/

namespace GraphLayer.Schema

/-- The scalars that need no definition. -/
def builtins : List String := ["Int", "Float", "String", "Boolean", "ID"]

/-- Why a schema cannot be served. -/
inductive Fault where
  | unreadable
  | repeated (name : String)
  | fieldless (name : String)
  | undeclared (names : List String)
  /-- An argument whose type is an object. -/
  | objectArgument (owner field argument type : String)
  | noQuery
  deriving DecidableEq, Repr

/-- The text of a fault. -/
def Fault.message : Fault → String
  | unreadable => "merged schema does not parse"
  | repeated name => "type '" ++ name ++ "' is declared more than once"
  | fieldless name => "type '" ++ name ++ "' has no fields"
  | undeclared names =>
    "merged schema references undeclared types: " ++ String.intercalate ", " names
  | objectArgument owner field argument type =>
    "argument '" ++ argument ++ "' of " ++ owner ++ "." ++ field ++ " has object type '" ++
      type ++ "', which is not an input type"
  | noQuery => "merged schema has no Query fields"

namespace Definition

/-- The name that a definition declares. -/
def declared? : Definition → Option String
  | scalar name => some name
  | object name _ => some name
  | _ => none

/-- The name of an object that a definition declares. -/
def object? : Definition → Option String
  | object name _ => some name
  | _ => none

/-- The fields with the name of their object. -/
def owned? : Definition → Option (String × List FieldDef)
  | object name fields => some (name, fields)
  | extension name fields => some (name, fields)
  | _ => none

end Definition

/-- The names at the leaves of the types of a field and of its arguments. -/
def FieldDef.references (f : FieldDef) : List String :=
  f.type.leaf :: f.arguments.map fun a => a.type.leaf

/-- An argument together with its field and the object of that. -/
structure Use where
  owner : String
  field : String
  argument : Argument

namespace Document

/-- The fields with the names of their objects, definition by definition. -/
def owned (d : Document) : List (String × List FieldDef) := d.filterMap Definition.owned?

/-- The names that have a meaning in a document. -/
def declared (d : Document) : List String := builtins ++ d.filterMap Definition.declared?

/-- The objects of a document. -/
def objects (d : Document) : List String := d.filterMap Definition.object?

/-- The names at the leaves of all types. -/
def references (d : Document) : List String :=
  (owned d).flatMap fun o => o.2.flatMap FieldDef.references

/-- The arguments of all fields. -/
def uses (d : Document) : List Use :=
  (owned d).flatMap fun o => o.2.flatMap fun f => f.arguments.map fun a => ⟨o.1, f.name, a⟩

/-- The fields of `Query`. -/
def queryFields (d : Document) : List FieldDef :=
  (owned d).flatMap fun o => if o.1 == "Query" then o.2 else []

/-- The first definition that repeats an earlier name or lacks fields. -/
def declarationFault? (seen : List String) : Document → Option Fault
  | [] => none
  | d :: ds =>
    match d with
    | .scalar name => declarationFault? (name :: seen) ds
    | .object name fields =>
      if name ∈ seen then some (.repeated name)
      else if fields.isEmpty then some (.fieldless name)
      else declarationFault? (name :: seen) ds
    | .extension name fields =>
      if fields.isEmpty then some (.fieldless name) else declarationFault? seen ds
    | .other => declarationFault? seen ds

/-- The names at leaves that nothing declares, in ascending order. -/
def undeclared (d : Document) : List String :=
  (KeySet.ofList ((references d).filter fun name => name ∉ declared d)).keys

/-- The first argument whose type is an object. -/
def objectArgument? (d : Document) : Option Use :=
  (uses d).find? fun u => u.argument.type.leaf ∈ objects d

/-- The first reason for which a document cannot be served. -/
def fault? (d : Document) : Option Fault :=
  match declarationFault? builtins d with
  | some f => some f
  | none =>
    match undeclared d with
    | n :: ns => some (.undeclared (n :: ns))
    | [] =>
      match objectArgument? d with
      | some u => some (.objectArgument u.owner u.field u.argument.name u.argument.type.leaf)
      | none => if (queryFields d).isEmpty then some .noQuery else none

/-! ### What the check decides -/

/-- No object repeats a built-in scalar or an earlier scalar or object. -/
def Distinct (d : Document) : Prop :=
  ∀ before after name fields, d = before ++ .object name fields :: after →
    name ∉ declared before

/-- A document can be served if no object repeats a name, every object and extension has a
field, every type is declared somewhere, no argument has an object type, and `Query` has a
field. -/
structure Servable (d : Document) : Prop where
  distinct : Distinct d
  fields : ∀ o ∈ owned d, o.2 ≠ []
  closed : ∀ name ∈ references d, name ∈ declared d
  inputs : ∀ u ∈ uses d, u.argument.type.leaf ∉ objects d
  query : ∃ o ∈ owned d, o.1 = "Query" ∧ o.2 ≠ []

end Document

/-- Check that a text is a schema that can be served. -/
def checkText (s : String) : Except Fault Unit :=
  match Document.read? s with
  | none => .error .unreadable
  | some d =>
    match d.fault? with
    | some f => .error f
    | none => .ok ()

/-- Check a rendered schema; a fault of it is an error of the run. -/
def check (s : String) : Except GenerationError Unit :=
  (checkText s).mapError fun f => .render f.message

end GraphLayer.Schema
