import GraphLayer.Json.Basic

/-!
# Values on the wire

* `Literal`, an argument that is written out in a request;
* `Codec`, the way of a kind of values to JSON and back;
* `CodecError`, why a value is none of a kind.
-/

namespace GraphLayer

/-- An argument that is written out in a request. -/
inductive Literal where
  /-- A variable. -/
  | reference (name : String)
  | int (n : Int)
  | float (x : Binary64)
  | string (s : String)
  | boolean (b : Bool)
  | null
  | enum (name : String)
  | list (items : List Literal)
  | object (fields : List (String × Literal))

/-- The literal in messages. -/
def Literal.kind : Literal → String
  | reference _ => "a variable"
  | int _ => "an integer literal"
  | float _ => "a float literal"
  | string _ => "a string literal"
  | boolean _ => "a boolean literal"
  | null => "null"
  | enum _ => "an enum literal"
  | list _ => "a list literal"
  | object _ => "an object literal"

/-- Why a value is none of a kind. -/
inductive CodecError where
  | invalid (kind found : String)
  | outOfRange (kind found : String)
  deriving DecidableEq, Repr

/-- The text of the error. -/
def CodecError.message : CodecError → String
  | invalid kind found => kind ++ " cannot represent " ++ found
  | outOfRange kind found => kind ++ " is out of range: " ++ found

/-- The way of a kind of values to JSON and back. -/
structure Codec (α : Type) where
  name : String
  serialize : α → Json
  parseValue : Json → Except CodecError α
  parseLiteral : Literal → Except CodecError α

/-- A text between quotes, as it stands. -/
def Codec.quoted (s : String) : String := "\"" ++ s ++ "\""

end GraphLayer
