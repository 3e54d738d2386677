import GraphLayer.Types.Graph

/-!
# Schema documents

* `TypeRef`, `Argument`, `FieldDef` and `Definition`, the syntax of a schema as far as types
  depend on it: directives, descriptions, default values and interfaces have no place in it;
* `Document.text`, the text of a document;
* `GraphType.toRef`, the syntax of a type.
-/

namespace GraphLayer.Schema

/-- A type as it is written in a schema. -/
inductive TypeRef where
  | named (name : String)
  | list (item : TypeRef)
  | nonNull (inner : TypeRef)
  deriving DecidableEq, Repr

namespace TypeRef

/-- The text of a type. -/
def text : TypeRef → String
  | named name => name
  | list item => "[" ++ item.text ++ "]"
  | nonNull inner => inner.text ++ "!"

/-- The name at the leaf. -/
def leaf : TypeRef → String
  | named name => name
  | list item => item.leaf
  | nonNull inner => inner.leaf

end TypeRef

/-- An argument of a field. -/
structure Argument where
  name : String
  type : TypeRef
  deriving DecidableEq, Repr

/-- A field of an object. -/
structure FieldDef where
  name : String
  arguments : List Argument
  type : TypeRef
  deriving DecidableEq, Repr

/-- A definition of a schema. -/
inductive Definition where
  | scalar (name : String)
  | object (name : String) (fields : List FieldDef)
  /-- Fields that are added to an object. -/
  | extension (name : String) (fields : List FieldDef)
  /-- Any definition that concerns neither scalars nor objects. -/
  | other
  deriving DecidableEq, Repr

/-- A schema. -/
abbrev Document := List Definition

/-! ### Texts -/

/-- An argument with its type. -/
def Argument.text (a : Argument) : String := a.name ++ ": " ++ a.type.text

/-- The arguments in parentheses, which are left out if there is none. -/
def argumentsText (as : List Argument) : String :=
  if as.isEmpty then "" else "(" ++ String.intercalate ", " (as.map Argument.text) ++ ")"

/-- A field with its arguments and its type. -/
def FieldDef.text (f : FieldDef) : String :=
  f.name ++ argumentsText f.arguments ++ ": " ++ f.type.text

/-- The fields of an object, one to a line; braces are left out if there is none. -/
def fieldsText (fs : List FieldDef) : String :=
  if fs.isEmpty then "\n"
  else " \x7b\n" ++ String.join (fs.map fun f => "  " ++ f.text ++ "\n") ++ "\x7d\n"

/-- The text of a definition; one that concerns neither scalars nor objects has none. -/
def Definition.text : Definition → String
  | scalar name => "scalar " ++ name ++ "\n"
  | object name fields => "type " ++ name ++ fieldsText fields
  | extension name fields => "extend type " ++ name ++ fieldsText fields
  | other => ""

/-- The definitions with an empty line between them. -/
def Document.text (d : Document) : String := String.intercalate "\n" (d.map Definition.text)

end GraphLayer.Schema

namespace GraphLayer

open Schema

/-- A type with or without the mark that excludes null. -/
def Schema.TypeRef.mark (nullable : Bool) (t : TypeRef) : TypeRef :=
  if nullable then t else .nonNull t

/-- The syntax of a type. -/
def GraphType.toRef : GraphType → TypeRef
  | scalar s n => (TypeRef.named s.name).mark n
  | entity name n => (TypeRef.named name).mark n
  | list item n => (TypeRef.list item.toRef).mark n

end GraphLayer
