import GraphLayer.Data.Dict
import GraphLayer.Types.Source

/-!
# Types of the query language

* `Scalar` and `GraphType`, the types of fields, arguments and results, with their texts;
* `mapType` and `mapReturn`, the type of the query language for a source type, given the names
  of the known classes.
-/

namespace GraphLayer

/-- Scalars of the query language. -/
inductive Scalar where
  | int
  | long
  | float
  | boolean
  | string
  deriving DecidableEq, Repr

namespace Scalar

/-- All scalars, in their order. -/
def all : List Scalar := [int, long, float, boolean, string]

/-- The name in a schema. -/
def name : Scalar → String
  | int => "Int"
  | long => "Long"
  | float => "Float"
  | boolean => "Boolean"
  | string => "String"

/-- The type in generated code. -/
def codeType : Scalar → String
  | int => "i32"
  | long => "i64"
  | float => "f64"
  | boolean => "bool"
  | string => "String"

/-- Whether a schema has to declare the scalar. -/
def isCustom : Scalar → Bool
  | long => true
  | _ => false

/-- The scalar of a primitive kind, boxed or not. -/
def ofPrimitive : Primitive → Scalar
  | .int => int
  | .long => long
  | .double => float
  | .boolean => boolean

end Scalar

/-- A type of the query language. -/
inductive GraphType where
  | scalar (s : Scalar) (nullable : Bool)
  /-- A reference to an entity, which may be described later. -/
  | entity (name : String) (nullable : Bool)
  | list (item : GraphType) (nullable : Bool)
  deriving DecidableEq, Repr

namespace GraphType

/-- Whether null is a value of the type. -/
def nullable : GraphType → Bool
  | scalar _ n => n
  | entity _ n => n
  | list _ n => n

/-- Whether the type is a list. -/
def isList : GraphType → Bool
  | list _ _ => true
  | _ => false

/-- The scalar at the leaf. -/
def leafScalar? : GraphType → Option Scalar
  | scalar s _ => some s
  | entity _ _ => none
  | list item _ => item.leafScalar?

/-- The entity at the leaf. -/
def leafEntity? : GraphType → Option String
  | scalar _ _ => none
  | entity name _ => some name
  | list item _ => item.leafEntity?

/-- Whether the type is one value of a scalar, null or not. -/
def isScalar (s : Scalar) : GraphType → Bool
  | scalar t _ => t == s
  | _ => false

/-- The mark of a type without null. -/
def bang (nullable : Bool) : String := if nullable then "" else "!"

/-- The text in a schema. -/
def text : GraphType → String
  | scalar s n => s.name ++ bang n
  | entity name n => name ++ bang n
  | list item n => "[" ++ item.text ++ "]" ++ bang n

/-- The type of a value in generated code that may be absent. -/
def optionalCode (nullable : Bool) (inner : String) : String :=
  if nullable then "Option<" ++ inner ++ ">" else inner

/-- The type in generated code. -/
def codeType : GraphType → String
  | scalar s n => optionalCode n s.codeType
  | entity name n => optionalCode n name
  | list item n => optionalCode n ("Vec<" ++ item.codeType ++ ">")

end GraphType

/-- A source type without counterpart in the query language, by its text. -/
structure UnmappableType where
  type : String
  deriving DecidableEq, Repr

/-- The text of the error. -/
def UnmappableType.message (e : UnmappableType) : String :=
  "no scalar or entity mapping for '" ++ e.type ++ "'"

/-- The type for a source type.  A class counts if it is known; it may be described later.
A list may not hold lists. -/
def mapType (known : KeySet String) : SourceType → Except UnmappableType GraphType
  | .primitive k => .ok (.scalar (.ofPrimitive k) false)
  | .boxed k => .ok (.scalar (.ofPrimitive k) true)
  | .string => .ok (.scalar .string true)
  | .named name =>
    if known.contains name then .ok (.entity name true) else .error ⟨(SourceType.named name).text⟩
  | .void => .error ⟨SourceType.void.text⟩
  | .array (.array item) => .error ⟨(SourceType.array (.array item)).text⟩
  | .array .void => .error ⟨(SourceType.array .void).text⟩
  | .array item => (mapType known item).map fun g => .list g true

/-- The type for a result: an operation without result acknowledges with a truth value. -/
def mapReturn (known : KeySet String) : SourceType → Except UnmappableType GraphType
  | .void => .ok (.scalar .boolean false)
  | t => mapType known t

end GraphLayer
