import GraphLayer.Text.Blank

/-!
# Types of service operations

* `SourceType`, the type of a parameter, a result or an accessor as a catalog writes it;
* `SourceType.parse`, its reader, and `SourceType.text`, its canonical text;
* `SourceType.Derives`, the grammar: a type is a base name, a type followed by `[]`, or a type
  between `List<` and `>`, each with blanks around it.
-/

namespace GraphLayer

/-- Kinds of primitive values. -/
inductive Primitive where
  | int
  | long
  | double
  | boolean
  deriving DecidableEq, Repr

/-- The type of a parameter, a result or an accessor. -/
inductive SourceType where
  | primitive (kind : Primitive)
  /-- A primitive value that may be absent. -/
  | boxed (kind : Primitive)
  | string
  | array (item : SourceType)
  | void
  /-- Any other class. -/
  | named (name : String)
  deriving DecidableEq, Repr

/-- A text that is no type. -/
structure TypeSyntaxError where
  text : String
  deriving DecidableEq, Repr

/-- The text of the error. -/
def TypeSyntaxError.message (e : TypeSyntaxError) : String :=
  "Invalid type syntax: '" ++ e.text ++ "'"

namespace SourceType

/-- The words with a meaning of their own. -/
def vocabulary : List (String × SourceType) :=
  [("int", primitive .int), ("i32", primitive .int),
   ("long", primitive .long), ("i64", primitive .long),
   ("double", primitive .double), ("f64", primitive .double),
   ("boolean", primitive .boolean), ("bool", primitive .boolean),
   ("Integer", boxed .int), ("Long", boxed .long),
   ("Double", boxed .double), ("Boolean", boxed .boolean),
   ("String", string), ("void", void)]

/-- A letter of the Latin alphabet or an underscore. -/
def startsIdentifier (c : Char) : Bool := c.isAlpha || c == '_'

/-- As at the start, or a digit or a point. -/
def continuesIdentifier (c : Char) : Bool := c.isAlphanum || c == '_' || c == '.'

/-- The names of classes. -/
def isIdentifier : List Char → Bool
  | [] => false
  | c :: cs => startsIdentifier c && cs.all continuesIdentifier

/-- The meaning of a base name. -/
def ofName (name : String) : SourceType := (vocabulary.lookup name).getD (named name)

/-- Read a type.  The error names the part of the text that is no type. -/
def parseChars (cs : List Char) : Except TypeSyntaxError SourceType :=
  let text := Text.trimChars cs
  match h : Text.stripEnd? ['[', ']'] text with
  | some item =>
    have : item.length < cs.length := by
      have h₁ : (Text.trimChars cs).length = 2 + item.length := Text.length_of_stripEnd? h
      have h₂ := Text.length_trimChars_le cs
      omega
    (parseChars item).map array
  | none =>
    match h : Text.stripStart? ['L', 'i', 's', 't', '<'] text with
    | some rest =>
      match h' : Text.stripEnd? ['>'] rest with
      | some item =>
        have : item.length < cs.length := by
          have h₁ : (Text.trimChars cs).length = 5 + rest.length := Text.length_of_stripStart? h
          have h₂ : rest.length = 1 + item.length := Text.length_of_stripEnd? h'
          have h₃ := Text.length_trimChars_le cs
          omega
        (parseChars item).map array
      | none => .error ⟨String.ofList cs⟩
    | none =>
      if isIdentifier text then .ok (ofName (String.ofList text))
      else .error ⟨String.ofList cs⟩
termination_by cs.length

/-- Read a type. -/
def parse (s : String) : Except TypeSyntaxError SourceType := parseChars s.toList

/-- The canonical word of a primitive kind. -/
def primitiveText : Primitive → String
  | .int => "int"
  | .long => "long"
  | .double => "double"
  | .boolean => "boolean"

/-- The canonical word of a boxed kind. -/
def boxedText : Primitive → String
  | .int => "Integer"
  | .long => "Long"
  | .double => "Double"
  | .boolean => "Boolean"

/-- The canonical text of a type. -/
def text : SourceType → String
  | primitive k => primitiveText k
  | boxed k => boxedText k
  | string => "String"
  | array item => item.text ++ "[]"
  | void => "void"
  | named name => name

/-- Whether the type is a list of another one. -/
def isArray : SourceType → Bool
  | array _ => true
  | _ => false

/-- Whether the type is one truth value. -/
def isBoolean : SourceType → Bool
  | primitive .boolean => true
  | boxed .boolean => true
  | _ => false

/-- Whether the type is one whole number, which can serve as an identifier. -/
def isIntegral : SourceType → Bool
  | primitive .int => true
  | primitive .long => true
  | boxed .int => true
  | boxed .long => true
  | _ => false

/-! ### The grammar -/

/-- `Derives cs t` holds if the grammar derives the text `cs` with the meaning `t`. -/
inductive Derives : List Char → SourceType → Prop
  | base {left right name : List Char} (hl : left.all Text.isBlank) (hr : right.all Text.isBlank)
      (hn : isIdentifier name) : Derives (left ++ name ++ right) (ofName (String.ofList name))
  | brackets {left right cs : List Char} {t : SourceType} (hl : left.all Text.isBlank)
      (hr : right.all Text.isBlank) (h : Derives cs t) :
      Derives (left ++ (cs ++ ['[', ']']) ++ right) (array t)
  | angles {left right cs : List Char} {t : SourceType} (hl : left.all Text.isBlank)
      (hr : right.all Text.isBlank) (h : Derives cs t) :
      Derives (left ++ (['L', 'i', 's', 't', '<'] ++ cs ++ ['>']) ++ right) (array t)

end SourceType

end GraphLayer
