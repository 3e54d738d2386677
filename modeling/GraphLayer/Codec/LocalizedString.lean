import GraphLayer.Codec.Basic

/-!
# Texts in several languages

* `Codec.localizedString`: records of texts by locale.
-/

namespace GraphLayer

namespace LocalizedString

/-- The texts of some fields, the first of which that holds no text is refused. -/
def ofFields {α : Type} (text? : α → Option String) (shown : α → String) :
    List (String × α) → Except CodecError (List (String × String))
  | [] => .ok []
  | (locale, a) :: rest =>
    match text? a with
    | some s => (ofFields text? shown rest).map ((locale, s) :: ·)
    | none => .error (.invalid "LocalizedString" (locale ++ ": " ++ shown a))

/-- The text of a value. -/
def jsonText? : Json → Option String
  | .text s => some s
  | _ => none

/-- The text of a literal. -/
def literalText? : Literal → Option String
  | .string s => some s
  | _ => none

/-- The texts of a value; fields are looked at in ascending order. -/
def ofJson : Json → Except CodecError (Dict String String)
  | .record fs => (ofFields jsonText? Json.render (Dict.ofList fs).toList).map Dict.ofList
  | j => .error (.invalid "LocalizedString" j.render)

/-- The texts of a literal; fields are looked at in ascending order. -/
def ofLiteral : Literal → Except CodecError (Dict String String)
  | .object fs => (ofFields literalText? Literal.kind (Dict.ofList fs).toList).map Dict.ofList
  | l => .error (.invalid "LocalizedString" l.kind)

/-- The record of some texts. -/
def toJson (d : Dict String String) : Json := .record (d.toList.map fun p => (p.1, .text p.2))

end LocalizedString

/-- Texts by locale. -/
def Codec.localizedString : Codec (Dict String String) :=
  { name := "LocalizedString"
    serialize := LocalizedString.toJson
    parseValue := LocalizedString.ofJson
    parseLiteral := LocalizedString.ofLiteral }

end GraphLayer
