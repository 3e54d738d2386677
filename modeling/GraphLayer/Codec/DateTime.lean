import GraphLayer.Codec.Basic
import GraphLayer.Text.Blank
import GraphLayer.Time.Instant

/-!
# Instants on the wire

* `Codec.dateTime`: texts with a date, a time and an offset, which may have blanks around them,
  and JSON integers that count milliseconds.
-/

namespace GraphLayer

namespace DateTime

open Time

/-- The instant of a text. -/
def ofText (s : String) : Except CodecError Instant :=
  match Instant.read? (Text.trim s) with
  | some i => .ok i
  | none => .error (.invalid "DateTime" (Codec.quoted s))

/-- The instant at a number of milliseconds of at most 64 bits. -/
def ofInteger (n : Int) : Except CodecError Instant :=
  match Instant.ofMillis? n with
  | some i => .ok i
  | none => .error (.outOfRange "DateTime" (Json.integer n).render)

/-- The instant of a value. -/
def ofJson : Json → Except CodecError Instant
  | .text s => ofText s
  | .integer n => ofInteger n
  | .real x => .error (.outOfRange "DateTime" (Json.real x).render)
  | j => .error (.invalid "DateTime" j.render)

/-- The instant of a literal. -/
def ofLiteral : Literal → Except CodecError Instant
  | .string s => ofText s
  | l => .error (.invalid "DateTime" l.kind)

end DateTime

/-- Instants as texts in UTC. -/
def Codec.dateTime : Codec Time.Instant :=
  { name := "DateTime"
    serialize := fun i => .text i.write
    parseValue := DateTime.ofJson
    parseLiteral := DateTime.ofLiteral }

end GraphLayer
