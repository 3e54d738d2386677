import GraphLayer.Codec.Basic
import GraphLayer.Text.Blank

/-!
# Integers of 64 bits

* `Codec.long`: JSON integers, and texts of decimal digits with an optional sign and blanks
  around them.
-/

namespace GraphLayer

namespace Long

/-- Whether a number has 64 bits with a sign. -/
def InRange (n : Int) : Prop := -0x8000000000000000 ≤ n ∧ n < 0x8000000000000000

instance (n : Int) : Decidable (InRange n) := inferInstanceAs (Decidable (_ ∧ _))

/-- The number of some decimal digits, of which there must be one. -/
def natural? (cs : List Char) : Option Nat :=
  if cs.isEmpty ∨ !cs.all Char.isDigit then none
  else some (cs.foldl (fun n c => n * 10 + (c.toNat - '0'.toNat)) 0)

/-- The number of decimal digits behind an optional sign. -/
def integer? : List Char → Option Int
  | '+' :: cs => (natural? cs).map Int.ofNat
  | '-' :: cs => (natural? cs).map fun n => -(n : Int)
  | cs => (natural? cs).map Int.ofNat

/-- The integer of a text. -/
def ofText (s : String) : Except CodecError Int :=
  match (integer? (Text.trimChars s.toList)).filter fun n => InRange n with
  | some n => .ok n
  | none => .error (.invalid "Long" (Codec.quoted s))

/-- The integer of a value. -/
def ofJson : Json → Except CodecError Int
  | .integer n => if InRange n then .ok n else .error (.outOfRange "Long" (Json.integer n).render)
  | .real x => .error (.outOfRange "Long" (Json.real x).render)
  | .text s => ofText s
  | j => .error (.invalid "Long" j.render)

/-- The integer of a literal. -/
def ofLiteral : Literal → Except CodecError Int
  | .int n => .ok n
  | .string s => ofText s
  | l => .error (.invalid "Long" l.kind)

end Long

/-- Integers of 64 bits. -/
def Codec.long : Codec Int :=
  { name := "Long"
    serialize := .integer
    parseValue := Long.ofJson
    parseLiteral := Long.ofLiteral }

end GraphLayer
