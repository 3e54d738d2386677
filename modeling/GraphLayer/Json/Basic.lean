import GraphLayer.Decimal.Shortest
import GraphLayer.Data.Dict

/-!
# JSON values

* `Json`, the values; a number written as an integer of at most 64 bits is kept exactly,
  any other number is a binary64 number;
* `Json.render`, the compact text of a value;
* `Json.canonical`, the same value with the keys of every record sorted and of equal keys
  only the last.
-/

namespace GraphLayer

/-- A JSON value. -/
inductive Json where
  | null
  | bool (b : Bool)
  | integer (n : Int)
  | real (x : Binary64)
  | text (s : String)
  | list (items : List Json)
  | record (fields : List (String × Json))
  deriving Inhabited

namespace Json

/-! ### Text -/

/-- The four hexadecimal digits of a number below `2 ^ 16`. -/
def hex4 (n : Nat) : List Char :=
  [n / 4096, n / 256, n / 16, n].map fun d => Nat.digitChar (d % 16)

/-- One character inside quotes. -/
def escapeChar (c : Char) : List Char :=
  match c with
  | '"' => ['\\', '"']
  | '\\' => ['\\', '\\']
  | '\n' => ['\\', 'n']
  | '\r' => ['\\', 'r']
  | '\t' => ['\\', 't']
  | _ =>
    if c.toNat = 8 then ['\\', 'b']
    else if c.toNat = 12 then ['\\', 'f']
    else if c.toNat < 32 then '\\' :: 'u' :: hex4 c.toNat
    else [c]

/-- A string in quotes. -/
def quote (s : String) : String :=
  String.ofList ('"' :: s.toList.flatMap escapeChar ++ ['"'])

/-- Up to sixteen digits before the point, and up to four zeros after it, are written out. -/
def numberFormat : DecimalFormat := ⟨16, 4⟩

/-- A finite number with at least one digit after the point; anything else is `null`. -/
def renderReal (x : Binary64) : String :=
  if x.isFinite then
    (if x.negative then "-" else "") ++
      numberFormat.write (Decimal.shortest x.decode.1 x.decode.2)
  else "null"

mutual

/-- The text of a value, without blanks. -/
def render : Json → String
  | null => "null"
  | bool b => if b then "true" else "false"
  | integer n => toString n
  | real x => renderReal x
  | text s => quote s
  | list xs => "[" ++ String.intercalate "," (renderItems xs) ++ "]"
  | record fs => "\x7b" ++ String.intercalate "," (renderFields fs) ++ "\x7d"

/-- The texts of the items of a list. -/
def renderItems : List Json → List String
  | [] => []
  | x :: xs => render x :: renderItems xs

/-- The texts of the fields of a record. -/
def renderFields : List (String × Json) → List String
  | [] => []
  | (k, x) :: fs => (quote k ++ ":" ++ render x) :: renderFields fs

end

mutual

/-- Sort the keys of every record; of equal keys the last one stays. -/
def canonical : Json → Json
  | list xs => list (canonicalItems xs)
  | record fs => record (Dict.ofList (canonicalFields fs)).toList
  | x => x

/-- The canonical items of a list. -/
def canonicalItems : List Json → List Json
  | [] => []
  | x :: xs => canonical x :: canonicalItems xs

/-- The fields of a record with canonical values. -/
def canonicalFields : List (String × Json) → List (String × Json)
  | [] => []
  | (k, x) :: fs => (k, canonical x) :: canonicalFields fs

end

/-- The value of a field; `none` for a missing field and for anything but a record. -/
def field? (j : Json) (key : String) : Option Json :=
  match j with
  | record fs => (fs.reverse.find? fun p => p.1 == key).map Prod.snd
  | _ => none

end Json

end GraphLayer
