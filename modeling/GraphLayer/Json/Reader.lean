import GraphLayer.Json.Basic

/-!
# Reading JSON

* `Json.read?`, the value of a whole text, or nothing for a text that is not JSON.

Lists and records may be nested 127 deep.  The fields of a record are kept as they are
written, repeated keys included.
-/

namespace GraphLayer.Json

/-- The four characters that may stand between tokens. -/
def isBlank (c : Char) : Bool := c == ' ' || c == '\n' || c == '\t' || c == '\r'

/-- Drop leading blanks. -/
def skipBlanks (cs : List Char) : List Char := cs.dropWhile isBlank

/-- The value of a hexadecimal digit. -/
def hexValue? (c : Char) : Option Nat :=
  if '0' ≤ c ∧ c ≤ '9' then some (c.toNat - '0'.toNat)
  else if 'a' ≤ c ∧ c ≤ 'f' then some (c.toNat - 'a'.toNat + 10)
  else if 'A' ≤ c ∧ c ≤ 'F' then some (c.toNat - 'A'.toNat + 10)
  else none

/-- The number of four hexadecimal digits, and what follows them. -/
def hexUnit? : List Char → Option (Nat × List Char)
  | a :: b :: c :: d :: r => do
    let a ← hexValue? a
    let b ← hexValue? b
    let c ← hexValue? c
    let d ← hexValue? d
    return (((a * 16 + b) * 16 + c) * 16 + d, r)
  | _ => none

/-- The character of the escape that follows a backslash.  A surrogate must be the first
half of a pair. -/
def escape? : List Char → Option (Char × List Char)
  | '"' :: r => some ('"', r)
  | '\\' :: r => some ('\\', r)
  | '/' :: r => some ('/', r)
  | 'b' :: r => some ('\x08', r)
  | 'f' :: r => some ('\x0c', r)
  | 'n' :: r => some ('\n', r)
  | 'r' :: r => some ('\r', r)
  | 't' :: r => some ('\t', r)
  | 'u' :: r => do
    let (u, r) ← hexUnit? r
    if 0xD800 ≤ u ∧ u < 0xDC00 then
      match r with
      | '\\' :: 'u' :: r =>
        let (l, r) ← hexUnit? r
        if 0xDC00 ≤ l ∧ l < 0xE000 then
          return (Char.ofNat (0x10000 + (u - 0xD800) * 0x400 + (l - 0xDC00)), r)
        else none
      | _ => none
    else if 0xDC00 ≤ u ∧ u < 0xE000 then none
    else return (Char.ofNat u, r)
  | _ => none

/-- The characters up to the closing quote, in reverse onto `acc`, and what follows it. -/
def stringBody? : Nat → List Char → List Char → Option (List Char × List Char)
  | 0, _, _ => none
  | fuel + 1, acc, cs =>
    match cs with
    | [] => none
    | '"' :: r => some (acc.reverse, r)
    | '\\' :: r => do
      let (c, r) ← escape? r
      stringBody? fuel (c :: acc) r
    | c :: r => if c.toNat < 32 then none else stringBody? fuel (c :: acc) r

/-- The string whose opening quote has been read. -/
def string? (cs : List Char) : Option (String × List Char) :=
  (stringBody? (cs.length + 1) [] cs).map fun (s, r) => (String.ofList s, r)

/-! ### Numbers -/

/-- The value of a decimal digit. -/
def digit (c : Char) : Nat := c.toNat - '0'.toNat

/-- Digits are added to a significand while it stays below `2 ^ 64`; the number of those left
over is returned with it. -/
def significand : Nat → List Char → Nat × Nat
  | n, [] => (n, 0)
  | n, c :: r =>
    if n * 10 + digit c < 0x10000000000000000 then significand (n * 10 + digit c) r
    else (n, r.length + 1)

/-- The float nearest to `n * 10 ^ e`, by one multiplication or division by a power of ten for
every 308 places; nothing if it is too large. -/
def scaleFloat? : Nat → Float → Int → Option Float
  | 0, f, _ => some f
  | fuel + 1, f, e =>
    if e.natAbs ≤ 308 then
      let p := Float.ofScientific 1 false e.natAbs
      if 0 ≤ e then
        let g := f * p
        if g.isInf then none else some g
      else some (f / p)
    else if f == 0.0 then some f
    else if 0 ≤ e then none
    else scaleFloat? fuel (f / Float.ofScientific 1 false 308) (e + 308)

/-- The number of a sign, the digits of both parts and an exponent. -/
def real? (negative : Bool) (whole fraction : List Char) (exponent : Int) : Option Json :=
  let (n, dropped) := significand 0 whole
  let (n, left) := significand n fraction
  let e := (dropped : Int) + left - fraction.length + exponent
  -- An exponent outside of 32 bits gives zero or nothing at all.
  if n ≠ 0 ∧ 0x80000000 ≤ exponent then none
  else if n = 0 ∨ exponent ≤ -0x80000000 then
    some (.real (.ofFloat (if negative then -0.0 else 0.0)))
  else do
    let f ← scaleFloat? 100 n.toUInt64.toFloat e
    return .real (.ofFloat (if negative then -f else f))

/-- The digits at the front. -/
def digits (cs : List Char) : List Char × List Char :=
  (cs.takeWhile Char.isDigit, cs.dropWhile Char.isDigit)

/-- The exponent after the letter. -/
def exponent? (cs : List Char) : Option (Int × List Char) :=
  let (negative, cs) := match cs with
    | '-' :: r => (true, r)
    | '+' :: r => (false, r)
    | r => (false, r)
  match digits cs with
  | ([], _) => none
  | (ds, r) =>
    let n : Nat := ds.foldl (fun n c => n * 10 + digit c) 0
    some (if negative then -(n : Int) else n, r)

/-- Whether a minus sign stands at the front, and what follows it. -/
def sign : List Char → Bool × List Char
  | '-' :: r => (true, r)
  | r => (false, r)

/-- The digits after a point, if there is one, and whether there is. -/
def fraction? : List Char → Option (List Char × List Char × Bool)
  | '.' :: r => match digits r with
    | ([], _) => none
    | (ds, r) => some (ds, r, true)
  | r => some ([], r, false)

/-- The exponent, if there is one; a number with an exponent is real. -/
def power? (isReal : Bool) : List Char → Option (Int × List Char × Bool)
  | 'e' :: r => (exponent? r).map fun (e, r) => (e, r, true)
  | 'E' :: r => (exponent? r).map fun (e, r) => (e, r, true)
  | r => some (0, r, isReal)

/-- A number: an integer of at most 64 bits is kept, except for `-0`. -/
def number? (cs : List Char) : Option (Json × List Char) := do
  let (negative, cs) := sign cs
  let (whole, r) := digits cs
  guard (whole ≠ [] ∧ (whole.head? = some '0' → whole.length = 1))
  let (fraction, r, isReal) ← fraction? r
  let (exponent, r, isReal) ← power? isReal r
  let n : Nat := whole.foldl (fun n c => n * 10 + digit c) 0
  if !isReal &&
      (if negative then n ≠ 0 ∧ n ≤ 0x8000000000000000 else n < 0x10000000000000000) then
    return (.integer (if negative then -(n : Int) else n), r)
  else
    let x ← real? negative whole fraction exponent
    return (x, r)

/-! ### Values -/

/-- Strip a literal word. -/
def word? (w : String) (cs : List Char) : Option (List Char) :=
  if w.toList.isPrefixOf cs then some (cs.drop w.length) else none

mutual

/-- A value at the front of a text that does not begin with a blank; `depth` levels of nesting
are left. -/
def value? : Nat → Nat → List Char → Option (Json × List Char)
  | 0, _, _ => none
  | fuel + 1, depth, cs =>
    match cs with
    | 'n' :: _ => (word? "null" cs).map fun r => (.null, r)
    | 't' :: _ => (word? "true" cs).map fun r => (.bool true, r)
    | 'f' :: _ => (word? "false" cs).map fun r => (.bool false, r)
    | '"' :: r => (string? r).map fun (s, r) => (.text s, r)
    | '[' :: r =>
      match depth with
      | 0 => none
      | depth + 1 =>
        match skipBlanks r with
        | ']' :: r => some (.list [], r)
        | r => (items? fuel depth [] r).map fun (xs, r) => (.list xs, r)
    | '\x7b' :: r =>
      match depth with
      | 0 => none
      | depth + 1 =>
        match skipBlanks r with
        | '\x7d' :: r => some (.record [], r)
        | r => (fields? fuel depth [] r).map fun (fs, r) => (.record fs, r)
    | _ => number? cs

/-- The items of a list up to its end, in reverse onto `acc`. -/
def items? : Nat → Nat → List Json → List Char → Option (List Json × List Char)
  | 0, _, _, _ => none
  | fuel + 1, depth, acc, cs => do
    let (x, r) ← value? fuel depth cs
    match skipBlanks r with
    | ']' :: r => return ((x :: acc).reverse, r)
    | ',' :: r => items? fuel depth (x :: acc) (skipBlanks r)
    | _ => none

/-- The fields of a record up to its end, in reverse onto `acc`. -/
def fields? : Nat → Nat → List (String × Json) → List Char →
    Option (List (String × Json) × List Char)
  | 0, _, _, _ => none
  | fuel + 1, depth, acc, cs =>
    match cs with
    | '"' :: r => do
      let (k, r) ← string? r
      match skipBlanks r with
      | ':' :: r =>
        let (x, r) ← value? fuel depth (skipBlanks r)
        match skipBlanks r with
        | '\x7d' :: r => return (((k, x) :: acc).reverse, r)
        | ',' :: r => fields? fuel depth ((k, x) :: acc) (skipBlanks r)
        | _ => none
      | _ => none
    | _ => none

end

/-- The value of a text; blanks may stand around it and nothing else. -/
def read? (s : String) : Option Json := do
  let cs := s.toList
  let (x, r) ← value? (cs.length + 1) 127 (skipBlanks cs)
  guard (skipBlanks r).isEmpty
  return x

end GraphLayer.Json
