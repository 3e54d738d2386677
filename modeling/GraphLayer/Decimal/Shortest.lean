/-!
# Shortest decimals of binary64 numbers

* `Binary64`, a binary64 number by its bits;
* `Binary64.decode`, the sign, the significand and the exponent of a finite number;
* `shortest`, the decimal with the fewest digits that rounds back to the number, and the
  nearest one among those.

All arithmetic is exact, on natural numbers.
-/

namespace GraphLayer

/-- A binary64 number, given by its bits. -/
structure Binary64 where
  bits : UInt64
  deriving DecidableEq, Inhabited

namespace Binary64

/-- The number of a machine float. -/
def ofFloat (x : Float) : Binary64 := ⟨x.toBits⟩

/-- The machine float of the number. -/
def toFloat (x : Binary64) : Float := Float.ofBits x.bits

/-- The eleven exponent bits. -/
def biasedExponent (x : Binary64) : Nat := x.bits.toNat / 0x10000000000000 % 2048

/-- The fifty-two fraction bits. -/
def fraction (x : Binary64) : Nat := x.bits.toNat % 0x10000000000000

/-- Whether the sign bit is set. -/
def negative (x : Binary64) : Bool := 0x8000000000000000 ≤ x.bits.toNat

/-- Neither an infinity nor a NaN. -/
def isFinite (x : Binary64) : Bool := x.biasedExponent != 2047

/-- The pair `(m, q)` for which a finite number is `m * 2 ^ q` up to its sign. -/
def decode (x : Binary64) : Nat × Int :=
  if x.biasedExponent = 0 then (x.fraction, -1074)
  else (0x10000000000000 + x.fraction, (x.biasedExponent : Int) - 1075)

end Binary64

/-- A positive decimal `digits * 10 ^ exponent`. -/
structure Decimal where
  digits : Nat
  exponent : Int
  deriving DecidableEq, Repr, Inhabited

namespace Decimal

/-- The rational `num / den` scaled by a power of ten, again as a fraction. -/
def scale (num den : Nat) (e : Int) : Nat × Nat :=
  if 0 ≤ e then (num * Nat.pow 10 e.toNat, den) else (num, den * Nat.pow 10 (-e).toNat)

/-- The number of decimal digits of `n`; zero has none. -/
def digitCount (n : Nat) : Nat := if n = 0 then 0 else (Nat.toDigits 10 n).length

/-- The least `k` with `num / den < 10 ^ k`, for a positive fraction, searched from a lower
bound with at most `fuel` steps. -/
def magnitudeFrom (num den : Nat) : Nat → Int → Int
  | 0, k => k
  | fuel + 1, k =>
    let s := scale num den (-k)
    if s.1 < s.2 then k else magnitudeFrom num den fuel (k + 1)

/-- The least `k` with `num / den < 10 ^ k`, for a positive fraction. -/
def magnitude (num den : Nat) : Int :=
  magnitudeFrom num den 4 ((digitCount num : Int) - (digitCount den : Int) - 1)

/-- Trailing zeros move from the digits to the exponent. -/
def strip : Nat → Decimal → Decimal
  | 0, d => d
  | fuel + 1, d =>
    if d.digits ≠ 0 ∧ d.digits % 10 = 0 then strip fuel ⟨d.digits / 10, d.exponent + 1⟩ else d

/-- The interval of reals that round to `m * 2 ^ q`, as fractions over a common denominator:
lower end, the number itself, upper end, denominator. -/
def interval (m : Nat) (q : Int) : Nat × Nat × Nat × Nat :=
  -- Just above a power of two the lower neighbour is only half as far away.
  let below := if m = 0x10000000000000 ∧ -1074 < q then 4 * m - 1 else 4 * m - 2
  let up : Nat := if 0 ≤ q then Nat.pow 2 q.toNat else 1
  let down : Nat := if 0 ≤ q then 1 else Nat.pow 2 (-q).toNat
  (below * up, 4 * m * up, (4 * m + 2) * up, 4 * down)

/-- The point of the grid of `n` significant digits that rounds to the number, if there is one;
of two such points the nearer, and of two equally near ones the even one. -/
def onGrid (m : Nat) (q : Int) (n : Nat) : Option Decimal :=
  let (lo, mid, hi, den) := interval m q
  let e := magnitude mid den - (n : Int)
  let s := scale mid den (-e)
  let l := scale lo den (-e)
  let h := scale hi den (-e)
  let d := s.1 / s.2
  let inside (c : Nat) : Bool :=
    if m % 2 = 0 then l.1 ≤ c * l.2 && c * h.2 ≤ h.1 else l.1 < c * l.2 && c * h.2 < h.1
  let rest := s.1 % s.2
  let upper := 2 * rest > s.2 || (2 * rest == s.2 && d % 2 == 1)
  match inside d, inside (d + 1) with
  | true, true => some ⟨if upper then d + 1 else d, e⟩
  | true, false => some ⟨d, e⟩
  | false, true => some ⟨d + 1, e⟩
  | false, false => none

/-- The decimal with the fewest digits that rounds to `m * 2 ^ q`. -/
def shortest (m : Nat) (q : Int) : Decimal :=
  if m = 0 then ⟨0, 0⟩
  else
    let hit := (List.range 17).findSome? fun i => onGrid m q (i + 1)
    strip 20 (hit.getD ⟨0, 0⟩)

end Decimal

/-- How a decimal is written: positionally while the point falls inside or near the digits. -/
structure DecimalFormat where
  /-- Most digits before the point in positional notation. -/
  maxWhole : Int
  /-- Most zeros between the point and the first digit in positional notation. -/
  maxLeadingZeros : Int

namespace DecimalFormat

/-- Write a decimal with at least one digit on either side of the point; beyond the limits of
the format an exponent follows the letter `e`. -/
def write (f : DecimalFormat) (d : Decimal) : String :=
  let ds := Nat.toDigits 10 d.digits
  let point : Int := ds.length + d.exponent
  let zeros (n : Int) : List Char := List.replicate n.toNat '0'
  if d.digits = 0 then "0.0"
  else if 0 ≤ d.exponent ∧ point ≤ f.maxWhole then
    String.ofList (ds ++ zeros d.exponent ++ ['.', '0'])
  else if 0 < point ∧ point ≤ f.maxWhole then
    String.ofList (ds.take point.toNat ++ '.' :: ds.drop point.toNat)
  else if -f.maxLeadingZeros ≤ point ∧ point ≤ 0 then
    String.ofList (['0', '.'] ++ zeros (-point) ++ ds)
  else
    let mantissa := match ds with
      | [] => []
      | [c] => [c]
      | c :: r => c :: '.' :: r
    String.ofList mantissa ++ "e" ++ toString (point - 1)

end DecimalFormat

end GraphLayer
