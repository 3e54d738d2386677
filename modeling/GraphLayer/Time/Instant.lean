import GraphLayer.Time.Calendar

/-!
# Instants

* `Instant`, a point in time with nanoseconds;
* `Instant.read?` and `Instant.write`, its form with a date, a time and an offset;
* `Instant.ofMillis?`, the instant at a number of milliseconds.

A leap second belongs to the second before it, of which it is the second half.
-/

namespace GraphLayer.Time

/-- The seconds since 1970-01-01T00:00:00Z and the nanoseconds since then; in a leap second
these are `10 ^ 9` or more. -/
structure Instant where
  seconds : Int
  nanos : Nat
  deriving DecidableEq, Repr

namespace Instant

/-! ### Reading -/

/-- A number of just so many digits. -/
def digits? (count : Nat) (cs : List Char) : Option (Nat × List Char) :=
  let ds := cs.take count
  if ds.length = count ∧ ds.all Char.isDigit then
    some (ds.foldl (fun n c => n * 10 + (c.toNat - '0'.toNat)) 0, cs.drop count)
  else none

/-- What follows a character. -/
def after? (c : Char) : List Char → Option (List Char)
  | [] => none
  | d :: r => if d = c then some r else none

/-- A date. -/
def date? (cs : List Char) : Option (Date × List Char) := do
  let (year, r) ← digits? 4 cs
  let (month, r) ← digits? 2 (← after? '-' r)
  let (day, r) ← digits? 2 (← after? '-' r)
  let d : Date := ⟨year, month, day⟩
  if d.Valid then return (d, r) else none

/-- What follows the mark between a date and a time. -/
def afterMark? : List Char → Option (List Char)
  | c :: r => if c = 'T' ∨ c = 't' ∨ c = ' ' then some r else none
  | [] => none

/-- The nanoseconds of a fraction; digits beyond the ninth count for nothing. -/
def fraction? (cs : List Char) : Option (Nat × List Char) :=
  match cs with
  | '.' :: r =>
    let ds := r.takeWhile Char.isDigit
    if ds.isEmpty then none
    else
      let nine := (ds ++ List.replicate 9 '0').take 9
      some (nine.foldl (fun n c => n * 10 + (c.toNat - '0'.toNat)) 0, r.dropWhile Char.isDigit)
  | r => some (0, r)

/-- A time as seconds of the day and nanoseconds. -/
def time? (cs : List Char) : Option (Int × Nat × List Char) := do
  let (hour, r) ← digits? 2 cs
  let (minute, r) ← digits? 2 (← after? ':' r)
  let (second, r) ← digits? 2 (← after? ':' r)
  let (nanos, r) ← fraction? r
  if hour < 24 ∧ minute < 60 ∧ second ≤ 60 then
    let total : Nat := hour * 3600 + minute * 60
    if second = 60 then return ((total : Int) + 59, nanos + 1000000000, r)
    else return ((total : Int) + second, nanos, r)
  else none

/-- The hours and minutes of an offset in seconds. -/
def distance? (cs : List Char) : Option (Int × List Char) := do
  let (hours, r) ← digits? 2 cs
  let (minutes, r) ← digits? 2 (← after? ':' r)
  if hours < 24 ∧ minutes < 60 then return (((hours * 3600 + minutes * 60 : Nat) : Int), r)
  else none

/-- An offset in seconds; the minus sign may also be the mathematical one. -/
def offset? : List Char → Option (Int × List Char)
  | [] => none
  | c :: r =>
    if c = 'Z' ∨ c = 'z' then some (0, r)
    else if c = '+' then distance? r
    else if c = '-' ∨ c = '\u2212' then (distance? r).map fun (n, r) => (-n, r)
    else none

/-- The instant of a date, a time and an offset, with nothing around them. -/
def read? (s : String) : Option Instant := do
  let (date, r) ← date? s.toList
  let (seconds, nanos, r) ← time? (← afterMark? r)
  let (offset, r) ← offset? r
  if r.isEmpty then return ⟨date.toDays * 86400 + seconds - offset, nanos⟩ else none

/-! ### Milliseconds -/

/-- The years that dates may lie in. -/
def yearRange : Int × Int := (-262143, 262142)

/-- The instant at a number of milliseconds since 1970-01-01T00:00:00Z, if its year lies in
`yearRange`. -/
def ofMillis? (n : Int) : Option Instant :=
  let i : Instant := ⟨n / 1000, (n % 1000).toNat * 1000000⟩
  let year := (Date.ofDays (i.seconds / 86400)).year
  if yearRange.1 ≤ year ∧ year ≤ yearRange.2 then some i else none

/-! ### Writing -/

/-- A number with zeros in front, up to a number of digits. -/
def padded (width n : Nat) : String :=
  let ds := Nat.toDigits 10 n
  String.ofList (List.replicate (width - ds.length) '0' ++ ds)

/-- Years outside of 0 to 9999 have a sign. -/
def yearText (year : Int) : String :=
  if 0 ≤ year ∧ year ≤ 9999 then padded 4 year.toNat
  else (if year < 0 then "-" else "+") ++ padded 4 year.natAbs

/-- A fraction with as many groups of three digits as it needs. -/
def fractionText (nanos : Nat) : String :=
  if nanos = 0 then ""
  else if nanos % 1000000 = 0 then "." ++ padded 3 (nanos / 1000000)
  else if nanos % 1000 = 0 then "." ++ padded 6 (nanos / 1000)
  else "." ++ padded 9 nanos

/-- The form without an offset; a leap second is written as one. -/
def write (i : Instant) : String :=
  let date := Date.ofDays (i.seconds / 86400)
  let inDay := (i.seconds % 86400).toNat
  let leap := 1000000000 ≤ i.nanos
  let second := inDay % 60 + (if leap then 1 else 0)
  let nanos := if leap then i.nanos - 1000000000 else i.nanos
  yearText date.year ++ "-" ++ padded 2 date.month.toNat ++ "-" ++ padded 2 date.day.toNat ++
    "T" ++ padded 2 (inDay / 3600) ++ ":" ++ padded 2 (inDay / 60 % 60) ++ ":" ++
    padded 2 second ++ fractionText nanos ++ "Z"

end Instant

end GraphLayer.Time
