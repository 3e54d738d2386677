import GraphLayer.Record.Node

/-!
# Scalars of TOML

* `string?`, the strings, between one or three quotes of either kind;
* `bareValue?`, numbers, truth values, dates and times;
* `key?` and `keys?`, the keys.

Each takes a part off the front of some characters.
-/

namespace GraphLayer.Toml

/-- Spaces and tabs. -/
def isSpace (c : Char) : Bool := c == ' ' || c == '\t'

/-- Drop leading spaces and tabs. -/
def skipSpaces (cs : List Char) : List Char := cs.dropWhile isSpace

/-- What follows a line break. -/
def newline? : List Char → Option (List Char)
  | '\n' :: r => some r
  | '\r' :: '\n' :: r => some r
  | _ => none

/-- Characters that may stand in texts and comments: no controls but the tab. -/
def isText (c : Char) : Bool :=
  c == '\t' || (0x20 ≤ c.toNat && c.toNat ≤ 0x7E) || 0x80 ≤ c.toNat

/-- The characters of a line up to its end or to a comment's end. -/
def skipComment (cs : List Char) : List Char :=
  match cs with
  | '#' :: r => r.dropWhile isText
  | r => r

/-! ### Strings -/

/-- The value of some hexadecimal digits. -/
def hex? (cs : List Char) : Option Nat :=
  cs.foldlM (fun n c => (Node.digit? 16 c).map fun d => n * 16 + d) 0

/-- A character by the digits of its number. -/
def codePoint? (count : Nat) (cs : List Char) : Option (Char × List Char) := do
  let ds := cs.take count
  guard (ds.length = count)
  let n ← hex? ds
  guard (n < 0xD800 ∨ (0xE000 ≤ n ∧ n ≤ 0x10FFFF))
  return (Char.ofNat n, cs.drop count)

/-- The character of an escape behind the backslash. -/
def escape? : List Char → Option (Char × List Char)
  | 'b' :: r => some ('\x08', r)
  | 't' :: r => some ('\t', r)
  | 'n' :: r => some ('\n', r)
  | 'f' :: r => some ('\x0c', r)
  | 'r' :: r => some ('\r', r)
  | '"' :: r => some ('"', r)
  | '\\' :: r => some ('\\', r)
  | 'u' :: r => codePoint? 4 r
  | 'U' :: r => codePoint? 8 r
  | _ => none

/-- The characters up to the quote that ends a string of one line. -/
def line? (quote : Char) : Nat → List Char → List Char → Option (List Char × List Char)
  | 0, _, _ => none
  | fuel + 1, read, cs =>
    match cs with
    | [] => none
    | c :: r =>
      if c = quote then some (read.reverse, r)
      else if c = '\\' ∧ quote = '"' then do
        let (e, r) ← escape? r
        line? quote fuel (e :: read) r
      else if isText c then line? quote fuel (c :: read) r
      else none

/-- The rest after a backslash at the end of a line: blanks and line breaks are skipped. -/
def skipFold : Nat → List Char → List Char
  | 0, cs => cs
  | fuel + 1, cs =>
    match newline? (skipSpaces cs) with
    | some r => skipFold fuel r
    | none => skipSpaces cs

/-- The characters up to the three quotes that end a string of several lines; one or two quotes
may stand right before them. -/
def lines? (quote : Char) : Nat → List Char → List Char → Option (List Char × List Char)
  | 0, _, _ => none
  | fuel + 1, read, cs =>
    match cs with
    | [] => none
    | c :: r =>
      if c = quote then
        let quotes := cs.takeWhile (· == quote)
        if quotes.length < 3 then lines? quote fuel (quotes ++ read) (cs.drop quotes.length)
        else if quotes.length ≤ 5 then
          some ((quotes.drop 3 ++ read).reverse, cs.drop quotes.length)
        else none
      else if c = '\\' ∧ quote = '"' then
        match newline? (skipSpaces r) with
        | some r => lines? quote fuel read (skipFold r.length r)
        | none => do
          let (e, r) ← escape? r
          lines? quote fuel (e :: read) r
      else
        match newline? cs with
        | some r => lines? quote fuel ('\n' :: read) r
        | none => if isText c then lines? quote fuel (c :: read) r else none

/-- A string; right behind three quotes a line break does not count. -/
def string? : List Char → Option (String × List Char)
  | [] => none
  | q :: r =>
    if q ≠ '"' ∧ q ≠ '\'' then none
    else
      let found := match r with
        | a :: b :: r' =>
          if a = q ∧ b = q then
            let body := (newline? r').getD r'
            lines? q (body.length + 1) [] body
          else line? q (r.length + 1) [] r
        | r => line? q (r.length + 1) [] r
      found.map fun (s, r) => (String.ofList s, r)

/-! ### Numbers -/

/-- Digits with single underscores between them. -/
def grouped? (isDigit : Char → Bool) : List Char → Option (List Char)
  | [] => none
  | [d] => if isDigit d then some [d] else none
  | d :: '_' :: r => if isDigit d then (grouped? isDigit r).map (d :: ·) else none
  | d :: r => if isDigit d then (grouped? isDigit r).map (d :: ·) else none

/-- A sign and what follows it. -/
def sign : List Char → Bool × List Char
  | '+' :: r => (false, r)
  | '-' :: r => (true, r)
  | r => (false, r)

/-- An integer within 64 bits. -/
def bounded? (n : Int) : Option Node :=
  if -0x8000000000000000 ≤ n ∧ n < 0x8000000000000000 then some (.integer n) else none

/-- An integer: decimal with a sign, or of another base without one. -/
def integer? (cs : List Char) : Option Node :=
  let based (base : Nat) (r : List Char) : Option Node := do
    let ds ← grouped? (fun c => (Node.digit? base c).isSome) r
    let n ← Node.natIn? base ds
    bounded? n
  match cs with
  | '0' :: 'x' :: r => based 16 r
  | '0' :: 'o' :: r => based 8 r
  | '0' :: 'b' :: r => based 2 r
  | cs => do
    let (negative, r) := sign cs
    let ds ← grouped? Char.isDigit r
    guard (ds.length = 1 ∨ ds.head? ≠ some '0')
    let n ← Node.natIn? 10 ds
    bounded? (if negative then -(n : Int) else n)

/-- The number of some digits and an exponent. -/
def scaled (negative : Bool) (digits : List Char) (exponent : Int) : Node :=
  let n := (Node.natIn? 10 digits).getD 0
  let x : Float :=
    if n = 0 ∨ exponent < -400 - digits.length then 0
    else if 400 < exponent then Float.ofScientific 1 false 400
    else if exponent < 0 then Float.ofScientific n true exponent.natAbs
    else Float.ofScientific n false exponent.natAbs
  .real (.ofFloat (if negative then -x else x))

/-- The exponent behind its letter. -/
def exponent? (cs : List Char) : Option Int := do
  let (negative, r) := sign cs
  let n ← Node.natIn? 10 (← grouped? Char.isDigit r)
  return if negative then -(n : Int) else n

/-- A number with a fraction, an exponent or both, or one that is no number. -/
def real? (cs : List Char) : Option Node := do
  let (negative, r) := sign cs
  if r = "inf".toList then return scaled negative ['1'] 401
  if r = "nan".toList then return .real (.ofFloat (0.0 / 0.0))
  let whole ← grouped? Char.isDigit
    (r.takeWhile fun c => c != '.' && c != 'e' && c != 'E')
  guard (whole.length = 1 ∨ whole.head? ≠ some '0')
  let rest := r.dropWhile fun c => c != '.' && c != 'e' && c != 'E'
  let (fraction, rest) ← match rest with
    | '.' :: r => do
      let ds ← grouped? Char.isDigit (r.takeWhile fun c => c != 'e' && c != 'E')
      pure (ds, r.dropWhile fun c => c != 'e' && c != 'E')
    | r => pure ([], r)
  let e ← match rest with
    | [] => pure 0
    | _ :: r => exponent? r
  guard (!fraction.isEmpty ∨ !rest.isEmpty)
  return scaled negative (whole ++ fraction) (e - fraction.length)

/-! ### Dates and times -/

/-- A number of just so many digits. -/
def digits? (count : Nat) (cs : List Char) : Option (Nat × List Char) :=
  let ds := cs.take count
  if ds.length = count ∧ ds.all Char.isDigit then
    (Node.natIn? 10 ds).map fun n => (n, cs.drop count)
  else none

/-- What follows a character. -/
def after? (c : Char) : List Char → Option (List Char)
  | [] => none
  | d :: r => if d = c then some r else none

/-- The characters behind a date. -/
def date? (cs : List Char) : Option (List Char) := do
  let (year, r) ← digits? 4 cs
  let (month, r) ← digits? 2 (← after? '-' r)
  let (day, r) ← digits? 2 (← after? '-' r)
  let leap := year % 4 == 0 && (year % 100 != 0 || year % 400 == 0)
  let length :=
    if month = 2 then (if leap then 29 else 28)
    else if month ∈ [4, 6, 9, 11] then 30
    else 31
  guard (1 ≤ month ∧ month ≤ 12 ∧ 1 ≤ day ∧ day ≤ length)
  return r

/-- The characters behind a time. -/
def time? (cs : List Char) : Option (List Char) := do
  let (hour, r) ← digits? 2 cs
  let (minute, r) ← digits? 2 (← after? ':' r)
  let (second, r) ← digits? 2 (← after? ':' r)
  guard (hour < 24 ∧ minute < 60 ∧ second ≤ 60)
  match r with
  | '.' :: r =>
    guard (r.head?.any Char.isDigit)
    return r.dropWhile Char.isDigit
  | r => return r

/-- The characters behind an offset, which may be left out. -/
def offset? (cs : List Char) : Option (List Char) :=
  match cs with
  | [] => some []
  | c :: r =>
    if c = 'Z' ∨ c = 'z' then some r
    else if c = '+' ∨ c = '-' then do
      let (hours, r) ← digits? 2 r
      let (minutes, r) ← digits? 2 (← after? ':' r)
      guard (hours < 24 ∧ minutes < 60)
      return r
    else some cs

/-- The characters behind a date, a time or both. -/
def moment? (cs : List Char) : Option (List Char) :=
  match date? cs with
  | none => time? cs
  | some [] => some []
  | some (c :: r) =>
    if c = 'T' ∨ c = 't' then (time? r).bind offset?
    else if c = ' ' ∧ r.head?.any Char.isDigit then (time? r).bind offset?
    else some (c :: r)

/-- A moment as a tree: it is neither a text nor a number. -/
def momentNode (cs : List Char) : Node :=
  .record [(.text "$__toml_private_datetime", .text (String.ofList cs))]

/-! ### Values and keys -/

/-- Characters of numbers and words. -/
def isBare (c : Char) : Bool :=
  c.isAlphanum || c == '_' || c == '-' || c == '+' || c == '.' || c == ':'

/-- A number, a truth value, a date or a time. -/
def bareValue? (cs : List Char) : Option (Node × List Char) :=
  match moment? cs with
  | some r => some (momentNode (cs.take (cs.length - r.length)), r)
  | none =>
    let word := cs.takeWhile isBare
    let value :=
      if word = "true".toList then some (.bool true)
      else if word = "false".toList then some (.bool false)
      else (integer? word).or (real? word)
    value.map fun n => (n, cs.dropWhile isBare)

/-- Characters of keys without quotes. -/
def isKeyChar (c : Char) : Bool := c.isAlphanum || c == '_' || c == '-'

/-- A key. -/
def key? (cs : List Char) : Option (String × List Char) :=
  match cs with
  | [] => none
  | c :: r =>
    if c = '"' ∨ c = '\'' then
      (line? c (r.length + 1) [] r).map fun (s, r) => (String.ofList s, r)
    else
      let k := cs.takeWhile isKeyChar
      if k.isEmpty then none else some (String.ofList k, cs.dropWhile isKeyChar)

/-- Keys with points between them, and blanks around. -/
def keys? : Nat → List Char → Option (List String × List Char)
  | 0, _ => none
  | fuel + 1, cs => do
    let (k, r) ← key? (skipSpaces cs)
    match skipSpaces r with
    | '.' :: r =>
      let (ks, r) ← keys? fuel r
      return (k :: ks, r)
    | r => return ([k], r)

end GraphLayer.Toml
