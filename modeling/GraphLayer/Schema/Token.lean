/-!
# Tokens of schema texts

* `Token` and `scan`, a text cut into tokens: blanks, commas and comments are passed over, and
  the values of numbers and strings are checked but not kept;
* `withinNesting`, the bound on brackets that are open at once.

`scan` goes through the text character by character; `Mode` is what it is in the middle of.
-/

namespace GraphLayer.Schema

/-- A token. -/
inductive Token where
  /-- One of the marks of `isMark`. -/
  | mark (c : Char)
  | name (text : String)
  | number
  | string
  deriving DecidableEq, Repr

/-- What the reader of tokens is in the middle of. -/
inductive Mode where
  | between
  | comment
  /-- A name, in reverse. -/
  | name (read : List Char)
  /-- A number, in reverse. -/
  | number (read : List Char)
  /-- One quote. -/
  | opened
  /-- Two quotes. -/
  | openedTwice
  | string
  /-- A string after a backslash. -/
  | escape
  /-- A string inside a code point: its value so far and the number of digits left. -/
  | codePoint (value left : Nat)
  /-- A block string: whether the last character outside of quotes is a backslash, and the
  number of quotes since then. -/
  | block (backslash : Bool) (quotes : Nat)
  deriving DecidableEq, Repr

/-- Characters that stand between tokens; the byte order mark is one of them. -/
def isBlank (c : Char) : Bool :=
  c == ' ' || c == ',' || c == '\n' || c == '\r' || c == '\t' || c == '\ufeff'

/-- Marks. -/
def isMark (c : Char) : Bool :=
  ['(', ')', '[', ']', '\x7b', '\x7d', '!', '$', ':', '=', '@', '|', '&'].contains c

/-- Characters that begin a name. -/
def startsName (c : Char) : Bool := c.isAlpha || c == '_'

/-- Characters that a name consists of. -/
def continuesName (c : Char) : Bool := c.isAlphanum || c == '_'

/-- The names of the schema language. -/
def isName : List Char → Bool
  | [] => false
  | c :: cs => startsName c && cs.all continuesName

/-! ### Numbers -/

/-- Characters that end a number. -/
def endsNumber (c : Char) : Bool :=
  c == ' ' || c == '\n' || c == '\r' || c == '\t' || c == ',' || c == '#' || isMark c

/-- Digits, of which only a single one may be a leading zero, with an optional minus sign. -/
def isWhole (cs : List Char) : Bool :=
  let digits := match cs with
    | '-' :: r => r
    | r => r
  match digits with
  | [] => false
  | ['0'] => true
  | '0' :: _ => false
  | ds => ds.all Char.isDigit

/-- The digits of a fraction. -/
def isFraction (cs : List Char) : Bool := !cs.isEmpty && cs.all Char.isDigit

/-- A signed exponent, or one without a sign that begins with neither 0 nor 9. -/
def isExponent : List Char → Bool
  | [] => false
  | c :: cs =>
    if c = '-' ∨ c = '+' then isFraction cs
    else c.isDigit && c != '0' && c != '9' && cs.all Char.isDigit

/-- What stands before and after the last character that satisfies a condition. -/
def cutLast (p : Char → Bool) (cs : List Char) : Option (List Char × List Char) :=
  let r := cs.reverse
  match r.dropWhile fun c => !p c with
  | [] => none
  | _ :: before => some (before.reverse, (r.takeWhile fun c => !p c).reverse)

/-- Whether a number lies within 64 bits with a sign. -/
def fitsWord (cs : List Char) : Bool :=
  let value (ds : List Char) : Nat := ds.foldl (fun n c => n * 10 + (c.toNat - '0'.toNat)) 0
  match cs with
  | '-' :: ds => value ds ≤ 0x8000000000000000
  | ds => value ds < 0x8000000000000000

/-- The numbers: a whole number of at most 64 bits, or one with a fraction, an exponent or
both. -/
def isNumber (cs : List Char) : Bool :=
  match cutLast (fun c => c == 'e' || c == 'E') cs with
  | some (front, exponent) =>
    isExponent exponent && (match cutLast (· == '.') front with
      | some (whole, fraction) => isWhole whole && isFraction fraction
      | none => isWhole front)
  | none =>
    match cutLast (· == '.') cs with
    | some (whole, fraction) => isWhole whole && isFraction fraction
    | none => isWhole cs && fitsWord cs

/-! ### Strings -/

/-- The value of a hexadecimal digit. -/
def hexValue? (c : Char) : Option Nat :=
  if '0' ≤ c ∧ c ≤ '9' then some (c.toNat - '0'.toNat)
  else if 'a' ≤ c ∧ c ≤ 'f' then some (c.toNat - 'a'.toNat + 10)
  else if 'A' ≤ c ∧ c ≤ 'F' then some (c.toNat - 'A'.toNat + 10)
  else none

/-- One more of the four characters of a code point.  All are digits, but the first may be a
plus sign, and surrogates are no code points. -/
def codePointStep (value left : Nat) (c : Char) : Option Mode :=
  if left = 4 ∧ c = '+' then some (.codePoint 0 3)
  else
    (hexValue? c).bind fun d =>
      let value := value * 16 + d
      if left = 1 then
        if 0xD800 ≤ value ∧ value < 0xE000 then none else some .string
      else some (.codePoint value (left - 1))

/-- The mode after the character that follows a backslash. -/
def escapeStep (c : Char) : Option Mode :=
  if c = 'u' then some (.codePoint 0 4)
  else if ['"', '\\', '/', 'b', 'f', 'n', 'r', 't'].contains c then some .string
  else none

/-! ### The reader -/

/-- The effect of a character between tokens. -/
def start (c : Char) : Option (List Token × Mode) :=
  if isBlank c then some ([], .between)
  else if c = '#' then some ([], .comment)
  else if isMark c then some ([.mark c], .between)
  else if startsName c then some ([], .name [c])
  else if c = '-' ∨ c.isDigit then some ([], .number [c])
  else if c = '"' then some ([], .opened)
  else none

/-- A character after the end of a token. -/
def resume (t : Token) (c : Char) : Option (List Token × Mode) :=
  (start c).map fun (ts, m) => (t :: ts, m)

/-- The effect of one character: the tokens that it completes, and the next mode. -/
def step (m : Mode) (c : Char) : Option (List Token × Mode) :=
  match m with
  | .between => start c
  | .comment => some ([], if c = '\n' ∨ c = '\r' then .between else .comment)
  | .name read =>
    if continuesName c then some ([], .name (c :: read))
    else resume (.name (String.ofList read.reverse)) c
  | .number read =>
    if !endsNumber c then some ([], .number (c :: read))
    else if isNumber read.reverse then resume .number c
    else none
  | .opened =>
    if c = '"' then some ([], .openedTwice)
    else if c = '\n' then none
    else if c = '\\' then some ([], .escape)
    else some ([], .string)
  | .openedTwice => if c = '"' then some ([], .block false 0) else resume .string c
  | .string =>
    if c = '"' then some ([.string], .between)
    else if c = '\n' then none
    else if c = '\\' then some ([], .escape)
    else some ([], .string)
  | .escape => (escapeStep c).map fun m => ([], m)
  | .codePoint value left => (codePointStep value left c).map fun m => ([], m)
  | .block backslash quotes =>
    if c = '"' then
      if quotes < 2 then some ([], .block backslash (quotes + 1))
      else if backslash then some ([], .block false 0)
      else some ([.string], .between)
    else some ([], .block (c == '\\') 0)

/-- The tokens that the end of the text completes. -/
def finish : Mode → Option (List Token)
  | .between => some []
  | .comment => some []
  | .name read => some [.name (String.ofList read.reverse)]
  | .number read => if isNumber read.reverse then some [.number] else none
  | .openedTwice => some [.string]
  | _ => none

/-- The tokens of a text from a mode on. -/
def scanFrom (m : Mode) : List Char → Option (List Token)
  | [] => finish m
  | c :: cs =>
    match step m c with
    | none => none
    | some (ts, m) => (scanFrom m cs).map (ts ++ ·)

/-- The tokens of a text; nothing for a text with a character outside of all tokens. -/
def scan (cs : List Char) : Option (List Token) := scanFrom .between cs

/-! ### Nesting -/

/-- Whether no more than `room` brackets are opened at once. -/
def withinNesting (room : Nat) : List Token → Bool
  | [] => true
  | .mark c :: ts =>
    if c = '(' ∨ c = '[' ∨ c = '\x7b' then
      match room with
      | 0 => false
      | room + 1 => withinNesting room ts
    else if c = ')' ∨ c = ']' ∨ c = '\x7d' then withinNesting (room + 1) ts
    else withinNesting room ts
  | _ :: ts => withinNesting room ts

/-- The number of brackets that may be open at once. -/
def nestingLimit : Nat := 50

end GraphLayer.Schema
