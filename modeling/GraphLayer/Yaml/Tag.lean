import GraphLayer.Record.Node
import GraphLayer.Yaml.Cursor

/-!
# Tags of YAML

* `handle?`, the handle that a tag begins with;
* `uri?`, an identifier of a resource;
* `tagParts?`, the handle and the suffix of a tag.
-/

namespace GraphLayer.Yaml

/-- Characters of names. -/
def isWord (c : Char) : Bool := c.isAlphanum || c == '_' || c == '-'

/-- An exclamation mark with a word behind it, and another one if it is there. -/
def handle? (c : Cursor) : Option (List Char × Cursor) := do
  guard (c.peek? = some '!')
  let (word, c) := (c.forward 1).span isWord
  if c.peek? = some '!' then return ('!' :: word ++ ['!'], c.forward 1)
  else return ('!' :: word, c)

/-! ### Identifiers of resources -/

/-- The value of a byte behind a percent sign. -/
def byte? : List Char → Option Nat
  | '%' :: a :: b :: _ => Node.natIn? 16 [a, b]
  | _ => none

/-- The number of bytes of a character from the first one of them. -/
def byteCount? (byte : Nat) : Option Nat :=
  if byte < 0x80 then some 1
  else if byte < 0xC0 then none
  else if byte < 0xE0 then some 2
  else if byte < 0xF0 then some 3
  else if byte < 0xF8 then some 4
  else none

/-- Skip some bytes that continue a character. -/
def skipBytes? : Nat → Cursor → Option Cursor
  | 0, c => some c
  | n + 1, c => do
    let byte ← byte? c.rest
    guard (0x80 ≤ byte ∧ byte < 0xC0)
    skipBytes? n (c.forward 3)

/-- Characters of identifiers of resources; brackets and commas only if they cannot end one. -/
def isResource (closed : Bool) (c : Char) : Bool :=
  isWord c || [';', '/', '?', ':', '@', '&', '=', '+', '$', '.', '!', '~', '*', '\'', '(',
    ')'].contains c || closed && [',', '[', ']'].contains c

/-- An identifier of a resource; of a character that is written in several bytes only the place
is kept. -/
def uriFrom? (closed : Bool) : Nat → List Char → Cursor → Option (List Char × Cursor)
  | 0, cs, c => some (cs.reverse, c)
  | fuel + 1, cs, c =>
    match c.rest with
    | '%' :: _ => do
      let byte ← byte? c.rest
      let count ← byteCount? byte
      let c ← skipBytes? (count - 1) (c.forward 3)
      uriFrom? closed fuel ((if count = 1 then Char.ofNat byte else '\ufffd') :: cs) c
    | b :: _ =>
      if isResource closed b then uriFrom? closed fuel (b :: cs) (c.forward 1)
      else some (cs.reverse, c)
    | [] => some (cs.reverse, c)

/-- An identifier of a resource, which may be empty. -/
def uri? (closed : Bool) (c : Cursor) : Option (List Char × Cursor) :=
  uriFrom? closed (c.rest.length + 1) [] c

/-! ### Tags -/

/-- The handle and the rest of a tag; a tag without handle stands between angle brackets. -/
def tagParts? (c : Cursor) : Option (List Char × List Char × Cursor) :=
  if (c.rest.drop 1).head? = some '<' then do
    let (suffix, c) ← uri? true (c.forward 2)
    guard (!suffix.isEmpty ∧ c.peek? = some '>')
    return ([], suffix, c.forward 1)
  else do
    let (handle, c) ← handle? c
    if 1 < handle.length ∧ handle.getLast? = some '!' then
      let (suffix, c) ← uri? false c
      guard (!suffix.isEmpty)
      return (handle, suffix, c)
    else
      let (suffix, c) ← uri? false c
      return (['!'], handle.drop 1 ++ suffix, c)

end GraphLayer.Yaml
