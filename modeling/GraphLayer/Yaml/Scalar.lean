import GraphLayer.Yaml.Cursor

/-!
# Scalars of YAML

* `plain?`, a scalar without quotes;
* `singleQuoted?` and `doubleQuoted?`, scalars between quotes;
* `block?`, a scalar of whole lines, folded or literal.

Each takes the place where the scalar begins and gives its text and the place behind it.
-/

namespace GraphLayer.Yaml

/-- The marks of collections between brackets. -/
def isFlowMark (c : Char) : Bool := [',', '[', ']', '\x7b', '\x7d'].contains c

/-! ### Plain scalars -/

/-- Whether a colon is followed by a mark that may not be there between brackets. -/
def badColon (flow : Bool) : List Char → Bool
  | ':' :: d :: _ => flow && (isFlowMark d || d == '?')
  | _ => false

/-- Whether a word of a plain scalar ends. -/
def endsWord (flow : Bool) : List Char → Bool
  | [] => true
  | ':' :: r => atGap r
  | c :: _ => isGap c || (flow && isFlowMark c)

/-- The characters of a word. -/
def word? (flow : Bool) : List Char → Option (List Char)
  | [] => some []
  | c :: cs =>
    if badColon flow (c :: cs) then none
    else if endsWord flow (c :: cs) then some []
    else (word? flow cs).map (c :: ·)

/-- A scalar with the place behind it; `freshLine` says whether that follows a line break. -/
structure Scanned where
  text : List Char
  cursor : Cursor
  freshLine : Bool := false

/-- The words of a plain scalar after some text and a gap. -/
def plainFrom? (flow : Bool) (minimum : Nat) : Nat → List Char → Gap → Cursor → Option Scanned
  | 0, _, _, _ => none
  | fuel + 1, read, g, c =>
    if c.atDocumentMark ∨ c.peek? = some '#' then some ⟨read, c, g.multiline⟩
    else do
      let w ← word? flow c.rest
      let (read, g) := if w.isEmpty then (read, g) else (read ++ g.folded ++ w, {})
      let c := c.forward w.length
      if c.rest.isEmpty ∨ !atGap c.rest then return ⟨read, c, g.multiline⟩
      let (g, c) ← gap? minimum c
      if !flow ∧ c.column < minimum then return ⟨read, c, g.multiline⟩
      else plainFrom? flow minimum fuel read g c

/-- A plain scalar; outside of brackets its lines begin at a column or right of it. -/
def plain? (flow : Bool) (minimum : Nat) (c : Cursor) : Option Scanned :=
  plainFrom? flow minimum (c.rest.length + 1) [] {} c

/-! ### Quoted scalars -/

/-- The value of some hexadecimal digits. -/
def hex? (cs : List Char) : Option Nat :=
  cs.foldlM (fun n c =>
    if '0' ≤ c ∧ c ≤ '9' then some (n * 16 + (c.toNat - '0'.toNat))
    else if 'a' ≤ c ∧ c ≤ 'f' then some (n * 16 + (c.toNat - 'a'.toNat + 10))
    else if 'A' ≤ c ∧ c ≤ 'F' then some (n * 16 + (c.toNat - 'A'.toNat + 10))
    else none) 0

/-- A character by the digits of its number. -/
def codePoint? (count : Nat) (cs : List Char) : Option (Char × Nat) := do
  let ds := cs.take count
  guard (ds.length = count)
  let n ← hex? ds
  guard (n < 0xD800 ∨ (0xE000 ≤ n ∧ n ≤ 0x10FFFF))
  return (Char.ofNat n, count)

/-- The characters that single letters stand for after a backslash. -/
def escapes : List (Char × Char) :=
  [('0', '\x00'), ('a', '\x07'), ('b', '\x08'), ('t', '\t'), ('\t', '\t'), ('n', '\n'),
   ('v', '\x0b'), ('f', '\x0c'), ('r', '\r'), ('e', '\x1b'), (' ', ' '), ('"', '"'), ('/', '/'),
   ('\\', '\\'), ('N', '\u0085'), ('_', '\u00a0'), ('L', '\u2028'), ('P', '\u2029')]

/-- The character of an escape after the backslash, and its length. -/
def escape? : List Char → Option (Char × Nat)
  | [] => none
  | 'x' :: r => (codePoint? 2 r).map fun (c, n) => (c, n + 1)
  | 'u' :: r => (codePoint? 4 r).map fun (c, n) => (c, n + 1)
  | 'U' :: r => (codePoint? 8 r).map fun (c, n) => (c, n + 1)
  | c :: _ => (escapes.lookup c).map fun d => (d, 1)

/-- The characters of a quoted scalar up to the end of a word; a backslash at the end of a line
joins it to the next one, which is told by the last component. -/
def quotedWord? (single : Bool) : Nat → List Char → Cursor → Option (List Char × Cursor × Bool)
  | 0, _, _ => none
  | fuel + 1, read, c =>
    match c.rest with
    | [] => some (read, c, false)
    | d :: r =>
      if isGap d then some (read, c, false)
      else if single then
        if d = '\'' then
          if r.head? = some '\'' then quotedWord? single fuel (read ++ [d]) (c.forward 2)
          else some (read, c, false)
        else quotedWord? single fuel (read ++ [d]) (c.forward 1)
      else if d = '"' then some (read, c, false)
      else if d = '\\' then
        if (c.forward 1).atBreak then some (read, (c.forward 1).newline.2, true)
        else do
          let (e, n) ← escape? r
          quotedWord? single fuel (read ++ [e]) (c.forward (n + 1))
      else quotedWord? single fuel (read ++ [d]) (c.forward 1)

/-- The gap after a joined line: its own line feeds all count. -/
def joinedGap (g : Gap) : List Char := g.breaks

/-- The blanks and breaks that follow a joined line. -/
def joinedGap? (c : Cursor) : Option (Gap × Cursor) :=
  gapFrom? 0 (c.rest.length + 1) {} (c.span isSpace).2

/-- The words of a quoted scalar up to its end. -/
def quotedFrom? (single : Bool) : Nat → List Char → Cursor → Option Scanned
  | 0, _, _ => none
  | fuel + 1, read, c =>
    if c.atDocumentMark ∨ c.rest.isEmpty then none
    else do
      let (read, c, joined) ← quotedWord? single (c.rest.length + 1) read c
      if joined then
        let (g, c) ← joinedGap? c
        quotedFrom? single fuel (read ++ joinedGap g) c
      else
        match c.rest with
        | [] => none
        | d :: _ =>
          if isGap d then
            let (g, c) ← gap? 0 c
            quotedFrom? single fuel (read ++ g.folded) c
          else return ⟨read, c.forward 1, false⟩

/-- A scalar between single quotes, in which a quote is written twice. -/
def singleQuoted? (c : Cursor) : Option Scanned :=
  quotedFrom? true (c.rest.length + 1) [] (c.forward 1)

/-- A scalar between double quotes, with escapes. -/
def doubleQuoted? (c : Cursor) : Option Scanned :=
  quotedFrom? false (c.rest.length + 1) [] (c.forward 1)

/-! ### Block scalars -/

/-- What becomes of the line breaks at the end of a block scalar. -/
inductive Chomping where
  | strip
  | clip
  | keep
  deriving DecidableEq, Repr

/-- The marks after the sign of a block scalar: its chomping, and its indentation if that is
given. -/
def header? (cs : List Char) : Option (Chomping × Option Nat × Nat) :=
  let chomping? : Char → Option Chomping := fun c =>
    if c = '+' then some .keep else if c = '-' then some .strip else none
  let width? : Char → Option Nat := fun c =>
    if c.isDigit then some (c.toNat - '0'.toNat) else none
  let checked (r : Chomping × Option Nat × Nat) : Option (Chomping × Option Nat × Nat) :=
    if r.2.1 = some 0 then none else some r
  match cs with
  | [] => some (.clip, none, 0)
  | a :: r =>
    let second := r.head?
    match chomping? a, width? a with
    | some k, _ =>
      match second.bind width? with
      | some w => checked (k, some w, 2)
      | none => some (k, none, 1)
    | none, some w =>
      match second.bind chomping? with
      | some k => checked (k, some w, 2)
      | none => checked (.clip, some w, 1)
    | none, none => some (.clip, none, 0)

/-- The empty lines before a line of a block scalar: their breaks, the largest indentation seen
and the place behind them.  `indent` is zero as long as it is not known. -/
def emptyLines? (indent : Nat) : Nat → List Char → Nat → Cursor → Option (List Char × Nat × Cursor)
  | 0, breaks, widest, c => some (breaks, widest, c)
  | fuel + 1, breaks, widest, c =>
    let room := if indent = 0 then c.rest.length else indent - c.column
    let spaces := (c.rest.take room).takeWhile (· == ' ')
    let c := c.forward spaces.length
    let widest := max widest c.column
    if (indent = 0 ∨ c.column < indent) ∧ c.peek? = some '\t' then none
    else if c.atBreak then
      let (text, c) := c.newline
      emptyLines? indent fuel (breaks ++ text) widest c
    else some (breaks, widest, c)

/-- The lines of a block scalar after some text, the break of its last line and the breaks of
the empty lines after that. -/
def blockFrom? (literal : Bool) (indent : Nat) :
    Nat → List Char → List Char → List Char → Bool → Cursor →
    Option (List Char × List Char × List Char × Cursor)
  | 0, _, _, _, _, _ => none
  | fuel + 1, read, last, empty, blank, c =>
    if c.column = indent ∧ !c.rest.isEmpty then do
      let startsBlank := match c.rest with
        | [] => false
        | d :: _ => isSpace d
      let joint :=
        if !literal ∧ last.head? = some '\n' ∧ !blank ∧ !startsBlank then
          if empty.isEmpty then [' '] else []
        else last
      let (line, c) := c.span fun b => !isBreak b
      let (last, c) := if c.rest.isEmpty then ([], c) else c.newline
      let read := read ++ joint ++ empty ++ line
      let (empty, _, c) ← emptyLines? indent (c.rest.length + 1) [] 0 c
      blockFrom? literal indent fuel read last empty startsBlank c
    else some (read, last, empty, c)

/-- A block scalar whose sign comes first; `parent` is the indentation of the collection that it
stands in, if there is one. -/
def block? (literal : Bool) (parent : Option Nat) (c : Cursor) : Option Scanned := do
  let (chomping, width, length) ← header? (c.rest.drop 1)
  let c := ((c.forward (length + 1)).span isSpace).2
  let c := if c.peek? = some '#' then c.skipLine else c
  guard (c.rest.isEmpty ∨ c.atBreak)
  let c := if c.rest.isEmpty then c else c.newline.2
  let known := (width.map fun w => parent.getD 0 + w).getD 0
  let (empty, widest, c) ← emptyLines? known (c.rest.length + 1) [] 0 c
  let least := max 1 ((parent.map (· + 1)).getD 0)
  let indent := if known = 0 then max widest least else known
  let (read, last, empty, c) ←
    blockFrom? literal indent (c.rest.length + 1) [] [] empty false c
  let ending := match chomping with
    | .strip => []
    | .clip => last
    | .keep => last ++ empty
  return ⟨read ++ ending, c, false⟩

end GraphLayer.Yaml
