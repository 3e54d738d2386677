import GraphLayer.Yaml.Scalar
import GraphLayer.Yaml.Tag

/-!
# Tokens of YAML

* `Token`, the scalars and marks of a text together with the beginnings and ends of collections
  that follow from its indentation;
* `tokens?`, the tokens of a text.

A key is recognized by the colon behind it: `Layout.candidates` holds the places where a key may
have begun, and the mark of the key is put there once the colon has been seen.
-/

namespace GraphLayer.Yaml

/-- A token. -/
inductive Token where
  /-- The version of the format that the following document has. -/
  | version (major minor : Nat)
  /-- What a handle stands for at the beginning of the tags of the following document. -/
  | handle (name start : List Char)
  | documentStart
  | documentEnd
  | blockSequence
  | blockMapping
  /-- The end of a collection that its indentation began. -/
  | blockEnd
  | openList
  | closeList
  | openRecord
  | closeRecord
  /-- A comma. -/
  | comma
  /-- A dash. -/
  | entry
  | key
  | value
  | alias (name : List Char)
  | anchor (name : List Char)
  /-- A tag that begins with a handle. -/
  | tag (handle suffix : List Char)
  | plain (text : List Char)
  | quoted (text : List Char)
  deriving DecidableEq, Repr

/-- A place where a key may have begun. -/
structure Candidate where
  /-- The number of tokens before it. -/
  position : Nat
  line : Nat
  index : Nat
  column : Nat
  /-- Whether the indentation admits nothing but a key. -/
  required : Bool

/-- Whether a colon may still follow a place: in the same line and not too far away. -/
def Candidate.isLive (k : Candidate) (c : Cursor) : Bool :=
  k.line == c.line && c.index ≤ k.index + 1024

/-- The tokens so far and the state of the indentation. -/
structure Layout where
  cursor : Cursor
  /-- The tokens in reverse. -/
  tokens : List Token := []
  /-- The number of open brackets. -/
  depth : Nat := 0
  /-- The columns of the open collections without brackets, the innermost first. -/
  indents : List Nat := []
  /-- Whether a key without a mark of its own may begin here. -/
  keyAllowed : Bool := true
  /-- One place for every open bracket, the innermost first, and one for the outside. -/
  candidates : List (Option Candidate) := [none]

namespace Layout

/-- Whether the place is between brackets. -/
def flow (l : Layout) : Bool := l.depth != 0

/-- The indentation of the innermost collection. -/
def indent? (l : Layout) : Option Nat := l.indents.head?

/-- Whether a column is right of the innermost collection. -/
def isDeeper (l : Layout) (column : Nat) : Bool :=
  match l.indent? with
  | none => true
  | some n => n < column

/-- Add a token. -/
def push (l : Layout) (t : Token) : Layout := { l with tokens := t :: l.tokens }

/-- Go on at a place. -/
def goto (l : Layout) (c : Cursor) : Layout := { l with cursor := c }

/-! ### Keys -/

/-- Give up a place; one where a key is required may not be given up. -/
def giveUp? (l : Layout) : Option Layout :=
  match l.candidates with
  | some k :: rest => if k.required then none else some { l with candidates := none :: rest }
  | _ => some l

/-- The places where a key may have begun without those that are too far away. -/
def liveCandidates? (c : Cursor) : List (Option Candidate) → Option (List (Option Candidate))
  | [] => some []
  | none :: ks => (liveCandidates? c ks).map (none :: ·)
  | some k :: ks =>
    if k.isLive c then (liveCandidates? c ks).map (some k :: ·)
    else if k.required then none
    else (liveCandidates? c ks).map (none :: ·)

/-- A key may begin here. -/
def save? (l : Layout) : Option Layout :=
  if !l.keyAllowed then some l
  else do
    let l ← l.giveUp?
    let required := !l.flow && l.indent? == some l.cursor.column
    let k : Candidate :=
      ⟨l.tokens.length, l.cursor.line, l.cursor.index, l.cursor.column, required⟩
    return { l with candidates := some k :: l.candidates.drop 1 }

/-! ### Indentation -/

/-- Begin a collection at a column that is right of the innermost one; its token is put behind
the given number of tokens. -/
def indentTo (l : Layout) (column : Nat) (t : Token) (position : Nat) : Layout :=
  if !l.flow && l.isDeeper column then
    let later := l.tokens.length - position
    { l with
      indents := column :: l.indents
      tokens := l.tokens.take later ++ t :: l.tokens.drop later }
  else l

/-- End the collections right of a column. -/
def closeRightOf (column : Nat) : List Nat → List Token → List Nat × List Token
  | [], ts => ([], ts)
  | n :: ns, ts => if column < n then closeRightOf column ns (.blockEnd :: ts) else (n :: ns, ts)

/-- End the collections right of a column. -/
def dedentTo (l : Layout) (column : Nat) : Layout :=
  if l.flow then l
  else
    let (indents, tokens) := closeRightOf column l.indents l.tokens
    { l with indents, tokens }

/-- End all collections without brackets. -/
def dedentAll (l : Layout) : Layout :=
  if l.flow then l
  else { l with indents := [], tokens := l.indents.map (fun _ => Token.blockEnd) ++ l.tokens }

/-! ### Tokens -/

/-- The place of the next token, behind blanks, comments and line breaks; a line may begin with
a byte order mark, which takes a column. -/
def skipGap : Nat → Layout → Layout
  | 0, l => l
  | fuel + 1, l =>
    let c := l.cursor
    let c := if c.column = 0 ∧ c.peek? = some '\ufeff' then c.forward 1 else c
    let c := (c.span fun b => b == ' ' || ((l.flow || !l.keyAllowed) && b == '\t')).2
    let c := if c.peek? = some '#' then c.skipLine else c
    if c.atBreak then
      skipGap fuel { l with cursor := c.newline.2, keyAllowed := l.keyAllowed || !l.flow }
    else l.goto c

/-- A mark of some characters after which the given keys are allowed. -/
def mark (l : Layout) (t : Token) (length : Nat) (keyAllowed : Bool) : Layout :=
  { (l.push t).goto (l.cursor.forward length) with keyAllowed }

/-- The places behind the end of a directive, which fills its line up to a comment. -/
def closeDirective? (l : Layout) (t : Token) (c : Cursor) : Option Layout := do
  guard (atGap c.rest)
  let c := (c.span isSpace).2
  let c := if c.peek? = some '#' then c.skipLine else c
  guard (c.rest.isEmpty ∨ c.atBreak)
  return { (l.push t).goto c with keyAllowed := false }

/-- A number of at most nine digits. -/
def number? (c : Cursor) : Option (Nat × Cursor) := do
  let (ds, c) := c.span Char.isDigit
  guard (ds.length ≤ 9)
  return (← Node.natIn? 10 ds, c)

/-- A line with a directive: it tells the version of the format, or what a handle means. -/
def directive? (l : Layout) : Option Layout := do
  let l ← l.dedentAll.giveUp?
  let (name, c) := (l.cursor.forward 1).span isWord
  guard (c.rest.head?.any isSpace)
  let c := (c.span isSpace).2
  if name = "YAML".toList then
    let (major, c) ← number? c
    guard (c.peek? = some '.')
    let (minor, c) ← number? (c.forward 1)
    l.closeDirective? (.version major minor) c
  else if name = "TAG".toList then
    let (handle, c) ← handle? c
    guard (handle = ['!'] ∨ handle.getLast? = some '!')
    guard (c.rest.head?.any isSpace)
    let (start, c) ← uri? true (c.span isSpace).2
    guard (!start.isEmpty)
    l.closeDirective? (.handle handle start) c
  else none

/-- The mark of a document. -/
def documentMark? (l : Layout) (t : Token) : Option Layout := do
  let l ← l.dedentAll.giveUp?
  return l.mark t 3 false

/-- An opening bracket. -/
def openBracket? (l : Layout) (t : Token) : Option Layout := do
  let l ← l.save?
  let l := { l with depth := l.depth + 1, candidates := none :: l.candidates }
  return l.mark t 1 true

/-- A closing bracket. -/
def closeBracket? (l : Layout) (t : Token) : Option Layout := do
  let l ← l.giveUp?
  let candidates := if l.flow then l.candidates.drop 1 else l.candidates
  return { l with depth := l.depth - 1, candidates }.mark t 1 false

/-- A dash. -/
def entry? (l : Layout) : Option Layout := do
  guard (l.flow ∨ l.keyAllowed)
  let l := l.indentTo l.cursor.column .blockSequence l.tokens.length
  let l ← l.giveUp?
  return l.mark .entry 1 true

/-- A question mark before a key. -/
def key? (l : Layout) : Option Layout := do
  guard (l.flow ∨ l.keyAllowed)
  let l := l.indentTo l.cursor.column .blockMapping l.tokens.length
  let l ← l.giveUp?
  return l.mark .key 1 (!l.flow)

/-- A colon: the key behind which it stands gets its mark. -/
def value? (l : Layout) : Option Layout :=
  match l.candidates with
  | some k :: rest =>
    let later := l.tokens.length - k.position
    let l := { l with
      candidates := none :: rest
      tokens := l.tokens.take later ++ Token.key :: l.tokens.drop later }
    some ((l.indentTo k.column .blockMapping k.position).mark .value 1 false)
  | _ => do
    guard (l.flow ∨ l.keyAllowed)
    let l := l.indentTo l.cursor.column .blockMapping l.tokens.length
    return l.mark .value 1 (!l.flow)

/-- The name behind the sign of an alias or an anchor. -/
def name? (l : Layout) (token : List Char → Token) : Option Layout := do
  let l ← l.save?
  let (name, c) := (l.cursor.forward 1).span isWord
  guard (!name.isEmpty)
  guard (atGap c.rest ∨ (c.rest.head?.any fun b =>
    ['?', ':', ',', ']', '\x7d', '%', '@', '\x60'].contains b))
  return { (l.push (token name)).goto c with keyAllowed := false }

/-- A tag. -/
def tag? (l : Layout) : Option Layout := do
  let l ← l.save?
  let (handle, suffix, c) ← tagParts? l.cursor
  guard (atGap c.rest ∨ (l.flow ∧ c.peek? = some ','))
  return { (l.push (.tag handle suffix)).goto c with keyAllowed := false }

/-- A scalar that may be a key. -/
def scalar? (l : Layout) (token : List Char → Token)
    (read? : Cursor → Option Scanned) : Option Layout := do
  let l ← l.save?
  let s ← read? l.cursor
  return { (l.push (token s.text)).goto s.cursor with keyAllowed := s.freshLine }

/-- A block scalar. -/
def blockScalar? (l : Layout) (literal : Bool) : Option Layout := do
  let l ← l.giveUp?
  let s ← block? literal l.indent? l.cursor
  return { (l.push (.quoted s.text)).goto s.cursor with keyAllowed := true }

/-- Whether a plain scalar may begin with a character, given those behind it. -/
def startsPlain (flow : Bool) (c : Char) (r : List Char) : Bool :=
  if c = '-' then !(r.head?.any isSpace)
  else if c = '?' ∨ c = ':' then !flow && !atGap r
  else !isGap c && !isFlowMark c &&
    !(['#', '&', '*', '!', '|', '>', '\'', '"', '%', '@', '\x60'].contains c)

/-- The next token, whose first character is given with those behind it. -/
def next? (l : Layout) (c : Char) (r : List Char) : Option Layout :=
  if l.cursor.column = 0 ∧ c = '%' then l.directive?
  else if l.cursor.atDocumentMark then
    l.documentMark? (if c = '-' then .documentStart else .documentEnd)
  else if c = '[' then l.openBracket? .openList
  else if c = '\x7b' then l.openBracket? .openRecord
  else if c = ']' then l.closeBracket? .closeList
  else if c = '\x7d' then l.closeBracket? .closeRecord
  else if c = ',' then (l.giveUp?).map fun l => l.mark .comma 1 true
  else if c = '-' ∧ atGap r then l.entry?
  else if c = '?' ∧ (l.flow ∨ atGap r) then l.key?
  else if c = ':' ∧ (l.flow ∨ atGap r) then l.value?
  else if c = '*' then l.name? .alias
  else if c = '&' then l.name? .anchor
  else if c = '!' then l.tag?
  else if c = '|' ∧ !l.flow then l.blockScalar? true
  else if c = '>' ∧ !l.flow then l.blockScalar? false
  else if c = '\'' then l.scalar? .quoted singleQuoted?
  else if c = '"' then l.scalar? .quoted doubleQuoted?
  else if startsPlain l.flow c r then
    l.scalar? .plain (plain? l.flow ((l.indent?.map (· + 1)).getD 0))
  else none

/-- The tokens up to the end of the text. -/
def run? : Nat → Layout → Option (List Token)
  | 0, _ => none
  | fuel + 1, l => do
    let l := skipGap (l.cursor.rest.length + 1) l
    let candidates ← liveCandidates? l.cursor l.candidates
    let l := { l with candidates }.dedentTo l.cursor.column
    match l.cursor.rest with
    | [] =>
      let l ← l.dedentAll.giveUp?
      return l.tokens.reverse
    | c :: r =>
      let l ← l.next? c r
      run? fuel l

end Layout

/-- Characters that a text may hold. -/
def isPrintable (c : Char) : Bool :=
  let n := c.toNat
  n == 9 || n == 10 || n == 13 || (0x20 ≤ n && n ≤ 0x7E) || n == 0x85 ||
    (0xA0 ≤ n && n ≤ 0xFFFD) || 0x10000 ≤ n

/-- The tokens of a text. -/
def tokens? (s : String) : Option (List Token) :=
  let cs := s.toList
  if cs.all isPrintable then Layout.run? (cs.length + 1) { cursor := ⟨cs, 0, 0, 0⟩ } else none

end GraphLayer.Yaml
