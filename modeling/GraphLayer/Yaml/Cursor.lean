/-!
# Places in a YAML text

* `Cursor`, the rest of a text with the place where it begins;
* `Gap`, the blanks and line breaks between two words, and `Gap.folded`, what they mean inside
  of a scalar.
-/

namespace GraphLayer.Yaml

/-- Line breaks. -/
def isBreak (c : Char) : Bool :=
  c == '\n' || c == '\r' || c == '\u0085' || c == '\u2028' || c == '\u2029'

/-- Spaces and tabs. -/
def isSpace (c : Char) : Bool := c == ' ' || c == '\t'

/-- What may end a word. -/
def isGap (c : Char) : Bool := isSpace c || isBreak c

/-- Whether a gap or the end of the text comes first. -/
def atGap : List Char → Bool
  | [] => true
  | c :: _ => isGap c

/-- The rest of a text with the place where it begins. -/
structure Cursor where
  rest : List Char
  line : Nat := 0
  column : Nat := 0
  /-- The number of characters before the place. -/
  index : Nat := 0

namespace Cursor

/-- The next character. -/
def peek? (c : Cursor) : Option Char := c.rest.head?

/-- The place some characters further on in the line. -/
def forward (c : Cursor) (n : Nat) : Cursor :=
  { c with rest := c.rest.drop n, column := c.column + n, index := c.index + n }

/-- The characters of the line up to the first one that fails a condition. -/
def span (c : Cursor) (p : Char → Bool) : List Char × Cursor :=
  let cs := c.rest.takeWhile p
  (cs, c.forward cs.length)

/-- The place after a line break, and the break; all but two kinds count as a line feed. -/
def newline (c : Cursor) : List Char × Cursor :=
  let next (rest : List Char) (n : Nat) : Cursor := ⟨rest, c.line + 1, 0, c.index + n⟩
  match c.rest with
  | [] => ([], c)
  | '\r' :: '\n' :: r => (['\n'], next r 2)
  | b :: r => ([if b = '\u2028' ∨ b = '\u2029' then b else '\n'], next r 1)

/-- Whether a line break comes first. -/
def atBreak (c : Cursor) : Bool :=
  match c.rest with
  | [] => false
  | b :: _ => isBreak b

/-- Whether the line begins with three dashes or points and a gap. -/
def atDocumentMark (c : Cursor) : Bool :=
  c.column == 0 && match c.rest with
    | '-' :: '-' :: '-' :: r => atGap r
    | '.' :: '.' :: '.' :: r => atGap r
    | _ => false

/-- The place after the rest of the line. -/
def skipLine (c : Cursor) : Cursor := (c.span fun b => !isBreak b).2

end Cursor

/-! ### Gaps -/

/-- Blanks and line breaks between two words. -/
structure Gap where
  /-- The blanks before the first line break. -/
  blanks : List Char := []
  breaks : List Char := []

namespace Gap

/-- Whether the gap goes beyond a line. -/
def multiline (g : Gap) : Bool := !g.breaks.isEmpty

/-- Blanks stay, a single line feed becomes a space, and of several the first one is left out. -/
def folded (g : Gap) : List Char :=
  match g.breaks with
  | [] => g.blanks
  | ['\n'] => [' ']
  | '\n' :: more => more
  | breaks => breaks

end Gap

/-- The gap at a place; behind a line break there may be no tab left of a column. -/
def gapFrom? (minimum : Nat) : Nat → Gap → Cursor → Option (Gap × Cursor)
  | 0, g, c => some (g, c)
  | fuel + 1, g, c =>
    match c.rest with
    | [] => some (g, c)
    | b :: _ =>
      if isBreak b then
        let (text, c) := c.newline
        gapFrom? minimum fuel ⟨if g.multiline then g.blanks else [], g.breaks ++ text⟩ c
      else if isSpace b then
        if g.multiline then
          if b = '\t' ∧ c.column < minimum then none
          else gapFrom? minimum fuel g (c.forward 1)
        else gapFrom? minimum fuel { g with blanks := g.blanks ++ [b] } (c.forward 1)
      else some (g, c)

/-- The gap at a place; behind a line break there may be no tab left of a column. -/
def gap? (minimum : Nat) (c : Cursor) : Option (Gap × Cursor) :=
  gapFrom? minimum (c.rest.length + 1) {} c

end GraphLayer.Yaml
