import GraphLayer.Text.Blank

/-!
# Layout of generated code

* `Piece`, a text that is written at once, with its indentation;
* `layout`, pieces one after the other: every line that is not empty is indented where it
  begins, and the text inside a line is not.
-/

namespace GraphLayer.Code

/-- A text that is written at once. -/
structure Piece where
  indent : Nat
  text : String
  deriving DecidableEq, Repr

/-- A line behind its indentation; an empty line has none. -/
def indented (indent : Nat) (line : List Char) : List Char :=
  if line.isEmpty then [] else List.replicate indent ' ' ++ line

/-- The characters of a piece; `fresh` says whether it begins a line. -/
def Piece.chars (fresh : Bool) (p : Piece) : List Char :=
  let cs := p.text.toList
  let body := match Text.lines cs with
    | [] => []
    | l :: ls =>
      (if fresh then indented p.indent l else l) ++
        ls.flatMap fun m => '\n' :: indented p.indent m
  body ++ (if cs.getLast? = some '\n' then ['\n'] else [])

/-- Whether a text after `fresh` ends at the start of a line. -/
def endsFresh (fresh : Bool) (cs : List Char) : Bool :=
  match cs.getLast? with
  | none => fresh
  | some c => c == '\n'

/-- The characters of some pieces. -/
def layoutChars (fresh : Bool) : List Piece → List Char
  | [] => []
  | p :: ps =>
    let cs := p.chars fresh
    cs ++ layoutChars (endsFresh fresh cs) ps

/-- The text of some pieces. -/
def layout (ps : List Piece) : String := String.ofList (layoutChars true ps)

/-- Pieces one step further in. -/
def deeper (ps : List Piece) : List Piece := ps.map fun p => { p with indent := p.indent + 4 }

/-- Pieces without indentation. -/
def pieces (texts : List String) : List Piece := texts.map fun t => ⟨0, t⟩

end GraphLayer.Code
