import GraphLayer.Toml.Scalar
import GraphLayer.Toml.Table

/-!
# Reading TOML

* `Toml.read?`, the tree of a text.
-/

namespace GraphLayer.Toml

/-- Skip blanks, comments and line breaks. -/
def skipLines : Nat → List Char → List Char
  | 0, cs => cs
  | fuel + 1, cs =>
    let cs := skipComment (skipSpaces cs)
    match newline? cs with
    | some r => skipLines fuel r
    | none => cs

/-- Skip blanks, comments and line breaks. -/
def skipAll (cs : List Char) : List Char := skipLines (cs.length + 1) cs

mutual

/-- A value. -/
def value? : Nat → List Char → Option (Node × List Char)
  | 0, _ => none
  | fuel + 1, cs =>
    match cs with
    | '[' :: r => items? fuel [] (skipAll r)
    | '\x7b' :: r => fields? fuel true [] (skipSpaces r)
    | '"' :: _ => (string? cs).map fun (s, r) => (.text s, r)
    | '\'' :: _ => (string? cs).map fun (s, r) => (.text s, r)
    | cs => bareValue? cs

/-- The items of a list; a comma may also stand behind the last one. -/
def items? : Nat → List Node → List Char → Option (Node × List Char)
  | 0, _, _ => none
  | fuel + 1, xs, cs =>
    match cs with
    | ']' :: r => some (.list .leading xs.reverse, r)
    | cs => do
      let (x, r) ← value? fuel cs
      match skipAll r with
      | ',' :: r => items? fuel (x :: xs) (skipAll r)
      | ']' :: r => return (.list .leading (x :: xs).reverse, r)
      | _ => none

/-- The keys and values of a table between braces, all in one line. -/
def fields? : Nat → Bool → Entries → List Char → Option (Node × List Char)
  | 0, _, _, _ => none
  | fuel + 1, first, es, cs =>
    match cs with
    | '\x7d' :: r => if first then some (es.toNode, r) else none
    | cs => do
      let (ks, r) ← keys? (cs.length + 1) cs
      let (x, r) ← value? fuel (skipSpaces (← after? '=' r))
      let es ← insertValue? ks x .heading es
      match skipSpaces r with
      | ',' :: r => fields? fuel false es (skipSpaces r)
      | '\x7d' :: r => return (es.toNode, r)
      | _ => none

end

/-- What follows the end of a line, which may have a comment. -/
def endLine? (cs : List Char) : Option (List Char) :=
  match skipComment (skipSpaces cs) with
  | [] => some []
  | cs => newline? cs

/-- A document so far: the outermost table and the path of the current one. -/
structure Draft where
  root : Entries := []
  current : List String := []

/-- A heading behind its opening brackets. -/
def heading? (isElement : Bool) (cs : List Char) (d : Draft) : Option (Draft × List Char) := do
  let (ks, r) ← keys? (cs.length + 1) cs
  let r ← after? ']' r
  let r ← if isElement then after? ']' r else some r
  let root ← (if isElement then openElement? else openTable?) ks d.root
  return (⟨root, ks⟩, r)

/-- A key with its value in the current table. -/
def pair? (cs : List Char) (d : Draft) : Option (Draft × List Char) := do
  let (ks, r) ← keys? (cs.length + 1) cs
  let (x, r) ← value? (cs.length + 1) (skipSpaces (← after? '=' r))
  let root ← changeAt? false (insertValue? ks x) d.current .heading d.root
  return ({ d with root }, r)

/-- The lines of a document. -/
def document? : Nat → Draft → List Char → Option Entries
  | 0, _, _ => none
  | fuel + 1, d, cs =>
    match skipAll cs with
    | [] => some d.root
    | '[' :: '[' :: r => do
      let (d, r) ← heading? true r d
      document? fuel d (← endLine? r)
    | '[' :: r => do
      let (d, r) ← heading? false r d
      document? fuel d (← endLine? r)
    | cs => do
      let (d, r) ← pair? cs d
      document? fuel d (← endLine? r)

/-- The tree of a text, which may begin with a byte order mark. -/
def read? (s : String) : Option Node :=
  let cs := match s.toList with
    | '\ufeff' :: r => r
    | r => r
  (document? (cs.length + 1) {} cs).map Entries.toNode

end GraphLayer.Toml
