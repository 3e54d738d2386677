/-!
# Paths

* `Path`, a path by its spelling, with `Path.join`, `Path.parent?`, `Path.fileName?` and
  `Path.extension?`;
* `Path.components`, its meaning: doubled separators, inner `.` and a separator at the end
  count for nothing, a leading `.` does;
* `Path.rank`, the key by which paths are ordered and compared component by component.
-/

namespace GraphLayer

/-- A path as it is spelled. -/
structure Path where
  text : String
  deriving DecidableEq, Inhabited, Repr

/-- One step of a path. -/
inductive Component where
  | root
  | here
  | up
  | name (s : String)
  deriving DecidableEq, Repr

namespace Component

/-- Numbers that order components: the root, `.`, `..`, and names by code points. -/
def rank : Component → List Nat
  | root => [0]
  | here => [1]
  | up => [2]
  | name s => 3 :: s.toList.map Char.toNat

end Component

namespace Path

/-- Cut a spelling at its separators. -/
def pieces : List Char → List (List Char)
  | [] => [[]]
  | c :: cs =>
    match pieces cs with
    | [] => [[c]]
    | p :: ps => if c = '/' then [] :: p :: ps else (c :: p) :: ps

/-- The meaning of a piece inside a path. -/
def inner? (piece : List Char) : Option Component :=
  if piece = [] ∨ piece = ['.'] then none
  else if piece = ['.', '.'] then some .up
  else some (.name (String.ofList piece))

/-- Whether the path begins at the root. -/
def isAbsolute (p : Path) : Bool := p.text.toList.head? == some '/'

/-- The components of a path. -/
def components (p : Path) : List Component :=
  let ps := pieces p.text.toList
  if p.isAbsolute then .root :: ps.filterMap inner?
  else
    match ps with
    | ['.'] :: rest => .here :: rest.filterMap inner?
    | ps => ps.filterMap inner?

/-- The key of the order of paths. -/
def rank (p : Path) : List (List Nat) := p.components.map Component.rank

/-- A path after another one; an absolute one stands alone. -/
def join (p q : Path) : Path :=
  if q.isAbsolute then q
  else if p.text.isEmpty ∨ p.text.toList.getLast? = some '/' then ⟨p.text ++ q.text⟩
  else ⟨p.text ++ "/" ++ q.text⟩

/-- Drop separators and inner `.` at the end of a reversed spelling, of which the given number of
characters has to stay. -/
def trimEnd (keep : Nat) : List Char → List Char
  | [] => []
  | c :: r =>
    if r.length + 1 ≤ keep then c :: r
    else if c = '/' then trimEnd keep r
    else if c = '.' ∧ r.head? = some '/' then trimEnd keep r
    else c :: r

/-- The characters of the spelling that belong to a root or a leading `.`. -/
def fixedLength (p : Path) : Nat :=
  match p.components with
  | .root :: _ => 1
  | .here :: _ => 1
  | _ => 0

/-- The path without its last component, which may not be the root. -/
def parent? (p : Path) : Option Path :=
  match p.components.getLast? with
  | none => none
  | some .root => none
  | some .here => some ⟨""⟩
  | some _ =>
    let r := trimEnd p.fixedLength p.text.toList.reverse
    let r := r.dropWhile fun c => c ≠ '/'
    some ⟨String.ofList (trimEnd p.fixedLength r).reverse⟩

/-- The last component, if it is a name. -/
def fileName? (p : Path) : Option String :=
  match p.components.getLast? with
  | some (.name s) => some s
  | _ => none

/-- What follows the last point of the file name, unless that point is its first character. -/
def extension? (p : Path) : Option String :=
  match p.fileName? with
  | none => none
  | some s =>
    let r := s.toList.reverse
    match r.dropWhile fun c => c ≠ '.' with
    | [] => none
    | [_] => none
    | _ :: _ => some (String.ofList (r.takeWhile fun c => c ≠ '.').reverse)

/-- Whether the extension is a word, in any mix of small letters and capitals. -/
def hasExtension (p : Path) (word : String) : Bool :=
  match p.extension? with
  | some e => e.toList.map Char.toLower == word.toList
  | none => false

end Path

end GraphLayer
