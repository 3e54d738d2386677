import GraphLayer.Data.Dict
import GraphLayer.Path

/-!
# File trees

Directories and files with their bytes, and the directory from which relative paths start.

* `FileTree`, with `FileTree.entry?`, what stands at a location;
* `FileTree.locate`, the location that a path leads to: whatever a path passes through has to
  be a directory, and so has what is followed by a separator or by `.`;
* `FileTree.read?`, `FileTree.write?`, `FileTree.createDirs` and `FileTree.delete?`.
-/

namespace GraphLayer

/-- A place in a tree: the names that lead to it from the root. -/
abbrev Location := List String

/-- What stands at a location. -/
inductive Entry where
  | directory
  | file (bytes : ByteArray)

instance : DecidableEq Entry
  | .directory, .directory => isTrue rfl
  | .directory, .file _ | .file _, .directory => isFalse nofun
  | .file a, .file b =>
    match ByteArray.instDecidableEq a b with
    | isTrue h => isTrue (congrArg Entry.file h)
    | isFalse h => isFalse fun he => h (Entry.file.inj he)

/-- A tree of directories and files. -/
structure FileTree where
  entries : Dict Location Entry := .empty
  /-- Where relative paths start. -/
  home : Location := []
  deriving DecidableEq

/-- Why a path leads nowhere. -/
inductive Obstacle where
  /-- There is no directory where one is passed through. -/
  | missing
  /-- A file stands where a directory is passed through, or the spelling is not possible. -/
  | blocked
  deriving DecidableEq, Repr

namespace FileTree

/-- What stands at a location; the root is a directory. -/
def entry? (t : FileTree) (l : Location) : Option Entry :=
  if l = [] then some .directory else t.entries.find? l

/-- Whether a directory stands at a location. -/
def isDirAt (t : FileTree) (l : Location) : Bool := t.entry? l == some .directory

/-- The same tree with another entry at a location. -/
def set (t : FileTree) (l : Location) (e : Entry) : FileTree :=
  { t with entries := t.entries.insert l e }

/-! ### From paths to locations -/

/-- Whether a piece of a path may be the name of an entry. -/
def isName (piece : List Char) : Bool := (String.ofList piece).utf8ByteSize ≤ 255

/-- Go on from a location by one piece of a path. -/
def enter (t : FileTree) (l : Location) (piece : List Char) : Except Obstacle Location :=
  match t.entry? l with
  | none => .error .missing
  | some (.file _) => .error .blocked
  | some .directory =>
    if piece = [] ∨ piece = ['.'] then .ok l
    else if piece = ['.', '.'] then .ok l.dropLast
    else if isName piece then .ok (l ++ [String.ofList piece])
    else .error .blocked

/-- Whether a path can be spelled. -/
def isSpelling (p : Path) : Bool :=
  decide (p.text.utf8ByteSize < 4096) && !p.text.toList.contains '\x00'

/-- The location that a path leads to, whether anything stands there or not. -/
def locate (t : FileTree) (p : Path) : Except Obstacle Location :=
  if p.text.isEmpty then .error .missing
  else if !isSpelling p then .error .blocked
  else (Path.pieces p.text.toList).foldlM t.enter (if p.isAbsolute then [] else t.home)

/-- What a path leads to. -/
def lookup? (t : FileTree) (p : Path) : Option Entry :=
  match t.locate p with
  | .ok l => t.entry? l
  | .error _ => none

/-- Whether a path leads to a file. -/
def isFile (t : FileTree) (p : Path) : Bool :=
  match t.lookup? p with
  | some (.file _) => true
  | _ => false

/-- Whether a path leads to a directory. -/
def isDir (t : FileTree) (p : Path) : Bool := t.lookup? p == some .directory

/-- The name of what a path leads to; the root has none. -/
def nameOf? (t : FileTree) (p : Path) : Option String :=
  match t.locate p with
  | .ok l => if (t.entry? l).isSome then l.getLast? else none
  | .error _ => none

/-! ### Files -/

/-- The bytes of a file. -/
def read? (t : FileTree) (p : Path) : Option ByteArray :=
  match t.lookup? p with
  | some (.file b) => some b
  | _ => none

/-- The tree after a file got some bytes. -/
def write? (t : FileTree) (p : Path) (bytes : ByteArray) : Option FileTree :=
  match t.locate p with
  | .ok l => if t.isDirAt l then none else some (t.set l (.file bytes))
  | .error _ => none

/-- The tree after a file or a directory with all that is in it was removed. -/
def delete? (t : FileTree) (p : Path) : Option FileTree :=
  match t.locate p with
  | .ok l =>
    if (t.entry? l).isSome then
      some { t with entries := t.entries.filter fun e => !l.isPrefixOf e.1 }
    else none
  | .error _ => none

/-! ### Directories -/

/-- The path without separators at its end. -/
def bare (p : Path) : Path :=
  match p.text.toList.reverse.dropWhile (· == '/') with
  | [] => p
  | r => ⟨String.ofList r.reverse⟩

/-- The tree after a directory was made in one that is there. -/
def createDir (t : FileTree) (p : Path) : Except Obstacle FileTree :=
  match t.locate (bare p) with
  | .ok l => if (t.entry? l).isSome then .error .blocked else .ok (t.set l .directory)
  | .error e => .error e

/-- Make the first one of some directories, each of which lies in the next one, and those of
the others that are missing; whether it is a directory in the end, and the tree. -/
def createFirst (t : FileTree) : List Path → Bool × FileTree
  | [] => (true, t)
  | p :: ps =>
    match t.createDir p with
    | .ok t => (true, t)
    | .error .blocked => (t.isDir p, t)
    | .error .missing =>
      match t.createFirst ps with
      | (false, t) => (false, t)
      | (true, t) =>
        match t.createDir p with
        | .ok t => (true, t)
        | .error _ => (t.isDir p, t)

/-- A path, what it lies in, and so on, as far as it has a spelling; at most so many. -/
def ancestors : Nat → Path → List Path
  | 0, _ => []
  | count + 1, p =>
    if p.text.isEmpty then []
    else
      match p.parent? with
      | none => [p]
      | some q => p :: ancestors count q

/-- Make a directory and those above it; whether it is a directory in the end, and the tree. -/
def createDirs (t : FileTree) (p : Path) : Bool × FileTree :=
  t.createFirst (ancestors (p.text.length + 1) p)

/-! ### Contents -/

/-- The files below the current directory, by the paths from there, in the order of their
components. -/
def listing (t : FileTree) : List (Path × ByteArray) :=
  t.entries.toList.filterMap fun (l, e) =>
    match e with
    | .directory => none
    | .file b =>
      if t.home.isPrefixOf l then some (⟨String.intercalate "/" (l.drop t.home.length)⟩, b)
      else none

/-- A tree without files whose current directory lies in the root. -/
def ofHome (name : String) : FileTree :=
  { entries := Dict.empty.insert [name] .directory, home := [name] }

end FileTree

end GraphLayer
