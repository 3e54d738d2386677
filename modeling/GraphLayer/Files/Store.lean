import GraphLayer.Files.Tree

/-!
# Access to files

* `FileStore m`, the operations on files that the effects of `m` offer;
* its instance for computations that carry a `FileTree`;
* `FileStore.readText` and `FileStore.writeText`, files as texts.
-/

namespace GraphLayer

/-- Operations on files, as effects of `m`.  An operation that fails changes nothing but
directories that it made on its way. -/
class FileStore (m : Type → Type) where
  /-- Whether a path leads to anything. -/
  present : Path → m Bool
  isFile : Path → m Bool
  isDir : Path → m Bool
  /-- The bytes of a file, if they can be read. -/
  read : Path → m (Option ByteArray)
  /-- Put bytes into a file, in place of those that were there; whether that was possible. -/
  write : Path → ByteArray → m Bool
  /-- Make a directory and those above it; whether it is there in the end. -/
  createDirs : Path → m Bool
  /-- The name of what a path leads to. -/
  nameOf : Path → m (Option String)

instance : FileStore (StateM FileTree) where
  present p t := ((t.lookup? p).isSome, t)
  isFile p t := (t.isFile p, t)
  isDir p t := (t.isDir p, t)
  read p t := (t.read? p, t)
  write p bytes t :=
    match t.write? p bytes with
    | some t => (true, t)
    | none => (false, t)
  createDirs p t := t.createDirs p
  nameOf p t := (t.nameOf? p, t)

namespace FileStore

variable {m : Type → Type} [Monad m] [FileStore m]

/-- The text of a file, if it can be read. -/
def readText (p : Path) : m (Option String) := do
  return (← read p).bind String.fromUTF8?

/-- Put a text into a file. -/
def writeText (p : Path) (text : String) : m Bool := write p text.toUTF8

end FileStore

end GraphLayer
