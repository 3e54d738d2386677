import GraphLayer.Project.Arguments

/-!
# The program

* the operations on the files of the system on which the program runs;
* `main`, which follows a command line, prints what there is to print and ends with a code.
-/

namespace GraphLayer

/-- Whether an action succeeds. -/
def succeeds (act : IO Unit) : IO Bool :=
  try
    act
    return true
  catch _ => return false

/-- The answer of an action, or another one if it fails. -/
def orElse {α : Type} (act : IO α) (other : α) : IO α :=
  try act catch _ => return other

instance : FileStore IO where
  present p := orElse (do (← IO.FS.realPath p.text).pathExists) false
  isFile p := orElse (do return (← (← IO.FS.realPath p.text).metadata).type == .file) false
  isDir p := orElse (do (← IO.FS.realPath p.text).isDir) false
  read p := orElse (do return some (← IO.FS.readBinFile p.text)) none
  write p bytes := succeeds (IO.FS.writeBinFile p.text bytes)
  createDirs p := if p.text.isEmpty then return true else succeeds (IO.FS.createDirAll p.text)
  nameOf p := orElse (do return (← IO.FS.realPath p.text).fileName) none

end GraphLayer

/-- Follow a command line. -/
def main (args : List String) : IO UInt32 := do
  let e ← GraphLayer.Project.invoke args
  for line in e.printed do
    IO.println line
  if let some text := e.message then
    IO.eprintln text
  return e.code
