import GraphLayer.Generation.Run
import GraphLayer.Project.Configuration

/-!
# Code generators of a project

* `Generator`, something that generates code for the projects that it applies to;
* `serviceGraph`, the generator that follows the configuration of a project;
* `generateAll`, which runs some generators, and `generateProject`, which runs the default one.
-/

namespace GraphLayer.Project

/-- What a generator did. -/
structure Generated where
  generator : String
  files : List Path
  warnings : List String := []
  success : Bool
  message : String
  deriving DecidableEq

/-- A generator of code. -/
structure Generator (m : Type → Type) where
  name : String
  /-- Whether it has anything to do for the project in a directory. -/
  applies : Path → m Bool
  generate : Path → m (Except String Generated)

variable {m : Type → Type} [Monad m] [FileStore m]

/-- What a run of generation did. -/
def Generated.ofReport (generator : String) (r : Generation.Report) : Generated :=
  { generator
    files := r.written
    warnings := r.warnings.map Generation.Warning.text ++ r.failures.map Generation.Failure.text
    success := r.isSuccess
    message := r.summary }

/-- The generator that follows the configuration of a project. -/
def serviceGraph : Generator m where
  name := "service-graph"
  applies dir := do return (← findConfig dir).isSome
  generate dir := do
    match ← findConfig dir with
    | none => return .error ("No servgraph configuration in " ++ dir.text)
    | some p =>
      match ← readConfig p with
      | .error e => return .error e.message
      | .ok config =>
        match ← Generation.run config with
        | .error e => return .error e.message
        | .ok r => return .ok (.ofReport "service-graph" r)

/-- Run the generators that apply to the project in a directory, in order. -/
def generateAll (dir : Path) : List (Generator m) → m (List Generated)
  | [] => return []
  | g :: gs => do
    if ← g.applies dir then
      let r ← g.generate dir
      let done : Generated := match r with
        | .ok done => done
        | .error text =>
          { generator := g.name, files := [], success := false
            message := "Generation failed: " ++ text }
      return done :: (← generateAll dir gs)
    else generateAll dir gs

/-- There is no directory of a project. -/
structure NoDirectory where
  path : Path
  deriving DecidableEq, Repr

/-- The text of the error. -/
def NoDirectory.message (e : NoDirectory) : String :=
  "Project directory not found: " ++ e.path.text

/-- Generate the code of the project in a directory. -/
def generateProject (dir : Path) : m (Except NoDirectory (List Generated)) := do
  if ← FileStore.isDir dir then
    return .ok (← generateAll dir [serviceGraph])
  else return .error ⟨dir⟩

end GraphLayer.Project
