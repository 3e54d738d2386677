import GraphLayer.Project.Generator
import GraphLayer.Template.Basic
import GraphLayer.Template.Starter

/-!
# Commands

* `generate`, `validate` and `start`, which print some lines and may fail;
* `buildScript`, which generates code as a part of a build;
* `CommandError`, with `CommandError.chain`, `CommandError.message` on one
  line, and `CommandError.report` on several.
-/

namespace GraphLayer.Project

/-- Why a command failed. -/
inductive CommandError where
  | project (fault : ProjectFault)
  | generation (e : GenerationError)
  | generationFailed (summary : String)
  | validationFailed (count : Nat)
  /-- Files of a new project are there already. -/
  | wouldOverwrite (paths : List Path)
  | noDirectory (path : Path)
  | template (fault : Template.Fault)
  | notWritten (path : Path)
  deriving DecidableEq

namespace CommandError

/-- The text of the error and the texts of its causes. -/
def chain : CommandError → List String
  | project fault => fault.chain
  | generation e => [e.message]
  | generationFailed summary => ["Code generation failed: " ++ summary]
  | validationFailed count => ["Validation failed for " ++ toString count ++ " entities"]
  | wouldOverwrite paths => ["Refusing to overwrite existing files: " ++
      String.intercalate ", " (paths.map Path.text)]
  | noDirectory path => ["Failed to create directory: " ++ path.text]
  | template fault => [fault.message]
  | notWritten path => ["Failed to write " ++ path.text]

/-- The text of the error with its causes. -/
def message (e : CommandError) : String := String.intercalate ": " e.chain

/-- The text of the error on a line of its own, with its causes below. -/
def report (e : CommandError) : String :=
  match e.chain with
  | [] => ""
  | [text] => text
  | text :: causes =>
    text ++ "\n\nCaused by:\n" ++ String.intercalate "\n" (causes.map fun c => "    " ++ c)

end CommandError

/-- What a command printed and whether it succeeded. -/
structure Outcome where
  printed : List String := []
  result : Except CommandError Unit := .ok ()

/-- A failure without any output. -/
def Outcome.failed (e : CommandError) : Outcome := { result := .error e }

variable {m : Type → Type} [Monad m] [FileStore m]

/-! ### Generation -/

/-- Generate the code of a project and print what was done. -/
def generate (dir : Path) (file? : Option Path) : m Outcome := do
  match ← loadConfig dir file? with
  | .error e => return .failed (.project e)
  | .ok config =>
    match ← Generation.run config with
    | .error e => return .failed (.generation e)
    | .ok r =>
      return {
        printed := r.lines
        result := if r.isSuccess then .ok () else .error (.generationFailed r.summary) }

/-- Check a project and print what was found. -/
def validate (dir : Path) (file? : Option Path) : m Outcome := do
  match ← loadConfig dir file? with
  | .error e => return .failed (.project e)
  | .ok config =>
    match ← Generation.check config with
    | .error e => return .failed (.generation e)
    | .ok r =>
      let found := r.warningLines ++ r.failureLines
      if r.isSuccess then
        let count := toString r.entities.length
        return { printed := found ++ ["✅ Configuration is valid (" ++ count ++ " entities)"] }
      else
        return { printed := found, result := .error (.validationFailed r.failures.length) }

/-! ### New projects -/

/-- The paths that lead to anything. -/
def presentPaths : List Path → m (List Path)
  | [] => return []
  | p :: ps => do
    let rest ← presentPaths ps
    if ← FileStore.present p then return p :: rest else return rest

/-- The name of a project whose directory has none. -/
def defaultName : String := "servgraph-project"

/-- Write files from their templates, up to the first one that fails. -/
def writeStarter (dir : Path) (values : Template.Values) :
    List Starter.File → m (Except CommandError (List Path))
  | [] => return .ok []
  | f :: fs => do
    let path := dir.join ⟨f.name⟩
    match Template.render values f.template with
    | .error e => return .error (.template e)
    | .ok text =>
      if ← FileStore.writeText path text then
        return (← writeStarter dir values fs).map fun ps => path :: ps
      else return .error (.notWritten path)

/-- Write the files of a new project into a directory in which there is none of them; their
paths. -/
def createProject (dir : Path) : m (Except CommandError (List Path)) := do
  match ← presentPaths (Starter.files.map fun f => dir.join ⟨f.name⟩) with
  | p :: ps => return .error (.wouldOverwrite (p :: ps))
  | [] =>
    if ← FileStore.createDirs dir then
      let name := (← FileStore.nameOf dir).getD defaultName
      writeStarter dir (Dict.empty.insert "project_name" name) Starter.files
    else return .error (.noDirectory dir)

/-- Begin a project in a directory and print what was written. -/
def start (dir : Path) : m Outcome := do
  match ← createProject dir with
  | .error e => return .failed e
  | .ok paths =>
    return {
      printed := ["✅ Initialized servgraph project in " ++ dir.text] ++
        (paths.map fun p => "   Created " ++ p.text) ++
        ["   Run \x60cargo servgraph generate\x60 to generate the GraphQL layer"] }

/-! ### Builds -/

/-- A line that the build shows as a warning. -/
def notice (text : String) : String := "cargo:warning=" ++ text

/-- The lines about what a generator did. -/
def generatedLines (g : Generated) : List String :=
  (g.warnings.map fun w => notice ("⚠️ " ++ w)) ++
    if g.success then []
    else [notice ("❌ " ++ g.generator ++ " generator failed: " ++ g.message)]

/-- Generate the code of a project as a part of a build: the lines for the build, and whether
it may go on. -/
def buildScript (dir : Path) : m (List String × Bool) := do
  let inputs ← watchedInputs dir
  let watched := inputs.map fun p => "cargo:rerun-if-changed=" ++ p.text
  match ← generateProject dir with
  | .error e => return (watched ++ [notice ("❌ Code generation failed: " ++ e.message)], false)
  | .ok gs =>
    let count := (gs.flatMap fun g => g.files).length
    let total :=
      if count = 0 then []
      else [notice ("✅ Code generation completed: " ++ toString count ++ " files generated")]
    return (watched ++ total ++ gs.flatMap generatedLines, gs.all Generated.success)

end GraphLayer.Project
