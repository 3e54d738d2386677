import GraphLayer.Files.Store
import GraphLayer.Record.Format

/-!
# The configuration of a project

* `findConfig` and `resolveConfig`, the file of the configuration of a project;
* `readConfig` and `loadConfig`, the configuration itself, with all paths set below the
  directory of its file;
* `watchedInputs`, the files on which the generated code depends.
-/

namespace GraphLayer.Project

variable {m : Type → Type} [Monad m] [FileStore m]

/-! ### Errors -/

/-- Why a file is no configuration. -/
inductive ConfigFault where
  | unreadable (path : Path)
  | malformed (path : Path)
  /-- There is no directory for its paths to be set below. -/
  | rootless (path : Path)
  deriving DecidableEq, Repr

/-- The text of the error. -/
def ConfigFault.message : ConfigFault → String
  | unreadable path => "Failed to read config file: " ++ path.text
  | malformed path => "Failed to parse config file: " ++ path.text
  | rootless path => "Config path has no parent: " ++ path.text

/-- Why a project has no configuration. -/
inductive ProjectFault where
  /-- The file that was asked for is not there. -/
  | noFile (path : Path)
  /-- No file of a known name is there. -/
  | noConfig (dir : Path)
  | invalid (path : Path) (fault : ConfigFault)
  deriving DecidableEq, Repr

/-- Names of the file of a configuration, the preferred ones first. -/
def configNames : List String := ["servgraph.yaml", "servgraph.yml", "servgraph.toml"]

/-- The text of the error and the texts of its causes. -/
def ProjectFault.chain : ProjectFault → List String
  | noFile path => ["Configuration file not found at: " ++ path.text]
  | noConfig dir => ["No servgraph configuration in " ++ dir.text ++ " (looked for " ++
      String.intercalate ", " configNames ++ ")"]
  | invalid path fault => ["Failed to load configuration: " ++ path.text, fault.message]

/-! ### Files -/

/-- The first path that leads to a file. -/
def firstFile : List Path → m (Option Path)
  | [] => return none
  | p :: ps => do if ← FileStore.isFile p then return some p else firstFile ps

/-- The file of the configuration in a directory. -/
def findConfig (dir : Path) : m (Option Path) :=
  firstFile (configNames.map fun name => dir.join ⟨name⟩)

/-- The file of the configuration of a project: the given one, or the one in its directory. -/
def resolveConfig (dir : Path) : Option Path → m (Except ProjectFault Path)
  | some p => do if ← FileStore.isFile p then return .ok p else return .error (.noFile p)
  | none => do
    match ← findConfig dir with
    | some p => return .ok p
    | none => return .error (.noConfig dir)

/-! ### Configurations -/

/-- The configuration in a file. -/
def readConfig (p : Path) : m (Except ConfigFault GeneratorConfig) := do
  match ← FileStore.readText p with
  | none => return .error (.unreadable p)
  | some text =>
    match GeneratorConfig.read? (GeneratorConfig.formatOf p) text with
    | none => return .error (.malformed p)
    | some config =>
      match p.parent? with
      | none => return .error (.rootless p)
      | some base => return .ok (config.resolve base)

/-- The configuration of a project. -/
def loadConfig (dir : Path) (file? : Option Path) : m (Except ProjectFault GeneratorConfig) := do
  match ← resolveConfig dir file? with
  | .error e => return .error e
  | .ok p => return (← readConfig p).mapError (.invalid p)

/-- The files on which the generated code of a project depends: its configuration and, if that
can be read, the catalog. -/
def watchedInputs (dir : Path) : m (List Path) := do
  match ← findConfig dir with
  | none => return []
  | some p =>
    match ← readConfig p with
    | .ok config => return [p, config.catalog]
    | .error _ => return [p]

end GraphLayer.Project
