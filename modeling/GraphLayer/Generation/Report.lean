import GraphLayer.Artifact
import GraphLayer.GenerationError

/-!
# Reports of generation runs

* `Warning` and `Failure`, what a run found;
* `Report`, with `Report.record`, `Report.warn` and `Report.fail`, which add to it;
* `Report.summary` and `Report.lines`, its texts.
-/

namespace GraphLayer.Generation

/-- A finding that stops nothing. -/
inductive Warning where
  /-- A file is there, and those of its category may not be replaced. -/
  | skipped (path : Path) (category : Category)
  | entity (entity message : String)
  deriving DecidableEq

/-- The text of a warning. -/
def Warning.text : Warning → String
  | skipped path category => "Skipped " ++ path.text ++ ": file exists and " ++ category.name ++
      " overwrite is disabled"
  | entity _ message => message

/-- An entity for which not all files could be produced. -/
structure Failure where
  entity : String
  error : GenerationError
  deriving DecidableEq

/-- The text of a failure. -/
def Failure.text (f : Failure) : String := f.entity ++ ": " ++ f.error.message

/-- What became of an artifact. -/
inductive WriteOutcome where
  | written
  /-- The file held the same bytes before. -/
  | unchanged
  | skipped
  deriving DecidableEq, Repr

/-- What a run did; all lists are in the order of the processing. -/
structure Report where
  /-- The entities that could be described. -/
  entities : List String := []
  written : List Path := []
  unchanged : List Path := []
  skipped : List Path := []
  warnings : List Warning := []
  failures : List Failure := []
  /-- Whether the files that belong to all entities together are up to date. -/
  aggregatesWritten : Bool := false
  deriving DecidableEq

namespace Report

/-- A run succeeds when no entity failed. -/
def isSuccess (r : Report) : Bool := r.failures.isEmpty

/-- Add what became of an artifact. -/
def record (r : Report) (a : Artifact) : WriteOutcome → Report
  | .written => { r with written := r.written ++ [a.path] }
  | .unchanged => { r with unchanged := r.unchanged ++ [a.path] }
  | .skipped =>
    { r with
      skipped := r.skipped ++ [a.path]
      warnings := r.warnings ++ [.skipped a.path a.category] }

/-- Add findings about an entity. -/
def warn (r : Report) (entity : String) (messages : List String) : Report :=
  { r with warnings := r.warnings ++ messages.map (Warning.entity entity) }

/-- Add a failure. -/
def fail (r : Report) (entity : String) (e : GenerationError) : Report :=
  { r with failures := r.failures ++ [⟨entity, e⟩] }

/-- The report in one line. -/
def summary (r : Report) : String :=
  toString r.entities.length ++ " entities, " ++ toString r.written.length ++
    " files written, " ++ toString r.unchanged.length ++ " unchanged, " ++
    toString r.skipped.length ++ " skipped, " ++ toString r.failures.length ++ " failed"

/-- The lines about warnings. -/
def warningLines (r : Report) : List String := r.warnings.map fun w => "   ⚠️  " ++ w.text

/-- The lines about failures. -/
def failureLines (r : Report) : List String := r.failures.map fun f => "   ❌ " ++ f.text

/-- The report in some lines. -/
def lines (r : Report) : List String :=
  let count (l : List Path) : String := toString l.length
  [if r.isSuccess then "✅ Code generation completed successfully"
    else "❌ Code generation failed for " ++ toString r.failures.length ++ " entities",
   "   Described " ++ toString r.entities.length ++ " entities",
   "   Wrote " ++ count r.written ++ " files (" ++ count r.unchanged ++ " unchanged)"] ++
  (if r.skipped.isEmpty then [] else ["   Skipped " ++ count r.skipped ++ " existing files"]) ++
  r.warningLines ++ r.failureLines ++
  (if r.aggregatesWritten then [] else ["   Aggregate artifacts were not written"])

end Report

end GraphLayer.Generation
