import GraphLayer.Files.Store
import GraphLayer.Generation.Report

/-!
# Writing artifacts

* `offer`, which writes an artifact unless its file must stay or holds the same bytes;
* `offerAll`, which does so for a list of artifacts up to the first one that fails.
-/

namespace GraphLayer.Generation

variable {m : Type → Type} [Monad m] [FileStore m]

/-- Make the directory in which a path lies. -/
def createParent (p : Path) : m Bool :=
  match p.parent? with
  | none => return true
  | some d => if d.text.isEmpty then return true else FileStore.createDirs d

/-- Write the file of an artifact together with the directories above it. -/
def put (a : Artifact) : m (Except GenerationError WriteOutcome) := do
  if ← createParent a.path then
    if ← FileStore.writeText a.path a.contents then
      return .ok .written
  return .error (.io a.path)

/-- Write an artifact.  A file that is there stays if the policy does not allow to replace it;
to an aggregate the policy does not apply. -/
def offer (policy : OverwritePolicy) (a : Artifact) :
    m (Except GenerationError WriteOutcome) := do
  if ← FileStore.present a.path then
    if !a.aggregate && !policy.allows a.category then
      return .ok .skipped
    match ← FileStore.read a.path with
    | none => return .error (.io a.path)
    | some bytes =>
      if bytes.data = a.contents.toUTF8.data then return .ok .unchanged else put a
  else put a

/-- Write artifacts in order, up to the first one that fails. -/
def offerAll (policy : OverwritePolicy) (r : Report) :
    List Artifact → m (Report × Option GenerationError)
  | [] => return (r, none)
  | a :: as => do
    match ← offer policy a with
    | .ok o => offerAll policy (r.record a o) as
    | .error e => return (r, some e)

end GraphLayer.Generation
