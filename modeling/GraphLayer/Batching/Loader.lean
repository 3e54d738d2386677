import GraphLayer.Data.Dict

/-!
# Batch loaders

* `WiringError` and `LoadError`, what may go wrong with a load, and their texts;
* `Batch V`, what one fetch of many ids answers;
* `Typed V`, values that know the name of their type;
* `Loaders`, the keys of the registered loaders;
* `LoaderOptions`, the limits that all loaders share.
-/

namespace GraphLayer

/-- Mistakes in the wiring of loaders. -/
inductive WiringError where
  | duplicateLoader (key : String)
  | unknownLoader (key : String)
  | typeMismatch (key : String) (expected : String)
  deriving DecidableEq, Repr

/-- The text of the mistake. -/
def WiringError.message : WiringError → String
  | duplicateLoader key => "Loader '" ++ key ++ "' is already registered"
  | unknownLoader key => "No loader registered under '" ++ key ++ "'"
  | typeMismatch key expected =>
    "Loader '" ++ key ++ "' does not produce values of type " ++ expected

/-- Failure to load one id. -/
inductive LoadError where
  /-- The fetch failed; all who wait for it share the reason. -/
  | failed (reason : String)
  /-- The dispatch went away before it answered. -/
  | abandoned (key : String)
  | wiring (error : WiringError)
  deriving DecidableEq, Repr

/-- The text of the failure. -/
def LoadError.message : LoadError → String
  | failed reason => reason
  | abandoned key => "Batch for loader '" ++ key ++ "' was abandoned before completion"
  | wiring error => error.message

/-- What one fetch answers: an error for the whole chunk of ids, or for each id a value, an
error of its own, or nothing. -/
abbrev Batch (V : Type) := Except LoadError (Int → Option (Except LoadError V))

/-- What a load answers: a value, an explicit miss, or an error. -/
abbrev Outcome (V : Type) := Except LoadError (Option V)

/-- Values that know the name of their type. -/
class Typed (V : Type) where
  typeName : V → String

/-- A value under its expected type. -/
def Typed.cast {V : Type} [Typed V] (key expected : String) (v : V) : Except LoadError V :=
  if Typed.typeName v = expected then .ok v
  else .error (.wiring (.typeMismatch key expected))

/-- An outcome under its expected type. -/
def Outcome.cast {V : Type} [Typed V] (key expected : String) : Outcome V → Outcome V
  | .ok (some v) => (Typed.cast key expected v).map some
  | outcome => outcome

/-- The keys of the registered loaders. -/
abbrev Loaders := KeySet String

/-- Register a loader; each key may be registered once. -/
def Loaders.register (loaders : Loaders) (key : String) : Except WiringError Loaders :=
  if loaders.contains key then .error (.duplicateLoader key) else .ok (loaders.insert key ())

/-- Limits shared by all loaders; times are in milliseconds.  A cache of size zero is none. -/
structure LoaderOptions where
  maxBatchSize : UInt64 := 100
  cacheTtl : UInt64 := 60000
  cacheMaxSize : UInt64 := 1000
  deriving DecidableEq

end GraphLayer
