import GraphLayer.Path

/-!
# Generated files

* `Category`, the four categories of generated files;
* `OverwritePolicy`, the categories of which an existing file may be replaced;
* `Artifact`, one rendered file that is not written yet.
-/

namespace GraphLayer

/-- Categories of generated files; each has a directory of its own. -/
inductive Category where
  | schema
  | contract
  | implementation
  | loader
  deriving DecidableEq, Repr

namespace Category

/-- All categories, in their order. -/
def all : List Category := [schema, contract, implementation, loader]

/-- The name of a category. -/
def name : Category → String
  | schema => "schema"
  | contract => "contract"
  | implementation => "implementation"
  | loader => "loader"

end Category

/-- The categories of which an existing file may be replaced. -/
structure OverwritePolicy where
  schema : Bool := true
  contract : Bool := true
  implementation : Bool := false
  loader : Bool := true
  deriving DecidableEq, Repr

namespace OverwritePolicy

/-- Every file may be replaced. -/
def everything : OverwritePolicy := ⟨true, true, true, true⟩

/-- No file may be replaced. -/
def nothing : OverwritePolicy := ⟨false, false, false, false⟩

/-- Whether an existing file of a category may be replaced. -/
def allows (p : OverwritePolicy) : Category → Bool
  | .schema => p.schema
  | .contract => p.contract
  | .implementation => p.implementation
  | .loader => p.loader

end OverwritePolicy

/-- One rendered file.  An aggregate one belongs to all entities together and is brought up to
date whatever the policy says. -/
structure Artifact where
  category : Category
  path : Path
  contents : String
  aggregate : Bool := false
  deriving DecidableEq

end GraphLayer
