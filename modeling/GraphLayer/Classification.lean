import GraphLayer.Config
import GraphLayer.Types.Source

/-!
# Classification of operations

An override decides first, the name of the operation second.  Operations for which neither
decides are dropped.

* `Signature`, an operation before it has a kind;
* `Classifier.classify`, the kind of one operation;
* `Classifier.classifyAll`, the kinds of all operations of a service, with at most one
  operation of each unique kind.
-/

namespace GraphLayer

/-- An operation before it has a kind. -/
structure Signature where
  name : String
  params : List (String × SourceType)
  returns : SourceType
  deriving DecidableEq, Repr

/-- Why an operation has its kind. -/
inductive Basis where
  | override
  | convention
  deriving DecidableEq, Repr

/-- The overrides of an entity. -/
structure Classifier where
  overrides : Dict String OperationKind
  /-- Operations with two kinds: the former and the latter. -/
  conflicts : List (String × OperationKind × OperationKind)

namespace Classifier

/-- Add one override; the latter kind of an operation takes the place of the former. -/
def add (c : Classifier) (name : String) (kind : OperationKind) : Classifier :=
  { overrides := c.overrides.insert name kind
    conflicts := match c.overrides.find? name with
      | some former => c.conflicts ++ [(name, former, kind)]
      | none => c.conflicts }

/-- The overrides of a configuration. -/
def ofConfig (config : EntityConfig) : Classifier :=
  config.methods.pairs.foldl (fun c p => c.add p.1 p.2) ⟨.empty, []⟩

/-- Whether a name is a word, or a word before a capital of the Latin alphabet. -/
def startsWithWord (word : String) (name : String) : Bool :=
  match Text.stripStart? word.toList name.toList with
  | none => false
  | some [] => true
  | some (c :: _) => c.isUpper

/-- The kind of a reading operation, from the number and type of its parameters. -/
def readingKind (params : List (String × SourceType)) : OperationKind :=
  match params with
  | [] => .readAll
  | [(_, t)] =>
    if t.isArray then .readAll else if t.isIntegral then .readOne else .customFinder
  | _ => .customFinder

/-- The kind that the name of an operation gives it. -/
def conventionalKind? (m : Signature) : Option OperationKind :=
  let starts (word : String) : Bool := startsWithWord word m.name
  if starts "get" then some (readingKind m.params)
  else if starts "find" || starts "search" || starts "count" then some .customFinder
  else if starts "add" || starts "create" then some .create
  else if starts "update" then some .update
  else if starts "delete" || starts "remove" then some .delete
  else none

/-- The kind of an operation and its basis. -/
def classify (c : Classifier) (m : Signature) : Option (OperationKind × Basis) :=
  match c.overrides.find? m.name with
  | some kind => some (kind, .override)
  | none => (conventionalKind? m).map fun kind => (kind, .convention)

/-- Why an operation has no kind. -/
def unclassifiedReason (name : String) : String :=
  "'" ++ name ++ "' matches no override and no naming convention"

/-- Operations with their kinds, in the order of declaration, and the findings on the way. -/
structure Classified where
  operations : List (Signature × OperationKind)
  warnings : List String

/-- An operation with its kind and the basis of it. -/
abbrev Entry := Signature × OperationKind × Basis

/-- The operations that have a kind. -/
def entries (c : Classifier) (ms : List Signature) : List Entry :=
  ms.filterMap fun m => (c.classify m).map fun k => (m, k)

/-- One warning for each operation without a kind. -/
def droppedWarnings (c : Classifier) (entity : String) (ms : List Signature) : List String :=
  (ms.filter fun m => (c.classify m).isNone).map fun m =>
    entity ++ ": dropped " ++ unclassifiedReason m.name

/-- The first fault of an override: it names no operation, or several. -/
def overrideFault? (entity : String) (ms : List Signature) :
    List (String × OperationKind) → Option GenerationError
  | [] => none
  | (name, kind) :: rest =>
    match (ms.filter fun m => m.name == name).length with
    | 0 => some (.introspection entity
        (kind.text ++ " override names unknown method '" ++ name ++ "'"))
    | 1 => overrideFault? entity ms rest
    | n => some (.ambiguousClassification entity kind (List.replicate n name))

/-- Whether an override gives a kind to one of some operations. -/
def pinned (es : List Entry) (kind : OperationKind) : Bool :=
  es.any fun e => e.2.1 == kind && e.2.2 == .override

/-- The operations that have a kind by convention. -/
def contenders (es : List Entry) (kind : OperationKind) : List String :=
  (es.filter fun e => e.2.1 == kind && e.2.2 == .convention).map fun e => e.1.name

/-- Go through the unique kinds in order: an override drops the contenders of its kind, and
without one there may be at most one. -/
def settleKinds (entity : String) (es : List Entry) :
    List OperationKind → Except GenerationError (List String)
  | [] => .ok []
  | kind :: rest =>
    let names := contenders es kind
    if pinned es kind then do
      let warnings ← settleKinds entity es rest
      return (names.map fun name =>
        entity ++ ": dropped '" ++ name ++ "', " ++ kind.text ++ " is pinned by an override") ++
          warnings
    else if 1 < names.length then .error (.ambiguousClassification entity kind names)
    else settleKinds entity es rest

/-- Whether an operation stays next to the overrides. -/
def keeps (c : Classifier) (e : Entry) : Bool :=
  !(e.2.1.isUnique && e.2.2 == .convention &&
    c.overrides.toList.any fun p => p.2 == e.2.1)

/-- The kinds of all operations of a service. -/
def classifyAll (c : Classifier) (entity : String) (ms : List Signature) :
    Except GenerationError Classified :=
  match c.conflicts with
  | (name, former, latter) :: _ => .error (.introspection entity
      ("method '" ++ name ++ "' is overridden as both " ++ former.text ++ " and " ++ latter.text))
  | [] =>
    match overrideFault? entity ms c.overrides.toList with
    | some e => .error e
    | none => do
      let es := c.entries ms
      let pinnedWarnings ← settleKinds entity es OperationKind.unique
      return {
        operations := (es.filter c.keeps).map fun e => (e.1, e.2.1)
        warnings := c.droppedWarnings entity ms ++ pinnedWarnings }

end Classifier

end GraphLayer
