import GraphLayer.Text.Blank
import GraphLayer.Text.Words

/-!
# Operations and their names

* `OperationKind`, the kinds of operations of a service;
* `Naming`, the names that follow from the name of an entity: modules, constants, fields of
  the root types, identifiers and accessors.
-/

namespace GraphLayer

/-- Kinds of operations. -/
inductive OperationKind where
  | create
  | readOne
  | readAll
  | update
  | delete
  | customFinder
  deriving DecidableEq, Repr

namespace OperationKind

/-- All kinds, in their order. -/
def all : List OperationKind := [create, readOne, readAll, update, delete, customFinder]

/-- Kinds that change state; all others are queries. -/
def isMutation : OperationKind → Bool
  | create => true
  | update => true
  | delete => true
  | _ => false

/-- Kinds of which an entity has at most one operation. -/
def isUnique : OperationKind → Bool
  | customFinder => false
  | _ => true

/-- The kinds of which an entity has at most one operation, in their order. -/
def unique : List OperationKind := all.filter isUnique

/-- The kind in messages. -/
def text : OperationKind → String
  | create => "create"
  | readOne => "read-one"
  | readAll => "read-all"
  | update => "update"
  | delete => "delete"
  | customFinder => "custom-finder"

/-- The kind as a key of a configuration. -/
def key : OperationKind → String
  | create => "create"
  | readOne => "read_one"
  | readAll => "read_all"
  | update => "update"
  | delete => "delete"
  | customFinder => "custom_finder"

/-- The kind in generated code. -/
def codeName : OperationKind → String
  | create => "Create"
  | readOne => "ReadOne"
  | readAll => "ReadAll"
  | update => "Update"
  | delete => "Delete"
  | customFinder => "CustomFinder"

/-- The root type that holds the field of the operation. -/
def root (k : OperationKind) : String := if k.isMutation then "Mutation" else "Query"

end OperationKind

namespace Naming

open Text

/-- The name of the module of an entity. -/
def moduleName (entity : String) : String := snakeCase entity

/-- The name of a constant of an entity. -/
def constantName (entity : String) : String := upper (moduleName entity)

/-- Whether a text ends in a word. -/
def endsIn (cs : List Char) (ending : String) : Bool := ending.toList.isSuffixOf cs

/-- The plural of an English noun. -/
def plural (name : String) : String :=
  let cs := name.toList
  let small := cs.map Char.toLower
  if endsIn small "y" && !(["ay", "ey", "oy", "uy"].any (endsIn small)) then
    String.ofList (cs.dropLast ++ ['i', 'e', 's'])
  else if ["s", "x", "z", "ch", "sh"].any (endsIn small) then
    String.ofList (cs ++ ['e', 's'])
  else String.ofList (cs ++ ['s'])

/-- The conventional identifier field of an entity. -/
def idField (entity : String) : String := camelCase entity ++ "Id"

/-- The name behind an accessor: what follows `get` or `is`, which must begin with a capital
of the Latin alphabet, with a small letter at its start. -/
def fieldOfAccessor? (accessor : String) : Option String :=
  let cs := accessor.toList
  match (stripStart? ['g', 'e', 't'] cs).or (stripStart? ['i', 's'] cs) with
  | some (c :: rest) => if c.isUpper then some (String.ofList (c.toLower :: rest)) else none
  | _ => none

/-- The root field of an operation without a configured name. -/
def rootField (kind : OperationKind) (entity operation : String) : String :=
  match kind with
  | .readOne => camelCase entity
  | .readAll => camelCase (plural entity)
  | .create => "create" ++ pascalCase entity
  | .update => "update" ++ pascalCase entity
  | .delete => "delete" ++ pascalCase entity
  | .customFinder => operation

end Naming

end GraphLayer
