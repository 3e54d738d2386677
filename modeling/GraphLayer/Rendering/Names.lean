import GraphLayer.Code.Syntax
import GraphLayer.Operation
import GraphLayer.Types.Graph

/-!
# Names in generated code

* `identifier`, the identifier for a name: a word that is reserved is marked as raw, and one
  that may not even be raw gets an underscore;
* the names of the modules, types and constants that belong to an entity;
* `splitPath`, the module and the class of a path.
-/

namespace GraphLayer.Rendering

open Code

/-- Words that are no identifiers unless they are marked as raw. -/
def keywords : List String :=
  ["abstract", "as", "async", "await", "become", "box", "break", "const", "continue", "do",
   "dyn", "else", "enum", "extern", "false", "final", "fn", "for", "gen", "if", "impl", "in",
   "let", "loop", "macro", "match", "mod", "move", "mut", "override", "priv", "pub", "ref",
   "return", "static", "struct", "trait", "true", "try", "type", "typeof", "unsafe", "unsized",
   "use", "virtual", "where", "while", "yield", "union", "macro_rules"]

/-- Words with a meaning that marks cannot take away, and the name of the context. -/
def reserved : List String := ["self", "super", "crate", "ctx"]

/-- The identifier for a name. -/
def identifier (name : String) : String :=
  let word := Text.snakeCase name
  if word ∈ reserved then word ++ "_"
  else if word ∈ keywords then "r#" ++ word
  else word

/-- The module of the contract of an entity. -/
def contractModule (entity : String) : String := Naming.moduleName entity ++ "_resolver"

/-- The module of the implementation of an entity. -/
def implementationModule (entity : String) : String :=
  Naming.moduleName entity ++ "_resolver_impl"

/-- The module of the loader of an entity. -/
def loaderModule (entity : String) : String := Naming.moduleName entity ++ "_loader"

/-- The contract of an entity. -/
def contractType (entity : String) : String := entity ++ "Resolver"

/-- The implementation of an entity. -/
def implementationType (entity : String) : String := entity ++ "ResolverImpl"

/-- The loader of an entity. -/
def loaderType (entity : String) : String := entity ++ "BatchLoader"

/-- The key of the loader of an entity. -/
def loaderKey (entity : String) : String := Naming.constantName entity ++ "_LOADER_KEY"

/-- The module and the last part of a path; an empty module counts as none. -/
def splitPath (path : String) : Option String × String :=
  match Text.splitLast? [':', ':'] path.toList with
  | some ([], name) => (none, String.ofList name)
  | some (module, name) => (some (String.ofList module), String.ofList name)
  | none => (none, path)

/-- A line that every generated file begins with. -/
def generatedNotice : String := "// This file is auto-generated. Do not edit manually."

end GraphLayer.Rendering
