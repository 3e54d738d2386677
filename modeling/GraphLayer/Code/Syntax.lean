import GraphLayer.Code.Layout

/-!
# Generated code

* `Function`, `Structure`, `Interface`, `Block` and `Item`, the syntax of generated code; types
  and statements are texts;
* `Source`, items behind their imports, and `Source.text`.
-/

namespace GraphLayer.Code

/-- A name with its type. -/
structure Binding where
  name : String
  type : String
  deriving DecidableEq, Repr

/-- A function. -/
structure Function where
  /-- Its description, line by line. -/
  doc : String := ""
  isPublic : Bool := false
  isAsync : Bool := false
  name : String
  /-- Whether it belongs to an object. -/
  onSelf : Bool := false
  params : List Binding := []
  result : String
  /-- Its lines; a function that is only declared has none. -/
  body : Option (List String) := none
  deriving DecidableEq, Repr

/-- A public structure. -/
structure Structure where
  doc : String
  name : String
  fields : List Binding
  deriving DecidableEq, Repr

/-- A public interface that functions belong to. -/
structure Interface where
  doc : String
  name : String
  parents : List String
  functions : List Function
  deriving DecidableEq, Repr

/-- The functions of a type, or what it makes of an interface. -/
structure Block where
  interface : Option String := none
  target : String
  /-- Named types of the interface. -/
  types : List Binding := []
  functions : List Function
  deriving DecidableEq, Repr

/-- Whatever stands at the top of generated code. -/
inductive Item where
  | function (f : Function)
  | struct (s : Structure)
  | interface (i : Interface)
  | block (b : Block)
  | raw (text : String)
  deriving DecidableEq, Repr

/-! ### Pieces -/

/-- A description: one line of comment for each of its lines. -/
def docPieces (doc : String) : List Piece :=
  (Text.lines doc.toList).flatMap fun l => pieces ["/// ", String.ofList l, "\n"]

/-- A body between braces. -/
def bracedPieces (body : List Piece) : List Piece :=
  pieces [" ", "\x7b\n"] ++ deeper body ++ pieces ["\x7d\n"]

/-- A name with its type. -/
def Binding.pieces (b : Binding) : List Piece := Code.pieces [b.name, ": ", b.type]

/-- Parts with a text between them. -/
def separated (separator : String) : List (List Piece) → List Piece
  | [] => []
  | [p] => p
  | p :: q :: ps => p ++ pieces [separator] ++ separated separator (q :: ps)

namespace Function

/-- The parameters, the object first. -/
def paramPieces (f : Function) : List Piece :=
  separated ", " ((if f.onSelf then [Code.pieces ["&self"]] else []) ++
    f.params.map Binding.pieces)

/-- The pieces of a function. -/
def pieces (f : Function) : List Piece :=
  docPieces f.doc ++
    Code.pieces ((if f.isPublic then ["pub", " "] else []) ++
      (if f.isAsync then ["async "] else []) ++ ["fn ", f.name, "("]) ++
    f.paramPieces ++ Code.pieces [")", " -> ", f.result] ++
    match f.body with
    | none => Code.pieces [";\n"]
    | some ls => bracedPieces (ls.flatMap fun l => Code.pieces [l, "\n"])

end Function

/-- Functions with empty lines between them. -/
def functionsPieces (fs : List Function) : List Piece :=
  separated "\n" (fs.map Function.pieces)

/-- The pieces of a structure; without fields it has no braces. -/
def Structure.pieces (s : Structure) : List Piece :=
  docPieces s.doc ++ Code.pieces ["pub", " ", "struct", " ", s.name] ++
    if s.fields.isEmpty then Code.pieces [";\n"]
    else bracedPieces (s.fields.flatMap fun b => b.pieces ++ Code.pieces [",\n"])

/-- The pieces of an interface. -/
def Interface.pieces (i : Interface) : List Piece :=
  docPieces i.doc ++ Code.pieces ["pub", " ", "trait", " ", i.name] ++
    (if i.parents.isEmpty then []
     else Code.pieces [": "] ++ separated " + " (i.parents.map fun p => Code.pieces [p])) ++
    bracedPieces (functionsPieces i.functions)

/-- The pieces of a block: the types before the functions. -/
def Block.pieces (b : Block) : List Piece :=
  Code.pieces ["impl"] ++
    (match b.interface with
     | none => []
     | some i => Code.pieces [" ", i, " for"]) ++
    Code.pieces [" ", b.target] ++
    bracedPieces (b.types.flatMap (fun t => Code.pieces ["type ", t.name, " = ", t.type, ";\n"]) ++
      (if b.types.isEmpty ∨ b.functions.isEmpty then [] else Code.pieces ["\n"]) ++
      functionsPieces b.functions)

/-- The pieces of an item. -/
def Item.pieces : Item → List Piece
  | function f => f.pieces
  | struct s => s.pieces
  | interface i => i.pieces
  | block b => b.pieces
  | raw text => Code.pieces [text, "\n"]

/-! ### Sources -/

/-- The names that are imported from one path. -/
structure Import where
  path : String
  names : List String
  deriving DecidableEq, Repr

/-- Add a name to the imports, each of which is kept once and where it came first.  Of a name
with a path of its own only the first part counts. -/
def addImport (path name : String) : List Import → List Import
  | [] => [⟨path, [name]⟩]
  | i :: is =>
    if i.path = path then
      (if name ∈ i.names then i else { i with names := i.names ++ [name] }) :: is
    else i :: addImport path name is

/-- The part of a name before its first `::`. -/
def firstPart (name : String) : String :=
  match Text.splitOnce? [':', ':'] name.toList with
  | some (before, _) => String.ofList before
  | none => name

/-- Items behind their imports. -/
structure Source where
  /-- The imported names with their paths, in order. -/
  imports : List (String × String)
  items : List Item

namespace Source

/-- The imports, path by path. -/
def groupedImports (s : Source) : List Import :=
  s.imports.foldl (fun is p => addImport p.1 (firstPart p.2) is) []

/-- The pieces of an import; several names are put between braces. -/
def importPieces (i : Import) : List Piece :=
  Code.pieces ["use ", i.path, "::"] ++
    match i.names with
    | [name] => Code.pieces [name, ";\n"]
    | names => Code.pieces ["\x7b"] ++ separated ", " (names.map fun n => Code.pieces [n]) ++
      Code.pieces ["\x7d;\n"]

/-- All pieces: imports and items, with empty lines between them. -/
def pieces (s : Source) : List Piece :=
  let imports := s.groupedImports
  imports.flatMap importPieces ++ (if imports.isEmpty then [] else Code.pieces ["\n"]) ++
    separated "\n" (s.items.map Item.pieces)

/-- The text, without the line feed at its end. -/
def text (s : Source) : String :=
  let cs := (layout s.pieces).toList
  match cs.reverse with
  | '\n' :: r => String.ofList r.reverse
  | _ => String.ofList cs

end Source

/-- An item behind a mark on a line of its own. -/
def marked (mark : String) (i : Item) : Item :=
  .raw (mark ++ "\n" ++ Source.text ⟨[], [i]⟩)

/-- A source behind the lines of its heading. -/
def file (heading : List String) (s : Source) : String :=
  String.intercalate "\n" heading ++ "\n\n" ++ s.text ++ "\n"

end GraphLayer.Code
