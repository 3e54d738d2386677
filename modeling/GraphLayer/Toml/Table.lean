import GraphLayer.Record.Node

/-!
# Tables of TOML

A table may be written in several places, but not in any way: a key has one value, a table has
one heading, and a table that came from dotted keys is open to dotted keys only.

* `Item` and `Entries`, tables with the way in which each came about;
* `insertValue?`, a value under dotted keys;
* `openTable?` and `openElement?`, the headings of a table and of an element of a list;
* `Entries.toNode`, the tree of a table.
-/

namespace GraphLayer.Toml

/-- How a table came about. -/
inductive Origin where
  /-- By its own heading, or as the outermost table. -/
  | heading
  /-- By the heading of a table inside of it. -/
  | path
  /-- By dotted keys. -/
  | dotted
  deriving DecidableEq, Repr

/-- What a key stands for. -/
inductive Item where
  | value (n : Node)
  | table (origin : Origin) (entries : List (String × Item))
  /-- The elements of a list that are written as tables, the last one first. -/
  | tables (elements : List (List (String × Item)))

/-- The keys of a table. -/
abbrev Entries := List (String × Item)

/-- Put an item in the place of the one under a key. -/
def replace (key : String) (i : Item) : Entries → Entries
  | [] => [(key, i)]
  | (k, j) :: es => if k = key then (k, i) :: es else (k, j) :: replace key i es

/-- Change the table at a path; tables on the way are made if they are missing, and dotted keys
do not go through a table with a heading. -/
def changeAt? (dotted : Bool) (f : Origin → Entries → Option Entries) :
    List String → Origin → Entries → Option Entries
  | [], o, es => f o es
  | k :: ks, _, es =>
    match es.lookup k with
    | none =>
      let o : Origin := if dotted then .dotted else .path
      (changeAt? dotted f ks o []).map fun inner => es ++ [(k, .table o inner)]
    | some (.table o inner) =>
      if dotted ∧ o = .heading then none
      else (changeAt? dotted f ks o inner).map fun inner => replace k (.table o inner) es
    | some (.tables (last :: more)) =>
      (changeAt? dotted f ks .heading last).map fun last => replace k (.tables (last :: more)) es
    | some _ => none

/-- Put a value under a key of a table that is open to it. -/
def addValue? (dotted : Bool) (key : String) (n : Node) (o : Origin) (es : Entries) :
    Option Entries :=
  if (o = .dotted) ≠ dotted then none
  else if (es.lookup key).isSome then none
  else some (es ++ [(key, .value n)])

/-- Put a value under dotted keys of a table. -/
def insertValue? (keys : List String) (n : Node) (o : Origin) (es : Entries) : Option Entries :=
  match keys.reverse with
  | [] => none
  | key :: parents =>
    let dotted := !parents.isEmpty
    changeAt? dotted (addValue? dotted key n) parents.reverse o es

/-- Begin a table, which may so far have come about by a path only. -/
def beginTable? (key : String) (_ : Origin) (es : Entries) : Option Entries :=
  match es.lookup key with
  | none => some (es ++ [(key, .table .heading [])])
  | some (.table .path inner) => some (replace key (.table .heading inner) es)
  | some _ => none

/-- Begin an element of a list. -/
def beginElement? (key : String) (_ : Origin) (es : Entries) : Option Entries :=
  match es.lookup key with
  | none => some (es ++ [(key, .tables [[]])])
  | some (.tables elements) => some (replace key (.tables ([] :: elements)) es)
  | some _ => none

/-- The heading of a table or of an element of a list. -/
def openAt? (begin? : String → Origin → Entries → Option Entries) (keys : List String)
    (es : Entries) : Option Entries :=
  match keys.reverse with
  | [] => none
  | key :: parents => changeAt? false (begin? key) parents.reverse .heading es

/-- The heading of a table. -/
def openTable? : List String → Entries → Option Entries := openAt? beginTable?

/-- The heading of an element of a list. -/
def openElement? : List String → Entries → Option Entries := openAt? beginElement?

mutual

/-- The tree of an item. -/
def Item.toNode : Item → Node
  | .value n => n
  | .table _ es => .record (fieldsOf es)
  | .tables elements => .list .leading (elementsOf elements).reverse

/-- The trees of the items of a table. -/
def fieldsOf : List (String × Item) → List (Node × Node)
  | [] => []
  | (k, i) :: es => (.text k, i.toNode) :: fieldsOf es

/-- The trees of some tables. -/
def elementsOf : List (List (String × Item)) → List Node
  | [] => []
  | es :: more => .record (fieldsOf es) :: elementsOf more

end

/-- The tree of a table. -/
def Entries.toNode (es : Entries) : Node := .record (fieldsOf es)

end GraphLayer.Toml
