import GraphLayer.Json.Basic

/-!
# Documents before they are read as structures

The readers of the three document formats make trees of one type.

* `Node`, such a tree; a plain scalar takes its type from the place where it stands;
* `Node.ofJson`, the tree of a JSON value;
* `Node.text?`, `Node.bool?`, `Node.word?`, `Node.list?` and `Node.dict?`, its readings;
* `Node.fields?` and the readers of single fields, its reading as a structure.

In some formats a structure may also be given as the list of its fields in order, of which
fields with default values may be left out at the end.  Unknown fields are passed over, and a
known field may not be given twice.
-/

namespace GraphLayer

/-- How far a list may stand for a structure whose fields it gives in order. -/
inductive Positions where
  | never
  /-- It may hold no more items than the structure has fields. -/
  | exact
  /-- What follows the last field is passed over. -/
  | leading
  deriving DecidableEq, Inhabited, Repr

/-- A document as a tree. -/
inductive Node where
  | null
  | bool (b : Bool)
  | integer (n : Int)
  | real (x : Binary64)
  | text (s : String)
  /-- A scalar without quotes, of a format in which its type is open. -/
  | plain (s : String)
  /-- A scalar without quotes that has a tag, be it the one of null or not. -/
  | tagged (isNull : Bool) (s : String)
  | list (positions : Positions) (items : List Node)
  | record (fields : List (Node × Node))
  deriving Inhabited

namespace Node

mutual

/-- The tree of a JSON value. -/
def ofJson : Json → Node
  | .null => null
  | .bool b => bool b
  | .integer n => integer n
  | .real x => real x
  | .text s => text s
  | .list xs => list .exact (ofItems xs)
  | .record fs => record (ofFields fs)

/-- The trees of some values. -/
def ofItems : List Json → List Node
  | [] => []
  | x :: xs => ofJson x :: ofItems xs

/-- The trees of some fields. -/
def ofFields : List (String × Json) → List (Node × Node)
  | [] => []
  | (k, x) :: fs => (text k, ofJson x) :: ofFields fs

end

mutual

/-- The JSON value of a tree; a plain scalar counts as a string, and of a key that is no scalar
nothing is kept. -/
def toJson : Node → Json
  | null => .null
  | bool b => .bool b
  | integer n => .integer n
  | real x => .real x
  | text s => .text s
  | plain s => .text s
  | tagged _ s => .text s
  | list _ xs => .list (toItems xs)
  | record fs => .record (toFields fs)

/-- The JSON values of some trees. -/
def toItems : List Node → List Json
  | [] => []
  | x :: xs => toJson x :: toItems xs

/-- The fields of some pairs of trees. -/
def toFields : List (Node × Node) → List (String × Json)
  | [] => []
  | (text k, x) :: fs => (k, toJson x) :: toFields fs
  | (plain k, x) :: fs => (k, toJson x) :: toFields fs
  | (tagged _ k, x) :: fs => (k, toJson x) :: toFields fs
  | _ :: fs => toFields fs

end

/-! ### Scalars -/

/-- The spelling of a scalar without quotes. -/
def plain? : Node → Option String
  | plain s => some s
  | tagged _ s => some s
  | _ => none

/-- Whether nothing is written where something could stand. -/
def isBlank (n : Node) : Bool := n.plain? == some ""

/-- A string; a scalar without quotes is one as it stands. -/
def text? : Node → Option String
  | text s => some s
  | n => n.plain?

/-- A truth value. -/
def bool? : Node → Option Bool
  | bool b => some b
  | n => n.plain?.bind fun s =>
    if s ∈ ["true", "True", "TRUE"] then some true
    else if s ∈ ["false", "False", "FALSE"] then some false
    else none

/-- The value of a digit in a base of at most sixteen. -/
def digit? (base : Nat) (c : Char) : Option Nat :=
  let value :=
    if '0' ≤ c ∧ c ≤ '9' then some (c.toNat - '0'.toNat)
    else if 'a' ≤ c ∧ c ≤ 'f' then some (c.toNat - 'a'.toNat + 10)
    else if 'A' ≤ c ∧ c ≤ 'F' then some (c.toNat - 'A'.toNat + 10)
    else none
  value.filter fun v => v < base

/-- A number of at least one digit in a base. -/
def natIn? (base : Nat) (cs : List Char) : Option Nat :=
  if cs.isEmpty then none
  else cs.foldlM (fun n c => (digit? base c).map fun d => n * base + d) 0

/-- A natural number without quotes and without sign: a base with its digits, or decimal
digits, of which only a single one may be a leading zero. -/
def unsigned? : List Char → Option Nat
  | '0' :: 'x' :: r => natIn? 16 r
  | '0' :: 'o' :: r => natIn? 8 r
  | '0' :: 'b' :: r => natIn? 2 r
  | '0' :: _ :: _ => none
  | r => natIn? 10 r

/-- A natural number without quotes; only zero may have a minus sign. -/
def plainNat? (s : String) : Option Nat :=
  match s.toList with
  | '+' :: r => unsigned? r
  | '-' :: r => (unsigned? r).filter fun n => n = 0
  | r => unsigned? r

/-- A natural number below `2 ^ 64`. -/
def word? (n : Node) : Option UInt64 :=
  let value : Option Nat := match n with
    | integer n => if 0 ≤ n then some n.toNat else none
    | n => n.plain?.bind plainNat?
  (value.filter fun v => v < 0x10000000000000000).map Nat.toUInt64

/-- The spellings of null. -/
def nullWords : List String := ["null", "Null", "NULL", "~"]

/-- A value that may be absent.  A tag makes a value of what it is put before, if it is not the
tag of null. -/
def optional? {α : Type} (read : Node → Option α) : Node → Option (Option α)
  | null => some none
  | plain s => if s = "" ∨ s ∈ nullWords then some none else (read (plain s)).map some
  | tagged true s => if s ∈ nullWords then some none else none
  | n => (read n).map some

/-! ### Collections -/

/-- A list, which is empty where nothing is written. -/
def list? {α : Type} (read : Node → Option α) : Node → Option (List α)
  | list _ xs => xs.mapM read
  | n => if n.isBlank then some [] else none

/-- A set of strings. -/
def set? (n : Node) : Option (KeySet String) := (n.list? text?).map KeySet.ofList

/-- A dictionary; of equal keys the last one counts. -/
def dict? {α : Type} (read : Node → Option α) : Node → Option (Dict String α)
  | record fs =>
    (fs.mapM fun p : Node × Node => do return (← p.1.text?, ← read p.2)).map Dict.ofList
  | n => if n.isBlank then some {} else none

/-! ### Structures -/

/-- The fields of a structure that are given, by name. -/
abbrev Given := List (String × Node)

/-- Pair the items of a list with names in order. -/
def byPosition? (p : Positions) (names : List String) (xs : List Node) : Option Given :=
  match p with
  | .never => none
  | .exact => if xs.length ≤ names.length then some (names.zip xs) else none
  | .leading => some (names.zip xs)

/-- Whether every known name is given at most once. -/
def distinct (names : List String) (given : Given) : Bool :=
  names.all fun name => (given.filter fun p => p.1 == name).length ≤ 1

/-- The fields of a structure with the given names, of which the first ones are required if it
is given as a list. -/
def fields? (names : List String) (required : Nat) : Node → Option Given
  | record fs => do
    let given ← fs.mapM fun p : Node × Node => do return (← p.1.text?, p.2)
    guard (distinct names given)
    return given
  | list p xs => if required ≤ xs.length then byPosition? p names xs else none
  | n => if n.isBlank then some [] else none

namespace Given

/-- A field that has to be given. -/
def required? {α : Type} (g : Given) (name : String) (read : Node → Option α) : Option α :=
  (g.lookup name).bind read

/-- A field with a default value. -/
def default? {α : Type} (g : Given) (name : String) (read : Node → Option α) (value : α) :
    Option α :=
  match g.lookup name with
  | none => some value
  | some n => read n

end Given

end Node

end GraphLayer
