import GraphLayer.Schema.Document
import GraphLayer.Schema.Token

/-!
# Reading schemas

* `Document.read?`, the definitions of a text, or nothing for a text that is no schema;
* the readers of its parts, each of which takes a part off the front of some tokens.

A reader gets the number of tokens that it may look at; `Document.read?` gives it all of them.
-/

namespace GraphLayer.Schema

/-! ### Single tokens -/

/-- A name. -/
def name? : List Token → Option (String × List Token)
  | .name s :: r => some (s, r)
  | _ => none

/-- The tokens after a given one. -/
def after? (t : Token) : List Token → Option (List Token)
  | [] => none
  | u :: r => if u = t then some r else none

/-- The tokens after a token that may be left out. -/
def skip (t : Token) (ts : List Token) : List Token := (after? t ts).getD ts

/-- The tokens after a description. -/
def skipString (ts : List Token) : List Token := skip .string ts

/-! ### Lists -/

/-- Parts up to a closing token, which is taken off too. -/
def until? {α : Type} (part? : List Token → Option (α × List Token)) (close : Token) :
    Nat → List Token → Option (List α × List Token)
  | 0, _ => none
  | n + 1, ts =>
    match after? close ts with
    | some r => some ([], r)
    | none => do
      let (x, r) ← part? ts
      let (xs, r) ← until? part? close n r
      return (x :: xs, r)

/-- At least one part up to a closing token. -/
def someUntil? {α : Type} (part? : List Token → Option (α × List Token)) (close : Token)
    (n : Nat) (ts : List Token) : Option (List α × List Token) := do
  let (xs, r) ← until? part? close n ts
  if xs.isEmpty then none else return (xs, r)

/-- Parts between two tokens, which may be left out altogether. -/
def enclosed? {α : Type} (part? : List Token → Option (α × List Token))
    («open» close : Token) (n : Nat) (ts : List Token) : Option (List α × List Token) :=
  match after? «open» ts with
  | none => some ([], ts)
  | some r => someUntil? part? close n r

/-- Names with a mark between them, which may also stand before the first one. -/
def namesFrom? (mark : Token) : Nat → List Token → Option (List String × List Token)
  | 0, _ => none
  | n + 1, ts => do
    let (x, r) ← name? ts
    match after? mark r with
    | none => return ([x], r)
    | some r =>
      let (xs, r) ← namesFrom? mark n r
      return (x :: xs, r)

/-- Names with a mark between them, which may also stand before the first one. -/
def names? (mark : Token) (n : Nat) (ts : List Token) : Option (List String × List Token) :=
  namesFrom? mark n (skip mark ts)

/-! ### Values and directives -/

/-- The tokens after a value; `bound` says whether it may refer to a variable. -/
def value? (bound : Bool) : Nat → List Token → Option (Unit × List Token)
  | 0, _ => none
  | n + 1, ts =>
    let field? (ts : List Token) : Option (Unit × List Token) := do
      let (_, r) ← name? ts
      value? bound n (← after? (.mark ':') r)
    match ts with
    | .name _ :: r => some ((), r)
    | .number :: r => some ((), r)
    | .string :: r => some ((), r)
    | .mark '$' :: r => if bound then (name? r).map fun (_, r) => ((), r) else none
    | .mark '[' :: r => (until? (value? bound n) (.mark ']') n r).map fun (_, r) => ((), r)
    | .mark '\x7b' :: r => (until? field? (.mark '\x7d') n r).map fun (_, r) => ((), r)
    | _ => none

/-- The value of an argument of a directive, after its name. -/
def setting? (n : Nat) (ts : List Token) : Option (Unit × List Token) := do
  let (_, r) ← name? ts
  value? true n (← after? (.mark ':') r)

/-- The number of directives at the front. -/
def directives? : Nat → List Token → Option (Nat × List Token)
  | 0, _ => none
  | n + 1, ts =>
    match after? (.mark '@') ts with
    | none => some (0, ts)
    | some r => do
      let (_, r) ← name? r
      let (_, r) ← enclosed? (setting? n) (.mark '(') (.mark ')') n r
      let (count, r) ← directives? n r
      return (count + 1, r)

/-! ### Types, arguments and fields -/

/-- A type with the mark that excludes null, if it follows. -/
def marked (t : TypeRef) (ts : List Token) : TypeRef × List Token :=
  match after? (.mark '!') ts with
  | some r => (.nonNull t, r)
  | none => (t, ts)

/-- A type. -/
def type? : Nat → List Token → Option (TypeRef × List Token)
  | 0, _ => none
  | n + 1, ts =>
    match ts with
    | .name s :: r => some (marked (.named s) r)
    | .mark '[' :: r => do
      let (item, r) ← type? n r
      return marked (.list item) (← after? (.mark ']') r)
    | _ => none

/-- The tokens after a default value, which may be left out. -/
def default? (n : Nat) (ts : List Token) : Option (List Token) :=
  match after? (.mark '=') ts with
  | none => some ts
  | some r => (value? false n r).map Prod.snd

/-- An argument. -/
def argument? (n : Nat) (ts : List Token) : Option (Argument × List Token) := do
  let (name, r) ← name? (skipString ts)
  let (type, r) ← type? n (← after? (.mark ':') r)
  let (_, r) ← directives? n (← default? n r)
  return (⟨name, type⟩, r)

/-- The arguments of a field or a directive. -/
def arguments? (n : Nat) (ts : List Token) : Option (List Argument × List Token) :=
  enclosed? (argument? n) (.mark '(') (.mark ')') n ts

/-- A field. -/
def field? (n : Nat) (ts : List Token) : Option (FieldDef × List Token) := do
  let (name, r) ← name? (skipString ts)
  let (arguments, r) ← arguments? n r
  let (type, r) ← type? n (← after? (.mark ':') r)
  let (_, r) ← directives? n r
  return (⟨name, arguments, type⟩, r)

/-- The fields of an object, which may be left out. -/
def fields? (n : Nat) (ts : List Token) : Option (List FieldDef × List Token) :=
  enclosed? (field? n) (.mark '\x7b') (.mark '\x7d') n ts

/-! ### Definitions -/

/-- The interfaces of a type, which may be left out. -/
def interfaces? (n : Nat) (ts : List Token) : Option (List String × List Token) :=
  match after? (.name "implements") ts with
  | none => some ([], ts)
  | some r => names? (.mark '&') n r

/-- A value of an enumeration. -/
def choice? (n : Nat) (ts : List Token) : Option (Unit × List Token) := do
  let (_, r) ← name? (skipString ts)
  let (_, r) ← directives? n r
  return ((), r)

/-- The members of a union, which may be left out. -/
def members? (n : Nat) (ts : List Token) : Option (List String × List Token) :=
  match after? (.mark '=') ts with
  | none => some ([], ts)
  | some r => names? (.mark '|') n r

/-- A definition without its keyword and whether it has contents besides its name. -/
def body? (n : Nat) (keyword : String) (ts : List Token) :
    Option ((Definition × Bool) × List Token) := do
  let (name, r) ← name? ts
  match keyword with
  | "scalar" =>
    let (directives, r) ← directives? n r
    return ((.scalar name, directives != 0), r)
  | "type" =>
    let (interfaces, r) ← interfaces? n r
    let (directives, r) ← directives? n r
    let (fields, r) ← fields? n r
    return ((.object name fields, !interfaces.isEmpty || directives != 0 || !fields.isEmpty), r)
  | "interface" =>
    let (interfaces, r) ← interfaces? n r
    let (directives, r) ← directives? n r
    let (fields, r) ← fields? n r
    return ((.other, !interfaces.isEmpty || directives != 0 || !fields.isEmpty), r)
  | "union" =>
    let (directives, r) ← directives? n r
    let (members, r) ← members? n r
    return ((.other, directives != 0 || !members.isEmpty), r)
  | "enum" =>
    let (directives, r) ← directives? n r
    let (values, r) ← enclosed? (choice? n) (.mark '\x7b') (.mark '\x7d') n r
    return ((.other, directives != 0 || !values.isEmpty), r)
  | "input" =>
    let (directives, r) ← directives? n r
    let (values, r) ← enclosed? (argument? n) (.mark '\x7b') (.mark '\x7d') n r
    return ((.other, directives != 0 || !values.isEmpty), r)
  | _ => none

/-- The places where a directive may stand. -/
def locations : List String :=
  ["QUERY", "MUTATION", "SUBSCRIPTION", "FIELD", "FRAGMENT_DEFINITION", "FRAGMENT_SPREAD",
   "INLINE_FRAGMENT", "VARIABLE_DEFINITION", "SCHEMA", "SCALAR", "OBJECT", "FIELD_DEFINITION",
   "ARGUMENT_DEFINITION", "INTERFACE", "UNION", "ENUM", "ENUM_VALUE", "INPUT_OBJECT",
   "INPUT_FIELD_DEFINITION"]

/-- The definition of a directive after its keyword. -/
def directive? (n : Nat) (ts : List Token) : Option (Definition × List Token) := do
  let (_, r) ← name? (← after? (.mark '@') ts)
  let (_, r) ← arguments? n r
  let r := skip (.name "repeatable") r
  let (places, r) ← names? (.mark '|') n (← after? (.name "on") r)
  guard (places.all locations.contains)
  return (.other, r)

/-- The name of an operation and its root type. -/
def rootType? (ts : List Token) : Option (String × List Token) := do
  let (operation, r) ← name? ts
  guard (["query", "mutation", "subscription"].contains operation)
  let (_, r) ← name? (← after? (.mark ':') r)
  return (operation, r)

/-- The root types after the keyword `schema`; each operation is given at most once. -/
def roots? (n : Nat) (ts : List Token) : Option (Definition × List Token) := do
  let (_, r) ← directives? n ts
  let (operations, r) ← someUntil? rootType? (.mark '\x7d') n (← after? (.mark '\x7b') r)
  guard operations.Nodup
  return (.other, r)

/-- The fields of an extended object are kept as such. -/
def Definition.extended : Definition → Definition
  | .object name fields => .extension name fields
  | _ => .other

/-- A definition.  Root types and extensions have no description, and an extension has
contents. -/
def definition? (n : Nat) (ts : List Token) : Option (Definition × List Token) :=
  match ts with
  | .name "schema" :: r => roots? n r
  | .name "extend" :: r => do
    let (keyword, r) ← name? r
    let ((d, full), r) ← body? n keyword r
    if full then return (d.extended, r) else none
  | ts => do
    let (keyword, r) ← name? (skipString ts)
    if keyword = "directive" then directive? n r
    else
      let ((d, _), r) ← body? n keyword r
      return (d, r)

/-- Definitions up to the end. -/
def definitions? (n : Nat) : Nat → List Token → Option Document
  | 0, _ => none
  | _ + 1, [] => some []
  | k + 1, ts => do
    let (d, r) ← definition? n ts
    let ds ← definitions? n k r
    return d :: ds

/-- The schema of a text with at least one definition. -/
def Document.read? (s : String) : Option Document := do
  let ts ← scan s.toList
  guard (withinNesting nestingLimit ts)
  let d ← definitions? (ts.length + 1) (ts.length + 1) ts
  if d.isEmpty then none else return d

end GraphLayer.Schema
