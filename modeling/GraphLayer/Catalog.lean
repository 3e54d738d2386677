import GraphLayer.Data.Dict

/-!
# Service catalogs

The classes that may be looked at, with their members in the order of their declaration: the
accessors of entities and the operations of services.

* `Catalog`, with `Catalog.class?` and `Catalog.classNames`;
* `Catalog.firstRepeated?`, the class that makes a catalog invalid.
-/

namespace GraphLayer

/-- One parameter of a member; its type is a text. -/
structure ParamDef where
  name : String
  type : String
  deriving DecidableEq, Repr

/-- A member of a class. -/
structure MemberDef where
  name : String
  params : List ParamDef := []
  returns : String := "void"
  isPublic : Bool := true
  isStatic : Bool := false
  deriving DecidableEq, Repr

/-- Whether the member can be seen from outside and belongs to an object. -/
def MemberDef.accessible (m : MemberDef) : Bool := m.isPublic && !m.isStatic

/-- A class. -/
structure ClassDef where
  name : String
  members : List MemberDef := []
  deriving DecidableEq, Repr

/-- The accessible members in the order of their declaration. -/
def ClassDef.accessibleMembers (c : ClassDef) : List MemberDef :=
  c.members.filter MemberDef.accessible

/-- A catalog of classes. -/
structure Catalog where
  classes : List ClassDef := []
  deriving DecidableEq, Repr

namespace Catalog

/-- The names of the classes, in order. -/
def classNames (c : Catalog) : List String := c.classes.map ClassDef.name

/-- The class of a name. -/
def class? (c : Catalog) (name : String) : Option ClassDef :=
  c.classes.find? fun k => k.name == name

/-- Whether there is a class of a name. -/
def contains (c : Catalog) (name : String) : Bool := (c.class? name).isSome

/-- The first name that has occurred before in the list, after the names already seen. -/
def repeatedAfter? (seen : List String) : List String → Option String
  | [] => none
  | n :: ns => if n ∈ seen then some n else repeatedAfter? (n :: seen) ns

/-- The first class whose name has occurred before. -/
def firstRepeated? (c : Catalog) : Option String := repeatedAfter? [] c.classNames

end Catalog

/-- A class that is declared more than once. -/
structure RepeatedClass where
  name : String
  deriving DecidableEq, Repr

/-- The text of the error. -/
def RepeatedClass.message (e : RepeatedClass) : String :=
  "Class '" ++ e.name ++ "' is declared more than once"

/-- A catalog of some classes, each of which must be declared once. -/
def Catalog.ofClasses (classes : List ClassDef) : Except RepeatedClass Catalog :=
  match (Catalog.mk classes).firstRepeated? with
  | some name => .error ⟨name⟩
  | none => .ok ⟨classes⟩

end GraphLayer
