import GraphLayer.Data.Dict
import GraphLayer.Text.Blank

/-!
# Templates

* `Template.render`, a text in which each name between two pairs of braces is replaced by its
  value, in one pass from left to right; values are not looked at again.
-/

namespace GraphLayer.Template

/-- Why a template cannot be rendered. -/
inductive Fault where
  | unclosed
  | missing (name : String)
  deriving DecidableEq, Repr

/-- The text of the error. -/
def Fault.message : Fault → String
  | unclosed => "Unclosed placeholder in template"
  | missing name => "No value for template variable '" ++ name ++ "'"

/-- Values by name. -/
abbrev Values := Dict String String

/-- What opens a placeholder. -/
def opening : List Char := ['\x7b', '\x7b']

/-- What closes a placeholder. -/
def closing : List Char := ['\x7d', '\x7d']

/-- The value of a placeholder, around whose name there may be blanks. -/
def value (values : Values) (placeholder : List Char) : Except Fault (List Char) :=
  let name := Text.trim (String.ofList placeholder)
  match values.find? name with
  | some v => .ok v.toList
  | none => .error (.missing name)

/-- Replace the placeholders of a template. -/
def renderChars (values : Values) (cs : List Char) : Except Fault (List Char) :=
  match h : Text.splitOnce? opening cs with
  | none => .ok cs
  | some (before, rest) =>
    match h' : Text.splitOnce? closing rest with
    | none => .error .unclosed
    | some (placeholder, after) =>
      have : after.length < cs.length := by
        have h₁ := Text.length_of_splitOnce? h
        have h₂ := Text.length_of_splitOnce? h'
        simp [opening, closing] at h₁ h₂
        omega
      do
        let v ← value values placeholder
        let tail ← renderChars values after
        return before ++ v ++ tail
termination_by cs.length

/-- Replace the placeholders of a template. -/
def render (values : Values) (template : String) : Except Fault String :=
  (renderChars values template.toList).map String.ofList

end GraphLayer.Template
