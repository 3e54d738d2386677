import Mathlib.Data.List.Basic
import GraphLayer.Proofs.Schema.Servable

/-!
# The verdict on a schema text

* `heading?`, how a definition begins, and `exists_heading?_of_definition?`: the definitions that
  concern scalars and objects are told by their keywords;
* `Document.fault?_concerned`: all other definitions make no difference;
* `check_decides`: a text that can be read passes exactly if its schema can be served, and whatever
  does not pass is an error in rendering.
-/

namespace GraphLayer.Schema

/-! ### Keywords -/

/-- The keyword of a definition after its description, and whether it extends another one. -/
def heading? : List Token → Option (Bool × String)
  | .name "extend" :: ts => (name? ts).map fun p => (true, p.1)
  | ts => (name? (skipString ts)).map fun p => (false, p.1)

/-- The headings of scalars, of objects and of extensions of objects. -/
def concernedHeadings : List (Bool × String) := [(false, "scalar"), (false, "type"), (true, "type")]

variable {n : Nat} {keyword : String} {ts r : List Token} {x : Definition} {full : Bool}

/-- What is defined is told by the keyword. -/
theorem body?_cases (h : body? n keyword ts = some ((x, full), r)) :
    (keyword = "scalar" ∧ ∃ name, x = .scalar name) ∨
    (keyword = "type" ∧ ∃ name fields, x = .object name fields) ∨
    (keyword ≠ "scalar" ∧ keyword ≠ "type" ∧ x = .other) := by
  obtain ⟨⟨name, rest⟩, -, h⟩ := Option.bind_eq_some_iff.1 h
  dsimp only at h
  split at h
  · obtain ⟨_, -, h⟩ := Option.bind_eq_some_iff.1 h
    cases h
    exact .inl ⟨rfl, name, rfl⟩
  · obtain ⟨_, -, h⟩ := Option.bind_eq_some_iff.1 h
    obtain ⟨_, -, h⟩ := Option.bind_eq_some_iff.1 h
    obtain ⟨⟨fields, _⟩, -, h⟩ := Option.bind_eq_some_iff.1 h
    cases h
    exact .inr (.inl ⟨rfl, name, fields, rfl⟩)
  · obtain ⟨_, -, h⟩ := Option.bind_eq_some_iff.1 h
    obtain ⟨_, -, h⟩ := Option.bind_eq_some_iff.1 h
    obtain ⟨_, -, h⟩ := Option.bind_eq_some_iff.1 h
    cases h
    exact .inr (.inr (by decide))
  · obtain ⟨_, -, h⟩ := Option.bind_eq_some_iff.1 h
    obtain ⟨_, -, h⟩ := Option.bind_eq_some_iff.1 h
    cases h
    exact .inr (.inr (by decide))
  · obtain ⟨_, -, h⟩ := Option.bind_eq_some_iff.1 h
    obtain ⟨_, -, h⟩ := Option.bind_eq_some_iff.1 h
    cases h
    exact .inr (.inr (by decide))
  · obtain ⟨_, -, h⟩ := Option.bind_eq_some_iff.1 h
    obtain ⟨_, -, h⟩ := Option.bind_eq_some_iff.1 h
    cases h
    exact .inr (.inr (by decide))
  · cases h

theorem other_of_roots? (h : roots? n ts = some (x, r)) : x = .other := by
  obtain ⟨_, -, h⟩ := Option.bind_eq_some_iff.1 h
  obtain ⟨_, -, h⟩ := Option.bind_eq_some_iff.1 h
  obtain ⟨_, -, h⟩ := Option.bind_eq_some_iff.1 h
  obtain ⟨_, -, h⟩ := Option.bind_eq_some_iff.1 h
  exact (congrArg Prod.fst (Option.some.inj h)).symm

theorem other_of_directive? (h : directive? n ts = some (x, r)) : x = .other := by
  obtain ⟨_, -, h⟩ := Option.bind_eq_some_iff.1 h
  obtain ⟨_, -, h⟩ := Option.bind_eq_some_iff.1 h
  obtain ⟨_, -, h⟩ := Option.bind_eq_some_iff.1 h
  obtain ⟨_, -, h⟩ := Option.bind_eq_some_iff.1 h
  obtain ⟨_, -, h⟩ := Option.bind_eq_some_iff.1 h
  obtain ⟨_, -, h⟩ := Option.bind_eq_some_iff.1 h
  exact (congrArg Prod.fst (Option.some.inj h)).symm

/-- The definitions that concern scalars and objects are those with the headings of such. -/
theorem exists_heading?_of_definition? (h : definition? n ts = some (x, r)) :
    ∃ k, heading? ts = some k ∧ (x = .other ↔ k ∉ concernedHeadings) := by
  unfold definition? at h
  split at h
  · next ts =>
    obtain rfl := other_of_roots? h
    exact ⟨(false, "schema"), rfl, by decide⟩
  · next ts =>
    obtain ⟨⟨keyword, rest⟩, hname, h⟩ := Option.bind_eq_some_iff.1 h
    obtain ⟨⟨⟨y, full⟩, rest'⟩, hbody, h⟩ := Option.bind_eq_some_iff.1 h
    have hx : x = y.extended := by
      dsimp only at h
      split at h
      · exact (congrArg Prod.fst (Option.some.inj h)).symm
      · cases h
    refine ⟨(true, keyword), by rw [heading?, hname]; rfl, ?_⟩
    rw [hx]
    rcases body?_cases hbody with ⟨rfl, name, rfl⟩ | ⟨rfl, name, fields, rfl⟩ | ⟨-, hkeyword, rfl⟩
    · simp [Definition.extended, concernedHeadings]
    · simp [Definition.extended, concernedHeadings]
    · simp [Definition.extended, concernedHeadings, hkeyword]
  · next hschema hextend =>
    obtain ⟨⟨keyword, rest⟩, hname, h⟩ := Option.bind_eq_some_iff.1 h
    refine ⟨(false, keyword), ?_, ?_⟩
    · rw [heading?]
      · rw [hname]
        rfl
      · exact hextend
    · dsimp only at h
      split at h
      · next hdirective =>
        obtain rfl := other_of_directive? h
        simp [hdirective, concernedHeadings]
      · obtain ⟨⟨⟨y, full⟩, rest'⟩, hbody, h⟩ := Option.bind_eq_some_iff.1 h
        obtain rfl : y = x := congrArg Prod.fst (Option.some.inj h)
        rcases body?_cases hbody with ⟨rfl, name, rfl⟩ | ⟨rfl, name, fields, rfl⟩ |
          ⟨hscalar, htype, rfl⟩
        · simp [concernedHeadings]
        · simp [concernedHeadings]
        · simp [concernedHeadings, hscalar, htype]

/-! ### Definitions without concern -/

namespace Document

variable {d : Document} {A : Type} {f : Definition → Option A}

/-- A document without the definitions that concern neither scalars nor objects. -/
def concerned (d : Document) : Document := d.filter fun x => x ≠ .other

theorem filterMap_concerned (hf : f .other = none) (d : Document) :
    (concerned d).filterMap f = d.filterMap f := by
  rw [concerned, List.filterMap_filter]
  refine List.filterMap_congr fun x _ => ?_
  by_cases hx : x = .other
  · simp [hx, hf]
  · simp [hx]

theorem declared_concerned (d : Document) : declared (concerned d) = declared d := by
  rw [declared, declared, filterMap_concerned rfl]

theorem objects_concerned (d : Document) : objects (concerned d) = objects d :=
  filterMap_concerned rfl d

theorem owned_concerned (d : Document) : owned (concerned d) = owned d :=
  filterMap_concerned rfl d

theorem declarationFault?_concerned (seen : List String) (d : Document) :
    declarationFault? seen (concerned d) = declarationFault? seen d := by
  induction d generalizing seen with
  | nil => rfl
  | cons x d ih =>
    by_cases hx : x = .other
    · subst hx
      exact ih seen
    · have hcons : concerned (x :: d) = x :: concerned d :=
        List.filter_cons_of_pos (by simpa using hx)
      rw [hcons, declarationFault?_cons, declarationFault?_cons, ih]

theorem undeclared_concerned (d : Document) : undeclared (concerned d) = undeclared d := by
  simp only [undeclared, references, declared_concerned, owned_concerned]

theorem objectArgument?_concerned (d : Document) :
    objectArgument? (concerned d) = objectArgument? d := by
  simp only [objectArgument?, uses, objects_concerned, owned_concerned]

/-- Definitions that concern neither scalars nor objects neither declare nor refer to anything. -/
theorem fault?_concerned (d : Document) : (concerned d).fault? = d.fault? := by
  have hquery : queryFields (concerned d) = queryFields d := by
    rw [queryFields, queryFields, owned_concerned]
  rw [fault?, fault?, declarationFault?_concerned, undeclared_concerned, objectArgument?_concerned,
    hquery]

end Document

/-! ### The verdict -/

variable {s : String} {d : Document}

/-- **The check decides whether a schema can be served.**  A text that can be read passes exactly if
no object repeats the name of a built-in scalar or of an earlier scalar or object, every object and
every extension of one has a field, the name at the leaf of every type is the one of a scalar or an
object, wherever that stands, no argument has the type of an object, and `Query` has a field.
Definitions with other keywords make no difference.  What does not pass is an error in rendering,
because the text cannot be read or because of a fault of its schema. -/
theorem check_decides (s : String) :
    (∀ d, Document.read? s = some d → (check s = .ok () ↔ Document.Servable d)) ∧
    (∀ d : Document, (Document.concerned d).Servable ↔ d.Servable) ∧
    (∀ n ts x r, definition? n ts = some (x, r) →
      ∃ k, heading? ts = some k ∧ (x = .other ↔ k ∉ concernedHeadings)) ∧
    (Document.read? s = none → check s = .error (.render Fault.unreadable.message)) ∧
    ∀ e, check s = .error e → ∃ f : Fault, e = .render f.message ∧
      ((Document.read? s = none ∧ f = .unreadable) ∨
        ∃ d, Document.read? s = some d ∧ f.Holds d) := by
  refine ⟨fun d hd => ?_, fun d => ?_, fun n ts x r => exists_heading?_of_definition?,
    fun hnone => ?_, fun e he => ?_⟩
  · rw [check_eq_ok_iff, checkText_eq_ok_iff hd]
  · rw [← Document.fault?_eq_none_iff, Document.fault?_concerned, Document.fault?_eq_none_iff]
  · rw [check, checkText, hnone]
    rfl
  · obtain ⟨f, hf, rfl⟩ := check_eq_error_iff.1 he
    refine ⟨f, rfl, ?_⟩
    cases hread : Document.read? s with
    | none =>
      rw [checkText, hread] at hf
      exact .inl ⟨rfl, (Except.error.inj hf).symm⟩
    | some d => exact .inr ⟨d, rfl, holds_of_checkText hread hf⟩

/-- A schema whose only query stands in an extension and whose types are declared behind their uses
passes, but not with a field of an enumeration. -/
theorem check_decides_forward :
    let text (field : String) := "enum Color \x7b RED \x7d\n" ++
      "extend type Query \x7b parts(ids: [Long!]!): [Part] \x7d\n" ++
      "type Part \x7b " ++ field ++ " \x7d\nscalar Long"
    let schema (field : FieldDef) : Document :=
      [.other,
        .extension "Query" [⟨"parts", [⟨"ids", .nonNull (.list (.nonNull (.named "Long")))⟩],
          .list (.named "Part")⟩],
        .object "Part" [field], .scalar "Long"]
    (Document.read? (text "label: String") = some (schema ⟨"label", [], .named "String"⟩) ∧
      check (text "label: String") = .ok ()) ∧
    Document.read? (text "color: Color") = some (schema ⟨"color", [], .named "Color"⟩) ∧
      check (text "color: Color") ≠ .ok () := by
  intro text schema
  have hlabel : Document.read? (text "label: String") =
      some (schema ⟨"label", [], .named "String"⟩) := by decide +kernel
  have hcolor : Document.read? (text "color: Color") =
      some (schema ⟨"color", [], .named "Color"⟩) := by decide +kernel
  have hservable : (schema ⟨"label", [], .named "String"⟩).Servable :=
    Document.fault?_eq_none_iff.1 (by decide)
  have hundeclared : (schema ⟨"color", [], .named "Color"⟩).fault? ≠ none := by decide
  refine ⟨⟨hlabel, ((check_decides _).1 _ hlabel).2 hservable⟩, hcolor, fun haccept => ?_⟩
  exact hundeclared (Document.fault?_eq_none_iff.2 (((check_decides _).1 _ hcolor).1 haccept))

end GraphLayer.Schema
