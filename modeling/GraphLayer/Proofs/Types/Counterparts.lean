import GraphLayer.Introspection
import GraphLayer.Proofs.Data.Ascending
import GraphLayer.Proofs.Types.Grammar

/-!
# Types with a counterpart in the query language

No type has a counterpart by default: the ones that have are enumerated, and a text that is no type
stands for a class that nobody knows.

* `SourceType.Mappable`, a type of one value or a list of such a type, and `SourceType.culprit`, the
  part of any other type that the error names;
* `mapType_of_mappable` and `mapType_of_not_mappable`: the types with a counterpart are the mappable
  ones;
* `GraphType.origin`, the source type behind a counterpart, and `origin_of_mapType`: nothing of it
  gets lost;
* `Introspection.typeOf_of_derives` and `Introspection.typeOf_of_not_derives`: what a text stands
  for;
* `counterparts_exact`: all of this for texts.
-/

namespace GraphLayer

variable {known : KeySet String} {s : String} {t u : SourceType} {g : GraphType}

/-! ### Types -/

namespace SourceType

/-- A type of one value: a primitive one, boxed or not, a string or a known class. -/
def IsItem (known : KeySet String) : SourceType → Prop
  | primitive _ => True
  | boxed _ => True
  | string => True
  | named name => known.contains name = true
  | array _ => False
  | void => False

/-- A type of one value, or one level of list around it. -/
def Mappable (known : KeySet String) : SourceType → Prop
  | array item => item.IsItem known
  | t => t.IsItem known

/-- The part of a type that stands in the way of a counterpart: the class in a list of an unknown
class, and otherwise the whole. -/
def culprit : SourceType → SourceType
  | array (named name) => named name
  | t => t

end SourceType

theorem mapType_of_isItem (h : t.IsItem known) : ∃ g, mapType known t = .ok g := by
  cases t with
  | primitive k => exact ⟨_, rfl⟩
  | boxed k => exact ⟨_, rfl⟩
  | string => exact ⟨_, rfl⟩
  | named name => exact ⟨_, if_pos h⟩
  | array item => exact h.elim
  | void => exact h.elim

/-- A list of a type of one value has the list of its counterpart. -/
theorem mapType_array (h : t.IsItem known) :
    mapType known (.array t) = (mapType known t).map fun g => .list g true := by
  cases t with
  | primitive k => rfl
  | boxed k => rfl
  | string => rfl
  | named name => rfl
  | array item => exact h.elim
  | void => exact h.elim

theorem mapType_of_mappable (h : t.Mappable known) : ∃ g, mapType known t = .ok g := by
  cases t with
  | array item =>
    obtain ⟨g, hg⟩ := mapType_of_isItem h
    exact ⟨.list g true, by rw [mapType_array h, hg]; rfl⟩
  | _ => exact mapType_of_isItem h

theorem mapType_of_not_mappable (h : ¬ t.Mappable known) :
    mapType known t = .error ⟨t.culprit.text⟩ := by
  cases t with
  | primitive k => exact (h trivial).elim
  | boxed k => exact (h trivial).elim
  | string => exact (h trivial).elim
  | named name => exact if_neg h
  | void => rfl
  | array item =>
    cases item with
    | primitive k => exact (h trivial).elim
    | boxed k => exact (h trivial).elim
    | string => exact (h trivial).elim
    | named name =>
      have hunknown : mapType known (.named name) = .error ⟨name⟩ := if_neg h
      rw [mapType, hunknown]
      · rfl
      · nofun
      · nofun
    | array nested => rfl
    | void => rfl

theorem exists_mapType_iff : (∃ g, mapType known t = .ok g) ↔ t.Mappable known := by
  refine ⟨fun ⟨g, hg⟩ => ?_, mapType_of_mappable⟩
  by_contra h
  rw [mapType_of_not_mappable h] at hg
  cases hg

/-- A result that is not void has the counterpart that it would have as an argument. -/
theorem mapReturn_of_ne_void (h : t ≠ .void) : mapReturn known t = mapType known t := by
  unfold mapReturn
  split
  · exact (h rfl).elim
  · rfl

/-! ### The way back -/

/-- The primitive kind of a scalar, boxed if null is a value of the type. -/
def Scalar.origin (nullable : Bool) : Scalar → SourceType
  | int => if nullable then .boxed .int else .primitive .int
  | long => if nullable then .boxed .long else .primitive .long
  | float => if nullable then .boxed .double else .primitive .double
  | boolean => if nullable then .boxed .boolean else .primitive .boolean
  | string => .string

/-- The source type behind a counterpart. -/
def GraphType.origin : GraphType → SourceType
  | scalar s nullable => s.origin nullable
  | entity name _ => .named name
  | list item _ => .array item.origin

/-- The source type can be told from its counterpart. -/
theorem origin_of_mapType (h : mapType known t = .ok g) : g.origin = t := by
  induction t generalizing g with
  | primitive kind =>
    obtain rfl := Except.ok.inj h
    cases kind <;> rfl
  | boxed kind =>
    obtain rfl := Except.ok.inj h
    cases kind <;> rfl
  | string =>
    obtain rfl := Except.ok.inj h
    rfl
  | void => cases h
  | named name =>
    have hknown : known.contains name = true := exists_mapType_iff.1 ⟨g, h⟩
    have hentity : mapType known (.named name) = .ok (.entity name true) := if_pos hknown
    obtain rfl := Except.ok.inj (hentity.symm.trans h)
    rfl
  | array item ih =>
    have hitem : item.IsItem known := exists_mapType_iff.1 ⟨g, h⟩
    rw [mapType_array hitem] at h
    obtain ⟨inner, hinner, rfl⟩ := map_eq_ok_iff.1 h
    exact congrArg SourceType.array (ih hinner)

theorem mapType_injective (ht : mapType known t = .ok g) (hu : mapType known u = .ok g) : t = u :=
  (origin_of_mapType ht).symm.trans (origin_of_mapType hu)

/-! ### Texts -/

namespace Introspection

theorem typeOf_of_derives (h : SourceType.Derives s.toList t) : typeOf s = t := by
  rw [typeOf, SourceType.parse_eq_ok_iff.2 h]

/-- A text that is no type stands for a class, whose name is not the name of a class. -/
theorem typeOf_of_not_derives (h : ∀ t, ¬ SourceType.Derives s.toList t) :
    typeOf s = .named (Text.trim s) ∧ SourceType.isIdentifier (Text.trim s).toList = false := by
  constructor
  · unfold typeOf
    split
    · next t hs => exact (h t (SourceType.parse_eq_ok_iff.1 hs)).elim
    · rfl
  · refine Bool.eq_false_iff.2 fun hname => ?_
    rw [Text.trim, String.toList_ofList] at hname
    exact h _ (SourceType.derives_of_parseChars (SourceType.parseChars_name hname rfl))

theorem derives_void_iff : SourceType.Derives s.toList .void ↔ typeOf s = .void := by
  refine ⟨typeOf_of_derives, fun h => SourceType.parse_eq_ok_iff.1 ?_⟩
  unfold typeOf at h
  split at h
  · next hs => rw [hs, h]
  · cases h

end Introspection

open Introspection in
/-- **No type has a counterpart by default.**  If all known classes have names of classes, a text
has a counterpart exactly if the grammar derives it as the type of one value (a primitive one, boxed
or not, a string or a known class) or as one level of list around such a type.  All other texts are
errors, which name the text itself, without the blanks around it, if it is no type.  As a result
only void is treated otherwise.  Different source types have different counterparts. -/
theorem counterparts_exact
    (hknown : ∀ name, known.contains name = true → SourceType.isIdentifier name.toList = true) :
    (∀ s, (∃ g, mapType known (typeOf s) = .ok g) ↔
      ∃ t, SourceType.Derives s.toList t ∧ t.Mappable known) ∧
    (∀ s t, SourceType.Derives s.toList t → ¬ t.Mappable known →
      mapType known (typeOf s) = .error ⟨t.culprit.text⟩) ∧
    (∀ s, (∀ t, ¬ SourceType.Derives s.toList t) →
      mapType known (typeOf s) = .error ⟨Text.trim s⟩) ∧
    (∀ s, mapReturn known (typeOf s) = mapType known (typeOf s) ↔
      ¬ SourceType.Derives s.toList .void) ∧
    (∀ s, SourceType.Derives s.toList .void →
      mapReturn known (typeOf s) = .ok (.scalar .boolean false)) ∧
    ∀ t u g, mapType known t = .ok g → mapType known u = .ok g → t = u := by
  have hunread : ∀ s, (∀ t, ¬ SourceType.Derives s.toList t) →
      mapType known (typeOf s) = .error ⟨Text.trim s⟩ := by
    intro s hs
    obtain ⟨htype, hname⟩ := typeOf_of_not_derives hs
    have hunknown : ¬ known.contains (Text.trim s) = true := by
      intro hcontains
      rw [hknown _ hcontains] at hname
      cases hname
    rw [htype]
    exact mapType_of_not_mappable hunknown
  refine ⟨fun s => ⟨?_, ?_⟩, ?_, hunread, fun s => ?_, ?_, fun t u g => mapType_injective⟩
  · rintro ⟨g, hg⟩
    by_cases hs : ∃ t, SourceType.Derives s.toList t
    · obtain ⟨t, ht⟩ := hs
      rw [typeOf_of_derives ht] at hg
      exact ⟨t, ht, exists_mapType_iff.1 ⟨g, hg⟩⟩
    · rw [hunread s (not_exists.1 hs)] at hg
      cases hg
  · rintro ⟨t, ht, hmappable⟩
    rw [typeOf_of_derives ht]
    exact mapType_of_mappable hmappable
  · intro s t ht hmappable
    rw [typeOf_of_derives ht]
    exact mapType_of_not_mappable hmappable
  · rw [derives_void_iff]
    constructor
    · intro hsame hvoid
      rw [hvoid] at hsame
      cases hsame
    · exact mapReturn_of_ne_void
  · intro s hvoid
    rw [typeOf_of_derives hvoid]
    rfl

open Introspection SourceType in
/-- A list of a known class has a counterpart, whatever blanks it is written with; a list of lists
and a text that is no type have none. -/
theorem counterparts_exact_parts :
    let known := KeySet.ofList ["Part", "shop.Item"]
    (∀ name, known.contains name = true → isIdentifier name.toList = true) ∧
    (∃ g, mapType known (typeOf " List< shop.Item >") = .ok g) ∧
    mapType known (typeOf "Part[] []") = .error ⟨"Part[][]"⟩ ∧
    mapType known (typeOf " List<Part") = .error ⟨"List<Part"⟩ := by
  intro known
  have hknown : ∀ name, known.contains name = true → isIdentifier name.toList = true := by
    intro name hname
    have hwords : ∀ name ∈ ["Part", "shop.Item"], isIdentifier name.toList = true := by decide
    exact hwords name (KeySet.contains_ofList.1 hname)
  have hitems : Derives " List< shop.Item >".toList (array (named "shop.Item")) :=
    parse_eq_ok_iff.1 (by decide +kernel)
  have hnested : Derives "Part[] []".toList (array (array (named "Part"))) :=
    parse_eq_ok_iff.1 (by decide +kernel)
  have hopen : ∀ t, ¬ Derives " List<Part".toList t := by
    intro t ht
    have hparse : parse " List<Part" = .error ⟨" List<Part"⟩ := by decide +kernel
    rw [parse_eq_ok_iff.2 ht] at hparse
    cases hparse
  obtain ⟨hiff, hother, hunread, -⟩ := counterparts_exact hknown
  exact ⟨hknown, (hiff _).2 ⟨_, hitems, KeySet.contains_ofList.2 (by decide)⟩,
    hother _ _ hnested id, hunread _ hopen⟩

end GraphLayer
