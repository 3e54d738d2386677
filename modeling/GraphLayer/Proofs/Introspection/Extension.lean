import GraphLayer.Proofs.Data.Ascending
import GraphLayer.Proofs.Introspection.WellFormed

/-!
# Descriptions in larger catalogs

What can be described stays as it is when more classes and more types are known.

* `Catalog.Extends`: a catalog with further classes, all of which have new names;
* `mapType_of_subset`: a type that has a counterpart keeps it;
* `Introspection.fieldsOf_of_subset` and `Introspection.methodsOf_of_subset`: so do fields, and
  operations are neither dropped nor taken back;
* `descriptor_of_extends`: the descriptor of an entity does not change.
-/

namespace GraphLayer

/-! ### Larger catalogs -/

/-- The catalog has all classes of another one in their order, and its other classes, wherever they
stand, have names that are new. -/
def Catalog.Extends (larger catalog : Catalog) : Prop :=
  (larger.classes.filter fun c => c.name ∈ catalog.classNames) = catalog.classes

/-- A class is found in a larger catalog as well. -/
theorem Catalog.Extends.class?_eq {larger catalog : Catalog} (h : larger.Extends catalog)
    {name : String} {c : ClassDef} (hc : catalog.class? name = some c) :
    larger.class? name = some c := by
  have hname : name ∈ catalog.classNames := by
    have hsame := List.find?_some hc
    exact List.mem_map.2 ⟨c, List.mem_of_find?_eq_some hc, by simpa using hsame⟩
  rw [Catalog.class?, ← h, List.find?_filter] at hc
  rw [Catalog.class?, ← hc]
  congr 1
  funext k
  by_cases hk : k.name = name
  · simp [hk, hname]
  · simp [hk]

/-! ### More types -/

section More

variable {known more : KeySet String}
  (hsub : ∀ name, known.contains name = true → more.contains name = true)
include hsub

/-- A type that has a counterpart keeps it. -/
theorem mapType_of_subset {t : SourceType} {g : GraphType} (h : mapType known t = .ok g) :
    mapType more t = .ok g := by
  fun_induction mapType known t generalizing g with
  | case1 kind => exact h
  | case2 kind => exact h
  | case3 => exact h
  | case4 name hknown =>
    rw [mapType, if_pos (hsub name hknown)]
    exact h
  | case5 name hunknown => cases h
  | case6 => cases h
  | case7 item => cases h
  | case8 => cases h
  | case9 item hnested hvoid ih =>
    obtain ⟨inner, hinner, rfl⟩ := map_eq_ok_iff.1 h
    rw [mapType]
    · rw [ih hinner]
      rfl
    · exact hnested
    · exact hvoid

theorem mapReturn_of_subset {t : SourceType} {g : GraphType} (h : mapReturn known t = .ok g) :
    mapReturn more t = .ok g := by
  unfold mapReturn at h
  split at h
  · exact h
  · exact mapReturn_of_mapType (mapType_of_subset hsub h)

namespace Introspection

variable {entity : String} {config : EntityConfig}

/-- Fields stay; at most a warning about an ignored one goes. -/
theorem fieldsOf_of_subset {ignored : KeySet String}
    {as : List (MemberDef × String × AccessorKind)} {fields : List Field} {warnings : List String}
    (h : fieldsOf known entity ignored as = .ok (fields, warnings)) :
    ∃ warnings', fieldsOf more entity ignored as = .ok (fields, warnings') := by
  obtain ⟨hfaultless, rfl, -⟩ := fieldsOf_eq_ok_iff.1 h
  refine ⟨as.filterMap (ignoredWarning? more entity ignored), fieldsOf_eq_ok_iff.2 ⟨?_, ?_, rfl⟩⟩
  · intro a ha
    rw [fieldFault?_eq_none_iff]
    intro hkept
    obtain ⟨type, htype⟩ := fieldFault?_eq_none_iff.1 (hfaultless a ha) hkept
    exact ⟨type, mapType_of_subset hsub htype⟩
  · refine List.filterMap_congr fun a ha => ?_
    cases hignored : ignored.contains a.2.1 with
    | true => simp [field?, hignored]
    | false =>
      obtain ⟨type, htype⟩ := fieldFault?_eq_none_iff.1 (hfaultless a ha) hignored
      simp [field?, hignored, htype, mapType_of_subset hsub htype]

/-- An operation that is dropped stays so, although another parameter may be named. -/
theorem isSome_entityParam? {s : Signature} (h : (entityParam? known s).isSome = true) :
    (entityParam? more s).isSome = true := by
  rw [entityParam?, List.findSome?_isSome_iff] at h ⊢
  obtain ⟨⟨name, t⟩, hp, hentity⟩ := h
  refine ⟨(name, t), hp, ?_⟩
  cases htype : mapType known t with
  | error e => simp [htype] at hentity
  | ok g => simpa [htype, mapType_of_subset hsub htype] using hentity

theorem paramsOf_of_subset {operation : String} {ps : List (String × SourceType)}
    {params : List Param} (h : paramsOf known entity operation ps = .ok params) :
    paramsOf more entity operation ps = .ok params := by
  induction ps generalizing params with
  | nil => exact h
  | cons p ps ih =>
    obtain ⟨name, source⟩ := p
    simp only [paramsOf] at h ⊢
    split at h
    · cases h
    · next type htype =>
      obtain ⟨params', hrest, h⟩ := bind_eq_ok_iff.1 h
      simp only [mapType_of_subset hsub htype]
      exact bind_eq_ok_iff.2 ⟨params', ih hrest, h⟩

theorem describeMethod_of_subset {s : Signature} {kind : OperationKind} {m : Method}
    (h : describeMethod known entity config s kind = .ok m) :
    describeMethod more entity config s kind = .ok m := by
  obtain ⟨params, returns, hparams, hreturns, rfl⟩ := exists_of_describeMethod h
  refine bind_eq_ok_iff.2 ⟨params, paramsOf_of_subset hsub hparams, ?_⟩
  rw [mapReturn_of_subset hsub hreturns]
  rfl

/-- An operation that is described is not dropped: all its parameters have their types already. -/
theorem entityParam?_of_describeMethod {s : Signature} {kind : OperationKind} {m : Method}
    (h : describeMethod known entity config s kind = .ok m) (hnone : entityParam? known s = none) :
    entityParam? more s = none := by
  obtain ⟨params, returns, hparams, -, -⟩ := exists_of_describeMethod h
  refine List.findSome?_eq_none_iff.2 ?_
  rintro ⟨name, t⟩ hmem
  rw [← map_of_paramsOf hparams] at hmem
  obtain ⟨p, hp, heq⟩ := List.mem_map.1 hmem
  obtain ⟨rfl, rfl⟩ := Prod.mk.inj heq
  obtain ⟨hp, htype⟩ := mapType_of_paramsOf hparams p hp
  have hleaf := leafEntity?_of_entityParam? hnone hp htype
  simp [mapType_of_subset hsub htype, hleaf]

/-- Operations stay: neither is one dropped, nor does one come back. -/
theorem methodsOf_of_subset {es : List (Signature × OperationKind)} {methods : List Method}
    {warnings : List String} (h : methodsOf known entity config es = .ok (methods, warnings)) :
    ∃ warnings', methodsOf more entity config es = .ok (methods, warnings') := by
  induction es generalizing methods warnings with
  | nil => exact ⟨warnings, h⟩
  | cons e es ih =>
    obtain ⟨s, kind⟩ := e
    simp only [methodsOf] at h ⊢
    split at h
    · next param target hparam =>
      obtain ⟨⟨methods', rest⟩, hrest, h⟩ := bind_eq_ok_iff.1 h
      cases h
      obtain ⟨rest', hrest'⟩ := ih hrest
      have hdropped := isSome_entityParam? hsub (by rw [hparam]; rfl)
      obtain ⟨⟨param', target'⟩, hparam'⟩ := Option.isSome_iff_exists.1 hdropped
      simp only [hparam']
      exact ⟨_, bind_eq_ok_iff.2 ⟨_, hrest', rfl⟩⟩
    · next hnone =>
      obtain ⟨m, hm, h⟩ := bind_eq_ok_iff.1 h
      obtain ⟨⟨methods', rest⟩, hrest, h⟩ := bind_eq_ok_iff.1 h
      cases h
      obtain ⟨rest', hrest'⟩ := ih hrest
      simp only [entityParam?_of_describeMethod hsub hm hnone]
      exact ⟨_, bind_eq_ok_iff.2 ⟨m, describeMethod_of_subset hsub hm,
        bind_eq_ok_iff.2 ⟨_, hrest', rfl⟩⟩⟩

theorem describeMethods_of_subset {c : ClassDef} {methods : List Method} {warnings : List String}
    (h : describeMethods known entity c config = .ok (methods, warnings)) :
    ∃ warnings', describeMethods more entity c config = .ok (methods, warnings') := by
  simp only [describeMethods] at h ⊢
  split at h
  · cases h
  · next hpublic =>
    obtain ⟨classified, hclassified, h⟩ := bind_eq_ok_iff.1 h
    split at h
    · cases h
    · next hclassifiable =>
      obtain ⟨⟨methods', rest⟩, hmethods, h⟩ := bind_eq_ok_iff.1 h
      simp only at h
      split at h
      · cases h
      · next hsome =>
        cases h
        obtain ⟨rest', hmethods'⟩ := methodsOf_of_subset hsub hmethods
        refine ⟨classified.warnings ++ rest', ?_⟩
        rw [if_neg hpublic]
        refine bind_eq_ok_iff.2 ⟨classified, hclassified, ?_⟩
        rw [if_neg hclassifiable]
        refine bind_eq_ok_iff.2 ⟨_, hmethods', ?_⟩
        exact if_neg hsome

end Introspection

end More

/-! ### The main theorem -/

open Introspection in
/-- **Further classes and types do not change a descriptor.**  An entity that can be described is
described alike in every catalog with further classes of new names, wherever they stand, and with
more types. -/
theorem descriptor_of_extends {catalog larger : Catalog} {known more : KeySet String}
    {modules : ModulePaths} {entity : String} {config : EntityConfig} {x : Described}
    (hcatalog : larger.Extends catalog)
    (hknown : ∀ name, known.contains name = true → more.contains name = true)
    (h : describe catalog known modules entity config = .ok x) :
    ∃ x', describe larger more modules entity config = .ok x' ∧ x'.descriptor = x.descriptor := by
  simp only [describe] at h ⊢
  split at h
  · cases h
  · next c hc =>
    split at h
    · cases h
    · next s hs =>
      obtain ⟨⟨fields, fieldWarnings⟩, hfields, h⟩ := bind_eq_ok_iff.1 h
      obtain ⟨⟨methods, methodWarnings⟩, hmethods, h⟩ := bind_eq_ok_iff.1 h
      cases h
      obtain ⟨fieldWarnings', hfields'⟩ := fieldsOf_of_subset hknown hfields
      obtain ⟨methodWarnings', hmethods'⟩ := describeMethods_of_subset hknown hmethods
      simp only [hcatalog.class?_eq hc, hcatalog.class?_eq hs]
      exact ⟨_, bind_eq_ok_iff.2 ⟨_, hfields', bind_eq_ok_iff.2 ⟨_, hmethods', rfl⟩⟩, rfl⟩

open Introspection in
/-- With dates and notes among the classes a part is described as before, though a date is no reason
for a warning any more. -/
theorem descriptor_of_extends_parts :
    let larger : Catalog := { classes :=
      ⟨"Date", []⟩ :: partsCatalog.classes.take 1 ++ ⟨"Note", []⟩ :: partsCatalog.classes.drop 1 }
    let known := KeySet.ofList partsCatalog.classNames
    let more := KeySet.ofList larger.classNames
    larger.Extends partsCatalog ∧
    (∀ name, known.contains name = true → more.contains name = true) ∧
    ∃ x x', partDescribed = .ok x ∧ describe larger more {} "Part" partsConfig = .ok x' ∧
      x'.descriptor = x.descriptor ∧ x'.warnings = x.warnings.tail := by
  intro larger known more
  have hcatalog : larger.Extends partsCatalog := by
    unfold Catalog.Extends
    decide
  have hsub : ∀ name, known.contains name = true → more.contains name = true := by
    intro name hname
    rw [KeySet.contains_ofList] at hname ⊢
    have hnames : ∀ name ∈ partsCatalog.classNames, name ∈ larger.classNames := by decide
    exact hnames name hname
  have hvalue : ((partDescribed.toOption.map fun x => x.warnings.tail).isSome = true) ∧
      (partDescribed.toOption.map fun x => x.warnings.tail) =
        (describe larger more {} "Part" partsConfig).toOption.map Described.warnings := by
    decide +kernel
  obtain ⟨hsome, hwarnings⟩ := hvalue
  obtain ⟨x, hx⟩ := Option.isSome_iff_exists.1 (Option.isSome_map ▸ hsome)
  have hdescribed : partDescribed = .ok x := eq_ok_of_toOption hx
  obtain ⟨x', hx', hsame⟩ := descriptor_of_extends hcatalog hsub hdescribed
  refine ⟨hcatalog, hsub, x, x', hdescribed, hx', hsame, ?_⟩
  rw [hx, hx'] at hwarnings
  exact (Option.some.inj hwarnings).symm

end GraphLayer
