import Mathlib.Data.List.Forall2
import GraphLayer.Introspection
import GraphLayer.Proofs.Data.Except

/-!
# What a description guarantees

* `exists_of_describe`: how an entity that can be described got its fields and operations;
* `exists_mapReturn_of_describe`: the types of a descriptor are made from types of the catalog;
* `GraphType.IsFlat`, a type that is no list of lists;
* `Descriptor.WellTyped`: all types of a descriptor are flat, and no parameter has an entity at the
  leaf of its type;
* `Introspection.fieldsOf_eq`: every accessor is dealt with by itself;
* `wellTyped_of_describe`: the descriptors of entities are well typed.
-/

namespace GraphLayer

open Introspection in
/-- An entity that can be described has a class and a service in the catalog, and its fields and
operations come from these. -/
theorem exists_of_describe {catalog : Catalog} {known : KeySet String} {modules : ModulePaths}
    {entity : String} {config : EntityConfig} {x : Described}
    (h : describe catalog known modules entity config = .ok x) :
    ∃ c s fieldWarnings methodWarnings, catalog.class? entity = some c ∧
      catalog.class? (serviceOf modules config.service).class = some s ∧
      describeFields known entity c config.ignoredFields =
        .ok (x.descriptor.fields, fieldWarnings) ∧
      describeMethods known entity s config = .ok (x.descriptor.methods, methodWarnings) ∧
      x.warnings = fieldWarnings ++ methodWarnings ∧ x.descriptor.name = entity := by
  simp only [describe] at h
  split at h
  · cases h
  · next c hc =>
    split at h
    · cases h
    · next s hs =>
      obtain ⟨⟨fields, fieldWarnings⟩, hfields, h⟩ := bind_eq_ok_iff.1 h
      obtain ⟨⟨methods, methodWarnings⟩, hmethods, h⟩ := bind_eq_ok_iff.1 h
      cases h
      exact ⟨c, s, fieldWarnings, methodWarnings, hc, hs, hfields, hmethods, rfl, rfl⟩

/-! ### Types -/

/-- A type that is no list of lists. -/
def GraphType.IsFlat : GraphType → Prop
  | list item _ => item.isList = false
  | _ => True

variable {known : KeySet String} {t : SourceType} {g : GraphType}

/-- Only a list has a list as its counterpart. -/
theorem isList_of_mapType (h : mapType known t = .ok g) : g.isList = t.isArray := by
  unfold mapType at h
  split at h
  · cases h; rfl
  · cases h; rfl
  · cases h; rfl
  · split at h
    · cases h; rfl
    · cases h
  · cases h
  · cases h
  · cases h
  · next item _ _ =>
    cases hitem : mapType known item with
    | error e =>
      rw [hitem] at h
      cases h
    | ok inner =>
      rw [hitem] at h
      cases h
      rfl

theorem isFlat_of_mapType (h : mapType known t = .ok g) : g.IsFlat := by
  unfold mapType at h
  split at h
  · cases h; trivial
  · cases h; trivial
  · cases h; trivial
  · split at h
    · cases h; trivial
    · cases h
  · cases h
  · cases h
  · cases h
  · next item hlists _ =>
    cases hitem : mapType known item with
    | error e =>
      rw [hitem] at h
      cases h
    | ok inner =>
      rw [hitem] at h
      cases h
      show inner.isList = false
      rw [isList_of_mapType hitem]
      cases item with
      | array nested => exact absurd rfl (hlists nested)
      | _ => rfl

/-- A result that is no void has the type that it would have as an argument. -/
theorem mapReturn_of_mapType (h : mapType known t = .ok g) : mapReturn known t = .ok g := by
  unfold mapReturn
  split
  · cases h
  · exact h

theorem isFlat_of_mapReturn (h : mapReturn known t = .ok g) : g.IsFlat := by
  unfold mapReturn at h
  split at h
  · cases h; trivial
  · exact isFlat_of_mapType h

/-! ### Fields and operations -/

/-- Where two lists correspond, each element of the second one has a counterpart. -/
theorem exists_of_mem_forall₂ {A B : Type} {R : A → B → Prop} {as : List A} {bs : List B}
    (h : List.Forall₂ R as bs) {b : B} (hb : b ∈ bs) : ∃ a ∈ as, R a b := by
  induction h with
  | nil => cases hb
  | cons hab _ ih =>
    rcases List.mem_cons.1 hb with rfl | hb
    · exact ⟨_, List.mem_cons_self, hab⟩
    · obtain ⟨a, ha, hab⟩ := ih hb
      exact ⟨a, List.mem_cons_of_mem _ ha, hab⟩

/-- All types of a descriptor are flat, and no parameter has an entity at the leaf of its type. -/
structure Descriptor.WellTyped (d : Descriptor) : Prop where
  flat : ∀ t ∈ d.types, t.IsFlat
  params : ∀ m ∈ d.methods, ∀ p ∈ m.params, p.type.leafEntity? = none

namespace Introspection

variable {entity : String}

/-- The field behind an accessor, unless it is ignored or its type has no counterpart. -/
def field? (known ignored : KeySet String) (a : MemberDef × String × AccessorKind) : Option Field :=
  if ignored.contains a.2.1 then none
  else (mapType known (typeOf a.1.returns)).toOption.map fun type =>
    ⟨a.2.1, a.1.name, a.2.2, typeOf a.1.returns, type⟩

/-- The warning about the accessor of an ignored field whose type has no counterpart. -/
def ignoredWarning? (known : KeySet String) (entity : String) (ignored : KeySet String)
    (a : MemberDef × String × AccessorKind) : Option String :=
  if ignored.contains a.2.1 && (mapType known (typeOf a.1.returns)).toOption.isNone then
    some (entity ++ ": dropped ignored field '" ++ a.2.1 ++ "' of unmappable type '" ++
      a.1.returns ++ "'")
  else none

/-- What is wrong with the accessor of a field that is not ignored. -/
def fieldFault? (known : KeySet String) (entity : String) (ignored : KeySet String)
    (a : MemberDef × String × AccessorKind) : Option GenerationError :=
  match mapType known (typeOf a.1.returns) with
  | .ok _ => none
  | .error e =>
    if ignored.contains a.2.1 then none else some (.unmappableType entity a.1.name e.type)

section Fields

variable {ignored : KeySet String} {as : List (MemberDef × String × AccessorKind)}
  {a : MemberDef × String × AccessorKind} {fields : List Field} {warnings : List String}

theorem field?_eq_some_iff {f : Field} : field? known ignored a = some f ↔
    ignored.contains a.2.1 = false ∧ ∃ type, mapType known (typeOf a.1.returns) = .ok type ∧
      f = ⟨a.2.1, a.1.name, a.2.2, typeOf a.1.returns, type⟩ := by
  cases hignored : ignored.contains a.2.1 with
  | true => simp [field?, hignored]
  | false =>
    cases htype : mapType known (typeOf a.1.returns) with
    | error e => simp [field?, hignored, htype, Except.toOption]
    | ok type => simp [field?, hignored, htype, Except.toOption, eq_comm]

theorem fieldFault?_eq_none_iff : fieldFault? known entity ignored a = none ↔
    (ignored.contains a.2.1 = false → ∃ type, mapType known (typeOf a.1.returns) = .ok type) := by
  cases htype : mapType known (typeOf a.1.returns) with
  | error e => cases hignored : ignored.contains a.2.1 <;> simp [fieldFault?, hignored, htype]
  | ok type => simp [fieldFault?, htype]

/-- Every accessor is dealt with by itself; the first fault counts. -/
theorem fieldsOf_eq (as : List (MemberDef × String × AccessorKind)) :
    fieldsOf known entity ignored as =
      match as.findSome? (fieldFault? known entity ignored) with
      | some e => .error e
      | none => .ok (as.filterMap (field? known ignored),
          as.filterMap (ignoredWarning? known entity ignored)) := by
  induction as with
  | nil => rfl
  | cons a as ih =>
    obtain ⟨m, name, kind⟩ := a
    rw [fieldsOf, ih, List.findSome?_cons, List.filterMap_cons, List.filterMap_cons, fieldFault?,
      field?, ignoredWarning?]
    -- what comes after the accessor is left as it is
    cases hignored : ignored.contains name with
    | true =>
      cases htype : mapType known (typeOf m.returns) with
      | error e =>
        cases as.findSome? (fieldFault? known entity ignored) <;>
          simp [bind, Except.bind, pure, Except.pure, Except.toOption]
      | ok type =>
        cases as.findSome? (fieldFault? known entity ignored) <;> simp [Except.toOption]
    | false =>
      cases htype : mapType known (typeOf m.returns) with
      | error e => simp
      | ok type =>
        cases as.findSome? (fieldFault? known entity ignored) <;>
          simp [bind, Except.bind, pure, Except.pure, Except.toOption]

theorem fieldsOf_eq_ok_iff : fieldsOf known entity ignored as = .ok (fields, warnings) ↔
    (∀ a ∈ as, fieldFault? known entity ignored a = none) ∧
      fields = as.filterMap (field? known ignored) ∧
      warnings = as.filterMap (ignoredWarning? known entity ignored) := by
  rw [fieldsOf_eq, ← List.findSome?_eq_none_iff]
  cases as.findSome? (fieldFault? known entity ignored) with
  | none => simp [eq_comm]
  | some e => simp

/-- Without a fault there is a field for each accessor that is not ignored. -/
theorem forall₂_field? (h : ∀ a ∈ as, fieldFault? known entity ignored a = none) :
    List.Forall₂ (fun a f => field? known ignored a = some f)
      (as.filter fun a => !ignored.contains a.2.1) (as.filterMap (field? known ignored)) := by
  induction as with
  | nil => exact .nil
  | cons a as ih =>
    obtain ⟨ha, has⟩ := List.forall_mem_cons.1 h
    rw [List.filterMap_cons]
    cases hignored : ignored.contains a.2.1 with
    | true =>
      have hnone : field? known ignored a = none := by simp [field?, hignored]
      rw [List.filter_cons_of_neg (by simp [hignored]), hnone]
      exact ih has
    | false =>
      obtain ⟨type, htype⟩ := fieldFault?_eq_none_iff.1 ha hignored
      have hsome := field?_eq_some_iff.2 ⟨hignored, type, htype, rfl⟩
      rw [List.filter_cons_of_pos (by simp [hignored]), hsome]
      exact .cons hsome (ih has)

/-- The type of a field is the one of its accessor. -/
theorem mapType_of_fieldsOf (h : fieldsOf known entity ignored as = .ok (fields, warnings)) :
    ∀ f ∈ fields, mapType known f.sourceType = .ok f.type := by
  intro f hf
  obtain ⟨-, rfl, -⟩ := fieldsOf_eq_ok_iff.1 h
  obtain ⟨a, -, ha⟩ := List.mem_filterMap.1 hf
  obtain ⟨-, type, htype, rfl⟩ := field?_eq_some_iff.1 ha
  exact htype

end Fields

/-- The parameters of an operation are those of its signature, with their types. -/
theorem mapType_of_paramsOf {operation : String} {ps : List (String × SourceType)}
    {params : List Param} (h : paramsOf known entity operation ps = .ok params) :
    ∀ p ∈ params, (p.name, p.sourceType) ∈ ps ∧ mapType known p.sourceType = .ok p.type := by
  induction ps generalizing params with
  | nil =>
    cases h
    nofun
  | cons q ps ih =>
    obtain ⟨name, source⟩ := q
    simp only [paramsOf] at h
    split at h
    · cases h
    · next type htype =>
      obtain ⟨params', hrest, h⟩ := bind_eq_ok_iff.1 h
      cases h
      exact List.forall_mem_cons.2 ⟨⟨List.mem_cons_self, htype⟩, fun p hp =>
        ⟨List.mem_cons_of_mem _ (ih hrest p hp).1, (ih hrest p hp).2⟩⟩

theorem map_of_paramsOf {operation : String} {ps : List (String × SourceType)}
    {params : List Param} (h : paramsOf known entity operation ps = .ok params) :
    (params.map fun p => (p.name, p.sourceType)) = ps := by
  induction ps generalizing params with
  | nil =>
    cases h
    rfl
  | cons q ps ih =>
    obtain ⟨name, source⟩ := q
    simp only [paramsOf] at h
    split at h
    · cases h
    · obtain ⟨params', hrest, h⟩ := bind_eq_ok_iff.1 h
      cases h
      rw [List.map_cons, ih hrest]

/-- How an operation is made of its signature and its kind. -/
theorem exists_of_describeMethod {config : EntityConfig} {s : Signature} {kind : OperationKind}
    {m : Method} (h : describeMethod known entity config s kind = .ok m) :
    ∃ params returns, paramsOf known entity s.name s.params = .ok params ∧
      mapReturn known s.returns = .ok returns ∧
      m = { kind, name := s.name, rootName := config.operationNames.find? s.name, params,
            returnSource := s.returns, returns,
            target := if returns.isList then .collection else .single,
            asynchronous := kind == .readOne } := by
  obtain ⟨params, hparams, h⟩ := bind_eq_ok_iff.1 h
  split at h
  · cases h
  · next returns hreturns =>
    cases h
    exact ⟨params, returns, hparams, hreturns, rfl⟩

/-- The operations without an entity as an argument are described in order, and there is a warning
for each of the others. -/
theorem forall₂_of_methodsOf {config : EntityConfig} {es : List (Signature × OperationKind)}
    {methods : List Method} {warnings : List String}
    (h : methodsOf known entity config es = .ok (methods, warnings)) :
    List.Forall₂ (fun e m => describeMethod known entity config e.1 e.2 = .ok m)
      (es.filter fun e => (entityParam? known e.1).isNone) methods ∧
    warnings = es.filterMap fun e => (entityParam? known e.1).map fun p =>
      entity ++ ": dropped '" ++ e.1.name ++ "', argument '" ++ p.1 ++ "' has entity type '" ++
        p.2 ++ "'" := by
  induction es generalizing methods warnings with
  | nil =>
    cases h
    exact ⟨.nil, rfl⟩
  | cons e es ih =>
    obtain ⟨s, kind⟩ := e
    simp only [methodsOf] at h
    split at h
    · next param target hparam =>
      obtain ⟨⟨methods', warnings'⟩, hrest, h⟩ := bind_eq_ok_iff.1 h
      cases h
      obtain ⟨hmethods, rfl⟩ := ih hrest
      rw [List.filter_cons_of_neg (by simp [hparam]), List.filterMap_cons]
      simp only [hparam, Option.map_some, and_true]
      exact hmethods
    · next hparam =>
      obtain ⟨m, hm, h⟩ := bind_eq_ok_iff.1 h
      obtain ⟨⟨methods', warnings'⟩, hrest, h⟩ := bind_eq_ok_iff.1 h
      cases h
      obtain ⟨hmethods, rfl⟩ := ih hrest
      rw [List.filter_cons_of_pos (by simp [hparam]), List.filterMap_cons]
      simp only [hparam, Option.map_none, and_true]
      exact .cons hm hmethods

/-- An operation that is kept has no parameter with an entity at its leaf. -/
theorem exists_of_methodsOf {config : EntityConfig} {es : List (Signature × OperationKind)}
    {methods : List Method} {warnings : List String}
    (h : methodsOf known entity config es = .ok (methods, warnings)) :
    ∀ m ∈ methods, ∃ e ∈ es, entityParam? known e.1 = none ∧
      describeMethod known entity config e.1 e.2 = .ok m := by
  intro m hm
  obtain ⟨e, he, hmethod⟩ := exists_of_mem_forall₂ (forall₂_of_methodsOf h).1 hm
  obtain ⟨he, hnone⟩ := List.mem_filter.1 he
  exact ⟨e, he, Option.isNone_iff_eq_none.1 hnone, hmethod⟩

theorem leafEntity?_of_entityParam? {s : Signature} (h : entityParam? known s = none)
    {name : String} (hp : (name, t) ∈ s.params) (ht : mapType known t = .ok g) :
    g.leafEntity? = none := by
  have hnone := List.findSome?_eq_none_iff.1 h (name, t) hp
  simpa [ht] using hnone

/-- The operations of an entity are made from the classified members of its service, and there is at
least one of them. -/
theorem exists_of_describeMethods {c : ClassDef} {config : EntityConfig} {methods : List Method}
    {warnings : List String} (h : describeMethods known entity c config = .ok (methods, warnings)) :
    ∃ classified rest,
      (Classifier.ofConfig config).classifyAll entity (c.accessibleMembers.map signatureOf) =
        .ok classified ∧
      methodsOf known entity config classified.operations = .ok (methods, rest) ∧
      warnings = classified.warnings ++ rest ∧ methods ≠ [] := by
  simp only [describeMethods] at h
  split at h
  · cases h
  · obtain ⟨classified, hclassified, h⟩ := bind_eq_ok_iff.1 h
    split at h
    · cases h
    · obtain ⟨⟨methods', rest⟩, hmethods, h⟩ := bind_eq_ok_iff.1 h
      simp only at h
      split at h
      · cases h
      · next hsome =>
        cases h
        exact ⟨classified, rest, hclassified, hmethods, rfl, by simpa using hsome⟩

end Introspection

open Introspection in
/-- All types of a descriptor are made from types of the catalog. -/
theorem exists_mapReturn_of_describe {catalog : Catalog} {modules : ModulePaths} {entity : String}
    {config : EntityConfig} {x : Described}
    (h : describe catalog known modules entity config = .ok x) :
    ∀ g ∈ x.descriptor.types, ∃ t, mapReturn known t = .ok g := by
  obtain ⟨c, s, fieldWarnings, methodWarnings, -, -, hfields, hmethods, -⟩ := exists_of_describe h
  obtain ⟨classified, rest, -, hmethods, -⟩ := exists_of_describeMethods hmethods
  intro g hg
  rcases List.mem_append.1 hg with hg | hg
  · obtain ⟨f, hf, rfl⟩ := List.mem_map.1 hg
    exact ⟨f.sourceType, mapReturn_of_mapType (mapType_of_fieldsOf hfields f hf)⟩
  · obtain ⟨m, hm, hg⟩ := List.mem_flatMap.1 hg
    obtain ⟨e, -, -, hmethod⟩ := exists_of_methodsOf hmethods m hm
    obtain ⟨params, returns, hparams, hreturns, rfl⟩ := exists_of_describeMethod hmethod
    rcases List.mem_append.1 hg with hg | hg
    · obtain ⟨p, hp, rfl⟩ := List.mem_map.1 hg
      exact ⟨p.sourceType, mapReturn_of_mapType (mapType_of_paramsOf hparams p hp).2⟩
    · obtain rfl := List.mem_singleton.1 hg
      exact ⟨e.1.returns, hreturns⟩

open Introspection in
/-- **Descriptors of entities are well typed.** -/
theorem wellTyped_of_describe {catalog : Catalog} {modules : ModulePaths} {entity : String}
    {config : EntityConfig} {x : Described}
    (h : describe catalog known modules entity config = .ok x) : x.descriptor.WellTyped := by
  constructor
  · intro g hg
    obtain ⟨t, ht⟩ := exists_mapReturn_of_describe h g hg
    exact isFlat_of_mapReturn ht
  · intro m hm p hp
    obtain ⟨c, s, fieldWarnings, methodWarnings, -, -, -, hmethods, -⟩ := exists_of_describe h
    obtain ⟨classified, rest, -, hmethods, -⟩ := exists_of_describeMethods hmethods
    obtain ⟨e, -, hnone, hmethod⟩ := exists_of_methodsOf hmethods m hm
    obtain ⟨params, returns, hparams, -, rfl⟩ := exists_of_describeMethod hmethod
    obtain ⟨hmem, htype⟩ := mapType_of_paramsOf hparams p hp
    exact leafEntity?_of_entityParam? hnone hmem htype

/-! ### An entity that can be described -/

namespace Introspection

/-- A catalog of parts.  The service reads a part under two names, takes a part as an argument and
has an operation without a kind. -/
def partsCatalog : Catalog where
  classes := [
    ⟨"Part", [
      { name := "getPartId", returns := "long" }, { name := "getLabel", returns := "String" },
      { name := "getSpares", returns := "List<Part>" }, { name := "getMade", returns := "Date" }]⟩,
    ⟨"PartService", [
      { name := "getPart", params := [⟨"id", "long"⟩], returns := "Part" },
      { name := "fetchPart", params := [⟨"partId", "long"⟩], returns := "Part" },
      { name := "getParts", returns := "List<Part>" },
      { name := "updatePart", params := [⟨"part", "Part"⟩], returns := "Part" },
      { name := "reindex" }, { name := "countAll", returns := "int", isStatic := true },
      { name := "findByLabel", params := [⟨"label", "String"⟩], returns := "Part[]" }]⟩]

/-- An override says how parts are read, and a field of an unknown type is ignored. -/
def partsConfig : EntityConfig where
  service := "PartService"
  ignoredFields := .ofList ["made"]
  methods := { readOne := some "fetchPart" }

/-- The description of a part. -/
def partDescribed : Except GenerationError Described :=
  describe partsCatalog (.ofList partsCatalog.classNames) {} "Part" partsConfig

end Introspection

end GraphLayer
