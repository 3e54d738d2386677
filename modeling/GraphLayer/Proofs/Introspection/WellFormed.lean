import GraphLayer.Proofs.Introspection.UniqueKinds

/-!
# Well-formed descriptors

What a renderer relies on without a check of its own.

* `GraphType.depth`, the number of lists around the leaf of a type;
* `contains_of_mapReturn`: the entities at the leaves of types are known;
* `nodup_accessors` and `map_name_of_fieldsOf`: the fields are those of different accessors that are
  not ignored;
* `Descriptor.IdentifiedBy`, where the identifier of an entity is from, and `identifiedBy_of_id?`;
* `fieldNames_of_describe` and `method_of_describe`: what holds of each field and each operation;
* `Descriptor.WellFormed` and `wellFormed_of_describe`: the descriptors of entities are well formed.
-/

namespace GraphLayer

/-! ### Types -/

/-- The number of lists around the leaf. -/
def GraphType.depth : GraphType → Nat
  | scalar _ _ => 0
  | entity _ _ => 0
  | list item _ => item.depth + 1

theorem GraphType.IsFlat.depth_le_one {g : GraphType} (h : g.IsFlat) : g.depth ≤ 1 := by
  cases g with
  | scalar s nullable => exact Nat.zero_le 1
  | entity name nullable => exact Nat.zero_le 1
  | list item nullable =>
    have hitem : item.isList = false := h
    cases item with
    | scalar s nullable => exact Nat.le_refl 1
    | entity name nullable => exact Nat.le_refl 1
    | list item nullable => cases hitem

variable {known : KeySet String} {t : SourceType} {g : GraphType}

/-- A class that is not known has no counterpart, also as the item of a list. -/
theorem contains_of_mapType (h : mapType known t = .ok g) {e : String}
    (he : g.leafEntity? = some e) : known.contains e = true := by
  fun_induction mapType known t generalizing g with
  | case1 kind => cases h; cases he
  | case2 kind => cases h; cases he
  | case3 => cases h; cases he
  | case4 name hknown =>
    cases h
    obtain rfl : name = e := Option.some.inj he
    exact hknown
  | case5 name hunknown => cases h
  | case6 => cases h
  | case7 item => cases h
  | case8 => cases h
  | case9 item hnested hvoid ih =>
    obtain ⟨inner, hinner, rfl⟩ := map_eq_ok_iff.1 h
    exact ih hinner he

theorem contains_of_mapReturn (h : mapReturn known t = .ok g) {e : String}
    (he : g.leafEntity? = some e) : known.contains e = true := by
  unfold mapReturn at h
  split at h
  · cases h; cases he
  · exact contains_of_mapType h he

/-! ### Fields -/

namespace Introspection

variable {entity : String}

/-- Of the accessors of one field only the first one counts, and none if the field has been seen. -/
theorem nodup_accessors (seen : List String) (ms : List MemberDef) :
    ((accessors seen ms).map fun a => a.2.1).Nodup ∧
      ∀ a ∈ accessors seen ms, a.2.1 ∉ seen := by
  induction ms generalizing seen with
  | nil => exact ⟨List.nodup_nil, nofun⟩
  | cons m ms ih =>
    rw [accessors]
    split
    · exact ih seen
    · next name kind _ =>
      split
      · exact ih seen
      · next hnew =>
        obtain ⟨hnodup, hlater⟩ := ih (name :: seen)
        constructor
        · rw [List.map_cons, List.nodup_cons]
          refine ⟨fun hmem => ?_, hnodup⟩
          obtain ⟨a, ha, hname⟩ := List.mem_map.1 hmem
          exact hlater a ha (hname ▸ List.mem_cons_self)
        · intro a ha
          rcases List.mem_cons.1 ha with rfl | ha
          · exact hnew
          · exact fun hseen => hlater a ha (List.mem_cons_of_mem _ hseen)

/-- The fields are those of the accessors, in order, without the ignored ones. -/
theorem map_name_of_fieldsOf {ignored : KeySet String}
    {as : List (MemberDef × String × AccessorKind)} {fields : List Field} {warnings : List String}
    (h : fieldsOf known entity ignored as = .ok (fields, warnings)) :
    fields.map Field.name = (as.map fun a => a.2.1).filter fun name => !ignored.contains name := by
  obtain ⟨hfaultless, rfl, -⟩ := fieldsOf_eq_ok_iff.1 h
  have hnames {as : List (MemberDef × String × AccessorKind)} {fields : List Field}
      (hfields : List.Forall₂ (fun a f => field? known ignored a = some f) as fields) :
      fields.map Field.name = as.map fun a => a.2.1 := by
    induction hfields with
    | nil => rfl
    | cons ha _ ih =>
      obtain ⟨-, type, -, rfl⟩ := field?_eq_some_iff.1 ha
      rw [List.map_cons, List.map_cons, ih]
  rw [hnames (forall₂_field? hfaultless), List.filter_map]
  rfl

end Introspection

/-! ### Identifiers -/

namespace Descriptor

variable {d : Descriptor} {i : Identifier}

/-- Where the identifier of an entity is from: it is the single parameter of the operation that
reads one, or a field with the name of an identifier. -/
inductive IdentifiedBy (d : Descriptor) (i : Identifier) : Prop
  | parameter {m : Method} {p : Param} {nullable : Bool} (hread : d.method? .readOne = some m)
      (hparams : m.params = [p]) (hname : p.name = i.name)
      (htype : p.type = .scalar i.scalar nullable)
  | field {f : Field} {nullable : Bool} (hmem : f ∈ d.fields)
      (hconvention : f.name = "id" ∨ f.name = Naming.idField d.name) (hname : f.name = i.name)
      (htype : f.type = .scalar i.scalar nullable)

/-- An identifier is a whole number. -/
theorem exists_of_identifierOf? {name : String} {g : GraphType}
    (h : identifierOf? name g = some i) :
    i.name = name ∧ (i.scalar = .int ∨ i.scalar = .long) ∧
      ∃ nullable, g = .scalar i.scalar nullable := by
  unfold identifierOf? at h
  split at h
  · next nullable =>
    cases h
    exact ⟨rfl, .inl rfl, nullable, rfl⟩
  · next nullable =>
    cases h
    exact ⟨rfl, .inr rfl, nullable, rfl⟩
  · cases h

/-- An identifier is a whole number, by which the entity is read or which has the name of one. -/
theorem identifiedBy_of_id? (hone : (d.methods.countP fun m => m.kind == .readOne) ≤ 1)
    (h : d.id? = some i) : (i.scalar = .int ∨ i.scalar = .long) ∧ d.IdentifiedBy i := by
  rcases Option.or_eq_some_iff.1 h with h | ⟨-, h⟩
  · obtain ⟨m, hfound, h⟩ := Option.bind_eq_some_iff.1 h
    obtain ⟨p, hhead, h⟩ := Option.bind_eq_some_iff.1 h
    obtain ⟨hname, hscalar, nullable, htype⟩ := exists_of_identifierOf? h
    have hmem := List.mem_of_find?_eq_some hfound
    have hreads := List.find?_some hfound
    obtain ⟨hkind, hlength⟩ := Bool.and_eq_true_iff.1 hreads
    -- there is no other operation that reads one, with more parameters or none
    have hread : d.method? .readOne = some m :=
      find?_of_countP_le_one hone (fun _ h => h) hmem hkind
    obtain ⟨q, hparams⟩ := List.length_eq_one_iff.1 (beq_iff_eq.1 hlength)
    rw [hparams, List.head?_cons, Option.some.injEq] at hhead
    exact ⟨hscalar, .parameter hread (hhead ▸ hparams) hname.symm htype⟩
  · obtain ⟨f, hfound, h⟩ := Option.bind_eq_some_iff.1 h
    obtain ⟨hname, hscalar, nullable, htype⟩ := exists_of_identifierOf? h
    have hconvention : f.name = "id" ∨ f.name = Naming.idField d.name := by
      simpa using List.find?_some hfound
    exact ⟨hscalar, .field (List.mem_of_find?_eq_some hfound) hconvention hname.symm htype⟩

/-! ### Descriptors -/

/-- What is relied on in a descriptor that is made with some known types and ignored fields. -/
structure WellFormed (known ignored : KeySet String) (d : Descriptor) : Prop where
  operations : d.methods ≠ []
  nodup : (d.fields.map Field.name).Nodup
  unignored : ∀ f ∈ d.fields, ignored.contains f.name = false
  params : ∀ m ∈ d.methods, ∀ p ∈ m.params, p.type.leafEntity? = none
  /-- There are no lists of lists. -/
  depth : ∀ g ∈ d.types, g.depth ≤ 1
  leaves : ∀ g ∈ d.types, ∀ e, g.leafEntity? = some e → known.contains e = true
  asynchronous : ∀ m ∈ d.methods, m.asynchronous = true ↔ m.kind = .readOne
  target : ∀ m ∈ d.methods, m.target = .collection ↔ m.returns.isList = true
  /-- The identifier, if there is one. -/
  identifier : ∀ i, d.id? = some i → (i.scalar = .int ∨ i.scalar = .long) ∧ d.IdentifiedBy i

end Descriptor

section Described

variable {catalog : Catalog} {modules : ModulePaths} {entity : String} {config : EntityConfig}
  {x : Described} (h : describe catalog known modules entity config = .ok x)

include h

open Introspection in
/-- The fields of an entity have different names, and none of them is ignored. -/
theorem fieldNames_of_describe : (x.descriptor.fields.map Field.name).Nodup ∧
    ∀ f ∈ x.descriptor.fields, config.ignoredFields.contains f.name = false := by
  obtain ⟨c, s, fieldWarnings, methodWarnings, -, -, hfields, -⟩ := exists_of_describe h
  have hnames : x.descriptor.fields.map Field.name =
      ((accessors [] c.accessibleMembers).map fun a => a.2.1).filter fun name =>
        !config.ignoredFields.contains name := map_name_of_fieldsOf hfields
  constructor
  · rw [hnames]
    exact (nodup_accessors [] c.accessibleMembers).1.filter _
  · intro f hf
    have hmem : f.name ∈ x.descriptor.fields.map Field.name := List.mem_map_of_mem hf
    rw [hnames, List.mem_filter] at hmem
    simpa using hmem.2

open Introspection in
/-- An operation waits exactly if it reads one entity, and is about a collection exactly if its
result is a list. -/
theorem method_of_describe {m : Method} (hm : m ∈ x.descriptor.methods) :
    (m.asynchronous = true ↔ m.kind = .readOne) ∧
      (m.target = .collection ↔ m.returns.isList = true) := by
  obtain ⟨c, s, fieldWarnings, methodWarnings, -, -, -, hmethods, -⟩ := exists_of_describe h
  obtain ⟨classified, rest, -, hmethods, -, -⟩ := exists_of_describeMethods hmethods
  obtain ⟨e, -, -, hmethod⟩ := exists_of_methodsOf hmethods m hm
  obtain ⟨params, returns, -, -, rfl⟩ := exists_of_describeMethod hmethod
  refine ⟨beq_iff_eq, ?_⟩
  cases returns.isList <;> simp

end Described

open Introspection in
/-- **Descriptors of entities are well formed.** -/
theorem wellFormed_of_describe {catalog : Catalog} {modules : ModulePaths} {entity : String}
    {config : EntityConfig} {x : Described}
    (h : describe catalog known modules entity config = .ok x) :
    x.descriptor.WellFormed known config.ignoredFields := by
  obtain ⟨c, s, fieldWarnings, methodWarnings, -, -, -, hmethods, -⟩ := exists_of_describe h
  obtain ⟨classified, rest, -, -, -, hsome⟩ := exists_of_describeMethods hmethods
  obtain ⟨hnodup, hunignored⟩ := fieldNames_of_describe h
  have htyped := wellTyped_of_describe h
  exact
    { operations := hsome
      nodup := hnodup
      unignored := hunignored
      params := htyped.params
      depth := fun g hg => (htyped.flat g hg).depth_le_one
      leaves := by
        intro g hg e he
        obtain ⟨t, ht⟩ := exists_mapReturn_of_describe h g hg
        exact contains_of_mapReturn ht he
      asynchronous := fun m hm => (method_of_describe h hm).1
      target := fun m hm => (method_of_describe h hm).2
      identifier := fun i hi => Descriptor.identifiedBy_of_id? (countP_kind_le_one h rfl) hi }

open Introspection in
/-- A part has three fields and three operations, and is identified by the parameter of the
operation that reads it. -/
theorem wellFormed_of_describe_part : ∃ x, partDescribed = .ok x ∧
    x.descriptor.fields.map Field.name = ["partId", "label", "spares"] ∧
    x.descriptor.methods.map Method.asynchronous = [true, false, false] ∧
    x.descriptor.id? = some ⟨"partId", .long⟩ ∧
    x.descriptor.WellFormed (.ofList partsCatalog.classNames) partsConfig.ignoredFields := by
  have hvalue : (partDescribed.toOption.map fun x => (x.descriptor.fields.map Field.name,
      x.descriptor.methods.map Method.asynchronous, x.descriptor.id?)) =
        some (["partId", "label", "spares"], [true, false, false], some ⟨"partId", .long⟩) := by
    decide +kernel
  obtain ⟨x, hx, hvalue⟩ := Option.map_eq_some_iff.1 hvalue
  obtain ⟨hfields, hvalue⟩ := Prod.mk.inj hvalue
  obtain ⟨hmethods, hid⟩ := Prod.mk.inj hvalue
  have hdescribed : partDescribed = .ok x := eq_ok_of_toOption hx
  exact ⟨x, hdescribed, hfields, hmethods, hid, wellFormed_of_describe hdescribed⟩

end GraphLayer
