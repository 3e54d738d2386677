import GraphLayer.Proofs.Introspection.Guarantees
import GraphLayer.Proofs.Schema.Reading
import GraphLayer.Proofs.Schema.Servable
import GraphLayer.Schema.Entities

/-!
# The schema of all entities together

* `takenNames`, the names that entities leave to scalars and roots;
* `Descriptor.Named`: all names of a descriptor are names of the schema language;
* `Coherent`, descriptors that refer to nothing but each other and whose names are their own;
* `Coherent.read?_text`: their schema is read back from its text;
* `Coherent.servable_merged_iff`: their schema can be served exactly if every entity has a field and
  some operation is a query;
* `Coherent.of_holds`: nothing else can be wrong with it.
-/

namespace GraphLayer

open Schema

/-! ### Types -/

namespace GraphType

variable {g : GraphType}

theorem leaf_mark (nullable : Bool) (t : TypeRef) : (t.mark nullable).leaf = t.leaf := by
  cases nullable <;> rfl

theorem depth_mark (nullable : Bool) (t : TypeRef) : (t.mark nullable).depth = t.depth := by
  cases nullable <;> rfl

theorem markedOnce_mark {t : TypeRef} (hbare : t.isBare = true) (h : t.MarkedOnce)
    (nullable : Bool) : (t.mark nullable).MarkedOnce := by
  cases nullable with
  | true => exact h
  | false => exact ⟨hbare, h⟩

theorem markedOnce_toRef (g : GraphType) : g.toRef.MarkedOnce := by
  induction g with
  | scalar s n => exact markedOnce_mark (t := .named s.name) rfl trivial n
  | entity name n => exact markedOnce_mark (t := .named name) rfl trivial n
  | list item n ih => exact markedOnce_mark (t := .list item.toRef) rfl ih n

theorem depth_toRef_of_not_isList (h : g.isList = false) : g.toRef.depth = 0 := by
  cases g with
  | scalar s n => exact depth_mark n (.named s.name)
  | entity name n => exact depth_mark n (.named name)
  | list item n => cases h

/-- A type that is no list of lists can be read back. -/
theorem IsFlat.normal (h : g.IsFlat) : g.toRef.Normal := by
  refine ⟨markedOnce_toRef g, ?_⟩
  have hdepth : g.toRef.depth ≤ 1 := by
    cases g with
    | scalar s n =>
      rw [depth_toRef_of_not_isList (g := .scalar s n) rfl]
      exact Nat.zero_le 1
    | entity name n =>
      rw [depth_toRef_of_not_isList (g := .entity name n) rfl]
      exact Nat.zero_le 1
    | list item n =>
      have hitem : item.toRef.depth = 0 := depth_toRef_of_not_isList h
      have hlist : (list item n).toRef.depth = 1 := by
        rw [toRef, depth_mark, TypeRef.depth, hitem]
      exact Nat.le_of_eq hlist
  have hlimit : 1 + 2 ≤ nestingLimit := by decide
  exact Nat.le_trans (Nat.add_le_add_right hdepth 2) hlimit

/-- At the leaf of a type there is a scalar or an entity, and a schema names it there. -/
theorem leaf_toRef_cases (g : GraphType) :
    g.leafScalar?.map Scalar.name = some g.toRef.leaf ∧ g.leafEntity? = none ∨
      g.leafScalar? = none ∧ g.leafEntity? = some g.toRef.leaf := by
  induction g with
  | scalar s n => exact .inl ⟨congrArg some (leaf_mark n (.named s.name)).symm, rfl⟩
  | entity name n => exact .inr ⟨rfl, congrArg some (leaf_mark n (.named name)).symm⟩
  | list item n ih =>
    rw [toRef, leaf_mark]
    exact ih

/-- The entity at the leaf of a type is named there in a schema. -/
theorem leaf_toRef_of_leafEntity? {name : String} (h : g.leafEntity? = some name) :
    g.toRef.leaf = name := by
  rcases leaf_toRef_cases g with ⟨-, hnone⟩ | ⟨-, hsome⟩
  · rw [h] at hnone
    cases hnone
  · exact Option.some.inj (hsome.symm.trans h)

/-- A type without an entity at its leaf has a scalar there. -/
theorem exists_scalar_of_leafEntity? (h : g.leafEntity? = none) :
    ∃ s, g.leafScalar? = some s ∧ g.toRef.leaf = s.name := by
  rcases leaf_toRef_cases g with ⟨hsome, -⟩ | ⟨-, hsome⟩
  · obtain ⟨s, hs, hname⟩ := Option.map_eq_some_iff.1 hsome
    exact ⟨s, hs, hname.symm⟩
  · rw [h] at hsome
    cases hsome

end GraphType

theorem Schema.TypeRef.named_iff {t : TypeRef} : t.Named ↔ isName t.leaf.toList = true := by
  induction t with
  | named name => exact Iff.rfl
  | list item ih => exact ih
  | nonNull inner ih => exact ih

/-- All names of a descriptor are names of the schema language. -/
structure Descriptor.Named (d : Descriptor) : Prop where
  name : isName d.name.toList = true
  fields : ∀ f ∈ d.fields, isName f.name.toList = true
  roots : ∀ m ∈ d.methods, isName (m.rootField d.name).toList = true
  params : ∀ m ∈ d.methods, ∀ p ∈ m.params, isName p.name.toList = true

instance (d : Descriptor) : Decidable d.Named :=
  decidable_of_iff (isName d.name.toList = true ∧ (∀ f ∈ d.fields, isName f.name.toList = true) ∧
      (∀ m ∈ d.methods, isName (m.rootField d.name).toList = true) ∧
      ∀ m ∈ d.methods, ∀ p ∈ m.params, isName p.name.toList = true)
    ⟨fun ⟨hname, hfields, hroots, hparams⟩ => ⟨hname, hfields, hroots, hparams⟩,
      fun h => ⟨h.name, h.fields, h.roots, h.params⟩⟩

namespace Schema

/-- The names that entities leave to scalars and roots. -/
def takenNames : List String :=
  ["Int", "Float", "String", "Boolean", "ID", "Long", "Query", "Mutation"]

/-- Descriptors that refer to nothing but each other and whose names are their own. -/
structure Coherent (ds : List Descriptor) : Prop where
  distinct : (ds.map Descriptor.name).Nodup
  free : ∀ d ∈ ds, d.name ∉ takenNames
  named : ∀ d ∈ ds, d.Named
  wellTyped : ∀ d ∈ ds, d.WellTyped
  resolved : ∀ d ∈ ds, ∀ t ∈ d.types, ∀ name, t.leafEntity? = some name →
    name ∈ ds.map Descriptor.name

/-! ### Fields -/

/-- The field stands for a field or an operation of one of some entities. -/
def Made (ds : List Descriptor) (f : FieldDef) : Prop :=
  ∃ d ∈ ds, (∃ g ∈ d.fields, f = g.toDef) ∨ ∃ m ∈ d.methods, f = m.toDef d.name

variable {ds : List Descriptor} {f : FieldDef}

/-- The type of a field is one of the types of an entity. -/
theorem Made.type (h : Made ds f) : ∃ d ∈ ds, ∃ t ∈ d.types, f.type = t.toRef := by
  obtain ⟨d, hd, ⟨g, hg, rfl⟩ | ⟨m, hm, rfl⟩⟩ := h
  · exact ⟨d, hd, g.type, List.mem_append_left _ (List.mem_map_of_mem hg), rfl⟩
  · have hmethod : m.returns ∈ m.types := List.mem_append_right _ List.mem_cons_self
    exact ⟨d, hd, m.returns,
      List.mem_append_right _ (List.mem_flatMap.2 ⟨m, hm, hmethod⟩), rfl⟩

/-- The arguments of a field are parameters of an operation. -/
theorem Made.arguments (h : Made ds f) {a : Argument} (ha : a ∈ f.arguments) :
    ∃ d ∈ ds, ∃ m ∈ d.methods, ∃ p ∈ m.params, a = p.toArgument := by
  obtain ⟨d, hd, ⟨g, hg, rfl⟩ | ⟨m, hm, rfl⟩⟩ := h
  · cases ha
  · obtain ⟨p, hp, rfl⟩ := List.mem_map.1 ha
    exact ⟨d, hd, m, hm, p, hp, rfl⟩

theorem mem_types_of_param {d : Descriptor} {m : Method} {p : Param} (hm : m ∈ d.methods)
    (hp : p ∈ m.params) : p.type ∈ d.types :=
  List.mem_append_right _ (List.mem_flatMap.2
    ⟨m, hm, List.mem_append_left _ (List.mem_map_of_mem hp)⟩)

theorem Made.references (h : Made ds f) {name : String} (hname : name ∈ f.references) :
    ∃ d ∈ ds, ∃ t ∈ d.types, name = t.toRef.leaf := by
  rcases List.mem_cons.1 hname with rfl | hname
  · obtain ⟨d, hd, t, ht, htype⟩ := h.type
    exact ⟨d, hd, t, ht, congrArg TypeRef.leaf htype⟩
  · obtain ⟨a, ha, rfl⟩ := List.mem_map.1 hname
    obtain ⟨d, hd, m, hm, p, hp, rfl⟩ := h.arguments ha
    exact ⟨d, hd, p.type, mem_types_of_param hm hp, rfl⟩

theorem made_of_queryFields (h : f ∈ ds.flatMap Descriptor.queryFields) : Made ds f := by
  obtain ⟨d, hd, h⟩ := List.mem_flatMap.1 h
  obtain ⟨m, hm, rfl⟩ := List.mem_map.1 h
  exact ⟨d, hd, .inr ⟨m, (List.mem_filter.1 hm).1, rfl⟩⟩

theorem made_of_mutationFields (h : f ∈ ds.flatMap Descriptor.mutationFields) : Made ds f := by
  obtain ⟨d, hd, h⟩ := List.mem_flatMap.1 h
  obtain ⟨m, hm, rfl⟩ := List.mem_map.1 h
  exact ⟨d, hd, .inr ⟨m, (List.mem_filter.1 hm).1, rfl⟩⟩

/-- There is a field of `Query` exactly if some operation is a query. -/
theorem flatMap_queryFields_ne_nil : ds.flatMap Descriptor.queryFields ≠ [] ↔
    ∃ d ∈ ds, ∃ m ∈ d.methods, m.kind.isMutation = false := by
  constructor
  · intro h
    obtain ⟨f, hf⟩ := List.exists_mem_of_ne_nil _ h
    obtain ⟨d, hd, hf⟩ := List.mem_flatMap.1 hf
    obtain ⟨m, hm, -⟩ := List.mem_map.1 hf
    obtain ⟨hm, hkind⟩ := List.mem_filter.1 hm
    exact ⟨d, hd, m, hm, by simpa using hkind⟩
  · rintro ⟨d, hd, m, hm, hkind⟩
    have hquery : m ∈ d.queries := List.mem_filter.2 ⟨hm, by simp [hkind]⟩
    exact List.ne_nil_of_mem (List.mem_flatMap.2 ⟨d, hd, List.mem_map_of_mem hquery⟩)

/-! ### Definitions -/

theorem mem_rootOf {define : String → List FieldDef → Definition} {root : String}
    {fields : List FieldDef} {x : Definition} :
    x ∈ rootOf define root fields ↔ fields ≠ [] ∧ x = define root fields := by
  unfold rootOf
  split
  · next h => simp [List.isEmpty_iff.1 h]
  · next h => simp [mt List.isEmpty_iff.2 h]

/-- What is defined. -/
theorem mem_merged {x : Definition} : x ∈ merged ds ↔
    usesLong ds = true ∧ x = .scalar Scalar.long.name ∨
      (∃ d ∈ ds, x = d.objectDef) ∨
      (ds.flatMap Descriptor.queryFields ≠ [] ∧
        x = .object "Query" (ds.flatMap Descriptor.queryFields)) ∨
      (ds.flatMap Descriptor.mutationFields ≠ [] ∧
        x = .object "Mutation" (ds.flatMap Descriptor.mutationFields)) := by
  have hlong : x ∈ (if usesLong ds then [Definition.scalar Scalar.long.name] else []) ↔
      usesLong ds = true ∧ x = .scalar Scalar.long.name := by
    split
    · next h => simp [h]
    · next h => simp [h]
  have hobjects : x ∈ ds.map Descriptor.objectDef ↔ ∃ d ∈ ds, x = d.objectDef := by
    simp only [List.mem_map, eq_comm]
  rw [merged, rootsOf, List.mem_append, List.mem_append, List.mem_append, hlong, hobjects,
    mem_rootOf, mem_rootOf, or_assoc]

/-- A definition declares the scalar that is not built in, or an object with fields of entities. -/
theorem scalar_or_object_of_mem_merged {x : Definition} (h : x ∈ merged ds) :
    (usesLong ds = true ∧ x = .scalar Scalar.long.name) ∨
      ∃ name fields, x = .object name fields ∧ (∀ f ∈ fields, Made ds f) ∧
        ((∃ d ∈ ds, d.name = name ∧ fields = d.fields.map Field.toDef) ∨
          fields ≠ [] ∧ (name = "Query" ∨ name = "Mutation")) := by
  rcases mem_merged.1 h with h | ⟨d, hd, rfl⟩ | ⟨hne, rfl⟩ | ⟨hne, rfl⟩
  · exact .inl h
  · refine .inr ⟨_, _, rfl, fun f hf => ?_, .inl ⟨d, hd, rfl, rfl⟩⟩
    obtain ⟨g, hg, rfl⟩ := List.mem_map.1 hf
    exact ⟨d, hd, .inl ⟨g, hg, rfl⟩⟩
  · exact .inr ⟨_, _, rfl, fun f hf => made_of_queryFields hf, .inr ⟨hne, .inl rfl⟩⟩
  · exact .inr ⟨_, _, rfl, fun f hf => made_of_mutationFields hf, .inr ⟨hne, .inr rfl⟩⟩

theorem object_of_mem_owned {o : String × List FieldDef} (h : o ∈ Document.owned (merged ds)) :
    (∀ f ∈ o.2, Made ds f) ∧ ((∃ d ∈ ds, d.name = o.1 ∧ o.2 = d.fields.map Field.toDef) ∨
      o.2 ≠ [] ∧ (o.1 = "Query" ∨ o.1 = "Mutation")) := by
  obtain ⟨x, hx, ho⟩ := List.mem_filterMap.1 h
  rcases scalar_or_object_of_mem_merged hx with ⟨-, rfl⟩ | ⟨name, fields, rfl, hfields⟩
  · cases ho
  · obtain rfl := Option.some.inj ho
    exact hfields

theorem mem_owned_of_object {name : String} {fields : List FieldDef}
    (h : Definition.object name fields ∈ merged ds) : (name, fields) ∈ Document.owned (merged ds) :=
  List.mem_filterMap.2 ⟨_, h, rfl⟩

theorem mem_objects_merged {name : String} (h : name ∈ Document.objects (merged ds)) :
    name ∈ ds.map Descriptor.name ∨ name = "Query" ∨ name = "Mutation" := by
  obtain ⟨x, hx, hname⟩ := List.mem_filterMap.1 h
  rcases scalar_or_object_of_mem_merged hx with ⟨-, rfl⟩ | ⟨name', fields, rfl, -, hfields⟩
  · cases hname
  · obtain rfl := Option.some.inj hname
    rcases hfields with ⟨d, hd, rfl, -⟩ | ⟨-, hroot⟩
    · exact .inl (List.mem_map_of_mem hd)
    · exact .inr hroot

/-- The schema declares every entity. -/
theorem mem_declared_of_entity {name : String} (h : name ∈ ds.map Descriptor.name) :
    name ∈ Document.declared (merged ds) := by
  obtain ⟨d, hd, rfl⟩ := List.mem_map.1 h
  exact List.mem_append_right _
    (List.mem_filterMap.2 ⟨d.objectDef, mem_merged.2 (.inr (.inl ⟨d, hd, rfl⟩)), rfl⟩)

/-- The schema declares every scalar at the leaf of a type, unless it is built in. -/
theorem mem_declared_of_scalar {d : Descriptor} (hd : d ∈ ds) {t : GraphType} (ht : t ∈ d.types)
    {s : Scalar} (hs : t.leafScalar? = some s) : s.name ∈ Document.declared (merged ds) := by
  -- the one scalar that is not built in is declared as soon as a type ends in it
  by_cases hlong : s = .long
  · subst hlong
    have hused : d.scalars.contains .long = true := by
      have hmem : Scalar.long ∈ d.types.filterMap GraphType.leafScalar? :=
        List.mem_filterMap.2 ⟨t, ht, hs⟩
      rw [List.contains_iff_mem]
      exact List.mem_filter.2 ⟨by decide, List.contains_iff_mem.2 hmem⟩
    have hmerged : usesLong ds = true := List.any_eq_true.2 ⟨d, hd, hused⟩
    exact List.mem_append_right _
      (List.mem_filterMap.2 ⟨_, mem_merged.2 (.inl ⟨hmerged, rfl⟩), rfl⟩)
  · have hbuiltin : ∀ s : Scalar, s ≠ .long → s.name ∈ builtins := by
      intro s hs
      cases s with
      | long => exact absurd rfl hs
      | _ => decide
    exact List.mem_append_left _ (hbuiltin s hlong)

/-- A schema whose declared names are pairwise distinct has distinct objects. -/
theorem Document.distinct_of_nodup {d : Document} (h : (declared d).Nodup) : Distinct d := by
  rintro before after name fields rfl hname
  rw [declared_append] at h
  exact (List.nodup_append.1 h).2.2 name hname name List.mem_cons_self rfl

/-- What is declared, if everything that may be declared is. -/
theorem declared_merged_sublist (ds : List Descriptor) :
    (Document.declared (merged ds)).Sublist
      (builtins ++ [Scalar.long.name] ++ (ds.map Descriptor.name ++ ["Query", "Mutation"])) := by
  have hlong : ((if usesLong ds then [Definition.scalar Scalar.long.name] else []).filterMap
      Definition.declared?).Sublist [Scalar.long.name] := by
    split
    · exact List.Sublist.refl _
    · exact List.nil_sublist _
  have hroot (root : String) (fields : List FieldDef) :
      ((rootOf .object root fields).filterMap Definition.declared?).Sublist [root] := by
    unfold rootOf
    split
    · exact List.nil_sublist _
    · exact List.Sublist.refl _
  have hobjects : (ds.map Descriptor.objectDef).filterMap Definition.declared? =
      ds.map Descriptor.name := by
    rw [List.filterMap_map, ← List.filterMap_eq_map]
    rfl
  rw [Document.declared, merged, rootsOf, List.filterMap_append, List.filterMap_append,
    List.filterMap_append, hobjects, List.append_assoc, List.append_assoc]
  exact (List.Sublist.refl _).append
    (hlong.append ((List.Sublist.refl _).append ((hroot _ _).append (hroot _ _))))

/-! ### Coherent descriptors -/

namespace Coherent

variable (h : Coherent ds)
include h

theorem ne_of_mem_takenNames {d : Descriptor} (hd : d ∈ ds) {name : String}
    (hname : name ∈ takenNames) : d.name ≠ name := by
  rintro rfl
  exact h.free d hd hname

/-- No name is declared twice. -/
theorem nodup_declared : (Document.declared (merged ds)).Nodup := by
  have hnodup : (ds.map Descriptor.name ++ takenNames).Nodup := by
    refine List.nodup_append.2 ⟨h.distinct, by decide, fun name hname taken htaken => ?_⟩
    obtain ⟨d, hd, rfl⟩ := List.mem_map.1 hname
    exact h.ne_of_mem_takenNames hd htaken
  have hperm : (ds.map Descriptor.name ++ takenNames).Perm
      (builtins ++ [Scalar.long.name] ++ (ds.map Descriptor.name ++ ["Query", "Mutation"])) :=
    List.perm_append_comm_assoc _ (builtins ++ [Scalar.long.name]) ["Query", "Mutation"]
  exact (declared_merged_sublist ds).nodup (hperm.nodup_iff.1 hnodup)

/-- A name at the leaf of a type is declared, and a name of the schema language. -/
theorem leaf_toRef {d : Descriptor} (hd : d ∈ ds) {t : GraphType} (ht : t ∈ d.types) :
    t.toRef.leaf ∈ Document.declared (merged ds) ∧ isName t.toRef.leaf.toList = true := by
  cases hleaf : t.leafEntity? with
  | none =>
    obtain ⟨s, hs, hname⟩ := GraphType.exists_scalar_of_leafEntity? hleaf
    have hscalar : isName s.name.toList = true := by cases s <;> decide
    rw [hname]
    exact ⟨mem_declared_of_scalar hd ht hs, hscalar⟩
  | some name =>
    have hmem := h.resolved d hd t ht name hleaf
    rw [GraphType.leaf_toRef_of_leafEntity? hleaf]
    obtain ⟨d', hd', rfl⟩ := List.mem_map.1 hmem
    exact ⟨mem_declared_of_entity hmem, (h.named d' hd').name⟩

/-- Every type is declared. -/
theorem closed : ∀ name ∈ Document.references (merged ds),
    name ∈ Document.declared (merged ds) := by
  intro name hname
  obtain ⟨o, ho, hname⟩ := List.mem_flatMap.1 hname
  obtain ⟨f, hf, hname⟩ := List.mem_flatMap.1 hname
  obtain ⟨d, hd, t, ht, rfl⟩ := ((object_of_mem_owned ho).1 f hf).references hname
  exact (h.leaf_toRef hd ht).1

/-- No argument has an object type. -/
theorem inputs : ∀ u ∈ Document.uses (merged ds),
    u.argument.type.leaf ∉ Document.objects (merged ds) := by
  intro u hu
  obtain ⟨o, ho, hu⟩ := List.mem_flatMap.1 hu
  obtain ⟨f, hf, hu⟩ := List.mem_flatMap.1 hu
  obtain ⟨a, ha, rfl⟩ := List.mem_map.1 hu
  obtain ⟨d, hd, m, hm, p, hp, rfl⟩ := ((object_of_mem_owned ho).1 f hf).arguments ha
  obtain ⟨s, -, hleaf⟩ :=
    GraphType.exists_scalar_of_leafEntity? ((h.wellTyped d hd).params m hm p hp)
  -- a parameter ends in a scalar, and no object has the name of a scalar
  have htaken : s.name ∈ takenNames ∧ s.name ≠ "Query" ∧ s.name ≠ "Mutation" := by
    cases s <;> decide
  show p.type.toRef.leaf ∉ _
  rw [hleaf]
  intro hmem
  rcases mem_objects_merged hmem with hmem | hmem | hmem
  · obtain ⟨d', hd', hname⟩ := List.mem_map.1 hmem
    exact h.ne_of_mem_takenNames hd' htaken.1 hname
  · exact htaken.2.1 hmem
  · exact htaken.2.2 hmem

/-! ### Reading it back -/

theorem named_toRef {d : Descriptor} (hd : d ∈ ds) {t : GraphType} (ht : t ∈ d.types) :
    t.toRef.Named :=
  TypeRef.named_iff.2 (h.leaf_toRef hd ht).2

theorem named_of_made {f : FieldDef} (hf : Made ds f) : f.Named := by
  have htype : f.type.Named := by
    obtain ⟨d, hd, t, ht, htype⟩ := hf.type
    exact htype ▸ h.named_toRef hd ht
  have hname : isName f.name.toList = true := by
    obtain ⟨d, hd, ⟨g, hg, rfl⟩ | ⟨m, hm, rfl⟩⟩ := hf
    · exact (h.named d hd).fields g hg
    · exact (h.named d hd).roots m hm
  refine ⟨hname, fun a ha => ?_, htype⟩
  obtain ⟨d, hd, m, hm, p, hp, rfl⟩ := hf.arguments ha
  exact ⟨(h.named d hd).params m hm p hp, h.named_toRef hd (mem_types_of_param hm hp)⟩

theorem normal_of_made {f : FieldDef} (hf : Made ds f) : f.Normal := by
  constructor
  · intro a ha
    obtain ⟨d, hd, m, hm, p, hp, rfl⟩ := hf.arguments ha
    exact ((h.wellTyped d hd).flat _ (mem_types_of_param hm hp)).normal
  · obtain ⟨d, hd, t, ht, htype⟩ := hf.type
    rw [htype]
    exact ((h.wellTyped d hd).flat t ht).normal

theorem named_merged : Document.Named (merged ds) := by
  intro x hx
  rcases scalar_or_object_of_mem_merged hx with ⟨-, rfl⟩ | ⟨name, fields, rfl, hmade, hfields⟩
  · show isName Scalar.long.name.toList = true
    decide
  · refine ⟨?_, fun f hf => h.named_of_made (hmade f hf)⟩
    rcases hfields with ⟨d, hd, rfl, -⟩ | ⟨-, rfl | rfl⟩
    · exact (h.named d hd).name
    · decide
    · decide

theorem normal_merged : ∀ x ∈ merged ds, Definition.Normal x := by
  intro x hx
  rcases scalar_or_object_of_mem_merged hx with ⟨-, rfl⟩ | ⟨name, fields, rfl, hmade, -⟩
  · trivial
  · exact fun f hf => h.normal_of_made (hmade f hf)

/-- **The schema of all entities is read back from its text**, also after a header without
tokens. -/
theorem read?_text (hds : ds ≠ []) {header : String}
    (hheader : ∀ rest, Scans header.toList [] rest) :
    Document.read? (header ++ Document.text (merged ds)) = some (merged ds) := by
  obtain ⟨d, hd⟩ := List.exists_mem_of_ne_nil ds hds
  have hne : merged ds ≠ [] := List.ne_nil_of_mem (mem_merged.2 (.inr (.inl ⟨d, hd, rfl⟩)))
  exact h.named_merged.read?_text h.normal_merged hne hheader

/-! ### Serving it -/

/-- The only faults are entities without fields and a lack of queries. -/
theorem of_holds {f : Fault} (hf : f.Holds (merged ds)) :
    (∃ d ∈ ds, d.fields = [] ∧ f = .fieldless d.name) ∨
      f = .noQuery ∧ ∀ d ∈ ds, ∀ m ∈ d.methods, m.kind.isMutation = true := by
  cases f with
  | unreadable => exact hf.elim
  | repeated name =>
    obtain ⟨before, fields, after, hmerged, hname⟩ := hf
    have hdistinct := Document.distinct_of_nodup h.nodup_declared
    exact absurd hname (hdistinct before after name fields hmerged)
  | fieldless name =>
    rcases (object_of_mem_owned hf).2 with ⟨d, hd, rfl, hfields⟩ | ⟨hne, -⟩
    · exact .inl ⟨d, hd, List.map_eq_nil_iff.1 hfields.symm, rfl⟩
    · exact absurd rfl hne
  | undeclared names =>
    obtain ⟨hne, hnames⟩ := hf
    obtain ⟨name, hname⟩ := List.exists_mem_of_ne_nil names hne
    obtain ⟨href, hdecl⟩ := (hnames name).1 hname
    exact absurd (h.closed name href) hdecl
  | objectArgument owner field argument type =>
    obtain ⟨htype, u, hu, -, -, -, rfl⟩ := hf
    exact absurd htype (h.inputs u hu)
  | noQuery =>
    refine .inr ⟨rfl, fun d hd m hm => ?_⟩
    cases hkind : m.kind.isMutation with
    | true => rfl
    | false =>
      have hne := flatMap_queryFields_ne_nil.2 ⟨d, hd, m, hm, hkind⟩
      have hquery := mem_owned_of_object (mem_merged.2 (.inr (.inr (.inl ⟨hne, rfl⟩))))
      exact absurd (hf _ hquery) hne

/-- **When the schema of all entities can be served.** -/
theorem servable_merged_iff : Document.Servable (merged ds) ↔
    (∀ d ∈ ds, d.fields ≠ []) ∧ ∃ d ∈ ds, ∃ m ∈ d.methods, m.kind.isMutation = false := by
  constructor
  · intro hservable
    constructor
    · intro d hd hempty
      have hobject := mem_owned_of_object (mem_merged.2 (.inr (.inl ⟨d, hd, rfl⟩)))
      exact hservable.fields _ hobject (List.map_eq_nil_iff.2 hempty)
    · obtain ⟨⟨name, fields⟩, ho, rfl, hne⟩ := hservable.query
      obtain ⟨x, hx, ho⟩ := List.mem_filterMap.1 ho
      rcases mem_merged.1 hx with ⟨-, rfl⟩ | ⟨d, hd, rfl⟩ | ⟨hqueries, -⟩ | ⟨-, rfl⟩
      · cases ho
      · have hname : d.name = "Query" := congrArg Prod.fst (Option.some.inj ho)
        exact absurd hname (h.ne_of_mem_takenNames hd (by decide))
      · exact flatMap_queryFields_ne_nil.1 hqueries
      · have hname : "Mutation" = "Query" := congrArg Prod.fst (Option.some.inj ho)
        exact absurd hname (by decide)
  · rintro ⟨hfields, d, hd, m, hm, hkind⟩
    refine Document.fault?_eq_none_iff.1 (Option.eq_none_iff_forall_not_mem.2 fun f hf => ?_)
    rcases h.of_holds (Document.holds_of_fault? hf) with ⟨d', hd', hempty, -⟩ | ⟨-, hmutations⟩
    · exact hfields d' hd' hempty
    · exact absurd (hmutations d hd m hm) (by simp [hkind])

end Coherent

end Schema

end GraphLayer
