import GraphLayer.Proofs.Rendering.RootViews

/-!
# The gates before the files of all entities

* `Descriptor.RefersTo`, the entities at the leaves of the types of an entity, and `Dangles`, those
  that are none of the run;
* `rootKeys`, the fields of the roots with these, `declarers`, the entities behind one, and
  `IsLeastRepeated`, the least that comes from several operations;
* `exists_of_resolveReferences` and `exists_of_checkRootFields`: what is reported is the first and
  the least of what is wrong;
* `resolveReferences_eq_ok_iff` and `checkRootFields_eq_ok_iff`: what the gates pass;
* `gates_decide`: both gates are exact, whatever the order of the entities.
-/

namespace GraphLayer

/-- The name of an entity is at the leaf of the type of a field, a parameter or a result. -/
inductive Descriptor.RefersTo (d : Descriptor) (name : String) : Prop
  | field {f : Field} (hf : f ∈ d.fields) (hleaf : f.type.leafEntity? = some name)
  | param {m : Method} {p : Param} (hm : m ∈ d.methods) (hp : p ∈ m.params)
      (hleaf : p.type.leafEntity? = some name)
  | result {m : Method} (hm : m ∈ d.methods) (hleaf : m.returns.leafEntity? = some name)

theorem Descriptor.refersTo_iff {d : Descriptor} {name : String} :
    d.RefersTo name ↔ ∃ t ∈ d.types, t.leafEntity? = some name := by
  constructor
  · intro h
    cases h with
    | field hf hleaf => exact ⟨_, List.mem_append_left _ (List.mem_map_of_mem hf), hleaf⟩
    | param hm hp hleaf =>
      refine ⟨_, List.mem_append_right _ (List.mem_flatMap.2 ⟨_, hm, ?_⟩), hleaf⟩
      exact List.mem_append_left _ (List.mem_map_of_mem hp)
    | result hm hleaf =>
      refine ⟨_, List.mem_append_right _ (List.mem_flatMap.2 ⟨_, hm, ?_⟩), hleaf⟩
      exact List.mem_append_right _ List.mem_cons_self
  · rintro ⟨t, ht, hleaf⟩
    rcases List.mem_append.1 ht with ht | ht
    · obtain ⟨f, hf, rfl⟩ := List.mem_map.1 ht
      exact .field hf hleaf
    · obtain ⟨m, hm, ht⟩ := List.mem_flatMap.1 ht
      rcases List.mem_append.1 ht with ht | ht
      · obtain ⟨p, hp, rfl⟩ := List.mem_map.1 ht
        exact .param hm hp hleaf
      · obtain rfl := List.mem_singleton.1 ht
        exact .result hm hleaf

namespace Rendering

variable {ds : List Descriptor} {d : Descriptor}

/-! ### References -/

/-- The entity refers to one that is none of the run. -/
def Dangles (ds : List Descriptor) (d : Descriptor) (name : String) : Prop :=
  d.RefersTo name ∧ name ∉ ds.map Descriptor.name

theorem mem_keys_entityRefs {name : String} : name ∈ d.entityRefs.keys ↔ d.RefersTo name := by
  rw [Descriptor.entityRefs, KeySet.mem_keys_ofList, List.mem_filterMap, Descriptor.refersTo_iff]

theorem danglingRef?_eq_none_iff :
    danglingRef? (ds.map Descriptor.name) d = none ↔ ∀ name, ¬ Dangles ds d name := by
  rw [danglingRef?, List.find?_eq_none]
  simp only [mem_keys_entityRefs, decide_eq_true_eq, Dangles, not_and]

/-- The least reference that dangles is found. -/
theorem least_of_danglingRef? {target : String}
    (h : danglingRef? (ds.map Descriptor.name) d = some target) :
    Dangles ds d target ∧ ∀ name, Dangles ds d name → target ≤ name := by
  obtain ⟨htarget, before, after, hkeys, hbefore⟩ := List.find?_eq_some_iff_append.1 h
  have hmem : target ∈ d.entityRefs.keys := by simp [hkeys]
  refine ⟨⟨mem_keys_entityRefs.1 hmem, by simpa using htarget⟩, ?_⟩
  rintro name ⟨hrefers, hnone⟩
  have hname := mem_keys_entityRefs.2 hrefers
  refine Ascending.le_of_append d.entityRefs.ascending hkeys hname fun hearlier => ?_
  have hknown := hbefore name hearlier
  simp [hnone] at hknown

/-- What is wrong is the first entity with a reference that dangles, and its least one. -/
theorem exists_of_resolveReferences {e : GenerationError}
    (h : resolveReferences ds = .error e) :
    ∃ before d after target, ds = before ++ d :: after ∧
      (∀ b ∈ before, ∀ name, ¬ Dangles ds b name) ∧ Dangles ds d target ∧
      (∀ name, Dangles ds d name → target ≤ name) ∧ e = .danglingReference d.name target := by
  unfold resolveReferences at h
  dsimp only at h
  split at h
  · next entity target hfound =>
    obtain rfl := Except.error.inj h
    obtain ⟨before, d, after, hds, hd, hbefore⟩ := List.findSome?_eq_some_iff.1 hfound
    obtain ⟨name, hname, heq⟩ := Option.map_eq_some_iff.1 hd
    obtain ⟨rfl, rfl⟩ := Prod.mk.inj heq
    obtain ⟨hdangles, hleast⟩ := least_of_danglingRef? hname
    refine ⟨before, d, after, name, hds, fun b hb => ?_, hdangles, hleast, rfl⟩
    exact danglingRef?_eq_none_iff.1 (Option.map_eq_none_iff.1 (hbefore b hb))
  · cases h

theorem resolveReferences_eq_ok_iff_dangles : resolveReferences ds = .ok () ↔
    ∀ d ∈ ds, ∀ name, ¬ Dangles ds d name := by
  constructor
  · intro h d hd
    apply danglingRef?_eq_none_iff.1
    unfold resolveReferences at h
    dsimp only at h
    split at h
    · cases h
    · next hnone => exact Option.map_eq_none_iff.1 (List.findSome?_eq_none_iff.1 hnone d hd)
  · intro h
    cases hrefs : resolveReferences ds with
    | ok => rfl
    | error e =>
      obtain ⟨before, d, after, target, rfl, -, hdangles, -⟩ := exists_of_resolveReferences hrefs
      exact absurd hdangles (h d (by simp) target)

/-- The references are resolved exactly when every entity at the leaf of a type is one of the
run. -/
theorem resolveReferences_eq_ok_iff : resolveReferences ds = .ok () ↔
    ∀ d ∈ ds, ∀ t ∈ d.types, ∀ name, t.leafEntity? = some name →
      name ∈ ds.map Descriptor.name := by
  rw [resolveReferences_eq_ok_iff_dangles]
  simp only [Dangles, Descriptor.refersTo_iff, not_and, Decidable.not_not]
  constructor
  · intro h d hd t ht name hleaf
    exact h d hd name ⟨t, ht, hleaf⟩
  · rintro h d hd name ⟨t, ht, hleaf⟩
    exact h d hd t ht name hleaf

/-! ### Root fields -/

/-- The root of an operation and its field in it. -/
def rootKey (o : Descriptor × Method) : String × String :=
  (o.2.kind.root, o.2.rootField o.1.name)

/-- The roots and fields of all operations. -/
def rootKeys (ds : List Descriptor) : List (String × String) := (operations ds).map rootKey

/-- The entities of the operations behind a field of a root, in their order. -/
def declarers (ds : List Descriptor) (root field : String) : List String :=
  ((operations ds).filter fun o => rootKey o = (root, field)).map fun o => o.1.name

/-- A field of a root comes from several operations, and no smaller one does; a root comes before
its fields. -/
structure IsLeastRepeated (ds : List Descriptor) (root field : String) : Prop where
  repeated : 1 < (rootKeys ds).count (root, field)
  least : ∀ r f, 1 < (rootKeys ds).count (r, f) → root < r ∨ root = r ∧ field ≤ f

theorem rootUses_eq (ds : List Descriptor) :
    rootUses ds = (operations ds).map fun o => ⟨(rootKey o).1, (rootKey o).2, o.1.name⟩ := by
  rw [rootUses, operations, List.map_flatMap]
  simp only [List.map_map]
  rfl

theorem owners_eq (ds : List Descriptor) (root field : String) :
    owners (rootUses ds) root field = declarers ds root field := by
  rw [owners, rootUses_eq, List.filter_map, List.map_map, declarers]
  have hfilter : (operations ds).filter ((fun u : RootUse => u.root == root && u.field == field) ∘
      fun o => ⟨(rootKey o).1, (rootKey o).2, o.1.name⟩) =
        (operations ds).filter fun o => rootKey o = (root, field) := by
    apply List.filter_congr
    intro o _
    simp [Prod.ext_iff, Bool.beq_eq_decide_eq]
  rw [hfilter]
  rfl

/-- A field of a root is declared as often as it occurs. -/
theorem length_declarers (ds : List Descriptor) (root field : String) :
    (declarers ds root field).length = (rootKeys ds).count (root, field) := by
  rw [declarers, List.length_map, ← List.countP_eq_length_filter, rootKeys, List.count,
    List.countP_map]
  apply List.countP_congr
  intro o _
  simp

theorem mem_fields_of_owners {us : List RootUse} {root field : String}
    (h : 0 < (owners us root field).length) :
    field ∈ (us.filter fun u => u.root == root).map RootUse.field := by
  obtain ⟨entity, hentity⟩ := List.exists_mem_of_length_pos h
  obtain ⟨u, hu, -⟩ := List.mem_map.1 hentity
  obtain ⟨hu, hkey⟩ := List.mem_filter.1 hu
  obtain ⟨hroot, hfield⟩ := Bool.and_eq_true_iff.1 hkey
  exact List.mem_map.2 ⟨u, List.mem_filter.2 ⟨hu, hroot⟩, beq_iff_eq.1 hfield⟩

theorem repeatedField?_eq_none_iff {us : List RootUse} {root : String} :
    repeatedField? us root = none ↔ ∀ field, (owners us root field).length ≤ 1 := by
  rw [repeatedField?, List.findSome?_eq_none_iff]
  constructor
  · intro h field
    by_contra hmany
    have hused : 0 < (owners us root field).length := by omega
    have hnone := h field (KeySet.mem_keys_ofList.2 (mem_fields_of_owners hused))
    rw [if_pos (by omega)] at hnone
    cases hnone
  · intro h field _
    have hfew := h field
    exact if_neg (by omega)

/-- The least field of the root that comes from several operations is found. -/
theorem exists_of_repeatedField? {us : List RootUse} {root : String} {e : GenerationError}
    (h : repeatedField? us root = some e) :
    ∃ field, e = .duplicateRootField field root (owners us root field) ∧
      1 < (owners us root field).length ∧
      ∀ f, 1 < (owners us root f).length → field ≤ f := by
  obtain ⟨before, field, after, hkeys, hfield, hbefore⟩ := List.findSome?_eq_some_iff.1 h
  dsimp only at hfield
  split at hfield
  · next hmany =>
    refine ⟨field, (Option.some.inj hfield).symm, hmany, fun f hf => ?_⟩
    have hused : 0 < (owners us root f).length := by omega
    have hmem := KeySet.mem_keys_ofList.2 (mem_fields_of_owners hused)
    refine Ascending.le_of_append (Dict.ascending _) hkeys hmem fun hearlier => ?_
    have hnone := hbefore f hearlier
    rw [if_pos hf] at hnone
    cases hnone
  · cases hfield

/-- There are two roots. -/
theorem root_of_repeated {root field : String} (h : 1 < (rootKeys ds).count (root, field)) :
    root = "Mutation" ∨ root = "Query" := by
  have hused : 0 < (rootKeys ds).count (root, field) := by omega
  obtain ⟨o, -, ho⟩ := List.mem_map.1 (List.count_pos_iff.1 hused)
  obtain ⟨hroot, -⟩ := Prod.mk.inj ho
  rw [← hroot, OperationKind.root]
  by_cases hmutation : o.2.kind.isMutation = true <;> simp [hmutation]

/-- What is wrong is the least field that comes from several operations, of the lesser root. -/
theorem exists_of_checkRootFields {e : GenerationError} (h : checkRootFields ds = .error e) :
    ∃ root field, IsLeastRepeated ds root field ∧
      e = .duplicateRootField field root (declarers ds root field) := by
  unfold checkRootFields at h
  dsimp only at h
  split at h
  · next e' hfound =>
    obtain rfl := Except.error.inj h
    rcases Option.or_eq_some_iff.1 hfound with hmutation | ⟨hnone, hquery⟩
    · obtain ⟨field, he, hmany, hleast⟩ := exists_of_repeatedField? hmutation
      simp only [owners_eq, length_declarers] at he hmany hleast
      -- `Mutation` comes before `Query`, whose fields do not matter then
      refine ⟨"Mutation", field, ⟨hmany, fun r f hf => ?_⟩, he⟩
      rcases root_of_repeated hf with rfl | rfl
      · exact .inr ⟨rfl, hleast f hf⟩
      · exact .inl (by decide)
    · obtain ⟨field, he, hmany, hleast⟩ := exists_of_repeatedField? hquery
      have hfew := repeatedField?_eq_none_iff.1 hnone
      simp only [owners_eq, length_declarers] at he hmany hleast hfew
      refine ⟨"Query", field, ⟨hmany, fun r f hf => ?_⟩, he⟩
      rcases root_of_repeated hf with rfl | rfl
      · have hone := hfew f
        omega
      · exact .inr ⟨rfl, hleast f hf⟩
  · cases h

theorem checkRootFields_eq_ok_iff : checkRootFields ds = .ok () ↔ (rootKeys ds).Nodup := by
  rw [List.nodup_iff_count]
  constructor
  · rintro h ⟨root, field⟩
    by_contra hmany
    unfold checkRootFields at h
    dsimp only at h
    split at h
    · cases h
    · next hnone =>
      obtain ⟨hmutation, hquery⟩ := Option.or_eq_none_iff.1 hnone
      have hfewMutation := repeatedField?_eq_none_iff.1 hmutation field
      have hfewQuery := repeatedField?_eq_none_iff.1 hquery field
      rw [owners_eq, length_declarers] at hfewMutation hfewQuery
      rcases root_of_repeated (Nat.lt_of_not_le hmany) with rfl | rfl
      · exact hmany hfewMutation
      · exact hmany hfewQuery
  · intro h
    cases hcheck : checkRootFields ds with
    | ok => rfl
    | error e =>
      obtain ⟨root, field, hleast, -⟩ := exists_of_checkRootFields hcheck
      have hone := h (root, field)
      have hmany := hleast.repeated
      omega

/-- There is only one least. -/
theorem IsLeastRepeated.unique {root root' field field' : String}
    (h : IsLeastRepeated ds root field) (h' : IsLeastRepeated ds root' field') :
    root = root' ∧ field = field' := by
  rcases h.least root' field' h'.repeated with hlt | ⟨rfl, hle⟩ <;>
    rcases h'.least _ _ h.repeated with hlt' | ⟨heq, hle'⟩
  · exact absurd hlt' (String.lt_asymm hlt)
  · exact absurd (heq ▸ hlt) (String.lt_irrefl root)
  · exact absurd hlt' (String.lt_irrefl root)
  · exact ⟨rfl, String.le_antisymm hle hle'⟩

/-! ### The order of the entities -/

variable {ds' : List Descriptor}

theorem operations_perm (h : ds'.Perm ds) : (operations ds').Perm (operations ds) :=
  h.flatMap_right _

theorem rootKeys_perm (h : ds'.Perm ds) : (rootKeys ds').Perm (rootKeys ds) :=
  (operations_perm h).map rootKey

theorem declarers_perm (h : ds'.Perm ds) (root field : String) :
    (declarers ds' root field).Perm (declarers ds root field) :=
  ((operations_perm h).filter _).map _

theorem IsLeastRepeated.perm {root field : String} (hperm : ds'.Perm ds)
    (h : IsLeastRepeated ds root field) : IsLeastRepeated ds' root field := by
  constructor
  · rw [(rootKeys_perm hperm).count_eq]
    exact h.repeated
  · intro r f hf
    rw [(rootKeys_perm hperm).count_eq] at hf
    exact h.least r f hf

theorem resolveReferences_perm (h : ds'.Perm ds) :
    resolveReferences ds' = .ok () ↔ resolveReferences ds = .ok () := by
  rw [resolveReferences_eq_ok_iff, resolveReferences_eq_ok_iff]
  simp only [h.mem_iff, (h.map Descriptor.name).mem_iff]

theorem checkRootFields_perm (h : ds'.Perm ds) :
    checkRootFields ds' = .ok () ↔ checkRootFields ds = .ok () := by
  rw [checkRootFields_eq_ok_iff, checkRootFields_eq_ok_iff, (rootKeys_perm h).nodup_iff]

/-- The same field of the same root is found, with the same entities in the new order. -/
theorem exists_of_checkRootFields_perm {root field : String} {names : List String}
    (hperm : ds'.Perm ds)
    (h : checkRootFields ds = .error (.duplicateRootField field root names)) :
    ∃ names', checkRootFields ds' = .error (.duplicateRootField field root names') ∧
      names'.Perm names := by
  obtain ⟨root₁, field₁, hleast, he⟩ := exists_of_checkRootFields h
  obtain ⟨rfl, rfl, rfl⟩ : field = field₁ ∧ root = root₁ ∧ names = declarers ds root₁ field₁ := by
    simpa using he
  cases hcheck : checkRootFields ds' with
  | ok =>
    rw [(checkRootFields_perm hperm).1 hcheck] at h
    cases h
  | error e =>
    obtain ⟨root₂, field₂, hleast', rfl⟩ := exists_of_checkRootFields hcheck
    obtain ⟨rfl, rfl⟩ := (hleast.perm hperm).unique hleast'
    exact ⟨_, rfl, declarers_perm hperm root field⟩

/-- Both gates are exact: each passes what it has to and reports the least of what is wrong. The
order of the entities is for the reports alone: it changes neither what passes nor which field of
which root is reported. -/
theorem gates_decide (ds : List Descriptor) :
    (resolveReferences ds = .ok () ↔
      ∀ d ∈ ds, ∀ name, d.RefersTo name → name ∈ ds.map Descriptor.name) ∧
    (∀ e, resolveReferences ds = .error e → ∃ before d after target, ds = before ++ d :: after ∧
      (∀ b ∈ before, ∀ name, ¬ Dangles ds b name) ∧ Dangles ds d target ∧
      (∀ name, Dangles ds d name → target ≤ name) ∧ e = .danglingReference d.name target) ∧
    (checkRootFields ds = .ok () ↔ (rootKeys ds).Nodup) ∧
    (∀ e, checkRootFields ds = .error e → ∃ root field, IsLeastRepeated ds root field ∧
      e = .duplicateRootField field root (declarers ds root field)) ∧
    ∀ ds', ds'.Perm ds →
      (resolveReferences ds' = .ok () ↔ resolveReferences ds = .ok ()) ∧
      (checkRootFields ds' = .ok () ↔ checkRootFields ds = .ok ()) ∧
      ∀ field root names, checkRootFields ds = .error (.duplicateRootField field root names) →
        ∃ names', checkRootFields ds' = .error (.duplicateRootField field root names') ∧
          names'.Perm names := by
  refine ⟨?_, fun e he => exists_of_resolveReferences he, checkRootFields_eq_ok_iff,
    fun e he => exists_of_checkRootFields he, fun ds' hperm => ?_⟩
  · rw [resolveReferences_eq_ok_iff_dangles]
    simp only [Dangles, not_and, Decidable.not_not]
  · refine ⟨resolveReferences_perm hperm, checkRootFields_perm hperm, ?_⟩
    intro field root names h
    exact exists_of_checkRootFields_perm hperm h

/-- An entity with a field of another one, whose single operation is behind the field `find`. -/
def finding (name other : String) : Descriptor where
  name := name
  service := ⟨"Store", "crate::Store"⟩
  fields := [⟨"other", "getOther", .getter, .named other, .entity other true⟩]
  methods := [⟨.readOne, "find", some "find", [], .named name, .entity name true, .single, false⟩]
  overwrite := {}
  ignoredFields := .empty

/-- Neither gate passes two such entities with others that are missing. In the other order another
reference is reported, and the same root field. -/
theorem gates_decide_finding :
    let ds := [finding "Part" "Shop", finding "Bin" "Zone"]
    (∃ before d after target, ds = before ++ d :: after ∧
      (∀ b ∈ before, ∀ name, ¬ Dangles ds b name) ∧ Dangles ds d target ∧
      (∀ name, Dangles ds d name → target ≤ name) ∧
      GenerationError.danglingReference "Part" "Shop" = .danglingReference d.name target) ∧
    (∃ root field, IsLeastRepeated ds root field ∧
      GenerationError.duplicateRootField "find" "Query" ["Part", "Bin"] =
        .duplicateRootField field root (declarers ds root field)) ∧
    resolveReferences ds.reverse = .error (.danglingReference "Bin" "Zone") ∧
    ∃ names, checkRootFields ds.reverse = .error (.duplicateRootField "find" "Query" names) ∧
      names.Perm ["Part", "Bin"] := by
  intro ds
  obtain ⟨-, hrefs, -, hroots, hperm⟩ := gates_decide ds
  have hreported : resolveReferences ds = .error (.danglingReference "Part" "Shop") ∧
      checkRootFields ds = .error (.duplicateRootField "find" "Query" ["Part", "Bin"]) ∧
      resolveReferences ds.reverse = .error (.danglingReference "Bin" "Zone") := by
    decide +kernel
  obtain ⟨hdangling, hrepeated, hreverse⟩ := hreported
  obtain ⟨-, -, hsame⟩ := hperm ds.reverse (List.reverse_perm ds)
  exact ⟨hrefs _ hdangling, hroots _ hrepeated, hreverse, hsame _ _ _ hrepeated⟩

end Rendering

end GraphLayer
