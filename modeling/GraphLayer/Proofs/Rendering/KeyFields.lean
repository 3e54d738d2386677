import GraphLayer.Proofs.Rendering.Contracts

/-!
# The fields by which batch loaders tell entities apart

A loader that fetches many entities by one call asks each of them for its identifier.  The accessor
that it uses is searched for by name and type among the fields.

* `Named`, the field that has the name and the scalar of an identifier, and `Conventional`, a field
  that has the scalar and a name by convention;
* `keyField?_eq_some_iff`: the first field counts that is one of them;
* `keyField?_eq_some_iff_of_named`: the named field counts exactly if no conventional one comes
  before it, and `keyField?_of_fieldId?`: it does if the identifier is from a field;
* `defines_batchLoader`: what is read in the text of a loader;
* `batch_keyed`: the loaders of described entities are keyed by these fields.
-/

namespace GraphLayer.Rendering

open Code

variable {d : Descriptor} {id : Identifier} {f g : Field} {plan : LoaderPlan}

/-- The field holds an identifier under its own name. -/
def Named (id : Identifier) (f : Field) : Prop :=
  f.type.isScalar id.scalar = true ∧ f.name = id.name

/-- The field may hold an identifier under one of the names that all entities have for it. -/
def Conventional (d : Descriptor) (id : Identifier) (f : Field) : Prop :=
  f.type.isScalar id.scalar = true ∧ (f.name = "id" ∨ f.name = Naming.idField d.name)

instance (id : Identifier) (f : Field) : Decidable (Named id f) :=
  inferInstanceAs (Decidable (_ ∧ _))

/-- The line of a fetch by one call that asks an entity for its identifier. -/
def keyLine (accessor : String) (nullable : Bool) : String :=
  if nullable then "    if let Some(id) = item." ++ accessor ++ "() \x7b"
  else "    found.insert(i64::from(item." ++ accessor ++ "()), Ok(item));"

/-! ### The search -/

/-- The first field counts that is named as the identifier or by convention. -/
theorem keyField?_eq_some_iff : keyField? d id = some f ↔
    (Named id f ∨ Conventional d id f) ∧ ∃ early late, d.fields = early ++ f :: late ∧
      ∀ r ∈ early, ¬ Named id r ∧ ¬ Conventional d id r := by
  have hholds (f : Field) : (f.type.isScalar id.scalar && (f.name == id.name || f.name == "id" ||
      f.name == Naming.idField d.name)) = true ↔ Named id f ∨ Conventional d id f := by
    simp only [Named, Conventional, Bool.and_eq_true, Bool.or_eq_true, beq_iff_eq, or_assoc,
      ← and_or_left]
  rw [keyField?, List.find?_eq_some_iff_append]
  simp only [Bool.not_eq_true', ← Bool.not_eq_true, hholds, not_or]

/-- The named field counts exactly if no conventional one comes before it. -/
theorem keyField?_eq_some_iff_of_named (hnodup : (d.fields.map Field.name).Nodup)
    {early late : List Field} (hfields : d.fields = early ++ g :: late) (hg : Named id g) :
    keyField? d id = some g ↔ ∀ r ∈ early, ¬ Conventional d id r := by
  rw [hfields, List.map_append, List.map_cons, List.nodup_middle] at hnodup
  have hother : ∀ r ∈ early ++ late, r.name ≠ g.name := by
    intro r hr hname
    refine (List.nodup_cons.1 hnodup).1 ?_
    rw [← List.map_append, ← hname]
    exact List.mem_map_of_mem hr
  have honce : g ∉ early ∧ g ∉ late := by
    rw [← not_or, ← List.mem_append]
    exact fun hmem => hother g hmem rfl
  rw [keyField?_eq_some_iff]
  constructor
  · rintro ⟨-, early', late', hfields', hfirst⟩ r hr
    obtain ⟨rfl, -, -⟩ := (List.append_cons_inj_of_notMem honce.1 honce.2).1
      (hfields.symm.trans hfields')
    exact (hfirst r hr).2
  · intro hfirst
    refine ⟨.inl hg, early, late, hfields, fun r hr => ⟨fun hnamed => ?_, hfirst r hr⟩⟩
    exact hother r (List.mem_append_left _ hr) (hnamed.2.trans hg.2.symm)

/-- If the identifier is from a field, this field counts. -/
theorem keyField?_of_fieldId? (hnodup : (d.fields.map Field.name).Nodup)
    (hread : d.readOneId? = none) (hid : d.id? = some id) (hmem : g ∈ d.fields)
    (hg : Named id g) : keyField? d id = some g := by
  rw [Descriptor.id?, hread, Option.none_or] at hid
  obtain ⟨f, hfound, hid⟩ := Option.bind_eq_some_iff.1 hid
  obtain ⟨hname, -, -⟩ := Descriptor.exists_of_identifierOf? hid
  obtain ⟨-, early, late, hfields, hfirst⟩ := List.find?_eq_some_iff_append.1 hfound
  obtain rfl : f = g :=
    List.inj_on_of_nodup_map hnodup (List.mem_of_find?_eq_some hfound) hmem
      (hname.symm.trans hg.2.symm)
  refine (keyField?_eq_some_iff_of_named hnodup hfields hg).2 fun r hr hconventional => ?_
  have hnone := hfirst r hr
  simp only [Bool.not_eq_true', Bool.or_eq_false_iff, beq_eq_false_iff_ne] at hnone
  rcases hconventional.2 with hname | hname
  · exact hnone.1 hname
  · exact hnone.2 hname

/-! ### Plans -/

theorem exists_of_batchFetch? {fetch : Fetch} (h : batchFetch? d id = some fetch) :
    ∃ m ∈ d.methods, ∃ keysNullable f, keyField? d id = some f ∧
      fetch = .batch (identifier m.name) keysNullable (identifier f.accessor) f.type.nullable := by
  obtain ⟨m, hm, h⟩ := Option.bind_eq_some_iff.1 h
  split at h
  · split at h
    · split at h
      · obtain ⟨f, hf, rfl⟩ := Option.map_eq_some_iff.1 h
        exact ⟨m, List.mem_of_find?_eq_some hm, _, f, hf, rfl⟩
      · cases h
    · cases h
  · cases h

theorem exists_of_perIdFetch? {fetch : Fetch} (h : perIdFetch? d = some fetch) :
    ∃ m ∈ d.methods, ∃ nullable, fetch = .perId (identifier m.name) nullable := by
  obtain ⟨m, hm, h⟩ := Option.bind_eq_some_iff.1 h
  obtain ⟨p, -, h⟩ := Option.bind_eq_some_iff.1 h
  split at h
  · exact ⟨m, List.mem_of_find?_eq_some hm, _, (Option.some.inj h).symm⟩
  · cases h

/-- A plan with one call for many identifiers uses the accessor of the field that counts. -/
theorem exists_of_batch (h : LoaderPlan.ofDescriptor? d = some plan) {method accessor : String}
    {keysNullable nullable : Bool}
    (hfetch : plan.fetch = .batch method keysNullable accessor nullable) :
    d.id? = some plan.id ∧ ∃ f, keyField? d plan.id = some f ∧
      accessor = identifier f.accessor ∧ nullable = f.type.nullable := by
  obtain ⟨id, hid, h⟩ := Option.bind_eq_some_iff.1 h
  obtain ⟨fetch, hmade, h⟩ := Option.bind_eq_some_iff.1 h
  obtain rfl := Option.some.inj h
  obtain rfl : fetch = _ := hfetch
  rcases Option.or_eq_some_iff.1 hmade with hmade | ⟨-, hmade⟩
  · obtain ⟨_, -, _, f, hf, heq⟩ := exists_of_batchFetch? hmade
    obtain ⟨-, -, rfl, rfl⟩ := Fetch.batch.inj heq
    exact ⟨hid, f, hf, rfl, rfl⟩
  · obtain ⟨_, -, _, heq⟩ := exists_of_perIdFetch? hmade
    cases heq

theorem keyLine_mem {method accessor : String} {keysNullable nullable : Bool}
    (hfetch : plan.fetch = .batch method keysNullable accessor nullable) :
    keyLine accessor nullable ∈ fetchBody plan := by
  rw [fetchBody, hfetch]
  apply List.mem_append_left
  apply List.mem_append_left
  apply List.mem_append_right
  cases nullable with
  | false => exact List.mem_singleton_self _
  | true => exact List.mem_cons_self

/-! ### The text of a loader -/

/-- The lines of a fetch by one call. -/
theorem lacks_batchBody {method accessor : String} (hmethod : Lacks method "\n\r")
    (haccessor : Lacks accessor "\n\r") (narrow keysNullable nullable : Bool) :
    ∀ l ∈ batchBody narrow method keysNullable accessor nullable, Lacks l "\n\r" := by
  have hcall : Lacks ("let items = self.service." ++ method ++ "(" ++
      (if keysNullable then "Some(keys.into_iter().map(Some).collect())" else "Some(keys)") ++
      ").map_err(LoadError::failed)?;") "\n\r" := by
    simp only [lacks_append]
    exact ⟨⟨⟨⟨by decide, hmethod⟩, by decide⟩, by cases keysNullable <;> decide⟩, by decide⟩
  have hfound : ∀ l ∈ (if nullable then
      ["    if let Some(id) = item." ++ accessor ++ "() \x7b",
       "        found.insert(i64::from(id), Ok(item));",
       "    \x7d"]
      else ["    found.insert(i64::from(item." ++ accessor ++ "()), Ok(item));"]),
      Lacks l "\n\r" := by
    cases nullable with
    | true =>
      have hline : Lacks ("    if let Some(id) = item." ++ accessor ++ "() \x7b") "\n\r" :=
        lacks_append.2 ⟨lacks_append.2 ⟨by decide, haccessor⟩, by decide⟩
      exact List.forall_mem_cons.2 ⟨hline, by decide⟩
    | false =>
      have hline :
          Lacks ("    found.insert(i64::from(item." ++ accessor ++ "()), Ok(item));") "\n\r" :=
        lacks_append.2 ⟨lacks_append.2 ⟨by decide, haccessor⟩, by decide⟩
      exact List.forall_mem_cons.2 ⟨hline, by decide⟩
  unfold batchBody
  refine List.forall_mem_append.2 ⟨List.forall_mem_append.2 ⟨?_, hfound⟩, by decide⟩
  exact List.forall_mem_cons.2
    ⟨by cases narrow <;> decide +kernel, List.forall_mem_cons.2 ⟨hcall, by decide +kernel⟩⟩

/-- The lines of a fetch by one call for each identifier. -/
theorem lacks_perIdBody {method : String} (hmethod : Lacks method "\n\r")
    (narrow nullable : Bool) : ∀ l ∈ perIdBody narrow method nullable, Lacks l "\n\r" := by
  have hcall : Lacks ("    match self.service." ++ method ++ "(" ++
      (if nullable then "Some(key)" else "key") ++ ") \x7b") "\n\r" := by
    simp only [lacks_append]
    exact ⟨⟨⟨⟨by decide, hmethod⟩, by decide⟩, by cases nullable <;> decide⟩, by decide⟩
  unfold perIdBody
  refine List.forall_mem_append.2 ⟨List.forall_mem_append.2 ⟨by decide, ?_⟩,
    List.forall_mem_cons.2 ⟨hcall, by decide +kernel⟩⟩
  cases narrow <;> decide +kernel

section Loaders

variable (hplan : LoaderPlan.ofDescriptor? d = some plan) (h : OperationsNamed d)
  (haccessors : ∀ f ∈ d.fields, Schema.isName f.accessor.toList = true)

include hplan h haccessors

theorem lacks_fetchBody : ∀ l ∈ fetchBody plan, Lacks l "\n\r" := by
  obtain ⟨id, -, hfetch⟩ := Option.bind_eq_some_iff.1 hplan
  obtain ⟨fetch, hmade, hfetch⟩ := Option.bind_eq_some_iff.1 hfetch
  obtain rfl := Option.some.inj hfetch
  unfold fetchBody
  refine List.forall_mem_append.2 ⟨?_, by decide⟩
  rcases Option.or_eq_some_iff.1 hmade with hmade | ⟨-, hmade⟩
  · obtain ⟨m, hm, keysNullable, f, hf, rfl⟩ := exists_of_batchFetch? hmade
    have hfield : f ∈ d.fields := List.mem_of_find?_eq_some hf
    exact lacks_batchBody (lacks_identifier (h.operations m hm).name (by decide))
      (lacks_identifier (haccessors f hfield) (by decide)) _ _ _
  · obtain ⟨m, hm, nullable, rfl⟩ := exists_of_perIdFetch? hmade
    exact lacks_perIdBody (lacks_identifier (h.operations m hm).name (by decide)) _ _

/-- **Loaders are readable.** -/
theorem readable_loaderBlock : (loaderBlock d.name plan).Readable where
  interface := ⟨"BatchLoader", rfl, by decide⟩
  target := lacks_append.2 ⟨lacks_name h.entity (by decide), by decide⟩
  types t ht := by
    obtain rfl := List.mem_singleton.1 ht
    have hvalue : Lacks "Value" "\n\r " := by decide
    exact ⟨hvalue, lacks_name h.entity (by decide)⟩
  functions f hf := by
    obtain rfl := List.mem_singleton.1 hf
    constructor
    case doc =>
      have hdoc : Lacks "" "\n\r" := by decide
      exact hdoc
    case name =>
      have hname : Lacks "load" "\n\r(" := by decide
      exact hname
    case params =>
      have hparams : ∀ b ∈ [(⟨"ids", "&[i64]"⟩ : Binding)],
          Lacks b.name "\n\r,:)" ∧ Lacks b.type "\n\r,)" := by decide
      exact hparams
    case result =>
      dsimp only
      exact lacks_append.2 ⟨lacks_append.2 ⟨by decide, lacks_name h.entity (by decide)⟩, by decide⟩
    case body =>
      intro ls hls
      obtain rfl := Option.some.inj hls
      exact lacks_fetchBody hplan h haccessors

/-- The text of a loader ends in that of its block. -/
theorem defines_batchLoader (config : GeneratorConfig) :
    Defines (batchLoader config d plan) (loaderBlock d.name plan) :=
  readBlock_file (readable_loaderBlock hplan h haccessors) (by decide) _ _ _

end Loaders

/-! ### The main theorem -/

/-- The loader of an entity asks for the identifier by the accessor of a field, and this is the
first field that holds the identifier. -/
structure KeyedBy (config : GeneratorConfig) (d : Descriptor) (plan : LoaderPlan)
    (accessor : String) (nullable : Bool) (f : Field) : Prop where
  sameAccessor : accessor = identifier f.accessor
  sameNullable : nullable = f.type.nullable
  holds : Named plan.id f ∨ Conventional d plan.id f
  first : ∃ early late, d.fields = early ++ f :: late ∧
    ∀ r ∈ early, ¬ Named plan.id r ∧ ¬ Conventional d plan.id r
  file : ∃ heading imports before, (batchLoader config d plan).contents = file heading
    { imports, items := before ++ [marked "#[async_trait]" (.block (loaderBlock d.name plan))] }
  /-- This block is read in the text of the file, where all names are names of the schema
  language. -/
  text : OperationsNamed d → (∀ f ∈ d.fields, Schema.isName f.accessor.toList = true) →
    Defines (batchLoader config d plan) (loaderBlock d.name plan)
  line : ∃ load ∈ (loaderBlock d.name plan).functions, ∃ body, load.body = some body ∧
    keyLine accessor nullable ∈ body

/-- **By which field a batch loader tells entities apart.**  If the loader of a described entity
fetches many of them by one call, it is keyed by one of the fields, the first that holds the
identifier.  A field that is named as the identifier and has its scalar is this one exactly if no
field of this scalar that is named by convention comes before it; and it always is if the identifier
is not from the operation that reads one entity. -/
theorem batch_keyed {catalog : Catalog} {known : KeySet String} {modules : ModulePaths}
    {entity : String} {settings : EntityConfig} {x : Described}
    (h : describe catalog known modules entity settings = .ok x) (config : GeneratorConfig)
    (hplan : LoaderPlan.ofDescriptor? x.descriptor = some plan) {method accessor : String}
    {keysNullable nullable : Bool}
    (hfetch : plan.fetch = .batch method keysNullable accessor nullable) :
    ∃ f, KeyedBy config x.descriptor plan accessor nullable f ∧
      (∀ early g late, x.descriptor.fields = early ++ g :: late → Named plan.id g →
        (f = g ↔ ∀ r ∈ early, ¬ Conventional x.descriptor plan.id r)) ∧
      (x.descriptor.readOneId? = none → ∀ g ∈ x.descriptor.fields, Named plan.id g → f = g) := by
  have hnodup := (fieldNames_of_describe h).1
  obtain ⟨hid, f, hkey, haccessor, hnullable⟩ := exists_of_batch hplan hfetch
  obtain ⟨hholds, hfirst⟩ := keyField?_eq_some_iff.1 hkey
  have hline := keyLine_mem hfetch
  refine ⟨f, ⟨haccessor, hnullable, hholds, hfirst, ⟨_, _, _, rfl⟩,
    fun hnamed haccessors => defines_batchLoader hplan hnamed haccessors config,
    ⟨_, List.mem_singleton_self _, _, rfl, hline⟩⟩, ?_, ?_⟩
  · intro early g late hfields hg
    rw [← keyField?_eq_some_iff_of_named hnodup hfields hg, hkey, Option.some.injEq]
  · intro hread g hmem hg
    have hnamed := keyField?_of_fieldId? hnodup hread hid hmem hg
    rw [hkey, Option.some.injEq] at hnamed
    exact hnamed

/-- Widgets with some accessors, which are read by their identifiers, one by one and together. -/
def widgetsCatalog (accessors : List String) : Catalog where
  classes :=
    [⟨"Widget", accessors.map fun accessor => { name := accessor, returns := "long" }⟩,
    ⟨"WidgetService",
      [{ name := "getWidget", params := [⟨"widgetId", "long"⟩], returns := "Widget" },
      { name := "getWidgets", params := [⟨"widgetIds", "long[]"⟩], returns := "List<Widget>" }]⟩]

/-- The description of a widget. -/
def widgetDescribed (accessors : List String) : Except GenerationError Described :=
  describe (widgetsCatalog accessors) (.ofList (widgetsCatalog accessors).classNames) {} "Widget"
    { service := "WidgetService" }

/-- The field of the identifier counts if it is declared before a field `id`, and the text of the
loader says so. -/
theorem batch_keyed_widget : ∃ x, widgetDescribed ["getWidgetId", "getId"] = .ok x ∧
    ∃ plan, LoaderPlan.ofDescriptor? x.descriptor = some plan ∧
      plan.fetch = .batch "get_widgets" false "get_widget_id" false ∧
      (∃ g, Named plan.id g ∧
        KeyedBy (Generation.lone "Widget") x.descriptor plan "get_widget_id" false g) ∧
      readBlock (batchLoader (Generation.lone "Widget") x.descriptor plan).contents =
        some (loaderBlock x.descriptor.name plan) := by
  have hvalue : ∃ x ∈ (widgetDescribed ["getWidgetId", "getId"]).toOption,
      (OperationsNamed x.descriptor ∧
        ∀ f ∈ x.descriptor.fields, Schema.isName f.accessor.toList = true) ∧
      ∃ plan ∈ LoaderPlan.ofDescriptor? x.descriptor,
        plan.fetch = .batch "get_widgets" false "get_widget_id" false ∧
        ∃ g ∈ x.descriptor.fields.head?, Named plan.id g := by
    decide +kernel
  obtain ⟨x, hx, ⟨hnames, haccessors⟩, plan, hplan, hfetch, g, hg, hnamed⟩ := hvalue
  obtain ⟨late, hfields⟩ := List.head?_eq_some_iff.1 hg
  have hdescribed : widgetDescribed ["getWidgetId", "getId"] = .ok x := eq_ok_of_toOption hx
  obtain ⟨f, hkeyed, hfirst, -⟩ :=
    batch_keyed hdescribed (Generation.lone "Widget") hplan hfetch
  obtain rfl := (hfirst [] g late hfields hnamed).2 nofun
  exact ⟨x, hdescribed, plan, hplan, hfetch, ⟨f, hnamed, hkeyed⟩, hkeyed.text hnames haccessors⟩

/-- A field `id` that is declared before the field of the identifier takes its place, although the
operation says by which identifier widgets are read. -/
theorem batch_keyed_otherwise : ∃ x, widgetDescribed ["getId", "getWidgetId"] = .ok x ∧
    ∃ plan, LoaderPlan.ofDescriptor? x.descriptor = some plan ∧
      plan.id = ⟨"widgetId", .long⟩ ∧
      plan.fetch = .batch "get_widgets" false "get_id" false ∧
      ∃ g ∈ x.descriptor.fields, Named plan.id g ∧ identifier g.accessor = "get_widget_id" := by
  have hvalue : ∃ x ∈ (widgetDescribed ["getId", "getWidgetId"]).toOption,
      ∃ plan ∈ LoaderPlan.ofDescriptor? x.descriptor, plan.id = ⟨"widgetId", .long⟩ ∧
        plan.fetch = .batch "get_widgets" false "get_id" false ∧
        ∃ g ∈ x.descriptor.fields, Named plan.id g ∧ identifier g.accessor = "get_widget_id" := by
    decide +kernel
  obtain ⟨x, hx, hrest⟩ := hvalue
  exact ⟨x, eq_ok_of_toOption hx, hrest⟩

end GraphLayer.Rendering
