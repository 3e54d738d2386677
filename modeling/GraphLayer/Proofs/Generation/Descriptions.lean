import Mathlib.Data.List.Forall2
import GraphLayer.Generation.Run
import GraphLayer.Proofs.Introspection.Guarantees

/-!
# What a run knows when no entity failed

* `Generation.IsDescribed`, a descriptor that belongs to an entity of a configuration;
* `Generation.described_of_describeEach`: if no entity failed, every entity has its descriptor, in
  order;
* `Generation.lone`, a configuration of one entity, with `Generation.loneFiles` and
  `Generation.editedFiles`, files to see what a run does.
-/

namespace GraphLayer

namespace Generation

variable {catalog : Catalog} {known : KeySet String} {modules : ModulePaths}

/-- The descriptor is the one of an entity of a configuration. -/
def IsDescribed (catalog : Catalog) (known : KeySet String) (modules : ModulePaths)
    (p : String × EntityConfig) (d : Descriptor) : Prop :=
  ∃ warnings, describe catalog known modules p.1 p.2 = .ok ⟨d, warnings⟩

theorem IsDescribed.name {p : String × EntityConfig} {d : Descriptor}
    (h : IsDescribed catalog known modules p d) : d.name = p.1 := by
  obtain ⟨warnings, h⟩ := h
  obtain ⟨_, _, _, _, _, _, _, _, _, hname⟩ := exists_of_describe h
  exact hname

theorem IsDescribed.wellTyped {p : String × EntityConfig} {d : Descriptor}
    (h : IsDescribed catalog known modules p d) : d.WellTyped := by
  obtain ⟨warnings, h⟩ := h
  exact wellTyped_of_describe h

theorem exists_of_describeEach {entities : List (String × EntityConfig)}
    {ds₀ ds : List Descriptor} {r₀ r : Report}
    (h : describeEach catalog known modules entities (ds₀, r₀) = (ds, r))
    (hr : r.failures = []) :
    r₀.failures = [] ∧
      ∃ more, ds = ds₀ ++ more ∧
        List.Forall₂ (IsDescribed catalog known modules) entities more := by
  induction entities generalizing ds₀ r₀ with
  | nil =>
    obtain ⟨rfl, rfl⟩ := Prod.mk.inj h
    exact ⟨hr, [], (List.append_nil _).symm, .nil⟩
  | cons p entities ih =>
    obtain ⟨entity, config⟩ := p
    rw [describeEach] at h
    cases hd : describe catalog known modules entity config with
    | ok x =>
      simp only [hd] at h
      obtain ⟨hr₀, more, rfl, hmore⟩ := ih h
      exact ⟨hr₀, x.descriptor :: more, by simp, .cons ⟨x.warnings, hd⟩ hmore⟩
    | error e =>
      -- a failure is never taken back
      simp only [hd] at h
      obtain ⟨hr₀, -⟩ := ih h
      simp [Report.fail] at hr₀

/-- If no entity failed, every entity has its descriptor, in order. -/
theorem described_of_describeEach {entities : List (String × EntityConfig)}
    {ds : List Descriptor} {r : Report}
    (h : describeEach catalog known modules entities ([], {}) = (ds, r))
    (hr : r.failures = []) : List.Forall₂ (IsDescribed catalog known modules) entities ds := by
  obtain ⟨-, more, rfl, hmore⟩ := exists_of_describeEach h hr
  exact hmore

theorem exists_isDescribed_of_mem {entities : List (String × EntityConfig)} {ds : List Descriptor}
    (h : List.Forall₂ (IsDescribed catalog known modules) entities ds) {d : Descriptor}
    (hd : d ∈ ds) : ∃ p ∈ entities, IsDescribed catalog known modules p d :=
  exists_of_mem_forall₂ h hd

/-- The descriptors of a configuration have the names of its entities. -/
theorem map_name_of_described {entities : List (String × EntityConfig)} {ds : List Descriptor}
    (h : List.Forall₂ (IsDescribed catalog known modules) entities ds) :
    ds.map Descriptor.name = entities.map Prod.fst := by
  induction h with
  | nil => rfl
  | cons hd _ ih => rw [List.map_cons, List.map_cons, hd.name, ih]

/-! ### A run of one entity -/

/-- A configuration of one entity. -/
def lone (entity : String) : GeneratorConfig where
  catalog := ⟨"catalog.json"⟩
  output := ⟨some ⟨"graphql"⟩, some ⟨"contract"⟩, some ⟨"resolvers"⟩, some ⟨"loaders"⟩⟩
  entities := ⟨[(entity, { service := "Service" })], List.pairwise_singleton _ _⟩

/-- Its catalog: the entity has a name, and the service reads it. -/
def loneCatalog (entity : String) : Catalog where
  classes := [⟨entity, [{ name := "getName", returns := "String" }]⟩,
    ⟨"Service", [{ name := "getOne", returns := entity }]⟩]

/-- The descriptor of the entity, with the report of its making. -/
def loneDescribed (entity : String) : List Descriptor × Report :=
  describeEach (loneCatalog entity)
    (knownNames (lone entity) (loneCatalog entity)) (lone entity).modules
    (lone entity).entities.toList ([], {})

/-- The text of the catalog, without what need not be said. -/
def loneText (entity : String) : String :=
  let classWith (name member returns : String) : Json :=
    .record [("name", .text name),
      ("members", .list [.record [("name", .text member), ("returns", .text returns)]])]
  (Json.record [("classes",
    .list [classWith entity "getName" "String", classWith "Service" "getOne" entity])]).render

/-- The files before the first run: there is only the catalog. -/
def loneFiles (entity : String) : FileTree :=
  (FileTree.ofHome "work").set ["work", "catalog.json"] (.file (loneText entity).toUTF8)

/-- The files with an implementation that has been edited by hand. -/
def editedFiles : FileTree :=
  ((loneFiles "Part").set ["work", "resolvers"] .directory).set
    ["work", "resolvers", "part_resolver_impl.rs"] (.file "// by hand".toUTF8)

/-! ### A run of two entities -/

/-- A configuration of two entities. -/
def stock : GeneratorConfig :=
  { lone "Part" with
    entities := .ofList [("Part", { service := "PartService" }),
      ("Widget", { service := "shop::WidgetService" })] }

/-- Its catalog: the entities refer to each other and can be read by their identifiers, parts can be
deleted, and widgets can be added. -/
def stockCatalog : Catalog where
  classes :=
    [⟨"Part", [{ name := "getPartId", returns := "long" },
      { name := "getLabel", returns := "String" }, { name := "getWidget", returns := "Widget" }]⟩,
    ⟨"PartService", [{ name := "getPart", params := [⟨"partId", "long"⟩], returns := "Part" },
      { name := "findByWidget", params := [⟨"widgetId", "long"⟩, ⟨"labels", "List<String>"⟩],
        returns := "List<Part>" },
      { name := "deletePart", params := [⟨"partId", "long"⟩] }]⟩,
    ⟨"Widget", [{ name := "getWidgetId", returns := "long" },
      { name := "getParts", returns := "List<Part>" },
      { name := "isActive", returns := "boolean" }]⟩,
    ⟨"WidgetService",
      [{ name := "getWidget", params := [⟨"widgetId", "long"⟩], returns := "Widget" },
      { name := "addWidget", params := [⟨"name", "String"⟩, ⟨"partIds", "Long[]"⟩],
        returns := "Widget" }]⟩]

/-- The descriptors of both entities, with the report of their making. -/
def stockDescribed : List Descriptor × Report :=
  describeEach stockCatalog (knownNames stock stockCatalog) stock.modules stock.entities.toList
    ([], {})

end Generation

end GraphLayer
