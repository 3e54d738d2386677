import Mathlib.Data.List.Nodup
import GraphLayer.Proofs.Data.Ascending
import GraphLayer.Proofs.Files.Joined
import GraphLayer.Proofs.Rendering.SelfCheck
import GraphLayer.Proofs.Text.Snake

/-!
# The places of the files of a run

* `ending`, the end of a file name, which tells the kinds of files apart, and `entityFile`, the file
  of an entity of some kind;
* `place`, the components of a file in the directory of a category: files of different names are
  never in one place (`snd_eq_of_place`);
* `nodup_entityPlaces`, `nodup_aggregatePlaces` and `disjoint_places_iff`: which files can be in one
  place;
* `nodup_artifactPaths_iff`: the files of a run are in different places exactly when the modules of
  its entities have different names and none is called `schema`.
-/

namespace GraphLayer.Rendering

open Schema (isName continuesName_of_isName)

/-! ### File names -/

/-- The last six characters of a file name, in reverse.  They tell the kinds of files apart. -/
def ending (file : String) : List Char := file.toList.reverse.take 6

theorem ending_append (m : String) {s : String} (hs : 6 ≤ s.toList.length) :
    ending (m ++ s) = ending s := by
  rw [ending, String.toList_append, List.reverse_append,
    List.take_append_of_le_length (by simpa using hs), ending]

/-- The files that an entity may have: the category of each and what follows the module of the
entity in its name. -/
def entityFiles : List (Category × String) :=
  [(.schema, ".graphql"), (.contract, "_resolver.rs"), (.implementation, "_resolver_impl.rs"),
    (.loader, "_loader.rs")]

/-- The kinds of files of an entity end differently. -/
theorem entityFiles_inj {p q : Category × String} (hp : p ∈ entityFiles) (hq : q ∈ entityFiles)
    (h : ending p.2 = ending q.2) : p = q := by
  have hall : ∀ p ∈ entityFiles, ∀ q ∈ entityFiles, ending p.2 = ending q.2 → p = q := by decide
  exact hall p hp q hq h

theorem six_le_length {p : Category × String} (hp : p ∈ entityFiles) : 6 ≤ p.2.toList.length := by
  have hall : ∀ p ∈ entityFiles, 6 ≤ p.2.toList.length := by decide
  exact hall p hp

/-- The file of an entity of some kind. -/
def entityFile (name : String) (p : Category × String) : String := Naming.moduleName name ++ p.2

theorem entityFile_inj {e e' : String} {p q : Category × String} (hp : p ∈ entityFiles)
    (hq : q ∈ entityFiles) (h : entityFile e p = entityFile e' q) :
    p = q ∧ Naming.moduleName e = Naming.moduleName e' := by
  have hend := congrArg ending h
  rw [entityFile, entityFile, ending_append _ (six_le_length hp),
    ending_append _ (six_le_length hq)] at hend
  obtain rfl := entityFiles_inj hp hq hend
  refine ⟨rfl, String.ext ?_⟩
  have hlist := congrArg String.toList h
  rw [entityFile, entityFile, String.toList_append, String.toList_append] at hlist
  exact List.append_cancel_right hlist

/-- What follows the module of an entity makes a file name of it. -/
theorem isFileName_entityFile {e : String} (he : isName e.toList = true) {p : Category × String}
    (hp : p ∈ entityFiles) : Path.IsFileName (entityFile e p) := by
  have hlen : 6 ≤ (entityFile e p).toList.length := by
    rw [entityFile, String.toList_append, List.length_append]
    exact Nat.le_add_left_of_le (six_le_length hp)
  have hne {t : String} (ht : t.toList.length < 6) : entityFile e p ≠ t := by
    rintro rfl
    exact absurd hlen (Nat.not_le_of_lt ht)
  refine .of_ne ?_ (hne (by decide)) (hne (by decide)) (hne (by decide))
  intro hmem
  rw [entityFile, String.toList_append] at hmem
  rcases List.mem_append.1 hmem with hmem | hmem
  · have hslash := Text.continuesName_of_mem_snakeCase (continuesName_of_isName he) hmem
    revert hslash
    decide
  · have hall : ∀ p ∈ entityFiles, '/' ∉ p.2.toList := by decide
    exact hall p hp hmem

/-! ### Places -/

/-- The components of a file in the directory of a category. -/
def place (config : GeneratorConfig) (p : Category × String) : List Component :=
  (config.dir p.1).components ++ [.name p.2]

/-- Files of different names are never in one place. -/
theorem snd_eq_of_place {config : GeneratorConfig} {p q : Category × String}
    (h : place config p = place config q) : p.2 = q.2 := by
  have hlast := (List.append_inj' h rfl).2
  exact Component.name.inj (List.cons.inj hlast).1

theorem text_dir_ne_of_validate {config : GeneratorConfig} (h : config.validate = .ok ())
    (k : Category) : (config.dir k).text ≠ "" := by
  have hdirs : config.missingDirs = [] := by
    by_contra hne
    simp [GeneratorConfig.validate, hne] at h
  have hk : k ∈ Category.all := by cases k <;> decide
  have hset := List.filter_eq_nil_iff.1 (List.map_eq_nil_iff.1 hdirs) k hk
  unfold GeneratorConfig.dir
  cases hget : config.output.get k with
  | none => simp [hget] at hset
  | some p => simpa [hget] using hset

theorem components_filePath {config : GeneratorConfig} (h : config.validate = .ok ())
    (k : Category) {file : String} (hfile : Path.IsFileName file) :
    (filePath config k file).components = place config (k, file) :=
  Path.components_join (text_dir_ne_of_validate h k) hfile

/-! ### The files of the entities -/

variable {config : GeneratorConfig} {ds : List Descriptor}

/-- The kinds of files that an entity has. -/
def filesOf (d : Descriptor) : List (Category × String) :=
  entityFiles.filter fun p => p.1 ≠ .loader ∨ hasLoader d

theorem mem_filesOf_schema (d : Descriptor) : (.schema, ".graphql") ∈ filesOf d :=
  List.mem_filter.2 ⟨List.mem_cons_self, by simp⟩

theorem mem_entityFiles {d : Descriptor} {p : Category × String} (h : p ∈ filesOf d) :
    p ∈ entityFiles :=
  (List.mem_filter.1 h).1

theorem entityFile_contract (e : String) :
    contractModule e ++ ".rs" = entityFile e (.contract, "_resolver.rs") := by
  have hsuffix : "_resolver" ++ ".rs" = "_resolver.rs" := by decide
  rw [contractModule, String.append_assoc, hsuffix, entityFile]

theorem entityFile_implementation (e : String) :
    implementationModule e ++ ".rs" = entityFile e (.implementation, "_resolver_impl.rs") := by
  have hsuffix : "_resolver_impl" ++ ".rs" = "_resolver_impl.rs" := by decide
  rw [implementationModule, String.append_assoc, hsuffix, entityFile]

theorem entityFile_loader (e : String) :
    loaderModule e ++ ".rs" = entityFile e (.loader, "_loader.rs") := by
  have hsuffix : "_loader" ++ ".rs" = "_loader.rs" := by decide
  rw [loaderModule, String.append_assoc, hsuffix, entityFile]

@[simp] theorem category_fragmentFile (config : GeneratorConfig) (d : Descriptor) :
    (fragmentFile config d).category = .schema := by rw [fragmentFile]

@[simp] theorem category_contract (config : GeneratorConfig) (d : Descriptor) :
    (contract config d).category = .contract := by rw [contract]

@[simp] theorem category_implementation (config : GeneratorConfig) (d : Descriptor) :
    (implementation config d).category = .implementation := by rw [implementation]

@[simp] theorem category_batchLoader (config : GeneratorConfig) (d : Descriptor)
    (plan : LoaderPlan) : (batchLoader config d plan).category = .loader := by rw [batchLoader]

theorem path_contract (config : GeneratorConfig) (d : Descriptor) :
    (contract config d).path = filePath config .contract (contractModule d.name ++ ".rs") := by
  rw [contract]

theorem path_implementation (config : GeneratorConfig) (d : Descriptor) :
    (implementation config d).path =
      filePath config .implementation (implementationModule d.name ++ ".rs") := by
  rw [implementation]

theorem path_batchLoader (config : GeneratorConfig) (d : Descriptor) (plan : LoaderPlan) :
    (batchLoader config d plan).path =
      filePath config .loader (loaderModule d.name ++ ".rs") := by
  rw [batchLoader]

theorem map_path_entityArtifacts (config : GeneratorConfig) (d : Descriptor) :
    (entityArtifacts config d).map Artifact.path =
      (filesOf d).map fun p => filePath config p.1 (entityFile d.name p) := by
  have hfragment : (fragmentFile config d).path =
      filePath config .schema (entityFile d.name (.schema, ".graphql")) := by
    rw [fragmentFile, entityFile]
  have hcontract := path_contract config d
  have himplementation := path_implementation config d
  have hloader (plan : LoaderPlan) := path_batchLoader config d plan
  rw [entityFile_contract] at hcontract
  rw [entityFile_implementation] at himplementation
  rw [entityFile_loader] at hloader
  cases hplan : LoaderPlan.ofDescriptor? d with
  | none =>
    have hfiles : filesOf d = entityFiles.take 3 := by
      simp [filesOf, hasLoader, hplan, entityFiles]
    have hartifacts : entityArtifacts config d =
        [fragmentFile config d, contract config d, implementation config d] := by
      simp [entityArtifacts, loaderFile?, hplan]
    simp only [hfiles, hartifacts, entityFiles, List.take_succ_cons, List.take_zero,
      List.map_cons, List.map_nil, hfragment, hcontract, himplementation]
  | some plan =>
    have hfiles : filesOf d = entityFiles := by
      simp [filesOf, hasLoader, hplan]
    have hartifacts : entityArtifacts config d = [fragmentFile config d, contract config d,
        implementation config d, batchLoader config d plan] := by
      simp [entityArtifacts, loaderFile?, hplan]
    simp only [hfiles, hartifacts, entityFiles, List.map_cons, List.map_nil, hfragment, hcontract,
      himplementation, hloader]

/-- Where the files of the entities are. -/
theorem map_components_entityArtifacts (hvalid : config.validate = .ok ())
    (hnames : ∀ d ∈ ds, isName d.name.toList = true) :
    (ds.flatMap (entityArtifacts config)).map (fun a => a.path.components) =
      ds.flatMap fun d => (filesOf d).map fun p => place config (p.1, entityFile d.name p) := by
  rw [List.map_flatMap]
  refine List.flatMap_congr fun d hd => ?_
  have hpaths : (entityArtifacts config d).map (fun a => a.path.components) =
      ((entityArtifacts config d).map Artifact.path).map Path.components := by
    rw [List.map_map]
    rfl
  rw [hpaths, map_path_entityArtifacts, List.map_map]
  refine List.map_congr_left fun p hp => ?_
  rw [Function.comp_apply]
  exact components_filePath hvalid p.1 (isFileName_entityFile (hnames d hd) (mem_entityFiles hp))

/-- The files of the entities are in different places exactly when their modules have different
names. -/
theorem nodup_entityPlaces (config : GeneratorConfig) (ds : List Descriptor) :
    (ds.flatMap fun d => (filesOf d).map fun p => place config (p.1, entityFile d.name p)).Nodup ↔
      (ds.map fun d => Naming.moduleName d.name).Nodup := by
  have hinj {d d' : Descriptor} {p q : Category × String} (hp : p ∈ filesOf d) (hq : q ∈ filesOf d')
      (h : place config (p.1, entityFile d.name p) = place config (q.1, entityFile d'.name q)) :
      p = q ∧ Naming.moduleName d.name = Naming.moduleName d'.name :=
    entityFile_inj (mem_entityFiles hp) (mem_entityFiles hq) (snd_eq_of_place h)
  have hone : ∀ d ∈ ds,
      ((filesOf d).map fun p => place config (p.1, entityFile d.name p)).Nodup := by
    intro d _
    have hfiles : (filesOf d).Nodup := List.Nodup.filter _ (by decide)
    exact hfiles.map_on fun p hp q hq h => (hinj hp hq h).1
  rw [List.nodup_flatMap, and_iff_right hone, List.nodup_iff_pairwise_ne, List.pairwise_map]
  refine List.Pairwise.iff fun d d' => ?_
  constructor
  · -- entities of one module have their fragments in one place
    intro hdisjoint hmodule
    have hsame : entityFile d.name (.schema, ".graphql") =
        entityFile d'.name (.schema, ".graphql") := by
      rw [entityFile, entityFile, hmodule]
    refine hdisjoint (List.mem_map_of_mem (mem_filesOf_schema d)) ?_
    rw [hsame]
    exact List.mem_map_of_mem (mem_filesOf_schema d')
  · intro hmodule c hc hc'
    obtain ⟨p, hp, rfl⟩ := List.mem_map.1 hc
    obtain ⟨q, hq, h⟩ := List.mem_map.1 hc'
    exact hmodule (hinj hq hp h).2.symm

/-! ### The files of all entities together -/

/-- The directory under a rank has a path of this rank, which is that of a category. -/
def IsFiled (config : GeneratorConfig) (p : List (List Nat) × Directory) : Prop :=
  p.2.path.rank = p.1 ∧ ∃ k, p.2.path = config.dir k

theorem isFiled_addModule {dirs : Directories} (h : ∀ p ∈ dirs.toList, IsFiled config p)
    (i : Inhabitant) : ∀ p ∈ (addModule config dirs i).toList, IsFiled config p := by
  intro p hp
  rcases Ascending.mem_upsert hp with hp | rfl | ⟨d, hd, rfl⟩
  · exact h p hp
  · exact ⟨rfl, i.category, rfl⟩
  · have hfiled : IsFiled config ((config.dir i.category).rank, d) := h _ hd
    exact hfiled

theorem isFiled_foldl (is : List Inhabitant) {dirs : Directories}
    (h : ∀ p ∈ dirs.toList, IsFiled config p) :
    ∀ p ∈ (is.foldl (addModule config) dirs).toList, IsFiled config p := by
  induction is generalizing dirs with
  | nil => exact h
  | cons i is ih => exact ih (isFiled_addModule h i)

theorem isFiled_of_mem {is : List Inhabitant} {p : List (List Nat) × Directory}
    (hp : p ∈ (is.foldl (addModule config) .empty).toList) : IsFiled config p := by
  refine isFiled_foldl is (fun q hq => ?_) p hp
  cases hq

/-- Every directory with modules is the one of a category. -/
theorem exists_dir_of_mem_directories {is : List Inhabitant} {d : Directory}
    (h : d ∈ directories config is) : ∃ k, d.path = config.dir k := by
  obtain ⟨p, hp, rfl⟩ := List.mem_map.1 h
  exact (isFiled_of_mem hp).2

/-- No two directories with modules have the same components. -/
theorem nodup_components_directories (config : GeneratorConfig) (is : List Inhabitant) :
    ((directories config is).map fun d => d.path.components).Nodup := by
  have hranks : ((directories config is).map fun d => d.path.rank) =
      (is.foldl (addModule config) .empty).toList.map Prod.fst := by
    rw [directories, List.map_map]
    exact List.map_congr_left fun p hp => (isFiled_of_mem hp).1
  have hnodup := Ascending.nodup (is.foldl (addModule config) .empty).ascending
  rw [← hranks] at hnodup
  refine List.Nodup.of_map (List.map Component.rank) ?_
  rw [List.map_map]
  exact hnodup

/-- The files of all entities together in the directories of categories. -/
def aggregateFiles : List (Category × String) :=
  [(.schema, "schema.graphql"), (.loader, "registry.rs"), (.contract, "engine.rs")]

/-- Where the files of all entities together are. -/
theorem map_components_coordinate (hvalid : config.validate = .ok ()) {as : List Artifact}
    (has : coordinate config ds = .ok as) :
    as.map (fun a => a.path.components) = aggregateFiles.map (place config) ++
      (directories config (runModules ds)).map
        (fun d => d.path.components ++ [.name "mod.rs"]) := by
  obtain ⟨-, -, -, rfl⟩ := coordinate_eq_ok_iff.1 has
  have hfile {s : String} (h : s = "schema.graphql" ∨ s = "registry.rs" ∨ s = "engine.rs" ∨
      s = "mod.rs") : Path.IsFileName s := by
    rcases h with rfl | rfl | rfl | rfl <;> exact ⟨by decide, by decide⟩
  have hschema := components_filePath hvalid .schema (hfile (.inl rfl))
  have hregistry := components_filePath hvalid .loader (hfile (.inr (.inl rfl)))
  have hengine := components_filePath hvalid .contract (hfile (.inr (.inr (.inl rfl))))
  have hindexes : (moduleIndexes config ds).map (fun a => a.path.components) =
      (directories config (runModules ds)).map
        (fun d => d.path.components ++ [.name "mod.rs"]) := by
    rw [moduleIndexes, List.map_map]
    refine List.map_congr_left fun d hd => ?_
    obtain ⟨k, hk⟩ := exists_dir_of_mem_directories hd
    exact Path.components_join (hk ▸ text_dir_ne_of_validate hvalid k)
      (hfile (.inr (.inr (.inr rfl))))
  rw [List.map_append, hindexes]
  refine congrArg (· ++ _) ?_
  simp only [List.map_cons, List.map_nil, mergedFile, registry, engine, hschema, hregistry,
    hengine, aggregateFiles]

/-- The files of all entities together are in different places. -/
theorem nodup_aggregatePlaces (config : GeneratorConfig) (is : List Inhabitant) :
    (aggregateFiles.map (place config) ++ (directories config is).map
      (fun d => d.path.components ++ [.name "mod.rs"])).Nodup := by
  rw [List.nodup_append]
  refine ⟨?_, ?_, ?_⟩
  · have hall : ∀ p ∈ aggregateFiles, ∀ q ∈ aggregateFiles, p.2 = q.2 → p = q := by decide
    have hfiles : aggregateFiles.Nodup := by decide
    exact hfiles.map_on fun p hp q hq h => hall p hp q hq (snd_eq_of_place h)
  · have hinj : Function.Injective fun c : List Component => c ++ [.name "mod.rs"] :=
      fun c c' h => List.append_cancel_right h
    have hfiles := (nodup_components_directories config is).map hinj
    rw [List.map_map] at hfiles
    exact hfiles
  · intro c hc c' hc' h
    obtain ⟨p, hp, rfl⟩ := List.mem_map.1 hc
    obtain ⟨d, -, rfl⟩ := List.mem_map.1 hc'
    have hall : ∀ p ∈ aggregateFiles, p.2 ≠ "mod.rs" := by decide
    have hlast := (List.append_inj' h rfl).2
    exact hall p hp (Component.name.inj (List.cons.inj hlast).1)

/-- A file of an entity is never one of all entities together, but for the schema of an entity whose
module has the name of the file of the whole schema. -/
theorem disjoint_places_iff (config : GeneratorConfig) (ds : List Descriptor)
    (is : List Inhabitant) :
    (∀ c ∈ ds.flatMap fun d => (filesOf d).map fun p => place config (p.1, entityFile d.name p),
      ∀ c' ∈ aggregateFiles.map (place config) ++ (directories config is).map
        (fun d => d.path.components ++ [.name "mod.rs"]), c ≠ c') ↔
      ∀ d ∈ ds, Naming.moduleName d.name ≠ "schema" := by
  have hsplit : "schema" ++ ".graphql" = "schema.graphql" := by decide
  constructor
  · intro h d hd hmodule
    have hfile : entityFile d.name (.schema, ".graphql") = "schema.graphql" := by
      rw [entityFile, hmodule]
      exact hsplit
    have hfragment : place config (.schema, "schema.graphql") ∈
        (filesOf d).map fun p => place config (p.1, entityFile d.name p) :=
      List.mem_map.2 ⟨_, mem_filesOf_schema d, by rw [hfile]⟩
    have hmerged : place config (.schema, "schema.graphql") ∈ aggregateFiles.map (place config) :=
      List.mem_map.2 ⟨_, List.mem_cons_self, rfl⟩
    exact h _ (List.mem_flatMap.2 ⟨d, hd, hfragment⟩) _ (List.mem_append_left _ hmerged) rfl
  · intro hmodules c hc c' hc' h
    subst h
    obtain ⟨d, hd, hc⟩ := List.mem_flatMap.1 hc
    obtain ⟨p, hp, rfl⟩ := List.mem_map.1 hc
    have hp := mem_entityFiles hp
    have hending : ending (entityFile d.name p) = ending p.2 := ending_append _ (six_le_length hp)
    rcases List.mem_append.1 hc' with hc' | hc'
    · obtain ⟨q, hq, h⟩ := List.mem_map.1 hc'
      have hfile : q.2 = entityFile d.name p := snd_eq_of_place h
      have hall : ∀ p ∈ entityFiles, ∀ q ∈ aggregateFiles, ending q.2 = ending p.2 →
          p.2 = ".graphql" ∧ q.2 = "schema.graphql" := by decide
      obtain ⟨hp', hq'⟩ := hall p hp q hq (by rw [hfile, hending])
      rw [hq', entityFile, hp', ← hsplit] at hfile
      have hlist := congrArg String.toList hfile
      rw [String.toList_append, String.toList_append] at hlist
      exact hmodules d hd (String.ext (List.append_cancel_right hlist)).symm
    · obtain ⟨dir, -, h⟩ := List.mem_map.1 hc'
      have hlast := (List.append_inj' h rfl).2
      have hfile : "mod.rs" = entityFile d.name p := Component.name.inj (List.cons.inj hlast).1
      have hall : ∀ p ∈ entityFiles, ending "mod.rs" ≠ ending p.2 := by decide
      exact hall p hp (by rw [hfile, hending])

/-! ### All files of a run -/

/-- **When the files of a run are in different places.**  Take a configuration that is valid, whose
entities have names of the schema language and can all be described, and for which the files of all
entities together can be made.  Then no two files of the run have paths with the same components
exactly when no two entities have modules of the same name and no module is called `schema`. -/
theorem nodup_artifactPaths_iff {catalog : Catalog} {config : GeneratorConfig}
    (hvalid : config.validate = .ok ())
    (hnames : ∀ e ∈ config.entities.keys, isName e.toList = true) {ds : List Descriptor}
    {r : Generation.Report}
    (hds : Generation.describeEach catalog (Generation.knownNames config catalog) config.modules
      config.entities.toList ([], {}) = (ds, r)) (hr : r.failures = []) {as : List Artifact}
    (has : coordinate config ds = .ok as) :
    ((ds.flatMap (entityArtifacts config) ++ as).map fun a => a.path.components).Nodup ↔
      (config.entities.keys.map Naming.moduleName).Nodup ∧
        "schema" ∉ config.entities.keys.map Naming.moduleName := by
  have hkeys : ds.map Descriptor.name = config.entities.keys :=
    Generation.map_name_of_described (Generation.described_of_describeEach hds hr)
  have hnames' : ∀ d ∈ ds, isName d.name.toList = true :=
    fun d hd => hnames d.name (hkeys ▸ List.mem_map_of_mem hd)
  have hmodules : config.entities.keys.map Naming.moduleName =
      ds.map fun d => Naming.moduleName d.name := by
    rw [← hkeys, List.map_map]
    rfl
  have hschema : "schema" ∉ config.entities.keys.map Naming.moduleName ↔
      ∀ d ∈ ds, Naming.moduleName d.name ≠ "schema" := by
    rw [hmodules]
    simp
  rw [List.map_append, map_components_entityArtifacts hvalid hnames',
    map_components_coordinate hvalid has, List.nodup_append, nodup_entityPlaces,
    and_iff_right (nodup_aggregatePlaces config (runModules ds)), disjoint_places_iff, hmodules,
    ← hschema, hmodules]

/-- The files of parts and widgets are in different places. -/
theorem nodup_artifactPaths_stock :
    let config := Generation.stock
    let ds := Generation.stockDescribed.1
    (config.validate = .ok () ∧ (∀ e ∈ config.entities.keys, isName e.toList = true) ∧
      Generation.stockDescribed.2.failures = []) ∧
      ∃ as, coordinate config ds = .ok as ∧
        ((ds.flatMap (entityArtifacts config) ++ as).map fun a => a.path.components).Nodup := by
  intro config ds
  have hvalid : config.validate = .ok () := by decide +kernel
  have hnames : ∀ e ∈ config.entities.keys, isName e.toList = true := by decide +kernel
  have hr : Generation.stockDescribed.2.failures = [] := by decide +kernel
  obtain ⟨as, has⟩ := exists_coordinate_of_describeEach config rfl hr (by decide +kernel)
    (by decide +kernel) (by decide +kernel)
  have hmodules : (config.entities.keys.map Naming.moduleName).Nodup ∧
      "schema" ∉ config.entities.keys.map Naming.moduleName := by decide +kernel
  exact ⟨⟨hvalid, hnames, hr⟩, as, has,
    (nodup_artifactPaths_iff hvalid hnames rfl hr has).2 hmodules⟩

/-- The schema of an entity `Schema` is in the place of the whole schema. -/
theorem not_nodup_artifactPaths_schema :
    let config := Generation.lone "Schema"
    let ds := (Generation.loneDescribed "Schema").1
    config.validate = .ok () ∧ (∀ e ∈ config.entities.keys, isName e.toList = true) ∧
      (Generation.loneDescribed "Schema").2.failures = [] ∧
      ∃ as, coordinate config ds = .ok as ∧
        ¬ ((ds.flatMap (entityArtifacts config) ++ as).map fun a => a.path.components).Nodup := by
  intro config ds
  have hgates : resolveReferences ds = .ok () ∧ checkRootFields ds = .ok () ∧
      Schema.checkText (mergedFile config ds).contents = .ok () := by decide +kernel
  refine ⟨by decide +kernel, by decide +kernel, by decide +kernel, _,
    coordinate_eq_ok_iff.2 ⟨hgates.1, hgates.2.1, hgates.2.2, rfl⟩, ?_⟩
  decide +kernel

end GraphLayer.Rendering
