import GraphLayer.Proofs.Introspection.UniqueKinds
import GraphLayer.Proofs.Rendering.ModuleIndexes
import GraphLayer.Proofs.Rendering.OperationTexts

/-!
# The wiring of loaders

Whether an entity has a loader is decided anew for its files, for the registry, for the index of
modules and for its implementation.

* `Registered` and `Indexed`, what the registry and the index say about the loader of an entity;
* `IndexDeclares` and `exists_engine_services`: what the text of the index declares, and the
  services in the text of the engine;
* `LoaderWired`: all of them agree, and the operations that use the loader use this one;
* `viaLoader_of_readOne`: the operation that reads an entity by its identifier uses the loader;
* `loaders_wired`: described entities are wired, if the constants with their keys differ;
* `nodup_loaderKeys`: for identifiers it is enough that their modules differ.
-/

namespace GraphLayer.Rendering

open Code

variable {config : GeneratorConfig} {d d' : Descriptor} {ds : List Descriptor}

/-! ### The files of one entity -/

theorem exists_loader_iff :
    (∃ a ∈ entityArtifacts config d, a.category = .loader) ↔ hasLoader d = true := by
  cases hplan : LoaderPlan.ofDescriptor? d with
  | none => simp [entityArtifacts, loaderFile?, hasLoader, hplan]
  | some plan => simp [entityArtifacts, loaderFile?, hasLoader, hplan]

theorem entityWarnings_eq_nil_iff : entityWarnings d = [] ↔ hasLoader d = true := by
  cases hloader : hasLoader d <;> simp [entityWarnings, hloader]

/-! ### Reading by an identifier -/

/-- The single parameter of the one operation that reads an entity is its identifier. -/
theorem id?_of_readOne (hone : (d.methods.countP fun m => m.kind == .readOne) ≤ 1) {m : Method}
    (hm : m ∈ d.methods) (hkind : m.kind = .readOne) {p : Param} (hparams : m.params = [p])
    {id : Identifier} (hid : Descriptor.identifierOf? p.name p.type = some id) :
    d.id? = some id := by
  have hfound : d.methods.find? (fun m => m.kind == .readOne && m.params.length == 1) = some m :=
    find?_of_countP_le_one hone (fun _ h => (Bool.and_eq_true_iff.1 h).1) hm
      (by simp [hkind, hparams])
  have hread : d.readOneId? = some id := by
    simp [Descriptor.readOneId?, hfound, hparams, hid]
  rw [Descriptor.id?, hread, Option.some_or]

/-- What an operation is that reads one entity by its identifier. -/
theorem exists_of_loadsById {m : Method} (h : loadsById d m = true) :
    ∃ id p, d.id? = some id ∧ m.params = [p] ∧ m.kind = .readOne ∧
      p.type.isScalar id.scalar = true ∧ m.returns.isList = false ∧
      m.returns.leafEntity? = some d.name := by
  unfold loadsById at h
  split at h
  · next id p hid hparams =>
    simp only [Bool.and_eq_true, beq_iff_eq, Bool.not_eq_true', returnsEntity] at h
    obtain ⟨⟨⟨hkind, hscalar⟩, hlist⟩, hreturns⟩ := h
    exact ⟨id, p, hid, hparams, hkind, hscalar, hlist, hreturns⟩
  · cases h

/-- An operation that can be answered by a loader has one. -/
theorem hasLoader_of_loadsById (hone : (d.methods.countP fun m => m.kind == .readOne) ≤ 1)
    {m : Method} (hm : m ∈ d.methods) (h : loadsById d m = true) : hasLoader d = true := by
  obtain ⟨id, p, hid, hparams, hkind, -⟩ := exists_of_loadsById h
  have hfound : d.method? .readOne = some m :=
    find?_of_countP_le_one hone (fun _ h => h) hm (by simp [hkind])
  have hfetch : (perIdFetch? d).isSome = true := by
    simp [perIdFetch?, hfound, hparams, h]
  obtain ⟨fetch, hfetch⟩ := Option.isSome_iff_exists.1 hfetch
  simp [hasLoader, LoaderPlan.ofDescriptor?, hid, hfetch]

/-- **Reading by an identifier goes through the loader**, and the parameter is the identifier. -/
theorem viaLoader_of_readOne (hone : (d.methods.countP fun m => m.kind == .readOne) ≤ 1)
    {m : Method} (hm : m ∈ d.methods) (hkind : m.kind = .readOne) {p : Param}
    (hparams : m.params = [p]) {s : Scalar} (hscalar : p.type.isScalar s = true)
    (hs : s = .int ∨ s = .long) (hlist : m.returns.isList = false)
    (hreturns : m.returns.leafEntity? = some d.name) :
    viaLoader d m = true ∧ d.id? = some ⟨p.name, s⟩ := by
  have htype : Descriptor.identifierOf? p.name p.type = some ⟨p.name, s⟩ := by
    cases htype : p.type with
    | scalar t n =>
      obtain rfl : t = s := by simpa [htype, GraphType.isScalar] using hscalar
      rcases hs with rfl | rfl
      · rfl
      · rfl
    | entity name n => simp [htype, GraphType.isScalar] at hscalar
    | list item n => simp [htype, GraphType.isScalar] at hscalar
  have hid := id?_of_readOne hone hm hkind hparams htype
  have hloads : loadsById d m = true := by
    simp [loadsById, hid, hparams, hkind, hscalar, hlist, returnsEntity, hreturns]
  rw [viaLoader, hasLoader_of_loadsById hone hm hloads, hloads]
  exact ⟨rfl, hid⟩

/-- An operation that the loader answers is implemented by a call of the loader. -/
theorem body_of_viaLoader {m : Method} (h : viaLoader d m = true) :
    (operationFunction d m).body = some (loadBody d.name m) := by
  unfold operationFunction
  rw [if_pos h]

/-! ### The registry -/

/-- The path of the module of a loader. -/
def loaderPath (modules : ModulePaths) (d : Descriptor) : String :=
  modules.loader ++ "::" ++ loaderModule d.name

/-- The lines of the function that registers the loaders. -/
def registryLines (ds : List Descriptor) : List String := (registryFunction ds).body.getD []

/-- The registry imports the loader of an entity with its key, and registers it. -/
def Registered (config : GeneratorConfig) (ds : List Descriptor) (d : Descriptor) : Prop :=
  (loaderPath config.modules d, loaderType d.name) ∈ registryImports config.modules ds ∧
    (loaderPath config.modules d, loaderKey d.name) ∈ registryImports config.modules ds ∧
    registration d ∈ registryLines ds

theorem mem_loaded : d ∈ loaded ds ↔ d ∈ ds ∧ hasLoader d = true := List.mem_filter

/-- There are no capitals in the module of an entity. -/
theorem capital_not_mem_moduleName (e : String) : 'A' ∉ (Naming.moduleName e).toList := by
  intro h
  cases Text.isUpper_of_mem_snakeCase h

theorem loaderKey_congr {e e' : String} (h : Naming.moduleName e = Naming.moduleName e') :
    loaderKey e = loaderKey e' := by
  rw [loaderKey, loaderKey, Naming.constantName, Naming.constantName, h]

/-- Loaders in modules of one path belong to one module. -/
theorem moduleName_of_loaderModule {e e' : String} (h : loaderModule e = loaderModule e') :
    Naming.moduleName e = Naming.moduleName e' := by
  rwa [loaderModule, loaderModule, String.append_left_inj] at h

/-- What follows the last `A` of a registration is known but for the module. -/
theorem takeWhile_registration (d : Descriptor) :
    (registration d).toList.reverse.takeWhile (· ≠ 'A') =
      ("rc::clone(&services." ++ Naming.moduleName d.name ++ ")))?;").toList.reverse := by
  have hcut : (registration d).toList =
      ("registry.register(" ++ loaderKey d.name ++ ", " ++ loaderType d.name ++ "::new(").toList ++
        'A' :: ("rc::clone(&services." ++ Naming.moduleName d.name ++ ")))?;").toList := by
    have hliteral :
        "::new(Arc::clone(&services." = "::new(" ++ ("A" ++ "rc::clone(&services.") := by decide
    have hline : registration d =
        ("registry.register(" ++ loaderKey d.name ++ ", " ++ loaderType d.name ++ "::new(") ++
          ("A" ++ ("rc::clone(&services." ++ Naming.moduleName d.name ++ ")))?;")) := by
      unfold registration
      rw [hliteral]
      simp only [String.append_assoc]
    have hcapital : ("A" : String).toList = ['A'] := by decide
    rw [hline, String.toList_append, String.toList_append (s := "A"), hcapital]
    rfl
  have hrest : 'A' ∉ ("rc::clone(&services." ++ Naming.moduleName d.name ++ ")))?;").toList := by
    simp only [String.toList_append, List.mem_append, not_or]
    exact ⟨⟨by decide, capital_not_mem_moduleName d.name⟩, by decide⟩
  rw [hcut, List.reverse_append, List.reverse_cons, List.append_assoc,
    List.takeWhile_append_of_pos fun c hc => ?_]
  · simp
  · exact decide_eq_true fun h => hrest (h ▸ List.mem_reverse.1 hc)

/-- A registration tells the module of its entity. -/
theorem moduleName_of_registration (h : registration d = registration d') :
    Naming.moduleName d.name = Naming.moduleName d'.name := by
  have htail := takeWhile_registration d
  rw [h, takeWhile_registration d'] at htail
  have hline := String.ext (List.reverse_injective htail)
  rw [String.append_left_inj, String.append_right_inj] at hline
  exact hline.symm

theorem registryLines_eq (ds : List Descriptor) : ∃ before after,
    registryLines ds = before ++ (loaded ds).map registration ++ after ∧
      ∀ line ∈ before ++ after, ∀ d, line ≠ registration d := by
  have hhead (d : Descriptor) : (registration d).toList.head? = some 'r' := by
    have hliteral : "registry.register(".toList.head? = some 'r' := by decide
    unfold registration
    simp only [String.append_assoc, String.toList_append, List.head?_append, hliteral,
      Option.some_or]
  have hother {line : String} (hline : line.toList.head? ≠ some 'r') (d : Descriptor) :
      line ≠ registration d := by
    rintro rfl
    exact hline (hhead d)
  cases hloaded : loaded ds with
  | nil =>
    refine ⟨["Ok(LoaderRegistry::new())"], [], by simp [registryLines, registryFunction, hloaded],
      fun line hline => ?_⟩
    obtain rfl := List.mem_singleton.1 hline
    exact hother (by decide)
  | cons d ds' =>
    refine ⟨["let mut registry = LoaderRegistry::new();"], ["Ok(registry)"],
      by simp [registryLines, registryFunction, hloaded], fun line hline => ?_⟩
    rcases List.mem_cons.1 hline with rfl | hline
    · exact hother (by decide)
    · obtain rfl := List.mem_singleton.1 hline
      exact hother (by decide)

/-- Every path with an import of the registry is the one of a loader, or none at all. -/
theorem exists_of_mem_registryImports {modules : ModulePaths} {name : String}
    (h : (loaderPath modules d, name) ∈ registryImports modules ds) :
    ∃ d' ∈ loaded ds, loaderPath modules d' = loaderPath modules d := by
  have hending : ending (loaderPath modules d) = ending "_loader" := by
    rw [loaderPath, loaderModule, ← String.append_assoc, ending_append _ (by decide)]
  have hother (path : String) (hpath : ending path ≠ ending "_loader") :
      loaderPath modules d ≠ path := by
    rintro rfl
    exact hpath hending
  have hsync := hother "std::sync" (by decide)
  have htime := hother "std::time" (by decide)
  have hruntime := hother (modules.sdk ++ "::runtime")
    (by rw [ending_append _ (by decide)]; decide)
  have hengine := hother (modules.contract ++ "::engine")
    (by rw [ending_append _ (by decide)]; decide)
  rcases List.mem_append.1 h with h | h
  · simp [hsync, htime, hruntime, hengine] at h
  · obtain ⟨d', hd', h⟩ := List.mem_flatMap.1 h
    refine ⟨d', hd', ?_⟩
    rcases List.mem_cons.1 h with h | h
    · exact (congrArg Prod.fst h).symm
    · exact (congrArg Prod.fst (List.mem_singleton.1 h)).symm

/-- Loaders under one path belong to one module. -/
theorem moduleName_of_loaderPath {modules : ModulePaths}
    (h : loaderPath modules d = loaderPath modules d') :
    Naming.moduleName d.name = Naming.moduleName d'.name := by
  rw [loaderPath, loaderPath, String.append_right_inj] at h
  exact moduleName_of_loaderModule h

/-- Neither the engine nor a contract or an implementation is in a module of a loader. -/
theorem exists_of_mem_runModules {i : Inhabitant} (hi : i ∈ runModules ds)
    (h : i.module = loaderModule d.name) :
    ∃ d' ∈ loaded ds, loaderModule d'.name = loaderModule d.name := by
  have hending (e : String) : ending (loaderModule e) = ending "_loader" := by
    rw [loaderModule, ending_append _ (by decide)]
  have hother (module : String) (hmodule : ending module ≠ ending "_loader") :
      module ≠ loaderModule d.name := by
    rintro rfl
    exact hmodule (hending d.name)
  rcases List.mem_append.1 hi with hi | hi
  · rcases List.mem_cons.1 hi with rfl | hi
    · exact absurd h (hother "engine" (by decide))
    · obtain rfl := List.mem_singleton.1 hi
      exact absurd h (hother "registry" (by decide))
  · obtain ⟨d', hd', hi⟩ := List.mem_flatMap.1 hi
    rcases List.mem_append.1 hi with hi | hi
    · rcases List.mem_cons.1 hi with rfl | hi
      · exact absurd h (hother (contractModule d'.name)
          (by rw [contractModule, ending_append _ (by decide)]; decide))
      · obtain rfl := List.mem_singleton.1 hi
        exact absurd h (hother (implementationModule d'.name)
          (by rw [implementationModule, ending_append _ (by decide)]; decide))
    · split at hi
      · next hloader =>
        obtain rfl := List.mem_singleton.1 hi
        exact ⟨d', mem_loaded.2 ⟨hd', hloader⟩, h⟩
      · cases hi

/-! ### All together -/

/-- The index of the directory of loaders declares the loader of an entity. -/
def Indexed (config : GeneratorConfig) (ds : List Descriptor) (d : Descriptor) : Prop :=
  ∃ dir ∈ directories config (runModules ds),
    dir.path.components = (config.dir .loader).components ∧
      loaderModule d.name ∈ dir.modules.keys

/-- The text of the index of the directory of loaders declares the loader of an entity. -/
def IndexDeclares (config : GeneratorConfig) (ds : List Descriptor) (d : Descriptor) : Prop :=
  ∃ a ∈ moduleIndexes config ds,
    a.path.components = (config.dir .loader).components ++ [.name "mod.rs"] ∧
      loaderModule d.name ∈ declared a.contents

/-- The line of a service in the engine. -/
def serviceLine (d : Descriptor) : String :=
  "    pub " ++ Naming.moduleName d.name ++ ": Arc<" ++ serviceClass d ++ ">,\n"

/-- What the files of a run say about the loader of one of their entities. -/
structure LoaderWired (config : GeneratorConfig) (ds : List Descriptor) (d : Descriptor) :
    Prop where
  /-- There is a file of the loader. -/
  rendered : (∃ a ∈ entityArtifacts config d, a.category = .loader) ↔ hasLoader d = true
  /-- Nothing is said about its absence. -/
  silent : entityWarnings d = [] ↔ hasLoader d = true
  registered : Registered config ds d ↔ hasLoader d = true
  /-- Its key is listed. -/
  listed : loaderKey d.name ∈ loaderKeys ds ↔ hasLoader d = true
  indexed : Indexed config ds d ↔ hasLoader d = true
  /-- So it is in the text of the index, where no name of an entity cuts a line. -/
  declared : (∀ e ∈ ds, Inline e.name) → (IndexDeclares config ds d ↔ hasLoader d = true)
  /-- It is registered once under its key for the service of its module, or not at all. -/
  registeredOnce : (registryLines ds).count ("registry.register(" ++ loaderKey d.name ++ ", " ++
    loaderType d.name ++ "::new(Arc::clone(&services." ++ Naming.moduleName d.name ++
    ")))?;") = if hasLoader d then 1 else 0
  /-- Its key is listed once, or not at all. -/
  listedOnce : (loaderKeys ds).count (loaderKey d.name) = if hasLoader d then 1 else 0
  /-- The engine declares this service. -/
  served : ⟨"pub " ++ Naming.moduleName d.name, "Arc<" ++ serviceClass d ++ ">"⟩ ∈
    (serviceSet ds).fields
  /-- An operation with a use for the context loads the entity by its own key, which it imports. -/
  loading : ∀ m ∈ d.methods,
    (operationFunction d m).params.head?.map Binding.name = some "ctx" →
      hasLoader d = true ∧
      (loaderPath config.modules d, loaderKey d.name) ∈ implementationImports config.modules d ∧
      (operationFunction d m).body = some (loadBody d.name m) ∧
      ∃ line ∈ loadBody d.name m, ∃ before id after, line = before ++ "ctx.load::<" ++ d.name ++
        ">(" ++ loaderKey d.name ++ ", i64::from(" ++ id ++ ")).await?" ++ after
  /-- Reading the entity by its identifier is such an operation. -/
  reading : ∀ m ∈ d.methods, ∀ p s, m.kind = .readOne → m.params = [p] →
    p.type.isScalar s = true → s = .int ∨ s = .long → m.returns.isList = false →
      m.returns.leafEntity? = some d.name →
        viaLoader d m = true ∧ (operationFunction d m).body = some (loadBody d.name m) ∧
          d.id? = some ⟨p.name, s⟩
  /-- These functions are read in the text of the implementation, where all names are names of the
  schema language. -/
  implemented : OperationsNamed d → ∃ b, Defines (implementation config d) b ∧
    b.functions = d.methods.map (operationFunction d)

/-- The text of an index declares what the index does. -/
theorem indexDeclares_iff (hnames : ∀ e ∈ ds, Inline e.name) (d : Descriptor) :
    IndexDeclares config ds d ↔ Indexed config ds d := by
  constructor
  · rintro ⟨a, ha, hpath, hmem⟩
    obtain ⟨dir, hdir, rfl⟩ := List.mem_map.1 ha
    rw [components_index] at hpath
    rw [declared_index (newline_not_mem_of_mem_modules hnames hdir)] at hmem
    exact ⟨dir, hdir, List.append_cancel_right hpath, hmem⟩
  · rintro ⟨dir, hdir, hpath, hmem⟩
    refine ⟨dir.index, List.mem_map_of_mem hdir, by rw [components_index, hpath], ?_⟩
    rwa [declared_index (newline_not_mem_of_mem_modules hnames hdir)]

/-- The text of the services, line by line. -/
theorem unlines_serviceSet (ds : List Descriptor) :
    Text.unlines (serviceSet ds).lines =
      "/// Backing services of every generated entity".toList ++
        ("\npub struct ServiceSet \x7b\n" ++ String.join (ds.map serviceLine) ++
          "\x7d\n").toList := by
  have hfields : Text.unlines (((serviceSet ds).fields.map fun b => b.chars ++ [',']).map
      (indented 4)) = (String.join (ds.map serviceLine)).toList := by
    rw [String.toList_join, Text.unlines]
    simp only [serviceSet, List.map_map, List.flatMap_map]
    refine List.flatMap_congr fun d _ => ?_
    simp [serviceLine, Binding.chars, indented]
  have hdoc : docLines "Backing services of every generated entity" =
      ["/// Backing services of every generated entity".toList] := by decide
  have hopen : '\n' :: ("pub struct ".toList ++ "ServiceSet".toList ++ " \x7b".toList ++ ['\n']) =
      "\npub struct ServiceSet \x7b\n".toList := by decide
  have hlines : (serviceSet ds).lines = docLines "Backing services of every generated entity" ++
      bracedLines ("pub struct ".toList ++ "ServiceSet".toList)
        ((serviceSet ds).fields.map fun b => b.chars ++ [',']) := rfl
  rw [hlines, hdoc, List.singleton_append, Text.unlines_cons, bracedLines, Text.unlines_cons,
    Text.unlines_append, hfields, String.toList_append, String.toList_append, ← hopen]
  simp

/-- The services stand between braces in the text of the engine, line by line. -/
theorem exists_engine_services (config : GeneratorConfig)
    (hlines : ∀ d ∈ ds, Text.OneLine d.name.toList ∧ Text.OneLine (serviceClass d).toList)
    (hds : ds ≠ []) :
    ∃ start rest, (engine config ds).contents = start ++ "\npub struct ServiceSet \x7b\n" ++
      String.join (ds.map serviceLine) ++ "\x7d\n" ++ rest := by
  have hreadable : (serviceSet ds).Readable := by
    constructor
    case doc =>
      have hdoc : Text.OneLine "Backing services of every generated entity".toList := by decide
      exact hdoc
    case name =>
      have hname : Text.OneLine "ServiceSet".toList := by decide
      exact hname
    case nonempty => simpa [serviceSet] using hds
    case fields =>
      intro b hb
      obtain ⟨d, hd, rfl⟩ := List.mem_map.1 hb
      obtain ⟨hname, hclass⟩ := hlines d hd
      have hmodule : Text.OneLine (Naming.moduleName d.name).toList :=
        ⟨not_mem_moduleName (by decide) (by decide) hname.1,
          not_mem_moduleName (by decide) (by decide) hname.2⟩
      dsimp only
      simp only [String.toList_append, Text.oneLine_append]
      exact ⟨⟨by decide, hmodule⟩, ⟨by decide, hclass⟩, by decide⟩
  have hlaid : Laid (Item.struct (serviceSet ds)).pieces (serviceSet ds).lines :=
    laid_struct hreadable
  obtain ⟨start, rest, htext⟩ := exists_file_item hlaid
    ["//! Generated execution engine wiring", generatedNotice] (engineImports config.modules ds) []
    (List.cons_ne_nil (.struct (bindingSet ds)) [.block (bindingBlock ds),
      rootConstant "QUERY_FIELDS" (rootEntries ds false),
      rootConstant "MUTATION_FIELDS" (rootEntries ds true)])
  have hcontents : (engine config ds).contents.toList = start ++ '\n' ::
      (Text.unlines (serviceSet ds).lines ++ rest) := htext
  rw [unlines_serviceSet] at hcontents
  refine ⟨String.ofList (start ++ '\n' :: "/// Backing services of every generated entity".toList),
    String.ofList rest, String.ext ?_⟩
  rw [hcontents]
  simp only [String.toList_append, String.toList_ofList, List.append_assoc, List.cons_append]

section Distinct

variable (hkeys : (ds.map fun d => loaderKey d.name).Nodup)
include hkeys

/-- Entities of one module are the same. -/
theorem eq_of_moduleName (hd : d ∈ ds) (hd' : d' ∈ ds)
    (h : Naming.moduleName d.name = Naming.moduleName d'.name) : d = d' :=
  List.inj_on_of_nodup_map hkeys hd hd' (loaderKey_congr h)

theorem registered_iff (hd : d ∈ ds) : Registered config ds d ↔ hasLoader d = true := by
  constructor
  · rintro ⟨himport, -, -⟩
    obtain ⟨d', hd', hpath⟩ := exists_of_mem_registryImports himport
    obtain ⟨hd', hloader⟩ := mem_loaded.1 hd'
    rwa [← eq_of_moduleName hkeys hd' hd (moduleName_of_loaderPath hpath)]
  · intro hloader
    have hmem : d ∈ loaded ds := mem_loaded.2 ⟨hd, hloader⟩
    obtain ⟨before, after, hlines, -⟩ := registryLines_eq ds
    refine ⟨List.mem_append_right _ (List.mem_flatMap.2 ⟨d, hmem, List.mem_cons_self⟩),
      List.mem_append_right _
        (List.mem_flatMap.2 ⟨d, hmem, List.mem_cons_of_mem _ List.mem_cons_self⟩), ?_⟩
    rw [hlines]
    exact List.mem_append_left _ (List.mem_append_right _ (List.mem_map_of_mem hmem))

theorem listed_iff (hd : d ∈ ds) : loaderKey d.name ∈ loaderKeys ds ↔ hasLoader d = true := by
  constructor
  · intro h
    obtain ⟨d', hd', hkey⟩ := List.mem_map.1 h
    obtain ⟨hd', hloader⟩ := mem_loaded.1 hd'
    rwa [← List.inj_on_of_nodup_map hkeys hd' hd hkey]
  · exact fun hloader => List.mem_map_of_mem (mem_loaded.2 ⟨hd, hloader⟩)

theorem indexed_iff (hd : d ∈ ds) : Indexed config ds d ↔ hasLoader d = true := by
  constructor
  · rintro ⟨dir, hdir, -, hmem⟩
    obtain ⟨i, hi, -, hmodule⟩ := (mem_modules_iff hdir).1 hmem
    obtain ⟨d', hd', hsame⟩ := exists_of_mem_runModules hi hmodule
    obtain ⟨hd', hloader⟩ := mem_loaded.1 hd'
    rwa [← eq_of_moduleName hkeys hd' hd (moduleName_of_loaderModule hsame)]
  · intro hloader
    have hi : ⟨.loader, loaderModule d.name⟩ ∈ runModules ds := by
      refine List.mem_append_right _ (List.mem_flatMap.2 ⟨d, hd, List.mem_append_right _ ?_⟩)
      rw [if_pos hloader]
      exact List.mem_cons_self
    obtain ⟨dir, hdir, hcomponents⟩ := exists_mem_directories config hi
    exact ⟨dir, hdir, hcomponents, (mem_modules_iff hdir).2 ⟨_, hi, hcomponents.symm, rfl⟩⟩

theorem nodup_loaded : (loaded ds).Nodup :=
  (List.Nodup.of_map _ hkeys).filter _

/-- A loader is registered once, and one that does not exist is not registered. -/
theorem count_registration (hd : d ∈ ds) :
    (registryLines ds).count (registration d) = if hasLoader d then 1 else 0 := by
  obtain ⟨before, after, hlines, hother⟩ := registryLines_eq ds
  have hnone {lines : List String} (hsub : ∀ line ∈ lines, line ∈ before ++ after) :
      lines.count (registration d) = 0 :=
    List.count_eq_zero.2 fun h => hother _ (hsub _ h) d rfl
  have hinj {d₁ d₂ : Descriptor} (h₁ : d₁ ∈ loaded ds) (h₂ : d₂ ∈ ds)
      (h : registration d₁ = registration d₂) : d₁ = d₂ :=
    eq_of_moduleName hkeys (mem_loaded.1 h₁).1 h₂ (moduleName_of_registration h)
  have hnodup : ((loaded ds).map registration).Nodup :=
    (nodup_loaded hkeys).map_on fun d₁ h₁ d₂ h₂ => hinj h₁ (mem_loaded.1 h₂).1
  rw [hlines, List.count_append, List.count_append, hnone fun _ => List.mem_append_left _,
    hnone fun _ => List.mem_append_right _, Nat.zero_add, Nat.add_zero, hnodup.count]
  refine if_congr ⟨fun h => ?_, fun hloader => ?_⟩ rfl rfl
  · obtain ⟨d', hd', hline⟩ := List.mem_map.1 h
    rw [← hinj hd' hd hline]
    exact (mem_loaded.1 hd').2
  · exact List.mem_map_of_mem (mem_loaded.2 ⟨hd, hloader⟩)

/-- The key of a loader is listed once, and that of one that does not exist is not listed. -/
theorem count_loaderKey (hd : d ∈ ds) :
    (loaderKeys ds).count (loaderKey d.name) = if hasLoader d then 1 else 0 := by
  have hsublist : (loaderKeys ds).Sublist (ds.map fun d => loaderKey d.name) :=
    List.filter_sublist.map _
  rw [(hkeys.sublist hsublist).count]
  exact if_congr (listed_iff hkeys hd) rfl rfl

end Distinct

/-- Only an operation that the loader answers has a use for the context. -/
theorem viaLoader_of_context {m : Method}
    (h : (operationFunction d m).params.head?.map Binding.name = some "ctx") :
    viaLoader d m = true := by
  by_contra hservice
  unfold operationFunction at h
  rw [if_neg hservice] at h
  exact absurd (Option.some.inj h) (by decide)

/-- One of the lines of an operation that the loader answers has the call of the loader. -/
theorem exists_mem_loadBody (entity : String) {m : Method} {p : Param} (hparams : m.params = [p]) :
    ∃ line ∈ loadBody entity m, ∃ before id after,
      line = before ++ "Ok(" ++ loadCall entity id ++ ")" ++ after := by
  unfold loadBody
  rw [hparams]
  dsimp only
  split
  · refine ⟨_, List.mem_cons_of_mem _ List.mem_cons_self, "    Some(id) => ", "id", ",", ?_⟩
    have hopen : "    Some(id) => " ++ "Ok(" = "    Some(id) => Ok(" := by decide
    have hclose : ")" ++ "," = ")," := by decide
    rw [hopen, ← hclose, ← String.append_assoc]
  · exact ⟨_, List.mem_cons_self, "", identifier p.name, "", by simp⟩

theorem exists_loadCall (entity : String) {m : Method} {p : Param} (hparams : m.params = [p]) :
    ∃ line ∈ loadBody entity m, ∃ before id after, line = before ++ "ctx.load::<" ++ entity ++
      ">(" ++ loaderKey entity ++ ", i64::from(" ++ id ++ ")).await?" ++ after := by
  obtain ⟨line, hline, before, id, after, rfl⟩ := exists_mem_loadBody entity hparams
  refine ⟨_, hline, before ++ "Ok(", id, ")" ++ after, ?_⟩
  unfold loadCall
  simp only [String.append_assoc]

/-- An operation that the loader answers loads its entity. -/
theorem loading_of_viaLoader {m : Method} (hm : m ∈ d.methods) (h : viaLoader d m = true) :
    hasLoader d = true ∧
      (loaderPath config.modules d, loaderKey d.name) ∈ implementationImports config.modules d ∧
      (operationFunction d m).body = some (loadBody d.name m) ∧
      ∃ line ∈ loadBody d.name m, ∃ before id after, line = before ++ "ctx.load::<" ++ d.name ++
        ">(" ++ loaderKey d.name ++ ", i64::from(" ++ id ++ ")).await?" ++ after := by
  obtain ⟨hloader, hloads⟩ := Bool.and_eq_true_iff.1 h
  obtain ⟨id, p, -, hparams, -⟩ := exists_of_loadsById hloads
  refine ⟨hloader, ?_, body_of_viaLoader h, exists_loadCall d.name hparams⟩
  unfold implementationImports
  rw [if_pos (List.any_eq_true.2 ⟨m, hm, h⟩)]
  exact List.mem_append_right _ List.mem_cons_self

/-! ### Keys -/

/-- Identifiers in different modules have keys under different constants. -/
theorem nodup_loaderKeys (hnames : ∀ d ∈ ds, Schema.isName d.name.toList = true)
    (hmodules : (ds.map fun d => Naming.moduleName d.name).Nodup) :
    (ds.map fun d => loaderKey d.name).Nodup := by
  refine (List.Nodup.of_map _ hmodules).map_on fun d hd d' hd' h => ?_
  rw [loaderKey, loaderKey, String.append_left_inj] at h
  exact List.inj_on_of_nodup_map hmodules hd hd'
    (Text.snakeCase_of_upper (Schema.continuesName_of_isName (hnames d hd))
      (Schema.continuesName_of_isName (hnames d' hd')) h)

/-- A catalog of entities, some of which can be read by an identifier. -/
def readers (es : List (String × Bool)) : Catalog where
  classes := es.flatMap fun (e, byId) =>
    let params : List ParamDef := if byId then [⟨"id", "long"⟩] else []
    [⟨e, [{ name := "getName", returns := "String" }]⟩,
      ⟨e ++ "Service", [{ name := "getOne", params, returns := e }]⟩]

/-- The descriptors of these entities. -/
def readersDescribed (es : List (String × Bool)) : List Descriptor :=
  es.filterMap fun (e, _) =>
    (describe (readers es) (KeySet.ofList (es.map Prod.fst)) {} e
      { service := e ++ "Service" }).toOption.map Described.descriptor

theorem exists_isDescribed (es : List (String × Bool)) : ∀ d ∈ readersDescribed es,
    ∃ catalog known modules p, Generation.IsDescribed catalog known modules p d := by
  intro d hd
  obtain ⟨⟨e, byId⟩, -, hd⟩ := List.mem_filterMap.1 hd
  obtain ⟨x, hx, rfl⟩ := Option.map_eq_some_iff.1 hd
  refine ⟨readers es, KeySet.ofList (es.map Prod.fst), {}, (e, { service := e ++ "Service" }),
    x.warnings, ?_⟩
  exact eq_ok_of_toOption hx

/-! ### The main theorem -/

/-- **The wiring of loaders is consistent.**  Take described entities whose loaders have keys under
different constants.  The file of the registry is made of its imports, the list of the keys and the
function that registers the loaders.  For each of the entities there is a file of its loader exactly
if no warning says that there is none, if the registry imports and registers the loader under its
key, if the key is listed and if the index of the directory declares the module.  Then the loader
is registered once and its key is listed once, for a service that the engine declares.  Operations
that use a loader use the one of their entity, and so does the one that reads an entity by an
identifier.  Where no name cuts a line or a piece of code, all this stands in the text of the files:
the services in that of the engine, the module in that of the index and the functions in that of the
implementation. -/
theorem loaders_wired (config : GeneratorConfig) {ds : List Descriptor}
    (hdescribed : ∀ d ∈ ds, ∃ catalog known modules p,
      Generation.IsDescribed catalog known modules p d)
    (hkeys : (ds.map fun d => loaderKey d.name).Nodup) :
    (registry config ds).contents = file
      ["//! Generated loader registry wiring", generatedNotice]
      { imports := registryImports config.modules ds
        items := [.raw ("/// Registry keys of every generated loader\n" ++
            "pub const LOADER_KEYS: &[&str] = &[" ++
            String.intercalate ", " (loaderKeys ds) ++ "];"),
          .function (optionsFunction config.loader), .function (registryFunction ds),
          .function runtimeFunction] } ∧
    ((∀ d ∈ ds, Text.OneLine d.name.toList ∧ Text.OneLine (serviceClass d).toList) → ds ≠ [] →
      ∃ start rest, (engine config ds).contents = start ++ "\npub struct ServiceSet \x7b\n" ++
        String.join (ds.map serviceLine) ++ "\x7d\n" ++ rest) ∧
    ∀ d ∈ ds, LoaderWired config ds d := by
  refine ⟨rfl, exists_engine_services config, fun d hd => ?_⟩
  obtain ⟨catalog, known, modules, p, warnings, hdescribe⟩ := hdescribed d hd
  have hone : (d.methods.countP fun m => m.kind == .readOne) ≤ 1 := countP_kind_le_one hdescribe rfl
  exact
    { rendered := exists_loader_iff
      silent := entityWarnings_eq_nil_iff
      registered := registered_iff hkeys hd
      listed := listed_iff hkeys hd
      indexed := indexed_iff hkeys hd
      declared := fun hnames => (indexDeclares_iff hnames d).trans (indexed_iff hkeys hd)
      registeredOnce := count_registration hkeys hd
      listedOnce := count_loaderKey hkeys hd
      served := List.mem_map_of_mem hd
      loading := fun m hm hctx => loading_of_viaLoader hm (viaLoader_of_context hctx)
      reading := fun m hm p s hkind hparams hscalar hs hlist hreturns => by
        obtain ⟨hloader, hid⟩ :=
          viaLoader_of_readOne hone hm hkind hparams hscalar hs hlist hreturns
        exact ⟨hloader, body_of_viaLoader hloader, hid⟩
      implemented := fun hnamed => ⟨_, defines_implementation hnamed config, rfl⟩ }

/-- Of a part and a note only the part can be read by an identifier; the index and the text of its
implementation say so, and the engine has a service for each of them. -/
theorem loaders_wired_readers :
    let config := Generation.lone "Part"
    let ds := readersDescribed [("Part", true), ("Note", false)]
    ((∀ d ∈ ds, ∃ catalog known modules p, Generation.IsDescribed catalog known modules p d) ∧
      (ds.map fun d => loaderKey d.name).Nodup) ∧
    ds.map (fun d => (d.name, hasLoader d)) = [("Part", true), ("Note", false)] ∧
    (∀ d ∈ ds, LoaderWired config ds d) ∧
    (∃ start rest, (engine config ds).contents = start ++ "\npub struct ServiceSet \x7b\n" ++
      String.join (ds.map serviceLine) ++ "\x7d\n" ++ rest) ∧
    ∀ d ∈ ds, (IndexDeclares config ds d ↔ hasLoader d = true) ∧
      ∃ b, readBlock (implementation config d).contents = some b ∧
        b.functions = d.methods.map (operationFunction d) := by
  intro config ds
  have hnames : ∀ d ∈ ds, Schema.isName d.name.toList = true := by decide +kernel
  have hmodules : (ds.map fun d => Naming.moduleName d.name).Nodup := by decide +kernel
  have hdescribed := exists_isDescribed [("Part", true), ("Note", false)]
  have hkeys := nodup_loaderKeys hnames hmodules
  have hinline : ∀ d ∈ ds, Inline d.name := by
    unfold Inline
    decide +kernel
  have hlines : ∀ d ∈ ds, Text.OneLine d.name.toList ∧ Text.OneLine (serviceClass d).toList := by
    decide +kernel
  have hnamed : ∀ d ∈ ds, OperationsNamed d := by decide +kernel
  obtain ⟨-, hservices, hwired⟩ := loaders_wired config hdescribed hkeys
  refine ⟨⟨hdescribed, hkeys⟩, by decide +kernel, hwired,
    hservices hlines (by decide +kernel), fun d hd => ?_⟩
  exact ⟨(hwired d hd).declared hinline, (hwired d hd).implemented (hnamed d hd)⟩

/-- Beyond ASCII the keys of different modules can be under one constant: that of the two streets
which can be read by an identifier is listed twice, and it is listed for the third one as well. -/
theorem loaderKeys_collide :
    let ds := readersDescribed [("Straße", true), ("Straſſe", true), ("Strasse", false)]
    (∀ d ∈ ds, ∃ catalog known modules p, Generation.IsDescribed catalog known modules p d) ∧
    (ds.map Descriptor.name).Nodup ∧ (ds.map fun d => Naming.moduleName d.name).Nodup ∧
    (∃ d ∈ ds, hasLoader d = true ∧ (loaderKeys ds).count (loaderKey d.name) = 2) ∧
    ∃ d ∈ ds, entityWarnings d ≠ [] ∧ loaderKey d.name ∈ loaderKeys ds := by
  intro ds
  exact ⟨exists_isDescribed _, by decide +kernel, by decide +kernel, by decide +kernel,
    by decide +kernel⟩

end GraphLayer.Rendering
