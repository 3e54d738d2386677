import GraphLayer.Proofs.Rendering.ArtifactPaths
import GraphLayer.Proofs.Text.Lines

/-!
# What the indexes of modules declare

* `declared`, the modules that a text declares, and `declared_index`: those of a directory are read
  back from its index;
* `housed`, the modules of one directory, and `find?_foldl_addModule`: what is made of them;
* `codeFiles`, the files of generated code, and `map_path_codeFiles`: there is one for every module;
* `moduleIndexes_declare`: the index of a directory declares the files of code in it, and every
  directory with such files has one.
-/

namespace GraphLayer

/-- Components are told apart by their ranks. -/
theorem Component.rank_injective : Function.Injective Component.rank := by
  intro a b h
  cases a <;> cases b <;> simp only [rank, List.cons.injEq] at h
  case name.name s t =>
    have hchars : s.toList = t.toList :=
      List.map_injective_iff.2 (fun _ _ => Char.toNat_inj.1) h.2
    rw [String.ext hchars]
  all_goals first | rfl | exact absurd h.1 (by decide)

/-- Paths have the same rank exactly when they have the same components. -/
theorem Path.rank_eq_iff {p q : Path} : p.rank = q.rank ↔ p.components = q.components :=
  (List.map_injective_iff.2 Component.rank_injective).eq_iff

end GraphLayer

namespace GraphLayer.Rendering

/-! ### Reading an index -/

/-- The module that a line declares. -/
def declaredModule? (line : List Char) : Option String :=
  ((Text.stripStart? "pub mod ".toList line).bind (Text.stripEnd? [';'])).map String.ofList

/-- The modules that a text declares, line by line. -/
def declared (contents : String) : List String :=
  (Text.lines contents.toList).filterMap declaredModule?

theorem declaredModule?_declaration (m : String) :
    declaredModule? ("pub mod ".toList ++ (m.toList ++ [';'])) = some m := by
  rw [declaredModule?, Text.stripStart?_append, Option.bind_some, Text.stripEnd?_append,
    Option.map_some, String.ofList_toList]

/-- Declarations are read back line by line. -/
theorem filterMap_declaredModule? {ms : List String} (h : ∀ m ∈ ms, '\n' ∉ m.toList) :
    (Text.lines (ms.flatMap fun m => ("pub mod " ++ m ++ ";\n").toList)).filterMap
      declaredModule? = ms := by
  induction ms with
  | nil => rfl
  | cons m ms ih =>
    have hline : '\n' ∉ "pub mod ".toList ++ (m.toList ++ [';']) := by
      simp only [List.mem_append, not_or]
      exact ⟨by decide, h m List.mem_cons_self, by decide⟩
    have hchars : ("pub mod " ++ m ++ ";\n").toList =
        "pub mod ".toList ++ (m.toList ++ [';']) ++ ['\n'] := by
      simp
    have hkept : Text.dropReturn ("pub mod ".toList ++ (m.toList ++ [';'])) =
        "pub mod ".toList ++ (m.toList ++ [';']) := by
      rw [← List.append_assoc]
      exact Text.dropReturn_append _ (by decide)
    rw [List.flatMap_cons, hchars, List.append_assoc, List.singleton_append,
      Text.lines_append hline, hkept, List.filterMap_cons_some (declaredModule?_declaration m),
      ih fun m' hm' => h m' (List.mem_cons_of_mem _ hm')]

/-- The index of a directory declares its modules. -/
theorem declared_index {d : Directory} (h : ∀ m ∈ d.modules.keys, '\n' ∉ m.toList) :
    declared d.index.contents = d.modules.keys := by
  have hcontents : d.index.contents.toList = "//! Generated module index".toList ++ '\n' ::
      (generatedNotice.toList ++ '\n' :: ([] ++ '\n' ::
        d.modules.keys.flatMap fun m => ("pub mod " ++ m ++ ";\n").toList)) := by
    simp [Directory.index, String.toList_join, List.flatMap_map]
  -- no line of the heading declares a module
  have hheading : declaredModule? (Text.dropReturn "//! Generated module index".toList) = none ∧
      declaredModule? (Text.dropReturn generatedNotice.toList) = none ∧
      declaredModule? (Text.dropReturn []) = none := by decide
  rw [declared, hcontents, Text.lines_append (by decide), Text.lines_append (by decide),
    Text.lines_append (by decide), List.filterMap_cons_none hheading.1,
    List.filterMap_cons_none hheading.2.1, List.filterMap_cons_none hheading.2.2]
  exact filterMap_declaredModule? h

/-! ### Directories -/

variable {config : GeneratorConfig} {ds : List Descriptor} {is : List Inhabitant}

/-- The modules in the directory of a rank, in order. -/
def housed (config : GeneratorConfig) (rank : List (List Nat)) (is : List Inhabitant) :
    List Inhabitant :=
  is.filter fun i => (config.dir i.category).rank = rank

/-- The directory of some modules: it has the spelling and the category of the first one. -/
def directoryOf? (config : GeneratorConfig) : List Inhabitant → Option Directory
  | [] => none
  | i :: is => some ⟨config.dir i.category, i.category,
      KeySet.ofList ((i :: is).map Inhabitant.module)⟩

/-- One more module of a directory. -/
theorem directoryOf?_concat (config : GeneratorConfig) (is : List Inhabitant) (i : Inhabitant) :
    directoryOf? config (is ++ [i]) = some (match directoryOf? config is with
      | none => ⟨config.dir i.category, i.category, KeySet.ofList [i.module]⟩
      | some d => { d with modules := d.modules.insert i.module () }) := by
  cases is with
  | nil => rfl
  | cons j js =>
    rw [List.cons_append, directoryOf?, directoryOf?, ← List.cons_append, List.map_append,
      List.map_singleton, KeySet.ofList_concat]

/-- What a module changes. -/
theorem find?_addModule (dirs : Directories) (i : Inhabitant) {rank : List (List Nat)}
    (h : dirs.find? rank = directoryOf? config (housed config rank is)) :
    (addModule config dirs i).find? rank =
      directoryOf? config (housed config rank (is ++ [i])) := by
  rw [addModule, Dict.find?_upsert, housed, List.filter_append]
  by_cases hrank : (config.dir i.category).rank = rank
  · subst hrank
    rw [if_pos rfl, h, List.filter_cons_of_pos (by simp), List.filter_nil, directoryOf?_concat]
    rfl
  · rw [if_neg (Ne.symm hrank), h, List.filter_cons_of_neg (by simpa using hrank), List.filter_nil,
      List.append_nil]
    rfl

/-- **What is made of the modules of a run**: a directory for each rank, of the modules that are
housed there. -/
theorem find?_foldl_addModule (config : GeneratorConfig) (is : List Inhabitant)
    (rank : List (List Nat)) :
    (is.foldl (addModule config) .empty).find? rank =
      directoryOf? config (housed config rank is) := by
  have hfoldl (js : List Inhabitant) (dirs : Directories)
      (h : dirs.find? rank = directoryOf? config (housed config rank js)) :
      (is.foldl (addModule config) dirs).find? rank =
        directoryOf? config (housed config rank (js ++ is)) := by
    induction is generalizing js dirs with
    | nil => simpa using h
    | cons i is ih =>
      have hnext := ih (js ++ [i]) (addModule config dirs i) (find?_addModule dirs i h)
      rwa [List.append_assoc, List.singleton_append] at hnext
  exact hfoldl [] .empty rfl

/-- A directory is made of the modules that are housed in it, of which there is at least one. -/
theorem exists_housed {d : Directory} (hd : d ∈ directories config is) :
    ∃ i js, housed config d.path.rank is = i :: js ∧
      d.modules = KeySet.ofList ((i :: js).map Inhabitant.module) := by
  obtain ⟨p, hp, rfl⟩ := List.mem_map.1 hd
  have hfound := Dict.find?_eq_some_iff.2 (show (p.1, p.2) ∈ _ from hp)
  rw [find?_foldl_addModule, ← (isFiled_of_mem hp).1] at hfound
  cases hhoused : housed config p.2.path.rank is with
  | nil =>
    rw [hhoused] at hfound
    cases hfound
  | cons i js =>
    rw [hhoused] at hfound
    exact ⟨i, js, rfl, (congrArg Directory.modules (Option.some.inj hfound)).symm⟩

theorem mem_housed_iff {p : Path} {i : Inhabitant} :
    i ∈ housed config p.rank is ↔ i ∈ is ∧ (config.dir i.category).components = p.components := by
  rw [housed, List.mem_filter, decide_eq_true_eq, Path.rank_eq_iff]

/-- The modules of a directory are those of its components. -/
theorem mem_modules_iff {d : Directory} (hd : d ∈ directories config is) {m : String} :
    m ∈ d.modules.keys ↔
      ∃ i ∈ is, (config.dir i.category).components = d.path.components ∧ i.module = m := by
  obtain ⟨i, js, hhoused, hmodules⟩ := exists_housed hd
  rw [hmodules, KeySet.mem_keys_ofList, ← hhoused, List.mem_map]
  simp only [mem_housed_iff, and_assoc]

/-- Every directory houses a module. -/
theorem exists_mem_of_mem_directories {d : Directory} (hd : d ∈ directories config is) :
    ∃ i ∈ is, (config.dir i.category).components = d.path.components := by
  obtain ⟨i, js, hhoused, -⟩ := exists_housed hd
  have hmem : i ∈ housed config d.path.rank is := hhoused ▸ List.mem_cons_self
  exact ⟨i, mem_housed_iff.1 hmem⟩

/-- There is a directory for every module. -/
theorem exists_mem_directories (config : GeneratorConfig) {i : Inhabitant} (hi : i ∈ is) :
    ∃ d ∈ directories config is, d.path.components = (config.dir i.category).components := by
  have hmem : i ∈ housed config (config.dir i.category).rank is := mem_housed_iff.2 ⟨hi, rfl⟩
  obtain ⟨j, js, hhoused⟩ := List.exists_cons_of_ne_nil (List.ne_nil_of_mem hmem)
  have hfound := find?_foldl_addModule config is (config.dir i.category).rank
  rw [hhoused, directoryOf?] at hfound
  have hpair := Dict.find?_eq_some_iff.1 hfound
  exact ⟨_, List.mem_map_of_mem hpair, Path.rank_eq_iff.1 (isFiled_of_mem hpair).1⟩

/-! ### Files of code -/

/-- The files of generated code of a run, but for the indexes of modules. -/
def codeFiles (config : GeneratorConfig) (ds : List Descriptor) : List Artifact :=
  [engine config ds, registry config ds] ++
    ds.flatMap fun d => (entityArtifacts config d).filter fun a => a.category ≠ .schema

/-- There is a file of code for every module of a run, in the same order. -/
theorem map_path_codeFiles (config : GeneratorConfig) (ds : List Descriptor) :
    (codeFiles config ds).map Artifact.path =
      (runModules ds).map fun i => filePath config i.category (i.module ++ ".rs") := by
  have hentity (d : Descriptor) :
      ((entityArtifacts config d).filter fun a => a.category ≠ .schema).map Artifact.path =
        (entityModules d).map fun i => filePath config i.category (i.module ++ ".rs") := by
    cases hplan : LoaderPlan.ofDescriptor? d with
    | none =>
      simp [entityArtifacts, entityModules, loaderFile?, hasLoader, hplan, path_contract,
        path_implementation]
    | some plan =>
      simp [entityArtifacts, entityModules, loaderFile?, hasLoader, hplan, path_contract,
        path_implementation, path_batchLoader]
  have hfixed : [engine config ds, registry config ds].map Artifact.path =
      [⟨.contract, "engine"⟩, ⟨.loader, "registry"⟩].map fun i : Inhabitant =>
        filePath config i.category (i.module ++ ".rs") := by
    simp only [List.map_cons, List.map_nil, engine, registry]
    congr
  rw [codeFiles, runModules, List.map_append, List.map_append, hfixed, List.map_flatMap,
    List.map_flatMap]
  simp only [hentity]

/-- Neither a separator nor a line feed: nothing in the name cuts the path of a file or a line. -/
def Inline (name : String) : Prop := '/' ∉ name.toList ∧ '\n' ∉ name.toList

theorem inline_append {m s : String} (hm : Inline m) (hs : Inline s) : Inline (m ++ s) := by
  simp only [Inline, String.toList_append, List.mem_append, not_or]
  exact ⟨⟨hm.1, hs.1⟩, hm.2, hs.2⟩

/-- A module has no control character or punctuation that is not in the name of its entity. -/
theorem not_mem_moduleName {e : String} {c : Char} (hc : c.toNat < 95) (h0 : c.toNat ≠ 0)
    (h : c ∉ e.toList) : c ∉ (Naming.moduleName e).toList := by
  intro hmem
  rcases Text.mem_of_mem_snakeCase hmem (Nat.lt_trans hc (by decide)) h0 with rfl | ⟨hmem, -⟩
  · exact absurd hc (by decide)
  · exact h hmem

theorem inline_moduleName {e : String} (he : Inline e) : Inline (Naming.moduleName e) :=
  ⟨not_mem_moduleName (by decide) (by decide) he.1, not_mem_moduleName (by decide) (by decide) he.2⟩

theorem inline_of_mem_runModules (hnames : ∀ d ∈ ds, Inline d.name) {i : Inhabitant}
    (hi : i ∈ runModules ds) : Inline i.module := by
  have hfixed : ∀ m ∈ ["engine", "registry", "_resolver", "_resolver_impl", "_loader"],
      Inline m := by
    unfold Inline
    decide
  rcases List.mem_append.1 hi with hi | hi
  · rcases List.mem_cons.1 hi with rfl | hi
    · exact hfixed _ (by decide)
    · obtain rfl := List.mem_singleton.1 hi
      exact hfixed _ (by decide)
  · obtain ⟨d, hd, hi⟩ := List.mem_flatMap.1 hi
    have hsuffix {s : String} (hs : s ∈ ["_resolver", "_resolver_impl", "_loader"]) :
        Inline (Naming.moduleName d.name ++ s) :=
      inline_append (inline_moduleName (hnames d hd))
        (hfixed s (List.mem_cons_of_mem _ (List.mem_cons_of_mem _ hs)))
    rcases List.mem_append.1 hi with hi | hi
    · rcases List.mem_cons.1 hi with rfl | hi
      · exact hsuffix (by decide)
      · obtain rfl := List.mem_singleton.1 hi
        exact hsuffix (by decide)
    · split at hi
      · obtain rfl := List.mem_singleton.1 hi
        exact hsuffix (by decide)
      · cases hi

theorem isFileName_of_inline {m : String} (hm : Inline m) : Path.IsFileName (m ++ ".rs") := by
  have hlen : 3 ≤ (m ++ ".rs").toList.length := by
    rw [String.toList_append, List.length_append]
    exact Nat.le_add_left 3 _
  have hne {t : String} (ht : t.toList.length < 3) : m ++ ".rs" ≠ t := by
    rintro rfl
    exact absurd hlen (Nat.not_le_of_lt ht)
  refine .of_ne ?_ (hne (by decide)) (hne (by decide)) (hne (by decide))
  rw [String.toList_append, List.mem_append, not_or]
  exact ⟨hm.1, by decide⟩

/-- Where a file in the directory of a category is, however the directory is spelled. -/
theorem components_filePath_eq (config : GeneratorConfig) (k : Category) {file : String}
    (hfile : Path.IsFileName file) :
    (filePath config k file).components = (config.dir k).components ++ [.name file] :=
  Path.components_join_eq _ hfile

/-- A file of code in a directory belongs to a module of the run that is housed there. -/
theorem exists_codeFile_iff (hnames : ∀ d ∈ ds, Inline d.name) {dir : List Component}
    {file : String} :
    (∃ a ∈ codeFiles config ds, a.path.components = dir ++ [.name file]) ↔
      ∃ i ∈ runModules ds,
        (config.dir i.category).components = dir ∧ i.module ++ ".rs" = file := by
  have hpath : (∃ a ∈ codeFiles config ds, a.path.components = dir ++ [.name file]) ↔
      ∃ p ∈ (codeFiles config ds).map Artifact.path, p.components = dir ++ [.name file] := by simp
  rw [hpath, map_path_codeFiles]
  simp only [List.mem_map, exists_exists_and_eq_and]
  refine exists_congr fun i => and_congr_right fun hi => ?_
  rw [components_filePath_eq config i.category
    (isFileName_of_inline (inline_of_mem_runModules hnames hi))]
  constructor
  · intro h
    obtain ⟨hdir, hfile⟩ := List.append_inj' h rfl
    exact ⟨hdir, Component.name.inj (List.cons.inj hfile).1⟩
  · rintro ⟨rfl, rfl⟩
    rfl

/-! ### All together -/

/-- The index of a directory is a file in it. -/
theorem components_index (d : Directory) :
    d.index.path.components = d.path.components ++ [.name "mod.rs"] :=
  Path.components_join_eq d.path ⟨by decide, by decide⟩

/-- The indexes are the files of a run that are called so. -/
theorem filter_coordinate {as : List Artifact} (has : coordinate config ds = .ok as) :
    as.filter (fun a => a.path.fileName? = some "mod.rs") = moduleIndexes config ds := by
  obtain ⟨-, -, -, rfl⟩ := coordinate_eq_ok_iff.1 has
  have hname {p : Path} {dir : List Component} {s : String} (h : p.components = dir ++ [.name s]) :
      p.fileName? = some s := by
    rw [Path.fileName?, h, List.getLast?_concat]
  have hindexes : ∀ a ∈ moduleIndexes config ds,
      decide (a.path.fileName? = some "mod.rs") = true := by
    intro a ha
    obtain ⟨d, -, rfl⟩ := List.mem_map.1 ha
    exact decide_eq_true (hname (components_index d))
  have hothers : ∀ a ∈ [mergedFile config ds, registry config ds, engine config ds],
      ¬ decide (a.path.fileName? = some "mod.rs") = true := by
    have hother (k : Category) {s : String} (hs : Path.IsFileName s) (hne : s ≠ "mod.rs") :
        ¬ decide ((filePath config k s).fileName? = some "mod.rs") = true := by
      rw [hname (components_filePath_eq config k hs)]
      simpa using hne
    intro a ha
    simp only [List.mem_cons, List.not_mem_nil, or_false] at ha
    rcases ha with rfl | rfl | rfl
    · exact hother .schema (s := "schema.graphql") ⟨by decide, by decide⟩ (by decide)
    · exact hother .loader (s := "registry.rs") ⟨by decide, by decide⟩ (by decide)
    · exact hother .contract (s := "engine.rs") ⟨by decide, by decide⟩ (by decide)
  rw [List.filter_append, List.filter_eq_nil_iff.2 hothers, List.filter_eq_self.2 hindexes,
    List.nil_append]

theorem newline_not_mem_of_mem_modules (hnames : ∀ d ∈ ds, Inline d.name) {d : Directory}
    (hd : d ∈ directories config (runModules ds)) : ∀ m ∈ d.modules.keys, '\n' ∉ m.toList := by
  intro m hm
  obtain ⟨i, hi, -, rfl⟩ := (mem_modules_iff hd).1 hm
  exact (inline_of_mem_runModules hnames hi).2

/-- What the index of a directory declares. -/
theorem mem_declared_index_iff (hnames : ∀ d ∈ ds, Inline d.name) {d : Directory}
    (hd : d ∈ directories config (runModules ds)) {m : String} :
    m ∈ declared d.index.contents ↔ ∃ b ∈ codeFiles config ds,
      b.path.components = d.path.components ++ [.name (m ++ ".rs")] := by
  rw [declared_index (newline_not_mem_of_mem_modules hnames hd), mem_modules_iff hd,
    exists_codeFile_iff hnames]
  simp only [String.append_left_inj]

/-- **The indexes of modules are sound and complete.**  Take a configuration, whose directories may
coincide or be spelled differently, and entities whose names have neither separators nor line feeds,
as all identifiers.  The files of the run that are called `mod.rs` are the indexes; there is one for
each directory that a file of code is rendered into, and none for any other.  The index of a
directory declares each module once and in order, and a module exactly if a file of code is rendered
into this directory under its name. -/
theorem moduleIndexes_declare (config : GeneratorConfig) {ds : List Descriptor}
    (hnames : ∀ d ∈ ds, Inline d.name) :
    (∀ as, coordinate config ds = .ok as →
      as.filter (fun a => a.path.fileName? = some "mod.rs") = moduleIndexes config ds) ∧
    ((moduleIndexes config ds).map fun a => a.path.components).Nodup ∧
    (∀ dir, (∃ a ∈ moduleIndexes config ds, a.path.components = dir ++ [.name "mod.rs"]) ↔
      ∃ b ∈ codeFiles config ds, ∃ file, b.path.components = dir ++ [.name file]) ∧
    ∀ a ∈ moduleIndexes config ds, ∃ dir, a.path.components = dir ++ [.name "mod.rs"] ∧
      (declared a.contents).Pairwise (· < ·) ∧
      ∀ m, (declared a.contents).count m = 1 ↔
        ∃ b ∈ codeFiles config ds, b.path.components = dir ++ [.name (m ++ ".rs")] := by
  refine ⟨fun as => filter_coordinate, ?_, fun dir => ?_, fun a ha => ?_⟩
  · have hindexes : ((moduleIndexes config ds).map fun a => a.path.components) =
        ((directories config (runModules ds)).map fun d => d.path.components).map
          (· ++ [.name "mod.rs"]) := by
      rw [moduleIndexes, List.map_map, List.map_map]
      exact List.map_congr_left fun d _ => components_index d
    rw [hindexes]
    exact (nodup_components_directories config (runModules ds)).map
      fun dir dir' h => List.append_cancel_right h
  · constructor
    · rintro ⟨a, ha, hpath⟩
      obtain ⟨d, hd, rfl⟩ := List.mem_map.1 ha
      rw [components_index] at hpath
      obtain rfl := List.append_cancel_right hpath
      obtain ⟨i, hi, hdir⟩ := exists_mem_of_mem_directories hd
      obtain ⟨b, hb, hfile⟩ := (exists_codeFile_iff hnames).2 ⟨i, hi, hdir, rfl⟩
      exact ⟨b, hb, _, hfile⟩
    · rintro ⟨b, hb, file, hfile⟩
      obtain ⟨i, hi, rfl, -⟩ := (exists_codeFile_iff hnames).1 ⟨b, hb, hfile⟩
      obtain ⟨d, hd, hdir⟩ := exists_mem_directories config hi
      exact ⟨d.index, List.mem_map_of_mem hd, by rw [components_index, hdir]⟩
  · obtain ⟨d, hd, rfl⟩ := List.mem_map.1 ha
    have hkeys := declared_index (newline_not_mem_of_mem_modules hnames hd)
    have hnodup : (declared d.index.contents).Nodup := by
      rw [hkeys]
      exact Ascending.nodup d.modules.ascending
    refine ⟨d.path.components, components_index d, ?_, fun m => ?_⟩
    · rw [hkeys]
      exact d.modules.ascending.imp compareOfLessAndEq_eq_lt.1
    · rw [← mem_declared_index_iff hnames hd]
      constructor
      · intro h
        exact List.count_pos_iff.1 (h ▸ Nat.one_pos)
      · exact fun h => List.count_eq_one_of_mem hnodup h

/-- All code of an entity `Part` goes into one directory, which is spelled in three ways. -/
theorem moduleIndexes_declare_part :
    let config := { Generation.lone "Part" with
      output := ⟨some ⟨"graphql"⟩, some ⟨"out/code"⟩, some ⟨"out//code/."⟩, some ⟨"out/./code/"⟩⟩ }
    let ds := (Generation.loneDescribed "Part").1
    let dir : List Component := [.name "out", .name "code"]
    (∀ d ∈ ds, Inline d.name) ∧
      ∃ a ∈ moduleIndexes config ds, a.path.components = dir ++ [.name "mod.rs"] ∧
        (declared a.contents).count "part_resolver_impl" = 1 ∧
        (declared a.contents).count "part_loader" ≠ 1 := by
  intro config ds dir
  have hnames : ∀ d ∈ ds, Inline d.name := by
    unfold Inline
    decide +kernel
  obtain ⟨-, -, hplaces, hdeclares⟩ := moduleIndexes_declare config hnames
  have hcode : ∃ b ∈ codeFiles config ds,
      b.path.components = dir ++ [.name ("part_resolver_impl" ++ ".rs")] := by decide +kernel
  have hother : ¬ ∃ b ∈ codeFiles config ds,
      b.path.components = dir ++ [.name ("part_loader" ++ ".rs")] := by decide +kernel
  obtain ⟨b, hb, hfile⟩ := hcode
  obtain ⟨a, ha, hpath⟩ := (hplaces dir).2 ⟨b, hb, _, hfile⟩
  obtain ⟨dir', hpath', -, hcount⟩ := hdeclares a ha
  obtain rfl : dir = dir' := List.append_cancel_right (hpath.symm.trans hpath')
  exact ⟨hnames, a, ha, hpath, (hcount _).2 ⟨b, hb, hfile⟩, fun h => hother ((hcount _).1 h)⟩

end GraphLayer.Rendering
