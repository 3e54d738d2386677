import GraphLayer.Proofs.Generation.Descriptions
import GraphLayer.Proofs.Generation.Stages
import GraphLayer.Proofs.Rendering.Coordination

/-!
# The courses of a run

* `runOn` and `checkOn`, a run and a check on a tree of files, and `tellsOfIo`, results that tell of
  a file that could not be written;
* `describedOn`, what both find out about the entities before they look at any other file;
* `EntityStage`, the stage of a run in which the files of the entities are written;
* `Course`, the ways in which a run can end, and `course_of_runOn`: there is no other;
* `checkOn_eq`, what a check comes to.

What is said about runs is proved course by course, so that a run is opened only here.
-/

namespace GraphLayer.Generation

open Rendering (coordinate entityWarnings)

variable {config : GeneratorConfig} {t s : FileTree}

/-- A run on a tree: its result and the tree after it. -/
def runOn (config : GeneratorConfig) (t : FileTree) :
    Except GenerationError Report × FileTree :=
  (run config : StateM FileTree (Except GenerationError Report)).run t

/-- A check on a tree: its result and the tree after it. -/
def checkOn (config : GeneratorConfig) (t : FileTree) :
    Except GenerationError Report × FileTree :=
  (check config : StateM FileTree (Except GenerationError Report)).run t

/-- Whether the error is about a file that could not be written. -/
def isIo : GenerationError → Bool
  | .io _ => true
  | _ => false

/-- Whether the result of a run tells of a file that could not be written. -/
def tellsOfIo : Except GenerationError Report → Bool
  | .error e => isIo e
  | .ok r => r.failures.any fun f => isIo f.error

theorem tellsOfIo_of_nil {r : Report} (h : r.failures = []) : tellsOfIo (.ok r) = false := by
  rw [tellsOfIo, h, List.any_nil]

/-! ### Descriptions -/

/-- The catalog that a run finds. -/
def catalogOn (config : GeneratorConfig) (t : FileTree) : Except GenerationError Catalog :=
  ((loadCatalog config.catalog : StateM FileTree (Except GenerationError Catalog)).run t).1

/-- The descriptions that a run makes by a catalog. -/
def describedBy (config : GeneratorConfig) (catalog : Catalog) : List Descriptor × Report :=
  describeEach catalog (knownNames config catalog) config.modules config.entities.toList ([], {})

/-- What a run finds out about the entities. -/
def describedOn (config : GeneratorConfig) (t : FileTree) :
    Except GenerationError (List Descriptor × Report) :=
  match config.validate with
  | .error e => .error e
  | .ok _ => (catalogOn config t).map (describedBy config)

/-- Reading the catalog changes nothing, depends on no other file, and fails by one error only. -/
theorem exists_loadCatalog (p : Path) (t : FileTree) :
    ∃ res : Except GenerationError Catalog,
      (∀ s, s.read? p = t.read? p →
        (loadCatalog p : StateM FileTree (Except GenerationError Catalog)).run s = (res, s)) ∧
      ∀ e, res = .error e → ∃ reason, e = .catalog reason := by
  have hrun (s : FileTree) (h : s.read? p = t.read? p) :
      (FileStore.readText p : StateM FileTree (Option String)).run s =
        ((t.read? p).bind String.fromUTF8?, s) := by
    rw [← h]
    rfl
  have hfault (reason : String) (e : GenerationError)
      (he : (.error (.catalog reason) : Except GenerationError Catalog) = .error e) :
      ∃ reason, e = .catalog reason := ⟨reason, (Except.error.inj he).symm⟩
  unfold loadCatalog
  simp only [run_bind_tree]
  generalize "Failed to parse service catalog: " ++ p.text = failed
  cases htext : (t.read? p).bind String.fromUTF8? with
  | none =>
    refine ⟨.error (.catalog ("Failed to read service catalog: " ++ p.text)), fun s hs => ?_,
      hfault _⟩
    rw [hrun s hs, htext]
    rfl
  | some text =>
    cases hread : Catalog.read (Catalog.formatOf p) text with
    | ok catalog =>
      refine ⟨.ok catalog, fun s hs => ?_, nofun⟩
      simp only [hrun s hs, htext, hread]
      rfl
    | error fault =>
      cases fault with
      | unreadable =>
        refine ⟨.error (.catalog failed), fun s hs => ?_, hfault _⟩
        simp only [hrun s hs, htext, hread]
        rfl
      | repeated c =>
        refine ⟨.error (.catalog (failed ++ ": " ++ c.message)), fun s hs => ?_, hfault _⟩
        simp only [hrun s hs, htext, hread]
        rfl

theorem run_loadCatalog (config : GeneratorConfig) (t : FileTree) :
    (loadCatalog config.catalog : StateM FileTree _).run t = (catalogOn config t, t) := by
  obtain ⟨res, hres, -⟩ := exists_loadCatalog config.catalog t
  unfold catalogOn
  rw [hres t rfl]

theorem catalogOn_congr (h : s.read? config.catalog = t.read? config.catalog) :
    catalogOn config s = catalogOn config t := by
  obtain ⟨res, hres, -⟩ := exists_loadCatalog config.catalog t
  unfold catalogOn
  rw [hres t rfl, hres s h]

theorem eq_of_catalogOn_error {e : GenerationError} (h : catalogOn config t = .error e) :
    ∃ reason, e = .catalog reason := by
  obtain ⟨res, hres, herror⟩ := exists_loadCatalog config.catalog t
  unfold catalogOn at h
  rw [hres t rfl] at h
  exact herror e h

theorem exists_read?_of_catalogOn {catalog : Catalog} (h : catalogOn config t = .ok catalog) :
    ∃ bytes, t.read? config.catalog = some bytes := by
  cases hread : t.read? config.catalog with
  | some bytes => exact ⟨bytes, rfl⟩
  | none =>
    unfold catalogOn loadCatalog FileStore.readText at h
    simp only [run_bind_tree, run_read, hread] at h
    cases h

theorem run_describeAll (config : GeneratorConfig) (t : FileTree) :
    (describeAll config : StateM FileTree _).run t = (describedOn config t, t) := by
  unfold describeAll describedOn
  cases config.validate with
  | error e => rfl
  | ok =>
    dsimp only
    rw [run_bind_tree, run_loadCatalog]
    cases catalogOn config t with
    | error e => rfl
    | ok catalog => rfl

/-- The descriptions depend on no file but the catalog. -/
theorem describedOn_congr (h : s.read? config.catalog = t.read? config.catalog) :
    describedOn config s = describedOn config t := by
  unfold describedOn
  rw [catalogOn_congr h]

theorem exists_of_describedOn {x : List Descriptor × Report} (h : describedOn config t = .ok x) :
    config.validate = .ok () ∧
      ∃ catalog, catalogOn config t = .ok catalog ∧ describedBy config catalog = x := by
  unfold describedOn at h
  split at h
  · cases h
  · next hvalid =>
    cases hcatalog : catalogOn config t with
    | error e =>
      rw [hcatalog] at h
      cases h
    | ok catalog =>
      rw [hcatalog] at h
      exact ⟨hvalid, catalog, rfl, Except.ok.inj h⟩

/-- The descriptions cannot be made if the configuration or the catalog is at fault. -/
theorem eq_of_describedOn_error {e : GenerationError} (h : describedOn config t = .error e) :
    ∃ reason, e = .config reason ∨ e = .catalog reason := by
  unfold describedOn at h
  split at h
  · next hvalid =>
    obtain rfl := Except.error.inj h
    unfold GeneratorConfig.validate at hvalid
    split at hvalid
    · exact ⟨_, .inl (Except.error.inj hvalid).symm⟩
    · split at hvalid
      · exact ⟨_, .inl (Except.error.inj hvalid).symm⟩
      · split at hvalid
        · exact ⟨_, .inl (Except.error.inj hvalid).symm⟩
        · split at hvalid
          · exact ⟨_, .inl (Except.error.inj hvalid).symm⟩
          · cases hvalid
  · cases hcatalog : catalogOn config t with
    | ok catalog =>
      rw [hcatalog] at h
      cases h
    | error e' =>
      rw [hcatalog] at h
      obtain rfl := Except.error.inj h
      obtain ⟨reason, he⟩ := eq_of_catalogOn_error hcatalog
      exact ⟨reason, .inr he⟩

/-- No file has been offered yet. -/
structure Report.Fresh (r : Report) : Prop where
  written : r.written = []
  unchanged : r.unchanged = []
  skipped : r.skipped = []
  skips : r.skips = []
  aggregates : r.aggregatesWritten = false

section DescribeEach

variable {catalog : Catalog} {known : KeySet String} {modules : ModulePaths}

theorem fresh_describeEach {es : List (String × EntityConfig)} {ds : List Descriptor} {r : Report}
    (h : r.Fresh) : (describeEach catalog known modules es (ds, r)).2.Fresh := by
  induction es generalizing ds r with
  | nil => exact h
  | cons p es ih =>
    obtain ⟨entity, settings⟩ := p
    unfold describeEach
    split
    · next x _ =>
      have hadds := Report.adds_warn r entity x.warnings
      refine ih ⟨h.written, h.unchanged, h.skipped, ?_, h.aggregates⟩
      have hskips := hadds.skips
      rw [h.skips] at hskips
      exact hskips
    · exact ih ⟨h.written, h.unchanged, h.skipped, h.skips, h.aggregates⟩

/-- The entities that can be described are, whatever becomes of the others. -/
theorem mem_describeEach_iff {es : List (String × EntityConfig)} {ds : List Descriptor}
    {r : Report} {d : Descriptor} : d ∈ (describeEach catalog known modules es (ds, r)).1 ↔
      d ∈ ds ∨ ∃ p ∈ es, IsDescribed catalog known modules p d := by
  induction es generalizing ds r with
  | nil => simp [describeEach]
  | cons p es ih =>
    obtain ⟨entity, settings⟩ := p
    rw [List.exists_mem_cons_iff]
    unfold describeEach
    split
    · next x hx =>
      have hhead : IsDescribed catalog known modules (entity, settings) d ↔ d = x.descriptor := by
        unfold IsDescribed
        rw [hx]
        constructor
        · rintro ⟨warnings, h⟩
          exact (congrArg Described.descriptor (Except.ok.inj h)).symm
        · rintro rfl
          exact ⟨x.warnings, rfl⟩
      rw [ih, List.mem_append, List.mem_singleton, hhead, or_assoc]
    · next e he =>
      have hhead : ¬ IsDescribed catalog known modules (entity, settings) d := by
        rintro ⟨_, h⟩
        rw [he] at h
        cases h
      rw [ih]
      simp [hhead]

end DescribeEach

theorem fresh_of_describedOn {ds : List Descriptor} {r : Report}
    (h : describedOn config t = .ok (ds, r)) : r.Fresh := by
  obtain ⟨-, catalog, -, hdescribed⟩ := exists_of_describedOn h
  have hfresh : (describedBy config catalog).2.Fresh :=
    fresh_describeEach ⟨rfl, rfl, rfl, rfl, rfl⟩
  rw [hdescribed] at hfresh
  exact hfresh

/-! ### Runs -/

/-- The stage of a run in which the files of the entities are written: what has been found out about
the entities, the journal, the failures, the report and the tree in the end. -/
structure EntityStage (config : GeneratorConfig) (t : FileTree) (ds : List Descriptor)
    (r₀ : Report) (j : Journal) (fs : List Failure) (r : Report) (s : FileTree) : Prop where
  described : describedOn config t = .ok (ds, r₀)
  leads : j.Leads t s
  attempts : j.Attempts config ds fs
  adds : r₀.Adds j (entityFindings ds) fs r

theorem EntityStage.aggregatesWritten {ds : List Descriptor} {r₀ r : Report} {j : Journal}
    {fs : List Failure} (h : EntityStage config t ds r₀ j fs r s) : r.aggregatesWritten = false :=
  h.adds.aggregates.trans (fresh_of_describedOn h.described).aggregates

/-- Nothing has failed in this stage but writing. -/
theorem EntityStage.failures_eq_nil {ds : List Descriptor} {r₀ r : Report} {j : Journal}
    {fs : List Failure} (h : EntityStage config t ds r₀ j fs r s)
    (hio : tellsOfIo (.ok r) = false) : fs = [] := by
  refine List.eq_nil_iff_forall_not_mem.2 fun f hf => ?_
  have hmem : f ∈ r.failures := by
    rw [h.adds.failures]
    exact List.mem_append_right _ hf
  obtain ⟨p, hp⟩ := h.attempts.eq_io hf
  have hall := List.any_eq_false.1 hio f hmem
  rw [hp] at hall
  exact hall rfl

/-- The ways in which a run can end. -/
inductive Course (config : GeneratorConfig) (t : FileTree) :
    Except GenerationError Report → FileTree → Prop
  /-- The configuration or the catalog is at fault. -/
  | undescribed {e : GenerationError} (h : describedOn config t = .error e) :
    Course config t (.error e) t
  /-- An entity has failed. -/
  | failing {ds : List Descriptor} {r₀ r : Report} {j : Journal} {fs : List Failure}
    {s : FileTree} (h : EntityStage config t ds r₀ j fs r s) (hr : r.failures ≠ []) :
    Course config t (.ok r) s
  /-- The files of all entities together cannot be made. -/
  | uncoordinated {ds : List Descriptor} {r₀ r : Report} {j : Journal} {fs : List Failure}
    {s : FileTree} {e : GenerationError} (h : EntityStage config t ds r₀ j fs r s)
    (hr : r.failures = []) (he : coordinate config ds = .error e) :
    Course config t (.error e) s
  /-- One of them cannot be written. -/
  | unwritten {ds : List Descriptor} {r₀ r : Report} {j k : Journal} {fs : List Failure}
    {s u : FileTree} {as : List Artifact} {e : GenerationError}
    (h : EntityStage config t ds r₀ j fs r s) (hr : r.failures = [])
    (has : coordinate config ds = .ok as) (hk : k.Leads s u)
    (hcovers : k.Covers (as.map (Offer.mk .everything)) (some e)) :
    Course config t (.error e) u
  /-- All files are in place. -/
  | complete {ds : List Descriptor} {r₀ r r' : Report} {j k : Journal} {fs : List Failure}
    {s u : FileTree} {as : List Artifact} (h : EntityStage config t ds r₀ j fs r s)
    (hr : r.failures = []) (has : coordinate config ds = .ok as) (hk : k.Leads s u)
    (hcovers : k.Covers (as.map (Offer.mk .everything)) none) (hadds : r.Adds k [] [] r') :
    Course config t (.ok { r' with aggregatesWritten := true }) u

/-- **Every run takes one of the courses.** -/
theorem course_of_runOn {res : Except GenerationError Report} (h : runOn config t = (res, s)) :
    Course config t res s := by
  unfold runOn run at h
  rw [run_bind_tree, run_describeAll] at h
  cases hdescribed : describedOn config t with
  | error e =>
    rw [hdescribed] at h
    obtain ⟨rfl, rfl⟩ := Prod.mk.inj h
    exact .undescribed hdescribed
  | ok x =>
    obtain ⟨ds, r₀⟩ := x
    rw [hdescribed] at h
    dsimp only at h
    rw [run_bind_tree] at h
    rcases hentities : (writeEntities config r₀ ds : StateM FileTree Report).run t with ⟨r, u⟩
    obtain ⟨j, fs, hj, hattempts, hadds⟩ := exists_of_writeEntities hentities
    have hstage : EntityStage config t ds r₀ j fs r u := ⟨hdescribed, hj, hattempts, hadds⟩
    rw [hentities] at h
    dsimp only at h
    split at h
    · next hsuccess =>
      have hr : r.failures = [] := List.isEmpty_iff.1 hsuccess
      unfold writeAggregates at h
      split at h
      · next e he =>
        obtain ⟨rfl, rfl⟩ := Prod.mk.inj h
        exact .uncoordinated hstage hr he
      · next as has =>
        rw [run_bind_tree] at h
        rcases hoffers : (offerAll .everything r as : StateM FileTree _).run u with
          ⟨⟨r', fault?⟩, v⟩
        obtain ⟨k, hk, hcovers, hadds'⟩ := exists_of_offerAll hoffers
        rw [hoffers] at h
        cases fault? with
        | some e =>
          obtain ⟨rfl, rfl⟩ := Prod.mk.inj h
          exact .unwritten hstage hr has hk hcovers
        | none =>
          obtain ⟨rfl, rfl⟩ := Prod.mk.inj h
          exact .complete hstage hr has hk hcovers hadds'
    · next hfailed =>
      obtain ⟨rfl, rfl⟩ := Prod.mk.inj h
      exact .failing hstage fun hr => hfailed (List.isEmpty_iff.2 hr)

theorem exists_of_map_runOn {A : Type} {f : Report → A} {a : A}
    (h : (runOn config t).1.map f = .ok a) : ∃ r s, runOn config t = (.ok r, s) ∧ f r = a := by
  rcases hpair : runOn config t with ⟨res, s⟩
  rw [hpair] at h
  obtain ⟨r, rfl, hr⟩ := map_eq_ok_iff.1 h
  exact ⟨r, s, rfl, hr⟩

/-- A run beside a file edited by hand leaves this file alone and succeeds. -/
theorem exists_runOn_edited : ∃ r s, runOn (lone "Part") editedFiles = (.ok r, s) ∧
    r.skipped = [⟨"resolvers/part_resolver_impl.rs"⟩] ∧ r.failures = [] := by
  have hrun : (runOn (lone "Part") editedFiles).1.map (fun r => (r.skipped, r.failures)) =
      .ok ([⟨"resolvers/part_resolver_impl.rs"⟩], []) := by decide +kernel
  obtain ⟨r, s, hpair, hlists⟩ := exists_of_map_runOn hrun
  obtain ⟨hskipped, hfailures⟩ := Prod.mk.inj hlists
  exact ⟨r, s, hpair, hskipped, hfailures⟩

/-! ### Checks -/

/-- The findings of a check about the files of the entities. -/
theorem adds_foldl_warn (r : Report) (ds : List Descriptor) :
    r.Adds [] (entityFindings ds) []
      (ds.foldl (fun r d => r.warn d.name (entityWarnings d)) r) := by
  induction ds generalizing r with
  | nil => exact .refl r
  | cons d ds ih => exact (Report.adds_warn r d.name (entityWarnings d)).trans (ih _)

/-- What a check comes to. -/
theorem checkOn_eq (config : GeneratorConfig) (t : FileTree) : checkOn config t =
    (match describedOn config t with
      | .error e => .error e
      | .ok (ds, r₀) =>
        let r := ds.foldl (fun r d => r.warn d.name (entityWarnings d)) r₀
        if r.isSuccess then (coordinate config ds).map fun _ => r else .ok r, t) := by
  unfold checkOn check
  rw [run_bind_tree, run_describeAll]
  cases describedOn config t with
  | error e => rfl
  | ok x =>
    dsimp only
    split <;> rfl

end GraphLayer.Generation
