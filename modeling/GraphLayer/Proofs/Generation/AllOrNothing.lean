import GraphLayer.Proofs.Generation.Courses

/-!
# Runs that do not reach the files of all entities together

* `IsDescribedOn`, a descriptor of an entity that can be described;
* `EntitiesOnly`, what has been done when only files of entities have been offered;
* `Halted`, the results that tell of no more than that, and `runOn_all_or_nothing`: a run with such
  a result has done no more, and one that stops before the entities has done nothing.
-/

namespace GraphLayer.Generation

open Rendering (entityArtifacts concernsAll_of_coordinate_error)

variable {config : GeneratorConfig} {t s : FileTree}

/-- The descriptor is the one of an entity that can be described by the catalog that is found. -/
def IsDescribedOn (config : GeneratorConfig) (t : FileTree) (d : Descriptor) : Prop :=
  ∃ catalog, catalogOn config t = .ok catalog ∧ ∃ p ∈ config.entities.toList,
    IsDescribed catalog (knownNames config catalog) config.modules p d

theorem isDescribedOn_iff_mem {ds : List Descriptor} {r₀ : Report}
    (h : describedOn config t = .ok (ds, r₀)) {d : Descriptor} :
    IsDescribedOn config t d ↔ d ∈ ds := by
  obtain ⟨-, catalog, hcatalog, hdescribed⟩ := exists_of_describedOn h
  have hds : ds = (describedBy config catalog).1 := by rw [hdescribed]
  rw [hds, describedBy, mem_describeEach_iff]
  constructor
  · rintro ⟨catalog', hcatalog', hd⟩
    rw [hcatalog] at hcatalog'
    obtain rfl := Except.ok.inj hcatalog'
    exact .inr hd
  · rintro (hd | hd)
    · cases hd
    · exact ⟨catalog, hcatalog, hd⟩

/-- Only files of entities have been offered: of every entity that could be described, up to the
first file that failed. -/
structure EntitiesOnly (config : GeneratorConfig) (t : FileTree)
    (res : Except GenerationError Report) (s : FileTree) (j : Journal) : Prop where
  leads : j.Leads t s
  /-- No file of all entities together has been offered. -/
  offers : ∀ x ∈ j, x.1.artifact.aggregate = false ∧
    ∃ d, IsDescribedOn config t d ∧ x.1 ∈ entityOffers config d
  /-- A file that has changed is one of an entity. -/
  files : ∀ l, s.file? l = t.file? l ∨ ∃ d, IsDescribedOn config t d ∧
    ∃ a ∈ entityArtifacts config d, t.place a.path = l ∧ s.file? l = some a.contents.toUTF8
  /-- The files of an entity are offered whatever becomes of the other entities. -/
  siblings : ∀ d, IsDescribedOn config t d → ∃ k fault?, k <:+: j ∧
    Journal.Covers (entityOffers config d) k fault? ∧
      ∀ e, fault? = some e → ∃ r, res = .ok r ∧ ⟨d.name, e⟩ ∈ r.failures
  /-- The report tells of these files only. -/
  report : ∀ r, res = .ok r → r.aggregatesWritten = false ∧ r.written = j.paths .written ∧
    r.unchanged = j.paths .unchanged ∧ r.skipped = j.paths .skipped

theorem EntityStage.entitiesOnly {ds : List Descriptor} {r₀ r : Report} {j : Journal}
    {fs : List Failure} (h : EntityStage config t ds r₀ j fs r s)
    {res : Except GenerationError Report} (hres : ∀ r', res = .ok r' → r' = r)
    (hfailed : r.failures ≠ [] → res = .ok r) : EntitiesOnly config t res s j where
  leads := h.leads
  offers := by
    intro x hx
    obtain ⟨d, hd, hoffer⟩ := h.attempts.mem hx
    have hdescribed := (isDescribedOn_iff_mem h.described).2 hd
    exact ⟨aggregate_of_mem_entityOffers hoffer, d, hdescribed, hoffer⟩
  files := by
    intro l
    refine (h.leads.file?_cases l).imp_right ?_
    rintro ⟨x, hx, -, hplace, hfile⟩
    obtain ⟨d, hd, hoffer⟩ := h.attempts.mem hx
    obtain ⟨a, ha, heq⟩ := List.mem_map.1 hoffer
    rw [← heq] at hplace hfile
    exact ⟨d, (isDescribedOn_iff_mem h.described).2 hd, a, ha, hplace, hfile⟩
  siblings := by
    intro d hd
    obtain ⟨k, fault?, hk, hcovers, hfault⟩ :=
      h.attempts.exists_covers ((isDescribedOn_iff_mem h.described).1 hd)
    refine ⟨k, fault?, hk, hcovers, fun e he => ?_⟩
    have hmem : ⟨d.name, e⟩ ∈ r.failures := by
      rw [h.adds.failures]
      exact List.mem_append_right _ (hfault e he)
    exact ⟨r, hfailed (List.ne_nil_of_mem hmem), hmem⟩
  report := by
    intro r' hr'
    obtain rfl := hres r' hr'
    have hfresh := fresh_of_describedOn h.described
    refine ⟨h.aggregatesWritten, ?_, ?_, ?_⟩
    · rw [h.adds.written, hfresh.written, List.nil_append]
    · rw [h.adds.unchanged, hfresh.unchanged, List.nil_append]
    · rw [h.adds.skipped, hfresh.skipped, List.nil_append]

/-- The result tells that the run has not reached the files of all entities together. -/
def Halted : Except GenerationError Report → Prop
  | .error e => e.concernsAll = true
  | .ok r => r.failures ≠ []

/-- **All or nothing.**  If the configuration or the catalog is at fault, a run changes nothing.  If
an entity has failed, or the entities do not fit together, then only files of entities that could be
described have been offered, and those of every such entity have been. -/
theorem runOn_all_or_nothing {res : Except GenerationError Report}
    (h : runOn config t = (res, s)) :
    (∀ reason, res = .error (.config reason) ∨ res = .error (.catalog reason) → s = t) ∧
      (Halted res → ∃ j, EntitiesOnly config t res s j) := by
  cases course_of_runOn h with
  | @undescribed e he =>
    refine ⟨fun _ _ => rfl, fun hhalted => ?_⟩
    obtain ⟨reason, rfl | rfl⟩ := eq_of_describedOn_error he
    · cases hhalted
    · cases hhalted
  | failing hstage hr =>
    refine ⟨fun reason hres => ?_, fun _ => ⟨_, hstage.entitiesOnly ?_ fun _ => rfl⟩⟩
    · rcases hres with hres | hres <;> cases hres
    · exact fun r' hr' => (Except.ok.inj hr').symm
  | uncoordinated hstage hr he =>
    have hall := concernsAll_of_coordinate_error he
    refine ⟨fun reason hres => ?_, fun _ => ⟨_, hstage.entitiesOnly nofun fun hne => ?_⟩⟩
    · rcases hres with hres | hres
      all_goals
        obtain rfl := Except.error.inj hres
        cases hall
    · exact absurd hr hne
  | unwritten hstage hr has hk hcovers =>
    -- only a file that cannot be written stops a run here
    obtain ⟨p, rfl⟩ := hcovers.eq_io
    refine ⟨fun reason hres => ?_, fun hhalted => ?_⟩
    · rcases hres with hres | hres <;> cases hres
    · cases hhalted
  | complete hstage hr has hk hcovers hadds =>
    -- a run to the end reports no failure
    refine ⟨fun reason hres => ?_, fun hhalted => absurd ?_ hhalted⟩
    · rcases hres with hres | hres <;> cases hres
    · exact hadds.failures.trans (by rw [hr, List.append_nil])

/-- A configuration of two entities of which one has no class. -/
def ghostly : GeneratorConfig :=
  { lone "Part" with
    entities := (lone "Part").entities.insert "Ghost" { service := "Service" } }

/-- An entity without a class keeps the files of all entities together from being written, but not
those of the other entity. -/
theorem runOn_all_or_nothing_ghostly :
    ∃ r s, runOn ghostly (loneFiles "Part") = (.ok r, s) ∧ Halted (.ok r) ∧
      r.failures = [⟨"Ghost", .classNotFound "Ghost" "Ghost"⟩] ∧
      r.written = [⟨"graphql/part.graphql"⟩, ⟨"contract/part_resolver.rs"⟩,
        ⟨"resolvers/part_resolver_impl.rs"⟩] ∧
      ∃ j, EntitiesOnly ghostly (loneFiles "Part") (.ok r) s j := by
  have hrun : (runOn ghostly (loneFiles "Part")).1.map (fun r => (r.failures, r.written)) =
      .ok ([⟨"Ghost", .classNotFound "Ghost" "Ghost"⟩], [⟨"graphql/part.graphql"⟩,
        ⟨"contract/part_resolver.rs"⟩, ⟨"resolvers/part_resolver_impl.rs"⟩]) := by
    decide +kernel
  obtain ⟨r, s, hpair, hlists⟩ := exists_of_map_runOn hrun
  obtain ⟨hfailures, hwritten⟩ := Prod.mk.inj hlists
  have hhalted : Halted (.ok r) := by
    rw [Halted, hfailures]
    exact List.cons_ne_nil _ _
  exact ⟨r, s, hpair, hhalted, hfailures, hwritten, (runOn_all_or_nothing hpair).2 hhalted⟩

end GraphLayer.Generation
