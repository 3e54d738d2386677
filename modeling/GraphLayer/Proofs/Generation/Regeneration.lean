import GraphLayer.Proofs.Generation.Effects

/-!
# Running again

* `Finished`, a configuration whose entities are described and fit together, and
  `finished_of_runOn`: a run succeeds only then;
* `runOn_of_settled`: a run all of whose offers are settled succeeds and changes nothing;
* `Logged.settled`: after a run without files that could not be written, all its offers are settled;
* `runOn_again`: so does a run after a run that succeeded, and it writes nothing.
-/

namespace GraphLayer.Generation

open Rendering (coordinate)

variable {config : GeneratorConfig} {t s : FileTree} {r : Report} {ds : List Descriptor}
  {r₀ : Report}

/-! ### Runs that succeed -/

/-- All entities have been described, and they fit together. -/
structure Finished (config : GeneratorConfig) (t : FileTree) (ds : List Descriptor) (r₀ : Report) :
    Prop where
  described : describedOn config t = .ok (ds, r₀)
  failures : r₀.failures = []
  coordinated : ∃ as, coordinate config ds = .ok as

theorem finished_of_runOn (h : runOn config t = (.ok r, s)) (hr : r.failures = []) :
    ∃ ds r₀, Finished config t ds r₀ := by
  cases course_of_runOn h with
  | failing _ hne => exact absurd hr hne
  | @complete ds r₀ r₁ r' j k fs u _ as hstage hr₁ has hk hcovers hadds =>
    have hfailures := hstage.adds.failures
    rw [hr₁, eq_comm, List.append_eq_nil_iff] at hfailures
    exact ⟨ds, r₀, hstage.described, hfailures.1, as, has⟩

section Settled

variable {j : Journal}

/-- Settled offers in order change nothing, and none of them fails. -/
theorem Journal.Covers.of_settled {os : List Offer} {fault? : Option GenerationError}
    (h : j.Covers os fault?) (hj : j.Leads t s) (hsettled : ∀ o ∈ os, o.Settled t) :
    s = t ∧ fault? = none := by
  obtain ⟨hsame, houtcomes⟩ := hj.of_settled fun x hx => hsettled x.1 (h.mem hx)
  exact ⟨hsame, h.eq_none fun x hx => ⟨_, houtcomes x hx⟩⟩

/-- If the offers of the entities are settled, writing their files changes nothing and adds no
failure. -/
theorem EntityStage.of_settled {fs : List Failure} (h : EntityStage config t ds r₀ j fs r s)
    (hsettled : ∀ o ∈ ds.flatMap (entityOffers config), o.Settled t) :
    s = t ∧ r.failures = r₀.failures := by
  obtain ⟨hsame, houtcomes⟩ := h.leads.of_settled fun x hx => by
    obtain ⟨d, hd, ho⟩ := h.attempts.mem hx
    exact hsettled x.1 (List.mem_flatMap.2 ⟨d, hd, ho⟩)
  have hfs := h.attempts.eq_nil fun x hx => ⟨_, houtcomes x hx⟩
  exact ⟨hsame, by rw [h.adds.failures, hfs, List.append_nil]⟩

end Settled

/-- **A run for which there is nothing to do** succeeds and changes nothing. -/
theorem runOn_of_settled (h : Finished config t ds r₀)
    (hsettled : ∀ o ∈ offersOn config t, o.Settled t) :
    ∃ r, runOn config t = (.ok r, t) ∧ r.failures = [] ∧ r.aggregatesWritten = true := by
  obtain ⟨as, has⟩ := h.coordinated
  have hoffers : offersOn config t =
      ds.flatMap (entityOffers config) ++ as.map (Offer.mk .everything) := by
    simp [offersOn, h.described, Report.isSuccess, h.failures, aggregateOffers, has]
  rw [hoffers, List.forall_mem_append] at hsettled
  obtain ⟨hentities, haggregates⟩ := hsettled
  -- the entities are the same in every course
  have heq {ds' : List Descriptor} {r₀' r₁ : Report} {j : Journal} {fs : List Failure}
      {s : FileTree} (hstage : EntityStage config t ds' r₀' j fs r₁ s) : ds' = ds ∧ r₀' = r₀ :=
    Prod.mk.inj (Except.ok.inj (hstage.described.symm.trans h.described))
  rcases hrun : runOn config t with ⟨res, s⟩
  cases course_of_runOn hrun with
  | undescribed he =>
    rw [h.described] at he
    cases he
  | failing hstage hne =>
    obtain ⟨rfl, rfl⟩ := heq hstage
    exact absurd ((hstage.of_settled hentities).2.trans h.failures) hne
  | uncoordinated hstage _ he =>
    obtain ⟨rfl, rfl⟩ := heq hstage
    rw [has] at he
    cases he
  | unwritten hstage _ has' hk hcovers =>
    obtain ⟨rfl, rfl⟩ := heq hstage
    obtain ⟨rfl, -⟩ := hstage.of_settled hentities
    obtain rfl := Except.ok.inj (has.symm.trans has')
    cases (hcovers.of_settled hk haggregates).2
  | complete hstage hr has' hk hcovers hadds =>
    obtain ⟨rfl, rfl⟩ := heq hstage
    obtain ⟨rfl, -⟩ := hstage.of_settled hentities
    obtain rfl := Except.ok.inj (has.symm.trans has')
    obtain ⟨rfl, -⟩ := hcovers.of_settled hk haggregates
    exact ⟨_, rfl, hadds.failures.trans (by rw [hr, List.append_nil]), rfl⟩

/-! ### What a run leaves -/

variable {j : Journal}

/-- After a run without files that could not be written, nothing is left to do. -/
theorem Logged.settled (h : Logged config t ds r₀ j r s)
    (hplaces : ((offersOn config t).map fun o => t.place o.path).Nodup) {o : Offer}
    (ho : o ∈ offersOn config t) : o.Settled s := by
  obtain ⟨w, hmem⟩ := h.exists_mem ho
  obtain ⟨_, _, _, _, -, heffect, hafter, -, hlater⟩ :=
    h.leads.exists_effect_of_nodup (h.nodup_map_place hplaces) hmem
  exact hafter.settled hlater heffect.settled

/-- A run leaves the catalog alone, unless an artifact takes its place. -/
theorem Logged.describedOn_eq (h : Logged config t ds r₀ j r s)
    (hcatalog : ∀ o ∈ offersOn config t, t.place o.path ≠ t.place config.catalog) :
    describedOn config s = describedOn config t := by
  obtain ⟨-, catalog, hread, -⟩ := exists_of_describedOn h.described
  obtain ⟨bytes, hbytes⟩ := exists_read?_of_catalogOn hread
  refine describedOn_congr ?_
  rw [hbytes, FileTree.read?_eq_some_iff]
  refine h.leads.lookup?_of_some (fun x hx => ?_) (FileTree.read?_eq_some_iff.1 hbytes)
  exact hcatalog x.1 (h.offers ▸ List.mem_map_of_mem hx)

theorem offersOn_congr (h : describedOn config s = describedOn config t) :
    offersOn config s = offersOn config t := by
  rw [offersOn, offersOn, h]

theorem Journal.paths_of_settled (h : ∀ x ∈ j, x.2 = .ok x.1.settledOutcome) (w : WriteOutcome) :
    j.paths w = ((j.map Prod.fst).filter fun o => o.settledOutcome = w).map Offer.path := by
  rw [List.filter_map, List.map_map, Journal.paths]
  refine congrArg (List.map _) (List.filter_congr fun x hx => ?_)
  simp [h x hx]

/-- **A run after a run that succeeded.**  Let the artifacts of a run that succeeds name different
files, none of which is the catalog.  Then a run on the files that it leaves succeeds, too, and
writes nothing.  It reports the same entities and findings; its artifacts are those of the first
run, and it has left alone those that must not be replaced. -/
theorem runOn_again (h : runOn config t = (.ok r, s)) (hr : r.failures = [])
    (hplaces : ((offersOn config t).map fun o => t.place o.path).Nodup)
    (hcatalog : ∀ o ∈ offersOn config t, t.place o.path ≠ t.place config.catalog) :
    ∃ r', runOn config s = (.ok r', s) ∧ r'.failures = [] ∧ r'.aggregatesWritten = true ∧
      r'.written = [] ∧ r'.entities = r.entities ∧ r'.findings = r.findings ∧
      r'.skipped = ((offersOn config t).filter Offer.isProtected).map Offer.path ∧
      (r'.unchanged ++ r'.skipped).Perm (r.written ++ r.unchanged ++ r.skipped) := by
  obtain ⟨ds, r₀, j, hfirst⟩ := exists_logged h (tellsOfIo_of_nil hr)
  obtain ⟨ds', r₀', hfinished⟩ := finished_of_runOn h hr
  have hsame := hfirst.describedOn_eq hcatalog
  have hoffers := offersOn_congr hsame
  have hsettled : ∀ o ∈ offersOn config s, o.Settled s :=
    fun o ho => hfirst.settled hplaces (hoffers ▸ ho)
  obtain ⟨r', hrun, hr', haggregates⟩ :=
    runOn_of_settled ⟨hsame.trans hfinished.described, hfinished.failures, hfinished.coordinated⟩
      hsettled
  obtain ⟨ds'', r₀'', j', hsecond⟩ := exists_logged hrun (tellsOfIo_of_nil hr')
  have hdescribed := hsecond.described
  rw [hsame, hfirst.described] at hdescribed
  obtain ⟨rfl, rfl⟩ := Prod.mk.inj (Except.ok.inj hdescribed)
  obtain ⟨-, houtcomes⟩ := hsecond.leads.of_settled fun x hx =>
    hsettled x.1 (hsecond.offers ▸ List.mem_map_of_mem hx)
  have hpaths (w : WriteOutcome) : j'.paths w =
      ((offersOn config t).filter fun o => o.settledOutcome = w).map Offer.path := by
    rw [Journal.paths_of_settled houtcomes, hsecond.offers, hoffers]
  have hwritten : r'.written = [] := by
    rw [hsecond.written, hpaths, List.map_eq_nil_iff, List.filter_eq_nil_iff]
    intro o _
    unfold Offer.settledOutcome
    split <;> simp
  refine ⟨r', hrun, hr', haggregates, hwritten, ?_, ?_, ?_, ?_⟩
  · exact hsecond.adds.entities.trans hfirst.adds.entities.symm
  · exact hsecond.adds.findings.trans hfirst.adds.findings.symm
  · rw [hsecond.skipped, hpaths]
    refine congrArg (List.map _) (List.filter_congr fun o _ => ?_)
    unfold Offer.settledOutcome
    cases o.isProtected <;> simp
  · have hperm := Journal.perm_paths hsecond.outcomes
    rw [← hsecond.written, hwritten, List.nil_append, ← hsecond.unchanged, ← hsecond.skipped,
      hsecond.map_path, hoffers, ← hfirst.map_path] at hperm
    refine hperm.trans (Journal.perm_paths hfirst.outcomes).symm |>.trans (.of_eq ?_)
    rw [hfirst.written, hfirst.unchanged, hfirst.skipped]

/-- A run after one beside a file edited by hand writes nothing and leaves this file alone. -/
theorem runOn_again_edited :
    ∃ r s, runOn (lone "Part") editedFiles = (.ok r, s) ∧ r.failures = [] ∧
      ∃ r', runOn (lone "Part") s = (.ok r', s) ∧ r'.written = [] ∧
        (r'.unchanged ++ r'.skipped).Perm (r.written ++ r.unchanged ++ r.skipped) := by
  obtain ⟨r, s, hrun, -, hfailures⟩ := exists_runOn_edited
  obtain ⟨hplaces, hothers⟩ := offersOn_edited
  obtain ⟨r', hagain, -, -, hwritten, -, -, -, hperm⟩ :=
    runOn_again hrun hfailures hplaces fun o ho => (hothers o ho).1
  exact ⟨r, s, hrun, hfailures, r', hagain, hwritten, hperm⟩

end GraphLayer.Generation
