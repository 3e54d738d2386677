import GraphLayer.Proofs.Generation.Courses

/-!
# What a check foresees

* `EntityStage.foreseen`: unless a file could not be written, a check has found what the entities'
  stage of the run reports;
* `checkOn_foresees`: a check changes nothing, and fails or reports as the run does.
-/

namespace GraphLayer.Generation

open Rendering (coordinate entityWarnings)

variable {config : GeneratorConfig} {t : FileTree}

/-- The reports of a check and a run agree on everything but files. -/
structure Agree (c r : Report) : Prop where
  entities : c.entities = r.entities
  failures : c.failures = r.failures
  findings : c.findings = r.findings

theorem Agree.isSuccess {c r : Report} (h : Agree c r) : c.isSuccess = r.isSuccess := by
  rw [Report.isSuccess, Report.isSuccess, h.failures]

/-- If all files of the entities have been written, a check has found the same about them. -/
theorem EntityStage.foreseen {ds : List Descriptor} {r₀ r : Report} {j : Journal}
    {fs : List Failure} {s : FileTree} (h : EntityStage config t ds r₀ j fs r s)
    (hio : tellsOfIo (.ok r) = false) :
    Agree (ds.foldl (fun r d => r.warn d.name (entityWarnings d)) r₀) r := by
  have hfs := h.failures_eq_nil hio
  have hcheck := adds_foldl_warn r₀ ds
  exact ⟨hcheck.entities.trans h.adds.entities.symm,
    by rw [hcheck.failures, h.adds.failures, hfs],
    hcheck.findings.trans h.adds.findings.symm⟩

/-- **A check foresees the run.**  If no file has to be left unwritten, a check on the same tree
changes nothing; it fails exactly if the run does, and by the same error; otherwise it reports the
same entities, failures and findings in the same order and the same verdict, and the run brings the
files of all entities together up to date exactly if the verdict is success. -/
theorem checkOn_foresees (hio : tellsOfIo (runOn config t).1 = false) :
    (checkOn config t).2 = t ∧
      (∀ e, (checkOn config t).1 = .error e ↔ (runOn config t).1 = .error e) ∧
      ∀ r, (runOn config t).1 = .ok r → ∃ c, (checkOn config t).1 = .ok c ∧
        c.entities = r.entities ∧ c.failures = r.failures ∧ c.findings = r.findings ∧
        c.isSuccess = r.isSuccess ∧ r.aggregatesWritten = c.isSuccess := by
  refine ⟨by rw [checkOn_eq], ?_⟩
  rw [checkOn_eq]
  rcases hrun : runOn config t with ⟨res, s⟩
  rw [hrun] at hio
  -- where both report, it is left to compare the reports
  have hreport {c r : Report} (hc : Agree c r) (hagg : r.aggregatesWritten = c.isSuccess) :
      (∀ e, (.ok c : Except GenerationError Report) = .error e ↔
        (.ok r : Except GenerationError Report) = .error e) ∧
      ∀ r', (.ok r : Except GenerationError Report) = .ok r' →
        ∃ c', (.ok c : Except GenerationError Report) = .ok c' ∧ c'.entities = r'.entities ∧
          c'.failures = r'.failures ∧ c'.findings = r'.findings ∧
          c'.isSuccess = r'.isSuccess ∧ r'.aggregatesWritten = c'.isSuccess := by
    refine ⟨fun e => iff_of_false nofun nofun, fun r' hr' => ?_⟩
    obtain rfl := Except.ok.inj hr'
    exact ⟨c, rfl, hc.entities, hc.failures, hc.findings, hc.isSuccess, hagg⟩
  have hsuccess {c r : Report} (hc : Agree c r) (hr : r.failures = []) : c.isSuccess = true :=
    List.isEmpty_iff.2 (hc.failures.trans hr)
  cases course_of_runOn hrun with
  | undescribed h =>
    rw [h]
    exact ⟨fun e => Iff.rfl, nofun⟩
  | failing h hr =>
    -- the failures are those of descriptions, which the check finds as well
    have hagree := h.foreseen hio
    have hfailed : Report.isSuccess _ = false :=
      hagree.isSuccess.trans (Bool.eq_false_iff.2 fun hempty => hr (List.isEmpty_iff.1 hempty))
    simp only [h.described, hfailed, Bool.false_eq_true, if_false]
    exact hreport hagree (h.aggregatesWritten.trans hfailed.symm)
  | @uncoordinated ds r₀ r j fs s e h hr he =>
    have hagree := h.foreseen (tellsOfIo_of_nil hr)
    simp only [h.described, hsuccess hagree hr, if_true, he]
    exact ⟨fun e' => Iff.rfl, nofun⟩
  | unwritten h hr has hk hcovers =>
    obtain ⟨p, rfl⟩ := hcovers.eq_io
    cases hio
  | @complete ds r₀ r r' j k fs s u as h hr has hk hcovers hadds =>
    have hagree := h.foreseen (tellsOfIo_of_nil hr)
    have hlater : Agree (ds.foldl (fun r d => r.warn d.name (entityWarnings d)) r₀)
        { r' with aggregatesWritten := true } :=
      ⟨hagree.entities.trans hadds.entities.symm,
        hagree.failures.trans (by rw [hadds.failures, List.append_nil]),
        hagree.findings.trans ((List.append_nil _).symm.trans hadds.findings.symm)⟩
    simp only [h.described, hsuccess hagree hr, if_true, has]
    exact hreport hlater (hsuccess hagree hr).symm

/-- A check of an entity with a file edited by hand finds what the run finds, but for the file. -/
theorem checkOn_foresees_edited : tellsOfIo (runOn (lone "Part") editedFiles).1 = false ∧
    (checkOn (lone "Part") editedFiles).2 = editedFiles ∧
    ∃ r c, (runOn (lone "Part") editedFiles).1 = .ok r ∧
      r.skipped = [⟨"resolvers/part_resolver_impl.rs"⟩] ∧
      (checkOn (lone "Part") editedFiles).1 = .ok c ∧ c.entities = r.entities ∧
      c.failures = r.failures ∧ c.findings = r.findings ∧ c.isSuccess = true ∧
      r.aggregatesWritten = true := by
  obtain ⟨r, s, hrun, hskipped, hfailures⟩ := exists_runOn_edited
  have hr : (runOn (lone "Part") editedFiles).1 = .ok r := by rw [hrun]
  have hio : tellsOfIo (runOn (lone "Part") editedFiles).1 = false := by
    rw [hr]
    exact tellsOfIo_of_nil hfailures
  obtain ⟨htree, -, hreport⟩ := checkOn_foresees hio
  obtain ⟨c, hc, hentities, hcfailures, hfindings, -, haggregates⟩ := hreport r hr
  have hsuccess : c.isSuccess = true := List.isEmpty_iff.2 (hcfailures.trans hfailures)
  exact ⟨hio, htree, r, c, hr, hskipped, hc, hentities, hcfailures, hfindings, hsuccess,
    haggregates.trans hsuccess⟩

end GraphLayer.Generation
