import GraphLayer.Proofs.Generation.Descriptions
import GraphLayer.Proofs.Rendering.Coordination
import GraphLayer.Proofs.Schema.Merged

/-!
# The check of the whole schema

* `read?_mergedFile`: the file of the whole schema is read back;
* `exists_coordinate_iff` and `exists_coordinate_of_describeEach`: when the files of coherent
  entities can be made;
* `coordinate_of_described`: which sets of described entities pass the check, and what is wrong with
  all others.
-/

namespace GraphLayer.Rendering

open Schema

/-- The file of the whole schema is its text after a header without tokens. -/
theorem exists_header_mergedFile : ∃ header : String, (∀ rest, Scans header.toList [] rest) ∧
    ∀ config ds, (mergedFile config ds).contents = header ++ Document.text (merged ds) := by
  refine ⟨_, fun rest => ?_, fun config ds => rfl⟩
  have hlines :
      "# Generated merged schema\n# This file is auto-generated. Do not edit manually.\n\n".toList =
      ('#' :: " Generated merged schema".toList ++ ['\n']) ++
        (('#' :: " This file is auto-generated. Do not edit manually.".toList ++ ['\n']) ++
          ['\n']) := by decide
  rw [hlines]
  exact .append (s := []) (.comment (by decide) (by decide))
    (.append (s := []) (.comment (by decide) (by decide)) (scans_newline rest))

variable {ds : List Descriptor}

/-- The file of the whole schema is read back, unless there is no entity. -/
theorem read?_mergedFile (h : Coherent ds) (config : GeneratorConfig) (hds : ds ≠ []) :
    Document.read? (mergedFile config ds).contents = some (merged ds) := by
  obtain ⟨header, hheader, hcontents⟩ := exists_header_mergedFile
  rw [hcontents]
  exact h.read?_text hds hheader

/-- Without entities the file of the whole schema is no schema. -/
theorem read?_mergedFile_nil (config : GeneratorConfig) :
    Document.read? (mergedFile config []).contents = none := by
  show Document.read? (_ ++ Document.text []) = none
  decide +kernel

/-- What has been described and refers to nothing else is coherent if its names are. -/
theorem coherent_of_described
    (hdescribed : ∀ d ∈ ds, ∃ catalog known modules p,
      Generation.IsDescribed catalog known modules p d)
    (hdistinct : (ds.map Descriptor.name).Nodup) (hfree : ∀ d ∈ ds, d.name ∉ takenNames)
    (hnamed : ∀ d ∈ ds, d.Named) (hrefs : resolveReferences ds = .ok ()) : Coherent ds := by
  refine ⟨hdistinct, hfree, hnamed, fun d hd => ?_, resolveReferences_eq_ok_iff.1 hrefs⟩
  obtain ⟨catalog, known, modules, p, hp⟩ := hdescribed d hd
  exact hp.wellTyped

/-- Coherent entities with different root fields pass exactly if each of them has a field and some
operation is a query. -/
theorem exists_coordinate_iff (config : GeneratorConfig) (h : Coherent ds) (hds : ds ≠ [])
    (hroots : checkRootFields ds = .ok ()) : (∃ as, coordinate config ds = .ok as) ↔
      (∀ d ∈ ds, d.fields ≠ []) ∧ ∃ d ∈ ds, ∃ m ∈ d.methods, m.kind.isMutation = false := by
  have hrefs : resolveReferences ds = .ok () := resolveReferences_eq_ok_iff.2 h.resolved
  rw [← h.servable_merged_iff, ← checkText_eq_ok_iff (read?_mergedFile h config hds)]
  simp [coordinate_eq_ok_iff, hrefs, hroots]

/-- What a description of all entities leaves is described. -/
theorem exists_isDescribed_of_describeEach {catalog : Catalog} {known : KeySet String}
    {modules : ModulePaths} {entities : List (String × EntityConfig)} {r : Generation.Report}
    (hds : Generation.describeEach catalog known modules entities ([], {}) = (ds, r))
    (hr : r.failures = []) :
    ∀ d ∈ ds, ∃ catalog known modules p, Generation.IsDescribed catalog known modules p d := by
  intro d hd
  obtain ⟨p, -, hp⟩ := Generation.exists_isDescribed_of_mem
    (Generation.described_of_describeEach hds hr) hd
  exact ⟨_, _, _, p, hp⟩

/-- The files of all entities together can be made if all of them are described, their names are
apart, the gates pass, and there are fields and queries. -/
theorem exists_coordinate_of_describeEach (config : GeneratorConfig) {catalog : Catalog}
    {known : KeySet String} {modules : ModulePaths} {entities : List (String × EntityConfig)}
    {r : Generation.Report}
    (hds : Generation.describeEach catalog known modules entities ([], {}) = (ds, r))
    (hr : r.failures = [])
    (hnames : (ds.map Descriptor.name).Nodup ∧ (∀ d ∈ ds, d.name ∉ takenNames) ∧
      ∀ d ∈ ds, d.Named)
    (hgates : resolveReferences ds = .ok () ∧ checkRootFields ds = .ok ())
    (hpasses : ds ≠ [] ∧ (∀ d ∈ ds, d.fields ≠ []) ∧
      ∃ d ∈ ds, ∃ m ∈ d.methods, m.kind.isMutation = false) :
    ∃ as, coordinate config ds = .ok as := by
  obtain ⟨hdistinct, hfree, hnamed⟩ := hnames
  have hcoherent := coherent_of_described (exists_isDescribed_of_describeEach hds hr) hdistinct
    hfree hnamed hgates.1
  exact (exists_coordinate_iff config hcoherent hpasses.1 hgates.2).2 hpasses.2

/-- **The check of the whole schema is exact.**  Take entities that have been described, whose names
are pairwise distinct and not taken, all of whose names are names of the schema language, and whose
references and root fields pass.  Unless there is no entity, the file of the whole schema is read
back as the very schema.  The files of all entities together are made exactly if every entity has a
field and some operation is a query; otherwise the check has found an entity without fields or a
lack of queries, or there is no entity. -/
theorem coordinate_of_described (config : GeneratorConfig)
    (hdescribed : ∀ d ∈ ds, ∃ catalog known modules p,
      Generation.IsDescribed catalog known modules p d)
    (hdistinct : (ds.map Descriptor.name).Nodup) (hfree : ∀ d ∈ ds, d.name ∉ takenNames)
    (hnamed : ∀ d ∈ ds, d.Named) (hrefs : resolveReferences ds = .ok ())
    (hroots : checkRootFields ds = .ok ()) :
    (ds ≠ [] → Document.read? (mergedFile config ds).contents = some (merged ds)) ∧
      ((∃ as, coordinate config ds = .ok as) ↔
        (∀ d ∈ ds, d.fields ≠ []) ∧ ∃ d ∈ ds, ∃ m ∈ d.methods, m.kind.isMutation = false) ∧
      ∀ e, coordinate config ds = .error e → ∃ f : Fault, e = .render f.message ∧
        (ds = [] ∧ f = .unreadable ∨ (∃ d ∈ ds, d.fields = [] ∧ f = .fieldless d.name) ∨
          ds ≠ [] ∧ f = .noQuery ∧ ∀ d ∈ ds, ∀ m ∈ d.methods, m.kind.isMutation = true) := by
  have hcoherent := coherent_of_described hdescribed hdistinct hfree hnamed hrefs
  have herror : ∀ e, coordinate config ds = .error e → ∃ f : Fault,
      checkText (mergedFile config ds).contents = .error f ∧ e = .render f.message := by
    intro e he
    cases hcheck : checkText (mergedFile config ds).contents with
    | ok =>
      rw [coordinate_eq_ok_iff.2 ⟨hrefs, hroots, hcheck, rfl⟩] at he
      cases he
    | error f =>
      rw [coordinate_eq_error hrefs hroots hcheck] at he
      exact ⟨f, rfl, (Except.error.inj he).symm⟩
  -- a text that is read back leaves only what the check finds in the schema itself
  refine ⟨read?_mergedFile hcoherent config, ?_, fun e he => ?_⟩
  · by_cases hds : ds = []
    · subst hds
      simp [coordinate_eq_ok_iff, checkText, read?_mergedFile_nil]
    · exact exists_coordinate_iff config hcoherent hds hroots
  · obtain ⟨f, hcheck, rfl⟩ := herror e he
    refine ⟨f, rfl, ?_⟩
    by_cases hds : ds = []
    · subst hds
      rw [checkText, read?_mergedFile_nil] at hcheck
      exact .inl ⟨rfl, (Except.error.inj hcheck).symm⟩
    · have hholds := holds_of_checkText (read?_mergedFile hcoherent config hds) hcheck
      rcases hcoherent.of_holds hholds with hfields | ⟨rfl, hmutations⟩
      · exact .inr (.inl hfields)
      · exact .inr (.inr ⟨hds, rfl, hmutations⟩)

/-- The schema of parts and widgets, which refer to each other, is read back and passes. -/
theorem coordinate_of_described_stock :
    let config := Generation.stock
    let ds := Generation.stockDescribed.1
    ((∀ d ∈ ds, ∃ catalog known modules p, Generation.IsDescribed catalog known modules p d) ∧
      (ds.map Descriptor.name).Nodup ∧ (∀ d ∈ ds, d.name ∉ takenNames) ∧ (∀ d ∈ ds, d.Named) ∧
      resolveReferences ds = .ok () ∧ checkRootFields ds = .ok ()) ∧
      Document.read? (mergedFile config ds).contents = some (merged ds) ∧
      ∃ as, coordinate config ds = .ok as := by
  intro config ds
  have hr : Generation.stockDescribed.2.failures = [] := by decide +kernel
  have hdescribed := exists_isDescribed_of_describeEach rfl hr
  have hdistinct : (ds.map Descriptor.name).Nodup := by decide +kernel
  have hfree : ∀ d ∈ ds, d.name ∉ takenNames := by decide +kernel
  have hnamed : ∀ d ∈ ds, d.Named := by decide +kernel
  have hgates : resolveReferences ds = .ok () ∧ checkRootFields ds = .ok () := by decide +kernel
  have hpasses : ds ≠ [] ∧ (∀ d ∈ ds, d.fields ≠ []) ∧
      ∃ d ∈ ds, ∃ m ∈ d.methods, m.kind.isMutation = false := by decide +kernel
  have hcheck := coordinate_of_described config hdescribed hdistinct hfree hnamed hgates.1 hgates.2
  exact ⟨⟨hdescribed, hdistinct, hfree, hnamed, hgates⟩, hcheck.1 hpasses.1,
    hcheck.2.1.2 hpasses.2⟩

/-- Without entities all gates pass, but the file of the whole schema is not read back, and this is
what is said. -/
theorem coordinate_nil_unreadable :
    resolveReferences [] = .ok () ∧ checkRootFields [] = .ok () ∧
      Document.read? (mergedFile (Generation.lone "Part") []).contents ≠ some (merged []) ∧
      coordinate (Generation.lone "Part") [] = .error (.render Fault.unreadable.message) := by
  decide +kernel

end GraphLayer.Rendering
