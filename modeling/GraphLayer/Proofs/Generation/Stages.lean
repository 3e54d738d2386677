import Mathlib.Data.List.Nodup
import GraphLayer.Generation.Run
import GraphLayer.Proofs.Generation.Journals

/-!
# The stages of a run

* `Journal.paths` and `Journal.skips`, what a report tells of a journal, and `Journal.perm_paths`:
  if nothing fails, it tells of every artifact;
* `Report.Adds`, what a stage adds to a report;
* `Journal.Covers`, the journal of some offers up to the first one that fails;
* `exists_of_offerAll`: offers in order, with their journal and what they add to the report;
* `Journal.Attempts`, the journal of the files of some entities, and `exists_of_writeEntities`: a
  failing entity ends its own offers, but not those of the entities after it.
-/

namespace GraphLayer.Generation

open Rendering (entityArtifacts entityWarnings)

/-! ### Reports -/

/-- Whether the warning is a finding about an entity. -/
def Warning.isFinding : Warning → Bool
  | entity _ _ => true
  | skipped _ _ => false

/-- The path that a warning tells of. -/
def Warning.path? : Warning → Option Path
  | skipped path _ => some path
  | entity _ _ => none

namespace Report

/-- The warnings about entities. -/
def findings (r : Report) : List Warning := r.warnings.filter Warning.isFinding

/-- The warnings about files that were left alone. -/
def skips (r : Report) : List Warning := r.warnings.filter fun w => !w.isFinding

end Report

namespace Journal

/-- The paths of the artifacts of which one thing came. -/
def paths (j : Journal) (w : WriteOutcome) : List Path :=
  (j.filter fun x => x.2 = .ok w).map fun x => x.1.path

/-- The warnings about files that were left alone. -/
def skips (j : Journal) : List Warning :=
  (j.filter fun x => x.2 = .ok .skipped).map fun x =>
    .skipped x.1.path x.1.artifact.category

theorem paths_append (j k : Journal) (w : WriteOutcome) :
    (j ++ k).paths w = j.paths w ++ k.paths w := by
  simp [paths]

theorem skips_append (j k : Journal) : (j ++ k).skips = j.skips ++ k.skips := by
  simp [skips]

theorem paths_sublist (j : Journal) (w : WriteOutcome) :
    (j.paths w).Sublist (j.map fun x => x.1.path) :=
  List.filter_sublist.map _

/-- If nothing fails, the three lists of a report tell of every artifact. -/
theorem perm_paths {j : Journal} (h : ∀ x ∈ j, ∃ w, x.2 = .ok w) :
    (j.paths .written ++ j.paths .unchanged ++ j.paths .skipped).Perm
      (j.map fun x => x.1.path) := by
  induction j with
  | nil => exact .nil
  | cons x j ih =>
    obtain ⟨o, res⟩ := x
    obtain ⟨⟨w, hw⟩, hj⟩ := List.forall_mem_cons.1 h
    obtain rfl : res = .ok w := hw
    have ih := ih hj
    simp only [paths] at ih ⊢
    cases w with
    | written => simpa using ih
    | unchanged => simpa using (List.perm_middle.append_right _).trans (ih.cons o.path)
    | skipped => simpa using List.perm_middle.trans (ih.cons o.path)

section Count

variable {j : Journal} {o : Offer} {w : WriteOutcome}

/-- An artifact has one line in the list of those of which the same came. -/
theorem count_paths (hj : (j.map fun x => x.1.path).Nodup) (ho : (o, .ok w) ∈ j) :
    (j.paths w).count o.path = 1 := by
  refine List.count_eq_one_of_mem (hj.sublist (paths_sublist j w)) ?_
  exact List.mem_map.2 ⟨_, List.mem_filter.2 ⟨ho, decide_eq_true rfl⟩, rfl⟩

/-- One warning tells of a file that was left alone. -/
theorem count_skips (hj : (j.map fun x => x.1.path).Nodup) (ho : (o, .ok .skipped) ∈ j) :
    j.skips.count (.skipped o.path o.artifact.category) = 1 := by
  have hpaths : j.skips.map Warning.path? = (j.paths .skipped).map some := by
    rw [skips, paths, List.map_map, List.map_map]
    rfl
  have hnodup : (j.skips.map Warning.path?).Nodup := by
    rw [hpaths]
    exact (hj.sublist (paths_sublist j _)).map fun _ _ h => Option.some.inj h
  refine List.count_eq_one_of_mem (.of_map _ hnodup) ?_
  exact List.mem_map.2 ⟨_, List.mem_filter.2 ⟨ho, decide_eq_true rfl⟩, rfl⟩

end Count

end Journal

/-- What a stage with a journal, some findings and some failures adds to a report. -/
structure Report.Adds (j : Journal) (findings : List Warning) (failures : List Failure)
    (r r' : Report) : Prop where
  entities : r'.entities = r.entities
  written : r'.written = r.written ++ j.paths .written
  unchanged : r'.unchanged = r.unchanged ++ j.paths .unchanged
  skipped : r'.skipped = r.skipped ++ j.paths .skipped
  skips : r'.skips = r.skips ++ j.skips
  findings : r'.findings = r.findings ++ findings
  failures : r'.failures = r.failures ++ failures
  aggregates : r'.aggregatesWritten = r.aggregatesWritten

namespace Report

variable {r r' r'' : Report} {j k : Journal} {ws ws' : List Warning} {fs fs' : List Failure}

theorem Adds.refl (r : Report) : Adds [] [] [] r r := by
  constructor <;> simp [Journal.paths, Journal.skips]

theorem Adds.trans (h : Adds j ws fs r r') (h' : Adds k ws' fs' r' r'') :
    Adds (j ++ k) (ws ++ ws') (fs ++ fs') r r'' where
  entities := h'.entities.trans h.entities
  written := by rw [h'.written, h.written, Journal.paths_append, List.append_assoc]
  unchanged := by rw [h'.unchanged, h.unchanged, Journal.paths_append, List.append_assoc]
  skipped := by rw [h'.skipped, h.skipped, Journal.paths_append, List.append_assoc]
  skips := by rw [h'.skips, h.skips, Journal.skips_append, List.append_assoc]
  findings := by rw [h'.findings, h.findings, List.append_assoc]
  failures := by rw [h'.failures, h.failures, List.append_assoc]
  aggregates := h'.aggregates.trans h.aggregates

/-- What has been added does not depend on the word about the files of all entities together. -/
theorem Adds.withAggregates (h : Adds j ws fs r r') :
    Adds j ws fs r { r' with aggregatesWritten := r.aggregatesWritten } :=
  ⟨h.entities, h.written, h.unchanged, h.skipped, h.skips, h.findings, h.failures, rfl⟩

theorem adds_record (r : Report) (o : Offer) (w : WriteOutcome) :
    Adds [(o, .ok w)] [] [] r (r.record o.artifact w) := by
  cases w <;> constructor <;>
    simp [record, Journal.paths, Journal.skips, skips, findings, Warning.isFinding]

theorem adds_error (r : Report) (o : Offer) (e : GenerationError) :
    Adds [(o, .error e)] [] [] r r := by
  constructor <;> simp [Journal.paths, Journal.skips]

theorem adds_warn (r : Report) (entity : String) (messages : List String) :
    Adds [] (messages.map (Warning.entity entity)) [] r (r.warn entity messages) := by
  have hfindings : (messages.map (Warning.entity entity)).filter Warning.isFinding =
      messages.map (Warning.entity entity) := by
    simp [List.filter_map, Function.comp_def, Warning.isFinding]
  have hskips : (messages.map (Warning.entity entity)).filter (fun w => !w.isFinding) = [] := by
    simp [List.filter_map, Function.comp_def, Warning.isFinding]
  constructor <;> simp [warn, Journal.paths, Journal.skips, skips, findings, hfindings, hskips]

theorem adds_fail (r : Report) (entity : String) (e : GenerationError) :
    Adds [] [] [⟨entity, e⟩] r (r.fail entity e) := by
  constructor <;> simp [fail, Journal.paths, Journal.skips, skips, findings]

end Report

/-! ### Offers in order -/

namespace Journal

/-- The journal of some offers up to the first one that fails, and the error of that one. -/
inductive Covers : List Offer → Journal → Option GenerationError → Prop
  | nil : Covers [] [] none
  | cons {o : Offer} {os : List Offer} {w : WriteOutcome} {j : Journal}
    {fault? : Option GenerationError} (h : Covers os j fault?) :
    Covers (o :: os) ((o, .ok w) :: j) fault?
  | fault (o : Offer) (os : List Offer) :
    Covers (o :: os) [(o, .error (.io o.path))] (some (.io o.path))

variable {os : List Offer} {j : Journal} {fault? : Option GenerationError}

/-- Only offers that are to be made are made. -/
theorem Covers.mem (h : Covers os j fault?) {x : Offer × Except GenerationError WriteOutcome}
    (hx : x ∈ j) : x.1 ∈ os := by
  induction h with
  | nil => cases hx
  | cons _ ih =>
    rcases List.mem_cons.1 hx with rfl | hx
    · exact List.mem_cons_self
    · exact List.mem_cons_of_mem _ (ih hx)
  | fault =>
    obtain rfl := List.mem_singleton.1 hx
    exact List.mem_cons_self

/-- If nothing fails, all offers are made. -/
theorem Covers.of_none (h : Covers os j none) :
    j.map Prod.fst = os ∧ ∀ x ∈ j, ∃ w, x.2 = .ok w := by
  generalize hfault : none = fault? at h
  induction h with
  | nil => exact ⟨rfl, List.forall_mem_nil _⟩
  | cons _ ih =>
    obtain ⟨hos, hok⟩ := ih hfault
    refine ⟨by rw [List.map_cons, hos], List.forall_mem_cons.2 ⟨⟨_, rfl⟩, hok⟩⟩
  | fault => cases hfault

theorem Covers.eq_none (h : Covers os j fault?) (hok : ∀ x ∈ j, ∃ w, x.2 = .ok w) :
    fault? = none := by
  induction h with
  | nil => rfl
  | cons _ ih => exact ih fun x hx => hok x (List.mem_cons_of_mem _ hx)
  | fault =>
    obtain ⟨w, hw⟩ := hok _ List.mem_cons_self
    cases hw

theorem Covers.eq_io {e : GenerationError} (h : Covers os j (some e)) : ∃ p, e = .io p := by
  generalize hfault : some e = fault? at h
  induction h with
  | nil => cases hfault
  | cons _ ih => exact ih hfault
  | fault o os => exact ⟨o.path, Option.some.inj hfault⟩

end Journal

variable {t s : FileTree} {r r' : Report}

/-- **Offers in order** have a journal, which is all that they add to the report. -/
theorem exists_of_offerAll {policy : OverwritePolicy} {as : List Artifact}
    {fault? : Option GenerationError}
    (h : (offerAll policy r as : StateM FileTree _).run t = ((r', fault?), s)) :
    ∃ j : Journal, j.Leads t s ∧ j.Covers (as.map (Offer.mk policy)) fault? ∧
      r.Adds j [] [] r' := by
  -- the report and the tree go on from offer to offer
  induction as generalizing r t with
  | nil =>
    obtain ⟨hend, rfl⟩ := Prod.mk.inj h
    obtain ⟨rfl, rfl⟩ := Prod.mk.inj hend
    exact ⟨[], .nil t, .nil, .refl r⟩
  | cons a as ih =>
    unfold offerAll at h
    rw [run_bind_tree] at h
    rcases hon : (Offer.mk policy a).on t with ⟨res, u⟩
    have hrun : (offer policy a : StateM FileTree _).run t = (res, u) := hon
    rw [hrun] at h
    cases res with
    | ok w =>
      obtain ⟨j, hj, hcovers, hadds⟩ := ih h
      exact ⟨_, .cons hon hj, .cons hcovers, (Report.adds_record r ⟨policy, a⟩ w).trans hadds⟩
    | error e =>
      obtain ⟨hend, rfl⟩ := Prod.mk.inj h
      obtain ⟨rfl, rfl⟩ := Prod.mk.inj hend
      obtain rfl := (Offer.effect_on hon).eq_io
      exact ⟨_, .cons hon (.nil _), .fault _ _, Report.adds_error _ _ _⟩

/-! ### The files of the entities -/

/-- The offers of the files of an entity. -/
def entityOffers (config : GeneratorConfig) (d : Descriptor) : List Offer :=
  (entityArtifacts config d).map (Offer.mk d.overwrite)

theorem aggregate_of_mem_entityOffers {config : GeneratorConfig} {d : Descriptor} {o : Offer}
    (h : o ∈ entityOffers config d) : o.artifact.aggregate = false := by
  obtain ⟨a, ha, rfl⟩ := List.mem_map.1 h
  rcases List.mem_append.1 ha with ha | ha
  · simp only [List.mem_cons, List.not_mem_nil, or_false] at ha
    rcases ha with rfl | rfl | rfl <;> rfl
  · obtain ⟨plan, -, rfl⟩ := Option.map_eq_some_iff.1 (Option.mem_toList.1 ha)
    rfl

/-- The findings about the files of some entities. -/
def entityFindings (ds : List Descriptor) : List Warning :=
  ds.flatMap fun d => (entityWarnings d).map (Warning.entity d.name)

namespace Journal

/-- The journal of the files of some entities, of each one up to the first file that fails, with the
failures. -/
inductive Attempts (config : GeneratorConfig) :
    List Descriptor → Journal → List Failure → Prop
  | nil : Attempts config [] [] []
  | cons {d : Descriptor} {ds : List Descriptor} {j k : Journal}
    {fault? : Option GenerationError} {fs : List Failure}
    (hd : j.Covers (entityOffers config d) fault?) (hds : Attempts config ds k fs) :
    Attempts config (d :: ds) (j ++ k) ((fault?.map (Failure.mk d.name)).toList ++ fs)

variable {config : GeneratorConfig} {ds : List Descriptor} {j : Journal} {fs : List Failure}

/-- Only files of the entities are offered. -/
theorem Attempts.mem (h : Attempts config ds j fs)
    {x : Offer × Except GenerationError WriteOutcome} (hx : x ∈ j) :
    ∃ d ∈ ds, x.1 ∈ entityOffers config d := by
  induction h with
  | nil => cases hx
  | cons hd _ ih =>
    rcases List.mem_append.1 hx with hx | hx
    · exact ⟨_, List.mem_cons_self, hd.mem hx⟩
    · obtain ⟨d, hmem, hd⟩ := ih hx
      exact ⟨d, List.mem_cons_of_mem _ hmem, hd⟩

/-- Every entity has its part of the journal, whatever became of the others. -/
theorem Attempts.exists_covers (h : Attempts config ds j fs) {d : Descriptor} (hd : d ∈ ds) :
    ∃ k fault?, k <:+: j ∧ Covers (entityOffers config d) k fault? ∧
      ∀ e, fault? = some e → ⟨d.name, e⟩ ∈ fs := by
  induction h with
  | nil => cases hd
  | @cons d' ds j k fault? fs hcovers _ ih =>
    rcases List.mem_cons.1 hd with rfl | hd
    · refine ⟨j, fault?, (List.prefix_append _ _).isInfix, hcovers, ?_⟩
      rintro e rfl
      exact List.mem_append_left _ (List.mem_singleton.2 rfl)
    · obtain ⟨k', fault', hinfix, hk', hfault⟩ := ih hd
      exact ⟨k', fault', hinfix.trans (List.suffix_append _ _).isInfix, hk',
        fun e he => List.mem_append_right _ (hfault e he)⟩

/-- If nothing fails, all files are offered. -/
theorem Attempts.of_nil (h : Attempts config ds j []) :
    j.map Prod.fst = ds.flatMap (entityOffers config) ∧ ∀ x ∈ j, ∃ w, x.2 = .ok w := by
  generalize hfs : [] = fs at h
  induction h with
  | nil => exact ⟨rfl, List.forall_mem_nil _⟩
  | @cons d ds j k fault? fs hcovers _ ih =>
    obtain ⟨hfault, rfl⟩ := List.append_eq_nil_iff.1 hfs.symm
    cases fault? with
    | some e => cases hfault
    | none =>
      obtain ⟨hj, hjok⟩ := hcovers.of_none
      obtain ⟨hk, hkok⟩ := ih rfl
      refine ⟨by rw [List.map_append, hj, hk, List.flatMap_cons], fun x hx => ?_⟩
      rcases List.mem_append.1 hx with hx | hx
      · exact hjok x hx
      · exact hkok x hx

theorem Attempts.eq_nil (h : Attempts config ds j fs) (hok : ∀ x ∈ j, ∃ w, x.2 = .ok w) :
    fs = [] := by
  induction h with
  | nil => rfl
  | cons hd _ ih =>
    obtain rfl := hd.eq_none fun x hx => hok x (List.mem_append_left _ hx)
    exact ih fun x hx => hok x (List.mem_append_right _ hx)

/-- Whatever fails is a file that cannot be written. -/
theorem Attempts.eq_io (h : Attempts config ds j fs) {f : Failure} (hf : f ∈ fs) :
    ∃ p, f.error = .io p := by
  induction h with
  | nil => cases hf
  | @cons d ds j k fault? fs hcovers _ ih =>
    rcases List.mem_append.1 hf with hf | hf
    · cases fault? with
      | none => cases hf
      | some e =>
        obtain rfl := List.mem_singleton.1 hf
        exact hcovers.eq_io
    · exact ih hf

end Journal

/-- **The files of the entities** are offered entity by entity: one that fails does not stop the
others. -/
theorem exists_of_writeEntities {config : GeneratorConfig} {ds : List Descriptor}
    (h : (writeEntities config r ds : StateM FileTree Report).run t = (r', s)) :
    ∃ (j : Journal) (fs : List Failure), j.Leads t s ∧ j.Attempts config ds fs ∧
      r.Adds j (entityFindings ds) fs r' := by
  induction ds generalizing r t with
  | nil =>
    obtain ⟨rfl, rfl⟩ := Prod.mk.inj h
    exact ⟨[], [], .nil t, .nil, .refl r⟩
  | cons d ds ih =>
    unfold writeEntities at h
    rw [run_bind_tree] at h
    rcases hoffers : (offerAll d.overwrite (r.warn d.name (entityWarnings d))
      (entityArtifacts config d) : StateM FileTree _).run t with ⟨⟨r₁, fault?⟩, u⟩
    rw [hoffers] at h
    obtain ⟨j, hj, hcovers, hadds⟩ := exists_of_offerAll hoffers
    obtain ⟨k, fs, hk, hattempts, hrest⟩ := ih h
    have hwarned := (Report.adds_warn r d.name (entityWarnings d)).trans hadds
    -- a fault ends the offers of this entity and goes into the report, nothing more
    have hfailed : (r.Adds j ((entityWarnings d).map (Warning.entity d.name))
        (fault?.map (Failure.mk d.name)).toList
        ((fault?.map (r₁.fail d.name)).getD r₁)) := by
      cases fault? with
      | none => simpa using hwarned
      | some e => simpa using hwarned.trans (Report.adds_fail r₁ d.name e)
    exact ⟨j ++ k, _, hj.append hk, .cons hcovers hattempts, hfailed.trans hrest⟩

end GraphLayer.Generation
