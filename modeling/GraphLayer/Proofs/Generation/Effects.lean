import GraphLayer.Proofs.Generation.Courses

/-!
# What a run does to files, and what it says about them

* `offersOn`, all artifacts of a run with the policies under which they are offered;
* `Logged`, a run whose report rests on a journal of all of them, and `exists_logged`: so does every
  report that tells of no file that could not be written;
* `Journal.Leads.file?_of_mem`: an artifact that has not been left alone is there in the end;
* `Journal.Leads.decided`: what becomes of an artifact that is `Offer.Unhindered` is decided by what
  stood at its place before the run;
* `Offer.Accounted`, and `runOn_accounts`: each artifact of the run is in the one list of the report
  that tells what has become of it, and no other file changes.
-/

namespace GraphLayer.Generation

open Rendering (coordinate)

variable {config : GeneratorConfig} {t s : FileTree} {r : Report}

/-! ### The artifacts of a run -/

/-- The offers of the files of all entities together, if these can be made. -/
def aggregateOffers (config : GeneratorConfig) (ds : List Descriptor) : List Offer :=
  match coordinate config ds with
  | .error _ => []
  | .ok as => as.map (Offer.mk .everything)

/-- The offers of a run that meets no file that cannot be written. -/
def offersOn (config : GeneratorConfig) (t : FileTree) : List Offer :=
  match describedOn config t with
  | .error _ => []
  | .ok (ds, r) => ds.flatMap (entityOffers config) ++
      if r.isSuccess then aggregateOffers config ds else []

/-- A run whose report rests on a journal of all artifacts. -/
structure Logged (config : GeneratorConfig) (t : FileTree) (ds : List Descriptor) (r₀ : Report)
    (j : Journal) (r : Report) (s : FileTree) : Prop where
  described : describedOn config t = .ok (ds, r₀)
  leads : j.Leads t s
  offers : j.map Prod.fst = offersOn config t
  outcomes : ∀ x ∈ j, ∃ w, x.2 = .ok w
  adds : r₀.Adds j (entityFindings ds) [] { r with aggregatesWritten := r₀.aggregatesWritten }

/-- A report that tells of no file that could not be written rests on a journal. -/
theorem exists_logged (h : runOn config t = (.ok r, s)) (hio : tellsOfIo (.ok r) = false) :
    ∃ ds r₀ j, Logged config t ds r₀ j r s := by
  cases course_of_runOn h with
  | @failing ds r₀ _ j fs _ hstage hr =>
    obtain rfl := hstage.failures_eq_nil hio
    obtain ⟨hoffers, houtcomes⟩ := hstage.attempts.of_nil
    have hfailed : r₀.isSuccess = false := by
      rw [Report.isSuccess, ← List.append_nil r₀.failures, ← hstage.adds.failures]
      exact Bool.eq_false_iff.2 fun hempty => hr (List.isEmpty_iff.1 hempty)
    refine ⟨ds, r₀, j, hstage.described, hstage.leads, ?_, houtcomes, hstage.adds.withAggregates⟩
    simp [offersOn, hstage.described, hfailed, hoffers]
  | @complete ds r₀ r₁ r' j k fs u _ as hstage hr has hk hcovers hadds =>
    have hfailures := hstage.adds.failures
    rw [hr, eq_comm, List.append_eq_nil_iff] at hfailures
    obtain ⟨hr₀, rfl⟩ := hfailures
    obtain ⟨hoffers, houtcomes⟩ := hstage.attempts.of_nil
    obtain ⟨hoffers', houtcomes'⟩ := hcovers.of_none
    have hsuccess : r₀.isSuccess = true := List.isEmpty_iff.2 hr₀
    have hall := (hstage.adds.trans hadds).withAggregates
    rw [List.append_nil, List.append_nil] at hall
    refine ⟨ds, r₀, j ++ k, hstage.described, hstage.leads.append hk, ?_, ?_, hall⟩
    · simp [offersOn, hstage.described, hsuccess, hoffers, hoffers', aggregateOffers, has]
    · intro x hx
      rcases List.mem_append.1 hx with hx | hx
      · exact houtcomes x hx
      · exact houtcomes' x hx

/-! ### Decisions -/

/-- What stands at the place of an artifact is found by its path, and if nothing does and the
artifact could not replace it, no other artifact needs a directory there. -/
structure Offer.Unhindered (o : Offer) (os : List Offer) (t : FileTree) : Prop where
  reaches : t.Reaches o.path
  clear : o.isProtected = true → t.entry? (t.place o.path) = none →
    ∀ o' ∈ os, o' ≠ o → t.place o.path ∉ t.way o'.path

/-- When an unhindered artifact is offered, there still is at its place what stood there before. -/
theorem Offer.Unhindered.entry?_eq {o : Offer} {os : List Offer} (hopen : o.Unhindered os t)
    {before : Journal} {t₁ s₁ : FileTree} (hbefore : before.Leads t t₁)
    (hearlier : ∀ x ∈ before, x.1 ∈ os ∧ t.place x.1.path ≠ t.place o.path) {w : WriteOutcome}
    (heffect : o.Effect t₁ (.ok w) s₁) :
    t₁.entry? (t.place o.path) = t.entry? (t.place o.path) := by
  rcases hbefore.entry?_cases fun x hx => (hearlier x hx).2 with
    heq | ⟨⟨x, hx, hway⟩, hnone, hdir⟩
  · exact heq
  · -- a directory has been made there
    obtain ⟨hmem, hplace⟩ := hearlier x hx
    have hne : x.1 ≠ o := fun heq => hplace (by rw [heq])
    rw [← FileTree.place_congr hbefore.grows.home] at hdir
    cases hprotected : o.isProtected with
    | true => exact absurd hway (hopen.clear hprotected hnone _ hmem hne)
    | false =>
      refine absurd hdir (heffect.entry?_ne_directory ?_)
      rintro rfl
      cases heffect with
      | skipped hp =>
        rw [hprotected] at hp
        cases hp

section Mem

variable {j : Journal} {o : Offer} {w : WriteOutcome}

/-- An artifact that has not been left alone is there in the end. -/
theorem Journal.Leads.file?_of_mem (h : j.Leads t s)
    (hplaces : (j.map fun x => t.place x.1.path).Nodup) (ho : (o, .ok w) ∈ j)
    (hw : w ≠ .skipped) : s.file? (t.place o.path) = some o.bytes := by
  obtain ⟨_, _, _, _, -, heffect, hafter, -, hlater⟩ := h.exists_effect_of_nodup hplaces ho
  have hlookup := hafter.lookup?_of_some hlater (heffect.lookup?_of_ok hw)
  rw [FileTree.file?_eq_some_iff, ← FileTree.place_congr h.grows.home]
  exact (FileTree.lookup?_eq_some_iff.1 hlookup).2

/-- **What becomes of an unhindered artifact** is decided by what stood at its place before; if it
has been left alone, this is still there. -/
theorem Journal.Leads.decided (h : j.Leads t s)
    (hplaces : (j.map fun x => t.place x.1.path).Nodup) (ho : (o, .ok w) ∈ j)
    (hopen : o.Unhindered (j.map Prod.fst) t) :
    w = o.verdict (t.entry? (t.place o.path)) ∧
      (w = .skipped → s.entry? (t.place o.path) = t.entry? (t.place o.path)) := by
  obtain ⟨before, after, t₁, s₁, hbefore, heffect, hafter, hearlier, hlater⟩ :=
    h.exists_effect_of_nodup hplaces ho
  have hhome := hbefore.grows.home
  have hstood := hopen.entry?_eq hbefore
    (fun x hx => ⟨List.mem_map_of_mem (hearlier x hx).1, (hearlier x hx).2⟩) heffect
  have hlookup : t₁.lookup? o.path = t.entry? (t.place o.path) := by
    have hreaches := hopen.reaches.of_grows hbefore.grows hstood
    rw [FileTree.Reaches, FileTree.place_congr hhome, hstood] at hreaches
    exact hreaches
  refine ⟨hlookup ▸ heffect.eq_verdict, ?_⟩
  rintro rfl
  cases heffect with
  | skipped hp he =>
    have hkept := (FileTree.lookup?_eq_some_iff.1 (hafter.lookup?_of_some hlater he)).2
    rw [FileTree.place_congr h.grows.home] at hkept
    rw [hkept, ← hlookup, he]

end Mem

/-! ### Accounts -/

/-- What a run has made of an artifact, and what the report says about it. -/
structure Offer.Accounted (o : Offer) (t s : FileTree) (r : Report) : Prop where
  /-- A file that has to stay is as it was; one line and one warning tell so. -/
  kept : o.isProtected = true → (t.entry? (t.place o.path)).isSome = true →
    s.entry? (t.place o.path) = t.entry? (t.place o.path) ∧ r.skipped.count o.path = 1 ∧
      r.warnings.count (.skipped o.path o.artifact.category) = 1
  /-- Otherwise the artifact is there, and one line tells whether it was there before. -/
  made : (o.isProtected = true → t.entry? (t.place o.path) = none) →
    s.file? (t.place o.path) = some o.bytes ∧
      (t.file? (t.place o.path) = some o.bytes → r.unchanged.count o.path = 1) ∧
      (t.file? (t.place o.path) ≠ some o.bytes → r.written.count o.path = 1)

section Logged

variable {ds : List Descriptor} {r₀ : Report} {j : Journal}

theorem Logged.map_path (h : Logged config t ds r₀ j r s) :
    (j.map fun x => x.1.path) = (offersOn config t).map Offer.path := by
  rw [← h.offers, List.map_map]
  rfl

theorem Logged.written (h : Logged config t ds r₀ j r s) : r.written = j.paths .written := by
  have hadds := h.adds.written
  rw [(fresh_of_describedOn h.described).written, List.nil_append] at hadds
  exact hadds

theorem Logged.unchanged (h : Logged config t ds r₀ j r s) :
    r.unchanged = j.paths .unchanged := by
  have hadds := h.adds.unchanged
  rw [(fresh_of_describedOn h.described).unchanged, List.nil_append] at hadds
  exact hadds

theorem Logged.skipped (h : Logged config t ds r₀ j r s) : r.skipped = j.paths .skipped := by
  have hadds := h.adds.skipped
  rw [(fresh_of_describedOn h.described).skipped, List.nil_append] at hadds
  exact hadds

theorem Logged.skips (h : Logged config t ds r₀ j r s) : r.skips = j.skips := by
  have hadds := h.adds.skips
  rw [(fresh_of_describedOn h.described).skips, List.nil_append] at hadds
  exact hadds

theorem Logged.exists_mem (h : Logged config t ds r₀ j r s) {o : Offer}
    (ho : o ∈ offersOn config t) : ∃ w, (o, .ok w) ∈ j := by
  rw [← h.offers] at ho
  obtain ⟨⟨o', res⟩, hx, rfl⟩ := List.mem_map.1 ho
  obtain ⟨w, hw⟩ := h.outcomes _ hx
  exact ⟨w, hw ▸ hx⟩

theorem Logged.nodup_map_place (h : Logged config t ds r₀ j r s)
    (hplaces : ((offersOn config t).map fun o => t.place o.path).Nodup) :
    (j.map fun x => t.place x.1.path).Nodup := by
  rw [← h.offers, List.map_map] at hplaces
  exact hplaces

/-- An artifact that has not been left alone is there in the end. -/
theorem Logged.file?_of_skipped (h : Logged config t ds r₀ j r s)
    (hplaces : ((offersOn config t).map fun o => t.place o.path).Nodup) {o : Offer}
    (ho : o ∈ offersOn config t) (hskipped : o.path ∉ r.skipped) :
    s.file? (t.place o.path) = some o.bytes := by
  obtain ⟨w, hmem⟩ := h.exists_mem ho
  refine h.leads.file?_of_mem (h.nodup_map_place hplaces) hmem ?_
  rintro rfl
  rw [h.skipped] at hskipped
  exact hskipped (List.mem_map.2 ⟨_, List.mem_filter.2 ⟨hmem, decide_eq_true rfl⟩, rfl⟩)

/-- An unhindered artifact is accounted for. -/
theorem Logged.accounted (h : Logged config t ds r₀ j r s)
    (hplaces : ((offersOn config t).map fun o => t.place o.path).Nodup) {o : Offer}
    (ho : o ∈ offersOn config t) (hopen : o.Unhindered (offersOn config t) t) :
    o.Accounted t s r := by
  obtain ⟨w, hmem⟩ := h.exists_mem ho
  have hjpaths : (j.map fun x => x.1.path).Nodup := by
    rw [h.map_path]
    refine .of_map t.place ?_
    rw [List.map_map]
    exact hplaces
  rw [← h.offers] at hopen
  have hmade := h.leads.file?_of_mem (h.nodup_map_place hplaces) hmem
  obtain ⟨hverdict, hkept⟩ := h.leads.decided (h.nodup_map_place hplaces) hmem hopen
  have hcount := Journal.count_paths hjpaths hmem
  constructor
  · intro hprotected hsome
    obtain rfl : w = .skipped := hverdict.trans (Offer.verdict_of_isProtected hprotected hsome)
    have hwarned := Journal.count_skips hjpaths hmem
    rw [← h.skips, Report.skips, List.count_filter rfl] at hwarned
    exact ⟨hkept rfl, h.skipped ▸ hcount, hwarned⟩
  · intro hfree
    rw [Offer.verdict_of_free hfree] at hverdict
    rw [Ne, FileTree.file?_eq_some_iff (t := t)]
    split at hverdict
    · next hsame =>
      subst hverdict
      exact ⟨hmade (by decide), fun _ => h.unchanged ▸ hcount, fun hother => absurd hsame hother⟩
    · next hother =>
      subst hverdict
      exact ⟨hmade (by decide), fun hsame => absurd hsame hother, fun _ => h.written ▸ hcount⟩

end Logged

/-- **What a run does and says.**  Take a run with a report that tells of no file that could not be
written, and let its artifacts name different files.  Every unhindered artifact is accounted for;
the lists of the report tell of every artifact once, in the order of the run; and no other file
changes. -/
theorem runOn_accounts (h : runOn config t = (.ok r, s)) (hio : tellsOfIo (.ok r) = false)
    (hplaces : ((offersOn config t).map fun o => t.place o.path).Nodup) :
    (∀ o ∈ offersOn config t, o.Unhindered (offersOn config t) t → o.Accounted t s r) ∧
      (r.written ++ r.unchanged ++ r.skipped).Perm ((offersOn config t).map Offer.path) ∧
      (∀ l ∈ [r.written, r.unchanged, r.skipped],
        l.Sublist ((offersOn config t).map Offer.path)) ∧
      ∀ l, (∀ o ∈ offersOn config t, t.place o.path ≠ l) → s.file? l = t.file? l := by
  obtain ⟨ds, r₀, j, hlogged⟩ := exists_logged h hio
  refine ⟨fun o => hlogged.accounted hplaces, ?_, ?_, fun l hl => ?_⟩
  · rw [hlogged.written, hlogged.unchanged, hlogged.skipped, ← hlogged.map_path]
    exact Journal.perm_paths hlogged.outcomes
  · rw [hlogged.written, hlogged.unchanged, hlogged.skipped, ← hlogged.map_path]
    simp [Journal.paths_sublist]
  · rcases hlogged.leads.file?_cases l with heq | ⟨x, hx, -, hplace, -⟩
    · exact heq
    · have hmem : x.1 ∈ offersOn config t := hlogged.offers ▸ List.mem_map_of_mem hx
      exact absurd hplace (hl x.1 hmem)

/-- The artifacts beside a file edited by hand name different files, none of which is the catalog;
their paths lead to these files, and the one that must not be replaced is there. -/
theorem offersOn_edited :
    ((offersOn (lone "Part") editedFiles).map fun o => editedFiles.place o.path).Nodup ∧
      ∀ o ∈ offersOn (lone "Part") editedFiles,
        editedFiles.place o.path ≠ editedFiles.place (lone "Part").catalog ∧
          editedFiles.Reaches o.path ∧
          (o.isProtected = true → editedFiles.entry? (editedFiles.place o.path) ≠ none) := by
  decide +kernel

/-- A run beside a file edited by hand accounts for all artifacts. -/
theorem runOn_accounts_edited :
    ∃ r s, runOn (lone "Part") editedFiles = (.ok r, s) ∧ tellsOfIo (.ok r) = false ∧
      ((offersOn (lone "Part") editedFiles).map fun o => editedFiles.place o.path).Nodup ∧
      r.skipped = [⟨"resolvers/part_resolver_impl.rs"⟩] ∧
      ∀ o ∈ offersOn (lone "Part") editedFiles, o.Accounted editedFiles s r := by
  obtain ⟨r, s, hrun, hskipped, hfailures⟩ := exists_runOn_edited
  have hio := tellsOfIo_of_nil hfailures
  obtain ⟨hplaces, hthere⟩ := offersOn_edited
  refine ⟨r, s, hrun, hio, hplaces, hskipped, fun o ho => ?_⟩
  obtain ⟨-, hreaches, hstands⟩ := hthere o ho
  exact (runOn_accounts hrun hio hplaces).1 o ho
    ⟨hreaches, fun hprotected hnone => absurd hnone (hstands hprotected)⟩

/-- A configuration in which the way to the implementations leads through a directory that is
missing, and back out of it. -/
def detoured : GeneratorConfig :=
  { lone "Part" with
    output := { (lone "Part").output with implementation := some ⟨"generated/../resolvers"⟩ } }

/-- Such an implementation is not found before the missing directory is made, and then a file edited
by hand is replaced without a word. -/
theorem runOn_replaces_edited :
    ∃ r s, runOn detoured editedFiles = (.ok r, s) ∧ tellsOfIo (.ok r) = false ∧
      ((offersOn detoured editedFiles).map fun o => editedFiles.place o.path).Nodup ∧
      ∃ o ∈ offersOn detoured editedFiles, o.isProtected = true ∧
        editedFiles.file? (editedFiles.place o.path) = some "// by hand".toUTF8 ∧
        s.file? (editedFiles.place o.path) = some o.bytes ∧ r.skipped = [] ∧ r.skips = [] := by
  have hrun : (runOn detoured editedFiles).1.map (fun r => (r.skipped, r.skips, r.failures)) =
      .ok ([], [], []) := by decide +kernel
  have hoffers : ((offersOn detoured editedFiles).map fun o => editedFiles.place o.path).Nodup ∧
      ∃ o ∈ offersOn detoured editedFiles, o.isProtected = true ∧
        editedFiles.place o.path = ["work", "resolvers", "part_resolver_impl.rs"] := by
    decide +kernel
  have hedited : editedFiles.file? ["work", "resolvers", "part_resolver_impl.rs"] =
      some "// by hand".toUTF8 := by
    rw [FileTree.file?_eq_some_iff, editedFiles, FileTree.entry?_set (List.cons_ne_nil _ _),
      if_pos rfl]
  obtain ⟨hplaces, o, ho, hprotected, hplace⟩ := hoffers
  obtain ⟨r, s, hpair, hlists⟩ := exists_of_map_runOn hrun
  simp only [Prod.mk.injEq] at hlists
  obtain ⟨hskipped, hskips, hfailures⟩ := hlists
  have hio := tellsOfIo_of_nil hfailures
  obtain ⟨ds, r₀, j, hlogged⟩ := exists_logged hpair hio
  have hfile := hlogged.file?_of_skipped hplaces ho (by rw [hskipped]; exact List.not_mem_nil)
  exact ⟨r, s, hpair, hio, hplaces, o, ho, hprotected, hplace ▸ hedited, hfile, hskipped, hskips⟩

end GraphLayer.Generation
