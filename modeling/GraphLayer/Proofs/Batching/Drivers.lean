import GraphLayer.Proofs.Batching.Answers

/-!
# Every dispatch has a driver

* `World.Move.dispatching_step`: a load that drives a dispatch goes on to do so until the dispatch
  ends;
* `World.driven_run`: in every run a dispatch that an owner has drained has an owner to drive it, as
  long as it fetches;
* `World.Drives` and `World.exists_drives`: the events that bring a dispatch forward, and that there
  always is one.
-/

namespace GraphLayer.Batching

variable {σ V : Type}

namespace World

variable {rt : Runtime σ V} {w w' : World σ V} {e : Event V} {as : List Joining}
  {hs : List (Nat × Outcome V)}

/-- No load is taken twice by a dispatch. -/
theorem Once.waiters_nodup (ho : Once w) {d : Nat} {dd : Dispatch V}
    (hd : w.dispatches[d]? = some dd) : dd.waiters.Nodup := by
  refine List.nodup_iff_count_le_one.2 fun n => ?_
  have hsub : dd.waiters.Sublist w.everTaken :=
    List.sublist_flatten_of_mem (List.mem_map_of_mem (List.mem_of_getElem? hd))
  have hle := hsub.count_le n
  have := ho n
  omega

/-- A load that drives a dispatch goes on to do so until the dispatch ends. -/
theorem Move.dispatching_step (hw : Placed rt w) (ho : Once w) (ha : Attended w)
    (h : Move rt w e as hs w') {n d : Nat} {l : Load V} (hl : w.loads[n]? = some l)
    (hp : l.progress = .dispatching d) :
    w'.loads[n]? = some l ∨
      ∃ dd' : Dispatch V, w'.dispatches[d]? = some dd' ∧ dd'.stage.isFetching = false := by
  obtain ⟨dd, rs, hd, -, -, hst, hwaits⟩ := ha.driver n d l hl hp
  have hmem : n ∈ dd.waiters := mem_flatMap_of_mem_waitersOf hwaits
  -- another load changes, and this one is handed nothing
  have hother {m : Nat} {p : Progress V} {k : Load V} (hk : w.loads[m]? = some k)
      (hne : k.progress ≠ .dispatching d) : (w.setProgress m p).loads[n]? = some l := by
    refine (List.getElem?_modify_ne _ _ fun hmn => ?_).trans hl
    subst hmn
    obtain rfl : k = l := Option.some.inj (hk.symm.trans hl)
    exact hne hp
  have hended {i : Nat} {di : Dispatch V} {st : Stage V} (hi : w.dispatches[i]? = some di)
      (hend : st.isFetching = false) (hid : i = d) :
      ∃ dd' : Dispatch V, (w.dispatches.modify i fun di => { di with stage := st })[d]? = some dd' ∧
        dd'.stage.isFetching = false := by
    subst hid
    exact ⟨{ di with stage := st }, by rw [List.getElem?_modify_eq, hi]; rfl, hend⟩
  cases h with
  | stay | drainSpawned | fetched => exact .inl hl
  | arrive | join =>
    exact .inl ((List.getElem?_append_left (List.getElem?_eq_some_iff.1 hl).1).trans hl)
  | wait hk hkp => exact .inl (hother hk (by rw [hkp]; nofun))
  | drainOwned hk hkp => exact .inl (hother hk (by rw [hkp]; nofun))
  | handOver hk hkp => exact .inl (hother hk (by rw [hkp]; nofun))
  | @complete _ i di results hi hf =>
    by_cases hid : i = d
    · exact .inr (hended hi rfl hid)
    · refine .inl ((getElem?_receiveAll_of_not_mem ?_).trans hl)
      rw [hw.map_fst_handouts hi hf]
      exact fun hn => hid (ho.eq_of_mem_waiters hi hd hn hmem)
  | @leave _ m k he hk hkp =>
    refine .inl (hother hk fun hkd => ?_)
    rcases hkp with hkp | ⟨i, hkp, hnot⟩
    · rw [hkp] at hkd
      cases hkd
    · obtain rfl := Progress.dispatching.inj (hkp.symm.trans hkd)
      exact hnot dd rs hd hst
  | @lose _ m i k di rs₀ he hk hkp hi hf =>
    by_cases hid : i = d
    · exact .inr (hended hi rfl hid)
    · refine .inl ((getElem?_receiveAll_of_not_mem ?_).trans (hother hk ?_))
      · rw [map_fst_abandonments]
        exact fun hn => hid (ho.eq_of_mem_waiters hi hd hn hmem)
      · rw [hkp]
        exact fun he => hid (Progress.dispatching.inj he)
  | @giveUp m k y seen hk hkp =>
    refine .inl ((getElem?_receiveAll_of_not_mem ?_).trans (hother hk (by rw [hkp]; nofun)))
    rw [map_fst_abandonments]
    intro hn
    -- who has been taken waits in no window
    have hqueued := List.count_pos_iff.2 (mem_queued hn)
    have htaken : n ∈ w.everTaken := List.mem_flatMap.2 ⟨dd, List.mem_of_getElem? hd, hmem⟩
    have := List.count_pos_iff.2 htaken
    have := ho n
    omega

/-- A dispatch that an owner has drained fetches only while an owner drives it. -/
def Driven (w : World σ V) : Prop :=
  ∀ (d : Nat) (dd : Dispatch V), w.dispatches[d]? = some dd → dd.owned = true →
    dd.stage.isFetching = true →
    ∃ (n : Nat) (l : Load V), w.loads[n]? = some l ∧ l.progress = .dispatching d

/-- A new dispatch with an owner comes from the owner of a window that drains it. -/
theorem Move.exists_owner_of_new (h : Move rt w e as hs w') {dd : Dispatch V}
    (hd : w'.dispatches[w.dispatches.length]? = some dd) (howned : dd.owned = true) :
    ∃ (n : Nat) (l : Load V), w.loads[n]? = some l ∧ w' = w.drainOwned rt l.slot n := by
  have hlt := (List.getElem?_eq_some_iff.1 hd).1
  cases h with
  | drainOwned hl => exact ⟨_, _, hl, rfl⟩
  | handOver =>
    rw [dispatches_handOver, List.getElem?_concat_length] at hd
    obtain rfl := Option.some.inj hd
    cases howned
  | stay | arrive | join | wait | leave | giveUp => exact absurd hlt (Nat.lt_irrefl _)
  | _ => simp [dispatches_drainSpawned, dispatches_finish, setStage, setProgress] at hlt

theorem Driven.move (hw : Placed rt w) (ho : Once w) (ha : Attended w) (hv : Driven w)
    (h : Move rt w e as hs w') : Driven w' := by
  intro d dd' hd' howned hf
  rcases h.dispatch_cases hd' with ⟨dd, hd⟩ | ⟨rfl, -⟩
  · obtain ⟨d₁, hd₁, hstep⟩ := h.dispatch_step hd
    obtain rfl : d₁ = dd' := Option.some.inj (hd₁.symm.trans hd')
    have hfetching : dd.stage.isFetching = true := by
      cases hstep with
      | stay => exact hf
      | drain hsp =>
        have hnot := (hw.spawned d dd hd hsp).2
        rw [hnot] at howned
        cases howned
      | fetched hst =>
        rw [hst]
        rfl
      | complete => cases hf
      | lose => cases hf
    obtain ⟨n, l, hl, hp⟩ := hv d dd hd (hstep.owned ▸ howned) hfetching
    rcases h.dispatching_step hw ho ha hl hp with hl' | ⟨d₂, hd₂, hend⟩
    · exact ⟨n, l, hl', hp⟩
    · obtain rfl : d₂ = d₁ := Option.some.inj (hd₂.symm.trans hd')
      rw [hend] at hf
      cases hf
  · obtain ⟨n, l, hl, rfl⟩ := h.exists_owner_of_new hd' howned
    refine ⟨n, { l with progress := .dispatching w.dispatches.length }, ?_, rfl⟩
    rw [loads_drainOwned, List.getElem?_modify_eq, hl]
    rfl

/-- In every run an owned dispatch has a driver while it fetches. -/
theorem driven_run (rt : Runtime σ V) (cache : Option σ) (es : List (Event V)) :
    Driven ((start cache).run rt es) := by
  induction es using List.reverseRecOn with
  | nil => exact nofun
  | append_singleton es e ih =>
    obtain ⟨w', c, t, a, hm, h⟩ := exists_move rt ((start cache).run rt es) e
    have hmove : Driven w' :=
      ih.move (placed_run rt cache es) (once_run rt cache es) (attended_run rt cache es) hm
    rw [run_concat, h]
    exact hmove

/-! ### What drives a dispatch -/

/-- An event polls the task that drives a dispatch: the owner that waits for its fetches, or the
dispatch itself where it was spawned. -/
inductive Drives (w : World σ V) (d : Nat) : Event V → Prop
  | owner {n : Nat} {l : Load V} (hl : w.loads[n]? = some l) (hp : l.progress = .dispatching d) :
    Drives w d (.poll n)
  | spawned {dd : Dispatch V} (hd : w.dispatches[d]? = some dd) (howned : dd.owned = false) :
    Drives w d (.pollDispatch d)

theorem Driven.exists_drives (hv : Driven w) {d : Nat} {dd : Dispatch V}
    (hd : w.dispatches[d]? = some dd) (hst : dd.stage.isFetching = true) : ∃ e, Drives w d e := by
  cases howned : dd.owned with
  | true =>
    obtain ⟨n, l, hl, hp⟩ := hv d dd hd howned hst
    exact ⟨_, .owner hl hp⟩
  | false => exact ⟨_, .spawned hd howned⟩

/-- Whoever drives a dispatch that fetches looks whether all its chunks are answered. -/
theorem Drives.step_eq (h : Drives w d e) (rt : Runtime σ V) {dd : Dispatch V}
    (hd : w.dispatches[d]? = some dd) (hst : dd.stage.isFetching = true) :
    w.step rt e = w.complete rt d := by
  cases h with
  | @owner n l hl hp =>
    obtain ⟨s, id, x, p⟩ := l
    subst hp
    simp only [step, poll, hl]
  | @spawned di hi howned =>
    obtain rfl : di = dd := Option.some.inj (hi.symm.trans hd)
    obtain ⟨s, o, b, st⟩ := di
    subst howned
    cases st with
    | fetching rs => simp only [step, pollDispatch, hd]
    | _ => cases hst

end World

end GraphLayer.Batching
