import Mathlib.Data.List.Induction
import Mathlib.Data.List.Nodup
import GraphLayer.Proofs.Batching.Holders

/-!
# Every load that joins is answered once

* `World.Recorded`: the loads of a world against the lists of those that joined and of the outcomes
  handed out so far;
* `World.HeldIn`, `World.OwnedBy` and `World.SpawnedFor`: a load in the batch of a dispatch that
  fetches, and the two kinds of holders of an open window;
* `World.one_place`: a load that joined stands in one place at a time, there is somebody who takes
  it out of its window, and its dispatch answers it with the outcome of its own id.
-/

namespace GraphLayer.Batching

variable {σ V : Type}

namespace World

variable {rt : Runtime σ V} {w w' : World σ V}

/-! ### The record of a run -/

/-- The loads of a world agree with a record of those that joined a window and of the outcomes that
were handed out. -/
structure Recorded (w : World σ V) (js : List Joining) (given : List (Nat × Outcome V)) : Prop where
  load : ∀ j ∈ js, ∃ l : Load V, w.loads[j.load]? = some l ∧ l.slot = j.slot ∧ l.id = j.id
  /-- Who was handed an outcome has it, or is gone. -/
  kept : ∀ (n : Nat) (o : Outcome V), (n, o) ∈ given →
    ∃ l : Load V, w.loads[n]? = some l ∧ (l.progress = .answered o ∨ l.progress = .dropped)
  /-- Who joined and was handed nothing has no answer. -/
  unanswered : ∀ (j : Joining) (l : Load V) (o : Outcome V), j ∈ js → j.load ∉ given.map Prod.fst →
    w.loads[j.load]? = some l → l.progress ≠ .answered o

theorem eq_of_mem_of_nodup {hs : List (Nat × Outcome V)} (h : (hs.map Prod.fst).Nodup) {n : Nat}
    {o o' : Outcome V} (ho : (n, o) ∈ hs) (ho' : (n, o') ∈ hs) : o = o' := by
  have heq := List.inj_on_of_nodup_map h ho ho' rfl
  exact (Prod.mk.inj heq).2

/-- An answer is kept by a step that hands the load nothing. -/
theorem Move.keeps {e : Event V} {as : List Joining} {hs : List (Nat × Outcome V)}
    (h : Move rt w e as hs w') {n : Nat} {l : Load V} {o : Outcome V} (hl : w.loads[n]? = some l)
    (hp : l.progress = .answered o ∨ l.progress = .dropped) (hn : n ∉ hs.map Prod.fst) :
    ∃ l' : Load V, w'.loads[n]? = some l' ∧
      (l'.progress = .answered o ∨ l'.progress = .dropped) := by
  obtain ⟨l', hl', -⟩ := h.continues.find n l hl
  refine ⟨l', hl', ?_⟩
  rcases h.load_step hl' with ⟨k, hk, -, -, -, hstep⟩ | ⟨hlen, -⟩
  · obtain rfl : k = l := Option.some.inj (hk.symm.trans hl)
    generalize k.progress = q at hp hstep
    generalize l'.progress = q' at hstep ⊢
    cases hstep with
    | stay => exact hp
    | wait => rcases hp with hp | hp <;> cases hp
    | drain => rcases hp with hp | hp <;> cases hp
    | leave => exact .inr rfl
    | receive _ ho => exact absurd (List.mem_map_of_mem ho) hn
  · have := (List.getElem?_eq_some_iff.1 hl).1
    omega

/-- A load that is there has an answer after a step only if it had one or is handed one. -/
theorem Move.not_answered {e : Event V} {as : List Joining} {hs : List (Nat × Outcome V)}
    (h : Move rt w e as hs w') {n : Nat} {l l' : Load V} {o : Outcome V} (hl : w.loads[n]? = some l)
    (hp : ∀ o, l.progress ≠ .answered o) (hn : n ∉ hs.map Prod.fst)
    (hl' : w'.loads[n]? = some l') : l'.progress ≠ .answered o := by
  intro hp'
  rcases h.load_step hl' with ⟨k, hk, -, -, -, hstep⟩ | ⟨hlen, -⟩
  · obtain rfl : k = l := Option.some.inj (hk.symm.trans hl)
    rw [hp'] at hstep
    generalize hq : k.progress = q at hstep
    cases hstep with
    | stay => exact hp o hq
    | receive _ ho => exact hn (List.mem_map_of_mem ho)
  · have := (List.getElem?_eq_some_iff.1 hl).1
    omega

theorem Recorded.move {e : Event V} {js as : List Joining} {given hs : List (Nat × Outcome V)}
    (hw : Placed rt w) (hr : Recorded w js given) (h : Move rt w e as hs w')
    (hnd : ((given ++ hs).map Prod.fst).Nodup) : Recorded w' (js ++ as) (given ++ hs) where
  load := by
    intro j hj
    rcases List.mem_append.1 hj with hj | hj
    · obtain ⟨l, hl, hs', hi⟩ := hr.load j hj
      obtain ⟨l', hl', hs₁, hi₁, -⟩ := h.continues.find _ l hl
      exact ⟨l', hl', hs₁.trans hs', hi₁.trans hi⟩
    · cases h with
      | join s id expected =>
        obtain rfl := List.mem_singleton.1 hj
        exact ⟨_, List.getElem?_concat_length, rfl, rfl⟩
      | _ => cases hj
  kept := by
    intro n o ho
    rcases List.mem_append.1 ho with hg | hh
    · -- nothing is handed twice
      rw [List.map_append] at hnd
      have hnot : n ∉ hs.map Prod.fst :=
        List.disjoint_of_nodup_append hnd (List.mem_map_of_mem hg)
      obtain ⟨l, hl, hp⟩ := hr.kept n o hg
      exact h.keeps hl hp hnot
    · have hfst : n ∈ hs.map Prod.fst := List.mem_map_of_mem hh
      obtain ⟨l, hl⟩ := h.exists_of_handed hw hfst
      obtain ⟨l', hl', -⟩ := h.continues.find n l hl
      refine ⟨l', hl', ?_⟩
      rcases h.progress_of_handed hfst hl' with hp | ⟨o', ho', hp⟩
      · exact .inr hp
      · obtain rfl := eq_of_mem_of_nodup hnd ho (List.mem_append_right _ ho')
        exact .inl hp
  unanswered := by
    intro j l' o hj hnot hl'
    rw [List.map_append, List.mem_append, not_or] at hnot
    rcases List.mem_append.1 hj with hj | hj
    · obtain ⟨l, hl, -⟩ := hr.load j hj
      exact h.not_answered hl (fun o => hr.unanswered j l o hj hnot.1 hl) hnot.2 hl'
    · cases h with
      | join s id expected =>
        obtain rfl := List.mem_singleton.1 hj
        rw [loads_join, List.getElem?_concat_length] at hl'
        obtain rfl := Option.some.inj hl'
        show (if _ then _ else _) ≠ _
        split <;> nofun
      | _ => cases hj

/-- No load is handed an outcome twice. -/
theorem handedBy_nodup (rt : Runtime σ V) (cache : Option σ) (es : List (Event V)) :
    (((start cache).handedBy rt es).map Prod.fst).Nodup := by
  have hperm := ledger rt cache es
  have hnd := hperm.nodup_iff.2 (joined_nodup rt (start cache) es)
  exact (List.nodup_append.1 hnd).2.1

/-- **The record of a run** agrees with the loads that it leaves. -/
theorem recorded_run (rt : Runtime σ V) (cache : Option σ) (es : List (Event V)) :
    Recorded ((start cache).run rt es) ((start cache).joined rt es)
      ((start cache).handedBy rt es) := by
  induction es using List.reverseRecOn with
  | nil =>
    refine ⟨nofun, nofun, fun j l o hj => ?_⟩
    cases hj
  | append_singleton es e ih =>
    obtain ⟨w', c, t, a, hm, h⟩ := exists_move rt ((start cache).run rt es) e
    -- by the ledger, what the last step hands out was not handed out before
    have hnd := handedBy_nodup rt cache (es ++ [e])
    rw [handedBy_concat] at hnd
    have hmove := ih.move (placed_run rt cache es) hm hnd
    rw [handedBy_concat, joined_concat, run_concat, h]
    exact ⟨hmove.load, hmove.kept, hmove.unanswered⟩

/-! ### Places -/

/-- A dispatch of the slot fetches for the id, and will answer the load. -/
def HeldIn (w : World σ V) (d : Nat) (s : Slot) (id : Int) (n : Nat) : Prop :=
  ∃ (dd : Dispatch V) (rs : List (Option (Batch V))), w.dispatches[d]? = some dd ∧ dd.slot = s ∧
    dd.stage = .fetching rs ∧ n ∈ waitersOf dd.batch id

/-- A load owns the open window of the slot and has yielded `y` times. -/
def OwnedBy (w : World σ V) (s : Slot) (m y : Nat) : Prop :=
  ∃ (l : Load V) (seen : Nat), w.loads[m]? = some l ∧ l.slot = s ∧ l.progress = .collecting y seen

/-- A spawned dispatch has still to drain the open window of the slot. -/
def SpawnedFor (w : World σ V) (s : Slot) (d : Nat) : Prop :=
  ∃ dd : Dispatch V, w.dispatches[d]? = some dd ∧ dd.slot = s ∧ dd.stage = .spawned

theorem Placed.mem_queued_iff (hw : Placed rt w) {n : Nat} {l : Load V}
    (hl : w.loads[n]? = some l) : n ∈ w.queued ↔ n ∈ w.waiting l.slot l.id := by
  constructor
  · intro hn
    obtain ⟨t, hn⟩ := exists_of_mem_queued hw.slots hn
    have hfiled := hw.pending t
    obtain ⟨id, hid⟩ := (mem_flatMap_snd_iff hfiled.nodup_keys).1 hn
    obtain ⟨k, hk, rfl, rfl⟩ := hfiled.load_of_mem_waitersOf hid
    obtain rfl : k = l := Option.some.inj (hk.symm.trans hl)
    exact hid
  · intro hn
    exact mem_queued (mem_flatMap_of_mem_waitersOf hn)

theorem Placed.mem_taken_iff (hw : Placed rt w) {n : Nat} {l : Load V}
    (hl : w.loads[n]? = some l) : n ∈ w.taken ↔ ∃ d, w.HeldIn d l.slot l.id n := by
  constructor
  · intro hn
    obtain ⟨dd, hdd, hheld⟩ := List.mem_flatMap.1 hn
    obtain ⟨d, hd⟩ := List.mem_iff_getElem?.1 hdd
    have hfiled := hw.batch d dd hd
    have hwaiters : n ∈ dd.waiters := by
      unfold Dispatch.held at hheld
      split at hheld
      · exact hheld
      · exact hheld
      · cases hheld
      · cases hheld
    obtain ⟨id, hid⟩ := (mem_flatMap_snd_iff hfiled.nodup_keys).1 hwaiters
    obtain ⟨k, hk, hs, rfl⟩ := hfiled.load_of_mem_waitersOf hid
    obtain rfl : k = l := Option.some.inj (hk.symm.trans hl)
    cases hst : dd.stage with
    | fetching rs => exact ⟨d, dd, rs, hd, hs.symm, hst, hid⟩
    | spawned =>
      rw [Dispatch.waiters, (hw.spawned d dd hd hst).1] at hwaiters
      cases hwaiters
    | done =>
      rw [Dispatch.held, hst] at hheld
      cases hheld
    | lost =>
      rw [Dispatch.held, hst] at hheld
      cases hheld
  · rintro ⟨d, dd, rs, hd, -, hst, hid⟩
    refine List.mem_flatMap.2 ⟨dd, List.mem_of_getElem? hd, ?_⟩
    rw [Dispatch.held, hst]
    exact mem_flatMap_of_mem_waitersOf hid

/-- A load is taken by one dispatch only. -/
theorem Once.heldIn_unique (ho : Once w) {d d' n : Nat} {s s' : Slot} {id id' : Int}
    (h : w.HeldIn d s id n) (h' : w.HeldIn d' s' id' n) : d = d' := by
  obtain ⟨dd, rs, hd, -, -, hn⟩ := h
  obtain ⟨dd', rs', hd', -, -, hn'⟩ := h'
  exact ho.eq_of_mem_waiters hd hd' (mem_flatMap_of_mem_waitersOf hn)
    (mem_flatMap_of_mem_waitersOf hn')

/-! ### Who takes a load -/

/-- Whoever waits in a window waits for its owner or for a spawned dispatch. -/
theorem Attended.exists_holder (ha : Attended w) {s : Slot} {id : Int} {n : Nat}
    (hn : n ∈ w.waiting s id) :
    (∃ m y, y < maxYields ∧ w.OwnedBy s m y) ∨ ∃ d, w.SpawnedFor s d := by
  have hs : (w.queue s).scheduled = true := by
    refine (ha.scheduled s).2 fun hnil => ?_
    rw [waiting, hnil] at hn
    cases hn
  have hh := ha.holders s
  rw [if_pos hs] at hh
  by_cases howner : 0 < w.loads.countP (Load.owns s)
  · obtain ⟨l, hl, hown⟩ := List.countP_pos_iff.1 howner
    obtain ⟨m, hm⟩ := List.mem_iff_getElem?.1 hl
    obtain ⟨hslot, hc⟩ : l.slot = s ∧ l.progress.isCollecting = true := by
      simpa [Load.owns] using hown
    cases hp : l.progress with
    | collecting y seen => exact .inl ⟨m, y, ha.yields m l y seen hm hp, l, seen, hm, hslot, hp⟩
    | _ =>
      rw [hp] at hc
      cases hc
  · -- the one holder of the window is no load, so that it is a dispatch
    have hspawned : 0 < w.dispatches.countP (Dispatch.awaits s) := by
      unfold World.holders at hh
      omega
    obtain ⟨dd, hdd, hsp⟩ := List.countP_pos_iff.1 hspawned
    obtain ⟨d, hd⟩ := List.mem_iff_getElem?.1 hdd
    obtain ⟨hslot, hst⟩ : dd.slot = s ∧ dd.stage.isSpawned = true := by
      simpa [Dispatch.awaits] using hsp
    cases hst' : dd.stage with
    | spawned => exact .inr ⟨d, dd, hd, hslot, hst'⟩
    | _ =>
      rw [hst'] at hst
      cases hst

/-- An owner that is polled takes its window, or yields once more out of a bounded number. -/
theorem heldIn_or_ownedBy_of_poll (rt : Runtime σ V) {s : Slot} {id : Int} {n m y : Nat}
    (hy : y < maxYields) (ho : w.OwnedBy s m y) (hn : n ∈ w.waiting s id) :
    (w.step rt (.poll m)).HeldIn w.dispatches.length s id n ∨
      y + 1 < maxYields ∧ (w.step rt (.poll m)).OwnedBy s m (y + 1) ∧
        n ∈ (w.step rt (.poll m)).waiting s id := by
  obtain ⟨⟨s, lid, expected, p⟩, seen, hl, rfl, rfl⟩ := ho
  by_cases hc : (w.queue s).enqueued = seen ∨ y + 1 = maxYields
  · have hstep : w.step rt (.poll m) = w.drainOwned rt s m := by simp [step, poll, hl, hc]
    have hd : (w.drainOwned rt s m).dispatches[w.dispatches.length]? =
        some ⟨s, true, (w.queue s).pending.toList, unanswered rt (w.queue s).pending.toList⟩ := by
      rw [dispatches_drainOwned, List.getElem?_concat_length]
    rw [hstep]
    exact .inl ⟨_, _, hd, rfl, rfl, hn⟩
  · have hstep : w.step rt (.poll m) =
        w.setProgress m (.collecting (y + 1) (w.queue s).enqueued) := by
      simp [step, poll, hl, hc]
    have hl' : (w.setProgress m (.collecting (y + 1) (w.queue s).enqueued)).loads[m]? =
        some ⟨s, lid, expected, .collecting (y + 1) (w.queue s).enqueued⟩ := by
      rw [setProgress, List.getElem?_modify_eq, hl]
      rfl
    rw [hstep]
    exact .inr ⟨by omega, ⟨_, _, hl', rfl, rfl⟩, hn⟩

/-- A spawned dispatch that is polled takes its window. -/
theorem heldIn_of_pollDispatch (rt : Runtime σ V) {s : Slot} {id : Int} {n d : Nat}
    (hd : w.SpawnedFor s d) (hn : n ∈ w.waiting s id) :
    (w.step rt (.pollDispatch d)).HeldIn d s id n := by
  obtain ⟨⟨s, owned, b, st⟩, hd, rfl, rfl⟩ := hd
  have hstep : w.step rt (.pollDispatch d) = w.drainSpawned rt s d := by
    simp [step, pollDispatch, hd]
  have hd' : (w.drainSpawned rt s d).dispatches[d]? = some
      ⟨s, owned, (w.queue s).pending.toList, unanswered rt (w.queue s).pending.toList⟩ := by
    rw [dispatches_drainSpawned, List.getElem?_modify_eq, hd]
    rfl
  rw [hstep]
  exact ⟨_, _, hd', rfl, rfl, hn⟩

/-! ### What a load is answered -/

/-- A dispatch that completes hands each load the outcome of its own id. -/
theorem mem_handouts_of_mem_waitersOf (hw : Placed rt w) {d : Nat} {dd : Dispatch V}
    {results : List (Batch V)} (hd : w.dispatches[d]? = some dd)
    (hst : dd.stage = .fetching (results.map some)) {id : Int} {n : Nat}
    (hn : n ∈ waitersOf dd.batch id) :
    ∃ ids r, (ids, r) ∈ (dd.calls rt.maxBatchSize).zip results ∧ id ∈ ids ∧
      (n, outcomeOf r id) ∈ handouts dd.batch (outcomesOf rt dd.batch results) := by
  have hid : id ∈ dd.batch.map Prod.fst := by
    by_contra hnot
    rw [waitersOf_eq_nil hnot] at hn
    cases hn
  rw [← hw.map_fst_outcomesOf hd hst] at hid
  obtain ⟨⟨id', o⟩, hout, rfl⟩ := List.mem_map.1 hid
  obtain ⟨ids, r, hz, hmem, rfl⟩ := mem_outcomes_iff.1 hout
  exact ⟨ids, r, hz, hmem, mem_handouts_iff.2 ⟨id', hout, hn⟩⟩

/-- The answer of a load whose dispatch completes. -/
theorem Move.receive_of_done {e : Event V} {as : List Joining} {hs : List (Nat × Outcome V)}
    (h : Move rt w e as hs w') (hw : Placed rt w) (hnd : (hs.map Prod.fst).Nodup) {d n : Nat}
    {s : Slot} {id : Int} (hheld : w.HeldIn d s id n) {dd' : Dispatch V}
    (hd' : w'.dispatches[d]? = some dd') (hdone : dd'.stage = .done) :
    ∃ (dd : Dispatch V) (results : List (Batch V)) (ids : List Int) (r : Batch V),
      w.dispatches[d]? = some dd ∧ dd.stage = .fetching (results.map some) ∧
      (ids, r) ∈ (dd.calls rt.maxBatchSize).zip results ∧ id ∈ ids ∧
      w'.loads[n]? = w.loads[n]?.map fun l => l.receive (outcomeOf r id) := by
  obtain ⟨dd, rs, hd, -, hst, hn⟩ := hheld
  have hend : dd'.stage.isFetching = false := by rw [hdone]; rfl
  rcases h.of_landing hd hst hd' hend with ⟨results, rfl, hhs, rfl⟩ | ⟨m, l, -, -, -, -, rfl⟩
  · obtain ⟨ids, r, hz, hid, hout⟩ := mem_handouts_of_mem_waitersOf hw hd hst hn
    rw [← hhs] at hout
    exact ⟨dd, results, ids, r, hd, hst, hz, hid, getElem?_receiveAll_of_mem hnd hout⟩
  · -- a dispatch that is lost is not done
    rw [dispatches_finish] at hd'
    obtain ⟨di, -, rfl⟩ := List.exists_of_getElem?_modify hd'
    rw [if_pos rfl] at hdone
    cases hdone

/-- What one more step hands out, it hands to different loads. -/
theorem handed_nodup (rt : Runtime σ V) (cache : Option σ) (es : List (Event V)) (e : Event V) :
    ((((start cache).run rt es).handed rt e).map Prod.fst).Nodup := by
  have hnd := handedBy_nodup rt cache (es ++ [e])
  rw [handedBy_concat, List.map_append] at hnd
  exact (List.nodup_append.1 hnd).2.1

/-- A load has an answer exactly when it was handed one, as long as its caller is there. -/
theorem Recorded.handed_of_answered {js : List Joining} {given : List (Nat × Outcome V)}
    (hr : Recorded w js given) {j : Joining} (hj : j ∈ js) {l : Load V}
    (hl : w.loads[j.load]? = some l) {o : Outcome V} (hp : l.progress = .answered o) :
    (j.load, o) ∈ given := by
  by_cases hn : j.load ∈ given.map Prod.fst
  · obtain ⟨⟨n, o'⟩, ho, rfl⟩ := List.mem_map.1 hn
    obtain ⟨k, hk, hkp⟩ := hr.kept _ o' ho
    obtain rfl : k = l := Option.some.inj (hk.symm.trans hl)
    rcases hkp with hkp | hkp
    · obtain rfl := Progress.answered.inj (hp.symm.trans hkp)
      exact ho
    · rw [hp] at hkp
      cases hkp
  · exact absurd hp (hr.unanswered j l o hj hn hl)

/-! ### No answer is lost and none is given twice -/

/-- **One place for every load.**  After any run, a load that has joined a window stands in exactly
one place: in the open window of its slot under its own id, in the batch of exactly one dispatch of
its slot that fetches, or among those that were handed an outcome, which it then has, unless its
caller is gone.  While it waits in the window there is an owner or a spawned dispatch to take it.
When the dispatch that took it completes, it gets what the answer of its chunk says of its id. -/
theorem one_place (rt : Runtime σ V) (cache : Option σ) (es : List (Event V)) {n : Nat} {s : Slot}
    {id : Int} (hj : ⟨n, s, id⟩ ∈ (start cache).joined rt es) :
    let w := (start cache).run rt es
    let given := (start cache).handedBy rt es
    w.queued.count n + w.taken.count n + (given.map Prod.fst).count n = 1 ∧
    (n ∈ w.queued ↔ n ∈ w.waiting s id) ∧
    (n ∈ w.taken ↔ ∃ d, w.HeldIn d s id n) ∧
    (∀ d d', w.HeldIn d s id n → w.HeldIn d' s id n → d = d') ∧
    (∃ l : Load V, w.loads[n]? = some l ∧ l.slot = s ∧ l.id = id ∧
      (∀ o, (n, o) ∈ given → l.progress = .answered o ∨ l.progress = .dropped) ∧
      ∀ o, l.progress = .answered o → (n, o) ∈ given) ∧
    (n ∈ w.waiting s id →
      (∃ m y, w.OwnedBy s m y ∧ ((w.step rt (.poll m)).HeldIn w.dispatches.length s id n ∨
        y + 1 < maxYields ∧ (w.step rt (.poll m)).OwnedBy s m (y + 1) ∧
          n ∈ (w.step rt (.poll m)).waiting s id)) ∨
      ∃ d, w.SpawnedFor s d ∧ (w.step rt (.pollDispatch d)).HeldIn d s id n) ∧
    ∀ (e : Event V) (d : Nat) (dd' : Dispatch V), w.HeldIn d s id n →
      (w.step rt e).dispatches[d]? = some dd' → dd'.stage = .done →
      ∃ (dd : Dispatch V) (results : List (Batch V)) (ids : List Int) (r : Batch V),
        w.dispatches[d]? = some dd ∧ dd.stage = .fetching (results.map some) ∧
        (ids, r) ∈ (dd.calls rt.maxBatchSize).zip results ∧ id ∈ ids ∧
        (w.step rt e).loads[n]? = w.loads[n]?.map fun l => l.receive (outcomeOf r id) := by
  intro w given
  have hw : Placed rt w := placed_run rt cache es
  have ho : Once w := once_run rt cache es
  have ha : Attended w := attended_run rt cache es
  have hr : Recorded w _ given := recorded_run rt cache es
  obtain ⟨l, hl, rfl, rfl⟩ := hr.load _ hj
  refine ⟨?_, hw.mem_queued_iff hl, hw.mem_taken_iff hl, fun d d' => ho.heldIn_unique,
    ⟨l, hl, rfl, rfl, ?_, fun o hp => hr.handed_of_answered hj hl hp⟩, ?_, ?_⟩
  · have hcount := (ledger rt cache es).count_eq n
    have hone : (((start cache).joined rt es).map Joining.load).count n = 1 :=
      List.count_eq_one_of_mem (joined_nodup rt _ es) (List.mem_map_of_mem hj)
    rw [List.count_append, List.count_append] at hcount
    exact hcount.trans hone
  · intro o hgiven
    obtain ⟨k, hk, hp⟩ := hr.kept n o hgiven
    obtain rfl : k = l := Option.some.inj (hk.symm.trans hl)
    exact hp
  · intro hn
    rcases ha.exists_holder hn with ⟨m, y, hy, howned⟩ | ⟨d, hd⟩
    · exact .inl ⟨m, y, howned, heldIn_or_ownedBy_of_poll rt hy howned hn⟩
    · exact .inr ⟨d, hd, heldIn_of_pollDispatch rt hd hn⟩
  · intro e d dd' hheld hd' hdone
    obtain ⟨w', c, t, a, hm, hstep⟩ := exists_move rt w e
    rw [hstep] at hd' ⊢
    exact hm.receive_of_done hw (handed_nodup rt cache es e) hheld hd' hdone

/-- The owner of a window of two is dropped, and a spawned dispatch answers the other load. -/
theorem one_place_after_handOver :
    let found : Batch Nat := .ok fun id => if id = 7 then some (.ok 70) else none
    let es : List (Event Nat) := [.beginLoad users 5 "Nat", .beginLoad users 7 "Nat", .drop 0,
      .pollDispatch 0, .fetched 0 0 found]
    let w := (start none).run usersOnly es
    (⟨1, users, 7⟩ ∈ (start none).joined usersOnly es ∧ w.HeldIn 0 users 7 1) ∧
      w.queued.count 1 + w.taken.count 1 +
        (((start none).handedBy usersOnly es).map Prod.fst).count 1 = 1 ∧
      (w.step usersOnly (.pollDispatch 0)).loads[1]? =
        w.loads[1]?.map fun l => l.receive (.ok (some 70)) := by
  intro found es w
  have hj : ⟨1, users, 7⟩ ∈ (start none).joined usersOnly es := by decide
  have hd : w.dispatches[0]? = some ⟨users, false, [(5, [0]), (7, [1])], .fetching [some found]⟩ :=
    rfl
  have hheld : w.HeldIn 0 users 7 1 := ⟨_, _, hd, rfl, rfl, by decide⟩
  obtain ⟨hcount, -, -, -, -, -, hdone⟩ := one_place usersOnly none es hj
  obtain ⟨dd, results, ids, r, hd', hst, hz, -, hanswer⟩ :=
    hdone (.pollDispatch 0) 0 _ hheld rfl rfl
  obtain rfl := Option.some.inj (hd.symm.trans hd')
  obtain rfl : results = [found] := by
    have hmap := Stage.fetching.inj hst
    cases results with
    | nil => cases hmap
    | cons r rs =>
      obtain ⟨hr, hrs⟩ := List.cons.inj hmap
      rw [← Option.some.inj hr, List.map_eq_nil_iff.1 hrs.symm]
  obtain ⟨-, rfl⟩ := Prod.mk.inj (List.mem_singleton.1 hz)
  exact ⟨⟨hj, hheld⟩, hcount, hanswer⟩

end World

end GraphLayer.Batching
