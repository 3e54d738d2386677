import GraphLayer.Proofs.Batching.Placement

/-!
# The ledger of waiters

A load that has joined a window stands in one place at a time: in the open window, in the batch of
one dispatch that has not ended, or among those to whom an outcome has been handed.

* `World.queued`, `World.taken` and `World.everTaken`, the loads in open windows, in the batches of
  dispatches that have not ended, and in the batches of all dispatches;
* `World.Move.carries` and `World.Move.count_eq`: a move only carries loads from one place to the
  next;
* `World.ledger`: after any run the three places together hold exactly the loads that joined;
* `World.once_run`: no load is taken twice, and none that waits in a window was taken before.
-/

namespace GraphLayer.Batching

variable {σ V : Type}

/-! ### The places -/

/-- All who wait in the window of a collector. -/
def Queue.waiters (q : Queue) : List Nat := q.pending.toList.flatMap Prod.snd

/-- All whom a dispatch has taken. -/
def Dispatch.waiters (d : Dispatch V) : List Nat := d.batch.flatMap Prod.snd

/-- Those whom a dispatch has taken and has still to answer. -/
def Dispatch.held (d : Dispatch V) : List Nat :=
  match d.stage with
  | .spawned | .fetching _ => d.waiters
  | .done | .lost => []

namespace World

/-- The loads that wait in an open window. -/
def queued (w : World σ V) : List Nat := w.queues.flatMap fun p => p.2.waiters

/-- The loads in the batch of a dispatch that has not ended. -/
def taken (w : World σ V) : List Nat := w.dispatches.flatMap Dispatch.held

/-- The loads in the batch of any dispatch. -/
def everTaken (w : World σ V) : List Nat := w.dispatches.flatMap Dispatch.waiters

/-! ### Replacing a collector -/

theorem flatMap_waiters_eq {qs : List (Slot × Queue)} (h : (qs.map Prod.fst).Nodup) (s : Slot) :
    (qs.flatMap fun p => p.2.waiters).Perm
      ((((qs.find? fun p => p.1 = s).map Prod.snd).getD {}).waiters ++
        (qs.filter fun p => p.1 ≠ s).flatMap fun p => p.2.waiters) := by
  induction qs with
  | nil => exact .refl _
  | cons p qs ih =>
    obtain ⟨hp, hqs⟩ := List.nodup_cons.1 h
    by_cases hs : p.1 = s
    · subst hs
      have hrest : qs.filter (fun q => q.1 ≠ p.1) = qs := by
        refine List.filter_eq_self.2 fun q hq => ?_
        simpa using fun he : q.1 = p.1 => hp (he ▸ List.mem_map_of_mem hq)
      rw [List.filter_cons_of_neg (by simp), hrest]
      simp
    · have ih := ih hqs
      simp only [List.flatMap_cons, List.find?_cons, hs, decide_false, List.filter_cons, ne_eq,
        not_false_eq_true, decide_true, if_true]
      refine (ih.append_left p.2.waiters).trans ?_
      rw [← List.append_assoc, ← List.append_assoc]
      exact List.perm_append_comm.append_right _

/-- A collector is replaced, and its waiters with it. -/
theorem count_queued_setQueue {w : World σ V} (h : (w.queues.map Prod.fst).Nodup) (s : Slot)
    (q : Queue) (n : Nat) :
    (w.setQueue s q).queued.count n + (w.queue s).waiters.count n =
      w.queued.count n + q.waiters.count n := by
  have hold := (flatMap_waiters_eq h s).count_eq n
  simp only [queued, setQueue, queue, List.flatMap_cons, List.count_append] at hold ⊢
  omega

theorem mem_queued {w : World σ V} {s : Slot} {n : Nat} (h : n ∈ (w.queue s).waiters) :
    n ∈ w.queued := by
  unfold queue at h
  cases hf : w.queues.find? fun p => p.1 = s with
  | none =>
    rw [hf] at h
    cases h
  | some p =>
    rw [hf] at h
    exact List.mem_flatMap.2 ⟨p, List.mem_of_find?_eq_some hf, h⟩

theorem queue_of_mem {w : World σ V} (h : (w.queues.map Prod.fst).Nodup) {p : Slot × Queue}
    (hp : p ∈ w.queues) : w.queue p.1 = p.2 := by
  unfold queue
  generalize w.queues = qs at h hp
  induction qs with
  | nil => cases hp
  | cons q qs ih =>
    obtain ⟨hq, hqs⟩ := List.nodup_cons.1 h
    rcases List.mem_cons.1 hp with rfl | hp
    · simp
    · have hne : ¬ q.1 = p.1 := fun he => hq (he ▸ List.mem_map_of_mem hp)
      simpa [List.find?_cons, hne] using ih hqs hp

theorem exists_of_mem_queued {w : World σ V} (h : (w.queues.map Prod.fst).Nodup) {n : Nat}
    (hn : n ∈ w.queued) : ∃ s, n ∈ (w.queue s).waiters := by
  obtain ⟨p, hp, hn⟩ := List.mem_flatMap.1 hn
  exact ⟨p.1, by rwa [queue_of_mem h hp]⟩

/-! ### Moves -/

/-- A dispatch whose chunks are all answered has an outcome for each of its ids. -/
theorem Placed.map_fst_outcomesOf {rt : Runtime σ V} {w : World σ V} (hw : Placed rt w) {d : Nat}
    {dd : Dispatch V} {results : List (Batch V)} (hd : w.dispatches[d]? = some dd)
    (hst : dd.stage = .fetching (results.map some)) :
    (outcomesOf rt dd.batch results).map Prod.fst = dd.batch.map Prod.fst := by
  have hlen := hw.fetching d dd _ hd hst
  rw [List.length_map] at hlen
  exact (map_fst_outcomes hlen).trans (flatten_chunks _ _)

/-- A dispatch that completes hands an outcome to each whom it has taken. -/
theorem Placed.map_fst_handouts {rt : Runtime σ V} {w : World σ V} (hw : Placed rt w) {d : Nat}
    {dd : Dispatch V} {results : List (Batch V)} (hd : w.dispatches[d]? = some dd)
    (hst : dd.stage = .fetching (results.map some)) :
    (handouts dd.batch (outcomesOf rt dd.batch results)).map Prod.fst = dd.waiters := by
  rw [World.map_fst_handouts, hw.map_fst_outcomesOf hd hst,
    flatMap_waitersOf (hw.batch d dd hd).nodup_keys]
  rfl

theorem map_fst_abandonments (s : Slot) (ns : List Nat) :
    (abandonments s ns : List (Nat × Outcome V)).map Prod.fst = ns := by
  simp [abandonments, Function.comp_def]

theorem waiters_enqueue (q : Queue) (id : Int) (m n : Nat) :
    (q.enqueue id m).waiters.count n = q.waiters.count n + [m].count n := by
  rw [← List.count_append]
  exact (Ascending.flatMap_upsert_append id m q.pending.toList).count_eq n

variable {rt : Runtime σ V} {w : World σ V}

/-- What a dispatch that is replaced held before and holds after. -/
theorem count_taken_modify {d : Nat} {dd : Dispatch V} (h : w.dispatches[d]? = some dd)
    (g : Dispatch V → Dispatch V) (n : Nat) :
    ((w.dispatches.modify d g).flatMap Dispatch.held).count n + dd.held.count n =
      w.taken.count n + (g dd).held.count n := by
  have hperm := (List.flatMap_modify Dispatch.held g h).count_eq n
  simpa only [List.count_append, taken] using hperm

/-- A window that is drained passes from the collector to a dispatch. -/
theorem count_drain (hw : Placed rt w) (s : Slot) (n : Nat) :
    (w.setQueue s (emptied rt (w.queue s))).queued.count n + (w.queue s).waiters.count n =
      w.queued.count n :=
  count_queued_setQueue hw.slots s (emptied rt (w.queue s)) n

theorem taken_drainOwned (w : World σ V) (s : Slot) (m : Nat) :
    (w.drainOwned rt s m).taken = w.taken ++ (w.queue s).waiters := by
  simp [taken, dispatches_drainOwned, Dispatch.held, Dispatch.waiters, Queue.waiters, unanswered]

theorem everTaken_drainOwned (w : World σ V) (s : Slot) (m : Nat) :
    (w.drainOwned rt s m).everTaken = w.everTaken ++ (w.queue s).waiters := by
  simp [everTaken, dispatches_drainOwned, Dispatch.waiters, Queue.waiters]

theorem count_taken_drainSpawned (hw : Placed rt w) {d : Nat} {dd : Dispatch V}
    (hd : w.dispatches[d]? = some dd) (hst : dd.stage = .spawned) (s : Slot) (n : Nat) :
    (w.drainSpawned rt s d).taken.count n = w.taken.count n + (w.queue s).waiters.count n := by
  have hmod := count_taken_modify hd (fun dd =>
    { dd with
      batch := (w.queue s).pending.toList
      stage := unanswered rt (w.queue s).pending.toList }) n
  have hold : dd.held = [] := by
    rw [Dispatch.held, hst, Dispatch.waiters, (hw.spawned d dd hd hst).1]
    rfl
  rw [hold, List.count_nil] at hmod
  exact hmod

theorem count_everTaken_drainSpawned {d : Nat} {dd : Dispatch V}
    (hd : w.dispatches[d]? = some dd) (s : Slot) (n : Nat) :
    (w.drainSpawned rt s d).everTaken.count n ≤
      w.everTaken.count n + (w.queue s).waiters.count n := by
  have hever := (List.flatMap_modify Dispatch.waiters (fun dd' : Dispatch V =>
    { dd' with
      batch := (w.queue s).pending.toList
      stage := unanswered rt (w.queue s).pending.toList }) hd).count_eq n
  simp only [List.count_append] at hever
  change _ = w.everTaken.count n + (w.queue s).waiters.count n at hever
  change ((w.dispatches.modify d _).flatMap Dispatch.waiters).count n ≤ _
  omega

theorem count_taken_setStage {d : Nat} {dd : Dispatch V} (hd : w.dispatches[d]? = some dd)
    (st : Stage V) (n : Nat) :
    (w.setStage d st).taken.count n + dd.held.count n =
      w.taken.count n + ({ dd with stage := st } : Dispatch V).held.count n :=
  count_taken_modify hd (fun dd => { dd with stage := st }) n

theorem everTaken_setStage (w : World σ V) (d : Nat) (st : Stage V) :
    (w.setStage d st).everTaken = w.everTaken :=
  List.flatMap_modify_of_eq (g := fun dd => { dd with stage := st }) Dispatch.waiters (fun _ => rfl)
    w.dispatches d

theorem count_queued_finish (hw : Placed rt w) (d : Nat) (s : Slot) (st : Stage V)
    (hs : List (Nat × Outcome V)) (n : Nat) :
    (w.finish d s st hs).queued.count n = w.queued.count n := by
  have hq := count_queued_setQueue hw.slots s
    { w.queue s with inFlight := (w.queue s).inFlight - 1 } n
  change (w.finish d s st hs).queued.count n + (w.queue s).waiters.count n =
    w.queued.count n + (w.queue s).waiters.count n at hq
  omega

/-- A dispatch that ends lets go of all whom it held. -/
theorem count_taken_finish {d : Nat} {dd : Dispatch V} {rs : List (Option (Batch V))}
    (hd : w.dispatches[d]? = some dd) (hst : dd.stage = .fetching rs) {st : Stage V}
    (hend : st = .done ∨ st = .lost) (s : Slot) (hs : List (Nat × Outcome V)) (n : Nat) :
    (w.finish d s st hs).taken.count n + dd.waiters.count n = w.taken.count n := by
  have ht := count_taken_setStage hd st n
  have hheld : dd.held = dd.waiters := by rw [Dispatch.held, hst]
  have hnil : ({ dd with stage := st } : Dispatch V).held = [] := by
    rcases hend with rfl | rfl <;> rfl
  rw [hheld, hnil, List.count_nil] at ht
  exact ht

theorem count_queued_giveUp (hw : Placed rt w) (s : Slot) (m n : Nat) :
    (w.giveUp s m).queued.count n + (w.queue s).waiters.count n = w.queued.count n :=
  count_queued_setQueue hw.slots s { w.queue s with pending := .empty, scheduled := false } n

/-- **Where loads go in a move.**  The loads that join come into a window.  Those who leave a window
come into the batch of a dispatch, or, when the window is given up, they are handed their outcomes
at once; those who leave a batch are handed theirs. -/
theorem Move.carries (hw : Placed rt w) {e : Event V} {as : List Joining}
    {hs : List (Nat × Outcome V)} {w' : World σ V} (h : Move rt w e as hs w') :
    ∃ ns : List Nat, ∀ n,
      w'.queued.count n + ns.count n = w.queued.count n + (as.map Joining.load).count n ∧
      w'.taken.count n + (hs.map Prod.fst).count n = w.taken.count n + ns.count n ∧
      w'.everTaken.count n ≤ w.everTaken.count n + ns.count n := by
  cases h with
  | stay | arrive | wait | leave => exact ⟨[], fun n => ⟨rfl, rfl, Nat.le_refl _⟩⟩
  | join s id expected =>
    refine ⟨[], fun n => ⟨?_, rfl, Nat.le_refl _⟩⟩
    have hq := count_queued_setQueue hw.slots s ((w.queue s).enqueue id w.loads.length) n
    rw [waiters_enqueue] at hq
    change (w.join s id expected).queued.count n + _ = _ at hq
    simp only [List.map_cons, List.map_nil, List.count_nil]
    omega
  | @drainOwned m l =>
    refine ⟨(w.queue l.slot).waiters, fun n => ⟨count_drain hw l.slot n, ?_, Nat.le_of_eq ?_⟩⟩
    · rw [taken_drainOwned, List.count_append]
      rfl
    · rw [everTaken_drainOwned, List.count_append]
  | @drainSpawned d dd hd hst =>
    exact ⟨(w.queue dd.slot).waiters, fun n => ⟨count_drain hw dd.slot n,
      count_taken_drainSpawned hw hd hst dd.slot n, count_everTaken_drainSpawned hd dd.slot n⟩⟩
  | @fetched d dd rs hd hst c r =>
    refine ⟨[], fun n => ⟨rfl, ?_, Nat.le_of_eq ?_⟩⟩
    · have ht := count_taken_setStage hd (.fetching (rs.modify c fun a => some (a.getD r))) n
      have hheld : ({ dd with stage := .fetching (rs.modify c fun a => some (a.getD r)) } :
          Dispatch V).held = dd.held := by
        rw [Dispatch.held, Dispatch.held, hst]
        rfl
      rw [hheld] at ht
      exact Nat.add_right_cancel ht
    · rw [everTaken_setStage]
      rfl
  | @complete _ d dd results hd hst =>
    refine ⟨[], fun n => ⟨count_queued_finish hw d dd.slot .done _ n, ?_, Nat.le_of_eq ?_⟩⟩
    · rw [hw.map_fst_handouts hd hst]
      exact count_taken_finish hd hst (.inl rfl) dd.slot _ n
    · exact congrArg (List.count n) (everTaken_setStage w d .done)
  | @handOver m l =>
    refine ⟨[], fun n => ⟨rfl, ?_, Nat.le_of_eq ?_⟩⟩
    · simp [taken, dispatches_handOver, Dispatch.held, Dispatch.waiters]
    · simp [everTaken, dispatches_handOver, Dispatch.waiters]
  | @lose _ m d l dd rs he hl hp hd hst =>
    have hw' := hw.setProgress m .dropped
    refine ⟨[], fun n => ⟨count_queued_finish hw' d dd.slot .lost _ n, ?_, Nat.le_of_eq ?_⟩⟩
    · rw [map_fst_abandonments]
      exact count_taken_finish (w := w.setProgress m .dropped) hd hst (.inr rfl) dd.slot _ n
    · exact congrArg (List.count n) (everTaken_setStage w d .lost)
  | @giveUp m l =>
    refine ⟨(w.queue l.slot).waiters, fun n => ⟨count_queued_giveUp hw l.slot m n, ?_, ?_⟩⟩
    · rw [map_fst_abandonments]
      rfl
    · exact Nat.le_add_right _ _

/-- **Conservation.**  A move carries loads from one place to the next and loses none. -/
theorem Move.count_eq (hw : Placed rt w) {e : Event V} {as : List Joining}
    {hs : List (Nat × Outcome V)} {w' : World σ V} (h : Move rt w e as hs w') (n : Nat) :
    w'.queued.count n + w'.taken.count n + (hs.map Prod.fst).count n =
      w.queued.count n + w.taken.count n + (as.map Joining.load).count n := by
  obtain ⟨ns, hns⟩ := h.carries hw
  obtain ⟨hqueued, htaken, -⟩ := hns n
  omega

/-! ### Taken once -/

/-- Every load waits in at most one window or has been taken at most once. -/
def Once (w : World σ V) : Prop := ∀ n, w.queued.count n + w.everTaken.count n ≤ 1

/-- A load is taken by one dispatch only. -/
theorem Once.eq_of_mem_waiters (ho : Once w) {d d' n : Nat} {dd dd' : Dispatch V}
    (hd : w.dispatches[d]? = some dd) (hd' : w.dispatches[d']? = some dd') (hn : n ∈ dd.waiters)
    (hn' : n ∈ dd'.waiters) : d = d' := by
  have hle : w.everTaken.count n ≤ 1 := by
    have := ho n
    omega
  exact List.eq_of_count_flatMap_le_one (f := Dispatch.waiters) hle hd hd' hn hn'

/-- The windows and the batches together gain no load but the one that joins. -/
theorem Move.count_le (hw : Placed rt w) {e : Event V} {as : List Joining}
    {hs : List (Nat × Outcome V)} {w' : World σ V} (h : Move rt w e as hs w') (n : Nat) :
    w'.queued.count n + w'.everTaken.count n ≤
      w.queued.count n + w.everTaken.count n + (as.map Joining.load).count n := by
  obtain ⟨ns, hns⟩ := h.carries hw
  obtain ⟨hqueued, -, hever⟩ := hns n
  omega

/-- The load that joins is the next one, and has its place among the loads afterwards. -/
theorem Move.joining {e : Event V} {as : List Joining} {hs : List (Nat × Outcome V)}
    {w' : World σ V} (h : Move rt w e as hs w') : as = [] ∨
      ∃ s id, as = [⟨w.loads.length, s, id⟩] ∧ w'.loads.length = w.loads.length + 1 := by
  cases h with
  | join s id expected => exact .inr ⟨s, id, rfl, List.length_append⟩
  | _ => exact .inl rfl

/-- A load that is not there yet waits nowhere. -/
theorem Placed.count_eq_zero (hw : Placed rt w) {n : Nat} (hn : w.loads.length ≤ n) :
    w.queued.count n + w.everTaken.count n = 0 := by
  have hq : n ∉ w.queued := by
    intro h
    obtain ⟨s, hs⟩ := exists_of_mem_queued hw.slots h
    have := (hw.pending s).lt_length hs
    omega
  have ht : n ∉ w.everTaken := by
    intro h
    obtain ⟨dd, hdd, hmem⟩ := List.mem_flatMap.1 h
    obtain ⟨d, hd⟩ := List.mem_iff_getElem?.1 hdd
    have := (hw.batch d dd hd).lt_length hmem
    omega
  rw [List.count_eq_zero_of_not_mem hq, List.count_eq_zero_of_not_mem ht]

theorem Once.move (hw : Placed rt w) (ho : Once w) {e : Event V} {as : List Joining}
    {hs : List (Nat × Outcome V)} {w' : World σ V} (h : Move rt w e as hs w') : Once w' := by
  intro n
  -- the load that joins is new, so that it has waited nowhere and nobody has taken it
  have hle := h.count_le hw n
  rcases h.joining with rfl | ⟨s, id, rfl, -⟩
  · have := ho n
    simp only [List.map_nil, List.count_nil] at hle
    omega
  · simp only [List.map_cons, List.map_nil] at hle
    by_cases hn : n = w.loads.length
    · have := hw.count_eq_zero (Nat.le_of_eq hn.symm)
      have : [w.loads.length].count n ≤ 1 := List.count_le_length
      omega
    · have := ho n
      have : [w.loads.length].count n = 0 := List.count_eq_zero.2 (by simpa using hn)
      omega

/-- An outcome is handed to nobody but a load that has been waiting. -/
theorem Move.exists_of_handed {e : Event V} {as : List Joining} {hs : List (Nat × Outcome V)}
    {w' : World σ V} (h : Move rt w e as hs w') (hw : Placed rt w) {n : Nat}
    (hn : n ∈ hs.map Prod.fst) :
    ∃ l : Load V, w.loads[n]? = some l := by
  have hfind {s : Slot} {b : List (Int × List Nat)} (hb : Filed w.loads s b)
      (hn : n ∈ b.flatMap Prod.snd) : ∃ l : Load V, w.loads[n]? = some l :=
    ⟨_, List.getElem?_eq_getElem (hb.lt_length hn)⟩
  cases h with
  | @complete _ d dd results hd hst =>
    rw [hw.map_fst_handouts hd hst] at hn
    exact hfind (hw.batch d dd hd) hn
  | @lose _ m d l dd rs he hl hp hd =>
    rw [map_fst_abandonments] at hn
    exact hfind (hw.batch d dd hd) hn
  | @giveUp m l =>
    rw [map_fst_abandonments] at hn
    exact hfind (hw.pending l.slot) hn
  | _ => cases hn

/-! ### Runs -/

theorem Once.step (hw : Placed rt w) (ho : Once w) (e : Event V) : Once (w.step rt e) := by
  obtain ⟨w', c, t, a, hm, h⟩ := exists_move rt w e
  rw [h]
  exact fun n => ho.move hw hm n

theorem Once.run (hw : Placed rt w) (ho : Once w) (es : List (Event V)) : Once (w.run rt es) := by
  induction es generalizing w with
  | nil => exact ho
  | cons e es ih => exact ih (hw.step e) (ho.step hw e)

/-- In every run each load is taken at most once, and not while it still waits in a window. -/
theorem once_run (rt : Runtime σ V) (cache : Option σ) (es : List (Event V)) :
    Once ((start cache).run rt es) :=
  Once.run (placed_start rt cache) (fun _ => Nat.zero_le _) es

theorem continues_run (rt : Runtime σ V) (w : World σ V) (es : List (Event V)) :
    Continues w.loads (w.run rt es).loads := by
  induction es generalizing w with
  | nil => exact .refl _
  | cons e es ih =>
    obtain ⟨w', c, t, a, hm, h⟩ := exists_move rt w e
    refine Continues.trans ?_ (ih _)
    rw [h]
    exact hm.continues

theorem Placed.count_step (hw : Placed rt w) (e : Event V) (n : Nat) :
    (w.step rt e).queued.count n + (w.step rt e).taken.count n +
        ((w.handed rt e).map Prod.fst).count n =
      w.queued.count n + w.taken.count n + ((w.joinings rt e).map Joining.load).count n := by
  obtain ⟨w', c, t, a, hm, h⟩ := exists_move rt w e
  rw [h]
  exact hm.count_eq hw n

theorem Placed.count_run (hw : Placed rt w) (es : List (Event V)) (n : Nat) :
    (w.run rt es).queued.count n + (w.run rt es).taken.count n +
        ((w.handedBy rt es).map Prod.fst).count n =
      w.queued.count n + w.taken.count n + ((w.joined rt es).map Joining.load).count n := by
  induction es generalizing w with
  | nil => rfl
  | cons e es ih =>
    have hstep := hw.count_step e n
    have hrest := ih (hw.step e)
    simp only [run_cons, handedBy, joined, List.map_append, List.count_append] at hrest ⊢
    omega

/-- Loads join in the order of their numbers, none of them twice. -/
theorem joined_pairwise (rt : Runtime σ V) (w : World σ V) (es : List (Event V)) :
    ((w.joined rt es).map Joining.load).Pairwise (· < ·) ∧
      ∀ j ∈ w.joined rt es, w.loads.length ≤ j.load ∧ j.load < (w.run rt es).loads.length := by
  induction es generalizing w with
  | nil => exact ⟨.nil, nofun⟩
  | cons e es ih =>
    obtain ⟨hsorted, hbounds⟩ := ih (w.step rt e)
    obtain ⟨w', c, t, a, hm, h⟩ := exists_move rt w e
    have hlen : (w.step rt e).loads.length = w'.loads.length := by rw [h]; rfl
    have hmono := hm.continues.length_le
    rw [run_cons, joined]
    rcases hm.joining with hnil | ⟨s, id, hone, hnext⟩
    · rw [hnil, List.nil_append]
      exact ⟨hsorted, fun j hj => by have := hbounds j hj; omega⟩
    · rw [hone, List.singleton_append]
      constructor
      · refine List.pairwise_cons.2 ⟨fun m hmem => ?_, hsorted⟩
        obtain ⟨j, hj, rfl⟩ := List.mem_map.1 hmem
        have := hbounds j hj
        show w.loads.length < j.load
        omega
      · intro j hj
        have hrun := (continues_run rt (w.step rt e) es).length_le
        rcases List.mem_cons.1 hj with rfl | hj
        · exact ⟨Nat.le_refl _, by show w.loads.length < _; omega⟩
        · have := hbounds j hj
          omega

theorem joined_nodup (rt : Runtime σ V) (w : World σ V) (es : List (Event V)) :
    ((w.joined rt es).map Joining.load).Nodup :=
  (joined_pairwise rt w es).1.imp Nat.ne_of_lt

/-- **The ledger balances.**  After any run, the loads in windows, those held by dispatches and
those to whom an outcome was handed are together the loads that joined a window. -/
theorem ledger (rt : Runtime σ V) (cache : Option σ) (es : List (Event V)) :
    (((start cache).run rt es).queued ++ ((start cache).run rt es).taken ++
        ((start cache).handedBy rt es).map Prod.fst).Perm
      (((start cache).joined rt es).map Joining.load) := by
  refine List.perm_iff_count.2 fun n => ?_
  have hrun := (placed_start rt cache).count_run es n
  have hnone : (start cache : World σ V).queued.count n +
      (start cache : World σ V).taken.count n = 0 := rfl
  simp only [List.count_append]
  omega

end World

end GraphLayer.Batching
