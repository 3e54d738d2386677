import GraphLayer.Proofs.Batching.Ledger
import GraphLayer.Proofs.Batching.Lifecycle

/-!
# Every open window has one holder

* `World.holders` and `World.outstanding`: how many tasks hold the open window of a slot, and how
  many of its dispatches wait for their fetches;
* `World.Attended`: owners stand in their own windows, the open window of a slot has exactly one
  holder, and the collector counts the outstanding dispatches;
* `World.attended_run` shows it for every run.
-/

namespace GraphLayer.Batching

variable {σ V : Type}

/-! ### Holders -/

/-- Whether a dispatch has still to drain its window. -/
def Stage.isSpawned : Stage V → Bool
  | .spawned => true
  | _ => false

/-- Whether a load owns the open window of a slot. -/
def Load.owns (s : Slot) (l : Load V) : Bool := decide (l.slot = s) && l.progress.isCollecting

/-- Whether a spawned dispatch holds the open window of a slot. -/
def Dispatch.awaits (s : Slot) (d : Dispatch V) : Bool := decide (d.slot = s) && d.stage.isSpawned

/-- Whether a dispatch of a slot waits for its fetches. -/
def Dispatch.fetches (s : Slot) (d : Dispatch V) : Bool :=
  decide (d.slot = s) && d.stage.isFetching

namespace World

/-- The number of tasks that hold an undrained window of a slot: live owners, and spawned
dispatches that have not drained. -/
def holders (w : World σ V) (s : Slot) : Nat :=
  w.loads.countP (Load.owns s) + w.dispatches.countP (Dispatch.awaits s)

/-- The number of drained dispatches of a slot whose fetches are outstanding. -/
def outstanding (w : World σ V) (s : Slot) : Nat := w.dispatches.countP (Dispatch.fetches s)

/-- Windows have holders, and collectors count their outstanding dispatches. -/
structure Attended (w : World σ V) : Prop where
  /-- An owner waits in its own window. -/
  owner : ∀ (n : Nat) (l : Load V), w.loads[n]? = some l → l.progress.isCollecting = true →
    n ∈ w.waiting l.slot l.id
  /-- An owner has not yet made its last yield. -/
  yields : ∀ (n : Nat) (l : Load V) (y seen : Nat), w.loads[n]? = some l →
    l.progress = .collecting y seen → y < maxYields
  /-- An owner that fetches waits in the batch of its own dispatch. -/
  driver : ∀ (n d : Nat) (l : Load V), w.loads[n]? = some l → l.progress = .dispatching d →
    ∃ (dd : Dispatch V) (rs : List (Option (Batch V))), w.dispatches[d]? = some dd ∧
      dd.slot = l.slot ∧ dd.owned = true ∧ dd.stage = .fetching rs ∧ n ∈ waitersOf dd.batch l.id
  scheduled : ∀ s, (w.queue s).scheduled = true ↔ (w.queue s).pending.toList ≠ []
  holders : ∀ s, w.holders s = if (w.queue s).scheduled then 1 else 0
  inFlight : ∀ s, (w.queue s).inFlight = w.outstanding s
  /-- Whoever drained took somebody. -/
  batch : ∀ (d : Nat) (dd : Dispatch V), w.dispatches[d]? = some dd → dd.stage.isSpawned = false →
    dd.batch ≠ []

variable {rt : Runtime σ V} {w : World σ V}

theorem Attended.scheduled_of_owner (h : Attended w) {n : Nat} {l : Load V}
    (hl : w.loads[n]? = some l) (hp : l.progress.isCollecting = true) :
    (w.queue l.slot).scheduled = true := by
  have hpos : 0 < w.loads.countP (Load.owns l.slot) :=
    List.countP_pos_of_getElem? hl (by simp [Load.owns, hp])
  have hh := h.holders l.slot
  unfold World.holders at hh
  split at hh
  · assumption
  · omega

theorem Attended.scheduled_of_spawned (h : Attended w) {d : Nat} {dd : Dispatch V}
    (hd : w.dispatches[d]? = some dd) (hst : dd.stage.isSpawned = true) :
    (w.queue dd.slot).scheduled = true := by
  have hpos : 0 < w.dispatches.countP (Dispatch.awaits dd.slot) :=
    List.countP_pos_of_getElem? hd (by simp [Dispatch.awaits, hst])
  have hh := h.holders dd.slot
  unfold World.holders at hh
  split at hh
  · assumption
  · omega

/-- A window has one owner. -/
theorem Attended.owner_unique (h : Attended w) {n m : Nat} {l k : Load V}
    (hl : w.loads[n]? = some l) (hk : w.loads[m]? = some k) (hp : l.progress.isCollecting = true)
    (hq : k.progress.isCollecting = true) (hs : k.slot = l.slot) : m = n := by
  by_contra hne
  have htwo : 2 ≤ w.loads.countP (Load.owns l.slot) :=
    List.two_le_countP hne hk hl (by simp [Load.owns, hq, hs]) (by simp [Load.owns, hp])
  have hh := h.holders l.slot
  unfold World.holders at hh
  split at hh <;> omega

/-- A window that a spawned dispatch holds has no owner. -/
theorem Attended.not_owner_of_spawned (h : Attended w) {d m : Nat} {dd : Dispatch V} {k : Load V}
    (hd : w.dispatches[d]? = some dd) (hst : dd.stage.isSpawned = true)
    (hk : w.loads[m]? = some k) (hs : k.slot = dd.slot) : k.progress.isCollecting = false := by
  by_contra hq
  have hpos : 0 < w.loads.countP (Load.owns dd.slot) :=
    List.countP_pos_of_getElem? hk (by simp [Load.owns, hs, Bool.of_not_eq_false hq])
  have hpos' : 0 < w.dispatches.countP (Dispatch.awaits dd.slot) :=
    List.countP_pos_of_getElem? hd (by simp [Dispatch.awaits, hst])
  have hh := h.holders dd.slot
  unfold World.holders at hh
  split at hh <;> omega

/-- Whoever waits in an open window has not been taken. -/
theorem Once.not_mem_everTaken (h : Once w) {n : Nat} {s : Slot} {id : Int}
    (hn : n ∈ w.waiting s id) : n ∉ w.everTaken := by
  intro ht
  have hq : n ∈ w.queued := mem_queued (mem_flatMap_of_mem_waitersOf hn)
  have h₁ := List.count_pos_iff.2 hq
  have h₂ := List.count_pos_iff.2 ht
  have := h n
  omega

/-- Owners of open windows are not in the batch of a dispatch. -/
theorem Attended.not_collecting (h : Attended w) (ho : Once w) {d n : Nat} {dd : Dispatch V}
    {l : Load V} (hd : w.dispatches[d]? = some dd) (hn : n ∈ dd.waiters)
    (hl : w.loads[n]? = some l) : l.progress.isCollecting = false := by
  by_contra hp
  refine ho.not_mem_everTaken (h.owner n l hl (Bool.of_not_eq_false hp)) ?_
  exact List.mem_flatMap.2 ⟨dd, List.mem_of_getElem? hd, hn⟩

/-! ### Counting holders -/

/-- A load that owned no window, or still owns it, counts as before. -/
theorem countP_owns_setProgress_of_eq {n : Nat} {l : Load V} (hl : w.loads[n]? = some l)
    {p : Progress V} (hp : p.isCollecting = l.progress.isCollecting) (t : Slot) :
    (w.setProgress n p).loads.countP (Load.owns t) = w.loads.countP (Load.owns t) := by
  have h := List.countP_modify (Load.owns t) (fun l : Load V => { l with progress := p }) hl
  have hsame : Load.owns t { l with progress := p } = Load.owns t l := by simp [Load.owns, hp]
  rw [hsame] at h
  exact Nat.add_right_cancel h

/-- An owner that lets its window go counts no more. -/
theorem countP_owns_setProgress_of_release {n : Nat} {l : Load V} (hl : w.loads[n]? = some l)
    (hc : l.progress.isCollecting = true) {p : Progress V} (hp : p.isCollecting = false)
    (t : Slot) :
    (w.setProgress n p).loads.countP (Load.owns t) + (if t = l.slot then 1 else 0) =
      w.loads.countP (Load.owns t) := by
  have h := List.countP_modify (Load.owns t) (fun l : Load V => { l with progress := p }) hl
  have hnew : Load.owns t { l with progress := p } = false := by simp [Load.owns, hp]
  have hold : Load.owns t l = decide (t = l.slot) := by simp [Load.owns, hc, eq_comm]
  rw [hnew, hold] at h
  simpa [setProgress] using h

/-- Outcomes that are not handed to owners of open windows leave the owners as they are. -/
theorem countP_owns_receiveAll {ls : List (Load V)} {hs : List (Nat × Outcome V)}
    (h : ∀ (n : Nat) (l : Load V), n ∈ hs.map Prod.fst → ls[n]? = some l →
      l.progress.isCollecting = false) (t : Slot) :
    (receiveAll ls hs).countP (Load.owns t) = ls.countP (Load.owns t) := by
  -- The two lists differ, but not in who owns a window.
  have hsame : (receiveAll ls hs).map (Load.owns t) = ls.map (Load.owns t) := by
    refine List.ext_getElem? fun n => ?_
    rw [List.getElem?_map, List.getElem?_map]
    by_cases hn : n ∈ hs.map Prod.fst
    · cases hl' : (receiveAll ls hs)[n]? with
      | none =>
        have hlen := List.getElem?_eq_none_iff.1 hl'
        rw [length_receiveAll] at hlen
        rw [List.getElem?_eq_none hlen]
      | some l' =>
        obtain ⟨l, hl, -⟩ := getElem?_receiveAll_cases hl'
        have hp : l.progress.isCollecting = false := h n l hn hl
        have hp' : l'.progress.isCollecting = false := by
          rcases progress_receiveAll_of_mem hn hl' with hq | ⟨o, -, hq⟩ <;> rw [hq] <;> rfl
        simp [hl, Load.owns, hp, hp']
    · rw [getElem?_receiveAll_of_not_mem hn]
  have hcount (ls : List (Load V)) :
      ls.countP (Load.owns t) = (ls.map (Load.owns t)).countP fun b => b := by
    rw [List.countP_map]
    rfl
  rw [hcount, hsame, ← hcount]

/-- A dispatch that drains its window holds it no more, and fetches from now on. -/
theorem countP_drainSpawned (rt : Runtime σ V) {d : Nat} {dd : Dispatch V}
    (hd : w.dispatches[d]? = some dd) (hst : dd.stage = .spawned) (t : Slot) :
    (w.drainSpawned rt dd.slot d).dispatches.countP (Dispatch.awaits t) +
        (if t = dd.slot then 1 else 0) = w.dispatches.countP (Dispatch.awaits t) ∧
      (w.drainSpawned rt dd.slot d).dispatches.countP (Dispatch.fetches t) =
        w.dispatches.countP (Dispatch.fetches t) + if t = dd.slot then 1 else 0 := by
  have h (p : Dispatch V → Bool) := List.countP_modify p (fun dd' : Dispatch V =>
    { dd' with
      batch := (w.queue dd.slot).pending.toList
      stage := unanswered rt (w.queue dd.slot).pending.toList }) hd
  have ha := h (Dispatch.awaits t)
  have hf := h (Dispatch.fetches t)
  simp only [Dispatch.awaits, Dispatch.fetches, hst, Stage.isSpawned, Stage.isFetching, unanswered,
    Bool.and_true, Bool.and_false, decide_eq_true_eq, eq_comm (a := dd.slot)] at ha hf
  exact ⟨ha, hf⟩

/-- A dispatch keeps its stage, or only its answers change. -/
theorem countP_setStage_of_eq {d : Nat} {dd : Dispatch V} (hd : w.dispatches[d]? = some dd)
    {st : Stage V} (hs : st.isSpawned = dd.stage.isSpawned) (t : Slot) :
    (w.setStage d st).dispatches.countP (Dispatch.awaits t) =
      w.dispatches.countP (Dispatch.awaits t) := by
  have h := List.countP_modify (Dispatch.awaits t) (fun d : Dispatch V => { d with stage := st }) hd
  have hsame : Dispatch.awaits t { dd with stage := st } = Dispatch.awaits t dd := by
    simp [Dispatch.awaits, hs]
  rw [hsame] at h
  exact Nat.add_right_cancel h

/-! ### Moves -/

variable {w' : World σ V} {e : Event V} {as : List Joining} {hs : List (Nat × Outcome V)}

/-- A window whose holder lets it go is closed. -/
theorem Attended.holders_of_release (ha : Attended w) {s t : Slot} {k : Nat} {q : Queue}
    (hs : (w.queue s).scheduled = true) (hq : q.scheduled = false)
    (hk : k + (if t = s then 1 else 0) = w.holders t) :
    k = if (if t = s then q else w.queue t).scheduled then 1 else 0 := by
  have hh := ha.holders t
  by_cases hts : t = s
  · subst hts
    rw [if_pos rfl] at hk
    rw [if_pos hs] at hh
    simp only [if_true, hq, Bool.false_eq_true, if_false]
    omega
  · rw [if_neg hts] at hk ⊢
    omega

/-- Whoever a dispatch has taken owns no open window. -/
theorem Attended.receivers (hw : Placed rt w) (ho : Once w) (ha : Attended w) {d : Nat}
    {dd : Dispatch V} {results : List (Batch V)} (hd : w.dispatches[d]? = some dd)
    (hst : dd.stage = .fetching (results.map some)) {n : Nat} {l : Load V}
    (hn : n ∈ (handouts dd.batch (outcomesOf rt dd.batch results)).map Prod.fst)
    (hl : w.loads[n]? = some l) : l.progress.isCollecting = false := by
  rw [hw.map_fst_handouts hd hst] at hn
  exact ha.not_collecting ho hd hn hl

theorem not_collecting_setProgress {n m : Nat} {k' : Load V}
    (h : ∀ k : Load V, w.loads[m]? = some k → m ≠ n → k.progress.isCollecting = false)
    (hk : (w.setProgress n .dropped).loads[m]? = some k') : k'.progress.isCollecting = false := by
  obtain ⟨k, hold, rfl⟩ := List.exists_of_getElem?_modify hk
  by_cases hnm : n = m
  · rw [if_pos hnm]
    rfl
  · rw [if_neg hnm]
    exact h k hold fun he => hnm he.symm

/-- Of those who wait in a window only one owns it. -/
theorem Attended.not_collecting_of_waiters (hw : Placed rt w) (ha : Attended w) {n m : Nat}
    {l k : Load V} (hl : w.loads[n]? = some l) (hc : l.progress.isCollecting = true)
    (hm : m ∈ (w.queue l.slot).waiters) (hk : w.loads[m]? = some k) (hne : m ≠ n) :
    k.progress.isCollecting = false := by
  obtain ⟨p, hp, hmp⟩ := List.mem_flatMap.1 hm
  obtain ⟨k', hk', hs, -⟩ := (hw.pending l.slot).load p hp m hmp
  obtain rfl : k = k' := Option.some.inj (hk.symm.trans hk')
  by_contra hck
  exact hne (ha.owner_unique hl hk hc (Bool.of_not_eq_false hck) hs)

theorem scheduled_finish (w : World σ V) (d : Nat) (s t : Slot) (st : Stage V)
    (hs : List (Nat × Outcome V)) :
    ((w.finish d s st hs).queue t).scheduled = (w.queue t).scheduled := by
  rw [queue_finish]
  split
  · subst t
    rfl
  · rfl

theorem Attended.holders_move (hw : Placed rt w) (ho : Once w) (ha : Attended w)
    (h : Move rt w e as hs w') (t : Slot) :
    w'.holders t = if (w'.queue t).scheduled then 1 else 0 := by
  have hh := ha.holders t
  unfold World.holders at hh ⊢
  -- A window opens together with its owner and closes together with its holder; in between the
  -- holder changes once at most, when the owner hands the window over.
  cases h with
  | stay => exact hh
  | arrive l o hp =>
    have hnew : [l].countP (Load.owns t) = 0 := by simp [Load.owns, hp, Progress.isCollecting]
    rw [List.countP_append, hnew]
    exact hh
  | join s id expected =>
    rw [queue_join, loads_join, dispatches_join, List.countP_append]
    by_cases hs : t = s
    · subst hs
      rw [if_pos rfl]
      by_cases hq : (w.queue t).scheduled = true
      · simp only [hq, if_true] at hh ⊢
        simpa [Queue.enqueue, Load.owns, Progress.isCollecting] using hh
      · rw [if_neg hq] at hh
        simp only [hq, Queue.enqueue, Load.owns, Progress.isCollecting, List.countP_singleton]
        simp
        omega
    · rw [if_neg hs]
      have hs' : ¬ s = t := fun he => hs he.symm
      simpa [Load.owns, hs'] using hh
  | @wait n l y seen hl hp hy seen' =>
    rw [countP_owns_setProgress_of_eq hl (by rw [hp]; rfl)]
    exact hh
  | @drainOwned n l y seen hl hp =>
    have hc := countP_owns_setProgress_of_release hl (by rw [hp]; rfl)
      (p := .dispatching w.dispatches.length) rfl t
    have hloads : (w.drainOwned rt l.slot n).loads =
        (w.setProgress n (.dispatching w.dispatches.length)).loads := rfl
    have hnew (b : List (Int × List Nat)) :
        [(⟨l.slot, true, b, unanswered rt b⟩ : Dispatch V)].countP (Dispatch.awaits t) = 0 := by
      simp [Dispatch.awaits, unanswered, Stage.isSpawned]
    rw [queue_drainOwned, hloads, dispatches_drainOwned, List.countP_append, hnew]
    refine ha.holders_of_release (ha.scheduled_of_owner hl (by rw [hp]; rfl)) rfl ?_
    unfold World.holders
    omega
  | @drainSpawned d dd hd hst =>
    have hc := (countP_drainSpawned rt hd hst t).1
    rw [queue_drainSpawned, loads_drainSpawned]
    refine ha.holders_of_release (ha.scheduled_of_spawned hd (by rw [hst]; rfl)) rfl ?_
    unfold World.holders
    omega
  | @fetched d dd rs hd hst c r =>
    rw [countP_setStage_of_eq hd (by rw [hst]; rfl)]
    exact hh
  | @complete _ d dd results hd hst =>
    have hd' : (w.finish d dd.slot .done
        (handouts dd.batch (outcomesOf rt dd.batch results))).dispatches =
        (w.setStage d .done).dispatches := rfl
    rw [loads_finish, countP_owns_receiveAll fun n l => ha.receivers hw ho hd hst, hd',
      countP_setStage_of_eq hd (by rw [hst]; rfl), scheduled_finish]
    exact hh
  | @leave _ n l he hl hp =>
    rw [countP_owns_setProgress_of_eq hl (by rcases hp with hp | ⟨d, hp, -⟩ <;> rw [hp] <;> rfl)]
    exact hh
  | @handOver n l y seen hl hp =>
    have hc := countP_owns_setProgress_of_release hl (by rw [hp]; rfl) (p := .dropped) rfl t
    have hloads : (w.handOver l.slot n).loads = (w.setProgress n .dropped).loads := rfl
    have hnew : [(⟨l.slot, false, [], .spawned⟩ : Dispatch V)].countP (Dispatch.awaits t) =
        if t = l.slot then 1 else 0 := by
      simp [Dispatch.awaits, Stage.isSpawned, eq_comm]
    rw [hloads, dispatches_handOver, List.countP_append, hnew]
    show _ = if (w.queue t).scheduled then 1 else 0
    omega
  | @lose _ n d l dd rs he hl hp hd hst =>
    have hd' : ((w.setProgress n .dropped).finish d dd.slot .lost
        (abandonments dd.slot (dd.batch.flatMap Prod.snd))).dispatches =
        (w.setStage d .lost).dispatches := rfl
    rw [loads_finish, countP_owns_receiveAll, countP_owns_setProgress_of_eq hl (by rw [hp]; rfl),
      hd', countP_setStage_of_eq hd (by rw [hst]; rfl), scheduled_finish]
    · exact hh
    · intro m k' hm hk'
      rw [map_fst_abandonments] at hm
      exact not_collecting_setProgress (fun k hk _ => ha.not_collecting ho hd hm hk) hk'
  | @giveUp n l y seen hl hp =>
    have hc := countP_owns_setProgress_of_release hl (by rw [hp]; rfl) (p := .dropped) rfl t
    have hloads : (w.giveUp l.slot n).loads = receiveAll (w.setProgress n .dropped).loads
        (abandonments l.slot (w.queue l.slot).waiters) := rfl
    rw [queue_giveUp, hloads, countP_owns_receiveAll]
    · refine ha.holders_of_release (ha.scheduled_of_owner hl (by rw [hp]; rfl)) rfl ?_
      have hd : (w.giveUp l.slot n).dispatches = w.dispatches := rfl
      rw [hd]
      unfold World.holders
      omega
    · intro m k' hm hk'
      rw [map_fst_abandonments] at hm
      refine not_collecting_setProgress (fun k hk hne => ?_) hk'
      exact ha.not_collecting_of_waiters hw hl (by rw [hp]; rfl) hm hk hne

/-- The fetch of a dispatch is no longer outstanding once it has ended. -/
theorem countP_fetches_setStage {d : Nat} {dd : Dispatch V} (hd : w.dispatches[d]? = some dd)
    {rs : List (Option (Batch V))} (hst : dd.stage = .fetching rs) {st : Stage V}
    (hend : st.isFetching = false) (t : Slot) :
    (w.setStage d st).dispatches.countP (Dispatch.fetches t) + (if t = dd.slot then 1 else 0) =
      w.dispatches.countP (Dispatch.fetches t) := by
  have h := List.countP_modify (Dispatch.fetches t)
    (fun d : Dispatch V => { d with stage := st }) hd
  have hnew : Dispatch.fetches t { dd with stage := st } = false := by
    simp [Dispatch.fetches, hend]
  have hold : Dispatch.fetches t dd = decide (t = dd.slot) := by
    simp [Dispatch.fetches, hst, Stage.isFetching, eq_comm]
  rw [hnew, hold] at h
  simpa [setStage] using h

/-- A fetch lands: the collector counts one less, and there was one to count. -/
theorem inFlight_finish {d : Nat} {dd : Dispatch V} (hd : w.dispatches[d]? = some dd)
    {rs : List (Option (Batch V))} (hst : dd.stage = .fetching rs) {st : Stage V}
    (hend : st.isFetching = false) (hs : List (Nat × Outcome V)) {t : Slot}
    (hi : (w.queue t).inFlight = w.outstanding t) :
    ((w.finish d dd.slot st hs).queue t).inFlight = (w.finish d dd.slot st hs).outstanding t := by
  have hc := countP_fetches_setStage hd hst hend t
  unfold outstanding at hi ⊢
  show _ = (w.setStage d st).dispatches.countP (Dispatch.fetches t)
  rw [queue_finish]
  by_cases hs : t = dd.slot
  · rw [if_pos hs, ← hs]
    rw [if_pos hs] at hc
    show (w.queue t).inFlight - 1 = _
    omega
  · rw [if_neg hs] at hc ⊢
    omega

theorem Attended.inFlight_move (ha : Attended w) (h : Move rt w e as hs w') (t : Slot) :
    (w'.queue t).inFlight = w'.outstanding t := by
  have hi := ha.inFlight t
  cases h with
  | stay | arrive | wait | leave => exact hi
  | join s id expected =>
    rw [queue_join]
    split
    · subst t
      exact hi
    · exact hi
  | @drainOwned n l y seen hl hp =>
    have hnew (b : List (Int × List Nat)) :
        [(⟨l.slot, true, b, unanswered rt b⟩ : Dispatch V)].countP (Dispatch.fetches t) =
          if t = l.slot then 1 else 0 := by
      simp [Dispatch.fetches, unanswered, Stage.isFetching, eq_comm]
    unfold outstanding at hi ⊢
    rw [queue_drainOwned, dispatches_drainOwned, List.countP_append, hnew]
    split
    · subst t
      show (w.queue l.slot).inFlight + 1 = _
      omega
    · exact hi
  | @drainSpawned d dd hd hst =>
    have hc := (countP_drainSpawned rt hd hst t).2
    unfold outstanding at hi ⊢
    rw [queue_drainSpawned, hc]
    split
    · subst t
      show (w.queue dd.slot).inFlight + 1 = _
      omega
    · exact hi
  | @fetched d dd rs hd hst c r =>
    have hc := List.countP_modify (Dispatch.fetches t)
      (fun d : Dispatch V => { d with stage := .fetching (rs.modify c fun a => some (a.getD r)) })
      hd
    have hsame : Dispatch.fetches t
        { dd with stage := .fetching (rs.modify c fun a => some (a.getD r)) } =
        Dispatch.fetches t dd := by
      simp [Dispatch.fetches, hst, Stage.isFetching]
    rw [hsame] at hc
    exact hi.trans (Nat.add_right_cancel hc).symm
  | complete hd hst => exact inFlight_finish hd hst rfl _ hi
  | handOver =>
    unfold outstanding at hi ⊢
    rw [dispatches_handOver, List.countP_append]
    show (w.queue t).inFlight = _
    simpa [Dispatch.fetches, Stage.isFetching] using hi
  | @lose _ n d l dd rs he hl hp hd hst =>
    exact inFlight_finish (w := w.setProgress n .dropped) hd hst rfl _ hi
  | @giveUp n l y seen hl hp =>
    rw [queue_giveUp]
    split
    · subst t
      exact hi
    · exact hi

/-- A load that joins a window waits in it afterwards. -/
theorem Move.mem_waiting (h : Move rt w e as hs w') {n : Nat} {t : Slot} {id : Int}
    (has : as = [⟨n, t, id⟩]) : n ∈ w'.waiting t id := by
  unfold waiting
  rcases h.window_cases t with ⟨-, -, hne⟩ | ⟨id', has', hq⟩ | ⟨has', -⟩
  · exact absurd rfl (hne ⟨n, t, id⟩ (has ▸ List.mem_singleton_self _))
  · obtain ⟨rfl, rfl⟩ : n = w.loads.length ∧ id = id' := by simpa using has.symm.trans has'
    rw [hq, waitersOf_enqueue, if_pos rfl]
    exact List.mem_append_right _ (List.mem_singleton_self _)
  · rw [has] at has'
    cases has'

theorem Attended.owner_move (ha : Attended w) (h : Move rt w e as hs w') {n : Nat} {l' : Load V}
    (hl : w'.loads[n]? = some l') (hc : l'.progress.isCollecting = true) :
    n ∈ w'.waiting l'.slot l'.id := by
  rcases h.load_step hl with ⟨l, hold, hs', hi, -, hstep⟩ | ⟨-, ⟨-, o, hp, -⟩ | ⟨has, -⟩⟩
  · have hc₀ := hstep.isCollecting hc
    rw [hs', hi]
    have hmem := ha.owner n l hold hc₀
    unfold waiting at hmem ⊢
    rcases h.window_cases l.slot with ⟨hpend, -, -⟩ | ⟨id, -, hq⟩ | ⟨-, -, -, hgone⟩
    · rwa [hpend]
    · rw [hq, waitersOf_enqueue]
      split
      · exact List.mem_append_left _ hmem
      · exact hmem
    · -- a window that is taken is taken by its only holder, which owns it no more
      rcases hgone with ⟨m, k, hk, hks, hkc, hgone⟩ | ⟨d, dd, hd, hds, hst, -⟩
      · obtain rfl := ha.owner_unique hk hold hkc hc₀ hks.symm
        rw [hgone l' hl] at hc
        cases hc
      · rw [ha.not_owner_of_spawned hd (by rw [hst]; rfl) hold hds.symm] at hc₀
        cases hc₀
  · rw [hp] at hc
    cases hc
  · exact h.mem_waiting has

theorem Attended.yields_move (ha : Attended w) (h : Move rt w e as hs w') {n y seen : Nat}
    {l' : Load V} (hl : w'.loads[n]? = some l') (hp : l'.progress = .collecting y seen) :
    y < maxYields := by
  rcases h.load_step hl with ⟨l, hold, -, -, -, hstep⟩ | ⟨-, ⟨-, o, hp', -⟩ | ⟨-, hp'⟩⟩
  · rw [hp] at hstep
    generalize hq : l.progress = q at hstep
    cases hstep with
    | stay => exact ha.yields n l y seen hold hq
    | wait hy =>
      have := ha.yields n l _ _ hold hq
      omega
  · rw [hp] at hp'
    cases hp'
  · rw [hp] at hp'
    split at hp'
    · cases hp'
    · obtain ⟨rfl, -⟩ := Progress.collecting.inj hp'
      decide

theorem Attended.driver_move (hw : Placed rt w) (ha : Attended w) (h : Move rt w e as hs w')
    {n d : Nat} {l' : Load V} (hl : w'.loads[n]? = some l') (hp : l'.progress = .dispatching d) :
    ∃ (dd : Dispatch V) (rs : List (Option (Batch V))), w'.dispatches[d]? = some dd ∧
      dd.slot = l'.slot ∧ dd.owned = true ∧ dd.stage = .fetching rs ∧
      n ∈ waitersOf dd.batch l'.id := by
  rcases h.load_step hl with ⟨l, hold, hs', hi, -, hstep⟩ | ⟨-, ⟨-, o, hp', -⟩ | ⟨-, hp'⟩⟩
  · rw [hp] at hstep
    rw [hs', hi]
    generalize hq : l.progress = q at hstep
    cases hstep with
    | stay =>
      obtain ⟨dd, rs, hd, hslot, howned, hst, hmem⟩ := ha.driver n d l hold hq
      obtain ⟨dd', hd', hdstep⟩ := h.dispatch_step hd
      have hwaits : n ∈ dd.waiters := mem_flatMap_of_mem_waitersOf hmem
      -- a load whose dispatch ends has its answer and fetches no more
      have hnot : n ∉ hs.map Prod.fst := by
        intro hn
        rcases h.progress_of_handed hn hl with hd | ⟨o, -, ho⟩
        · rw [hp] at hd
          cases hd
        · rw [hp] at ho
          cases ho
      cases hdstep with
      | stay => exact ⟨dd, rs, hd', hslot, howned, hst, hmem⟩
      | drain hsp =>
        rw [hsp] at hst
        cases hst
      | fetched => exact ⟨_, _, hd', hslot, howned, rfl, hmem⟩
      | @complete results hf hhs =>
        rw [hhs, hw.map_fst_handouts hd hf] at hnot
        exact absurd hwaits hnot
      | lose hf hhs =>
        rw [hhs, map_fst_abandonments] at hnot
        exact absurd hwaits hnot
    | drain y seen hd =>
      obtain ⟨rfl, rfl⟩ := hd
      refine ⟨_, _, by rw [dispatches_drainOwned, List.getElem?_concat_length], rfl, rfl, rfl, ?_⟩
      exact ha.owner n l hold (by rw [hq]; rfl)
  · rw [hp] at hp'
    cases hp'
  · rw [hp] at hp'
    split at hp' <;> cases hp'

theorem Attended.scheduled_move (ha : Attended w) (h : Move rt w e as hs w') (t : Slot) :
    (w'.queue t).scheduled = true ↔ (w'.queue t).pending.toList ≠ [] := by
  rcases h.window_cases t with ⟨hpend, hsch, -⟩ | ⟨id, -, hq⟩ | ⟨-, hpend, hsch, -⟩
  · rw [hpend, hsch]
    exact ha.scheduled t
  · have hmem : w.loads.length ∈ waitersOf (w'.queue t).pending.toList id := by
      rw [hq, waitersOf_enqueue, if_pos rfl]
      exact List.mem_append_right _ (List.mem_singleton_self _)
    constructor
    · intro _ hnil
      rw [hnil] at hmem
      cases hmem
    · intro _
      rw [hq]
      rfl
  · rw [hpend, hsch]
    simp

theorem Attended.batch_move (ha : Attended w) (h : Move rt w e as hs w') {d : Nat}
    {dd' : Dispatch V} (hd : w'.dispatches[d]? = some dd') (hst : dd'.stage.isSpawned = false) :
    dd'.batch ≠ [] := by
  rcases h.dispatch_cases hd with ⟨dd, hold⟩ | ⟨-, n, l, hl, hc, rfl | rfl⟩
  · obtain ⟨dd₁, hd₁, hstep⟩ := h.dispatch_step hold
    obtain rfl : dd₁ = dd' := Option.some.inj (hd₁.symm.trans hd)
    cases hstep with
    | stay => exact ha.batch d dd hold hst
    | drain hsp =>
      exact (ha.scheduled dd.slot).1 (ha.scheduled_of_spawned hold (by rw [hsp]; rfl))
    | fetched hf => exact ha.batch d dd hold (by rw [hf]; rfl)
    | complete hf => exact ha.batch d dd hold (by rw [hf]; rfl)
    | lose hf => exact ha.batch d dd hold (by rw [hf]; rfl)
  · exact (ha.scheduled l.slot).1 (ha.scheduled_of_owner hl hc)
  · cases hst

theorem Attended.inFlight_pos (ha : Attended w) {d : Nat} {dd : Dispatch V}
    {rs : List (Option (Batch V))} (hd : w.dispatches[d]? = some dd)
    (hst : dd.stage = .fetching rs) : 0 < (w.queue dd.slot).inFlight := by
  rw [ha.inFlight]
  exact List.countP_pos_of_getElem? hd (by simp [Dispatch.fetches, hst, Stage.isFetching])

theorem inFlight_succ_finish {d : Nat} {dd : Dispatch V} (hpos : 0 < (w.queue dd.slot).inFlight)
    (st : Stage V) (hs : List (Nat × Outcome V)) :
    ((w.finish d dd.slot st hs).queue dd.slot).inFlight + 1 = (w.queue dd.slot).inFlight := by
  rw [queue_finish, if_pos rfl]
  show (w.queue dd.slot).inFlight - 1 + 1 = _
  omega

/-- Where the fetch of a dispatch lands, the collector counts down by one, and never below zero. -/
theorem Attended.inFlight_of_landing (ha : Attended w) (h : Move rt w e as hs w') {d : Nat}
    {dd : Dispatch V} {rs : List (Option (Batch V))} (hd : w.dispatches[d]? = some dd)
    (hst : dd.stage = .fetching rs) {dd' : Dispatch V} (hd' : w'.dispatches[d]? = some dd')
    (hend : dd'.stage.isFetching = false) :
    (w'.queue dd.slot).inFlight + 1 = (w.queue dd.slot).inFlight := by
  have hpos := ha.inFlight_pos hd hst
  rcases h.of_landing hd hst hd' hend with ⟨results, -, -, rfl⟩ | ⟨n, l, -, -, -, -, rfl⟩
  · exact inFlight_succ_finish hpos .done hs
  · exact inFlight_succ_finish (w := w.setProgress n .dropped) hpos .lost hs

/-! ### Runs -/

theorem Attended.move (hw : Placed rt w) (ho : Once w) (ha : Attended w)
    (h : Move rt w e as hs w') : Attended w' where
  owner _ _ hl hc := ha.owner_move h hl hc
  yields _ _ _ _ hl hp := ha.yields_move h hl hp
  driver _ _ _ hl hp := ha.driver_move hw h hl hp
  scheduled t := ha.scheduled_move h t
  holders t := ha.holders_move hw ho h t
  inFlight t := ha.inFlight_move h t
  batch _ _ hd hst := ha.batch_move h hd hst

theorem Attended.setCache (ha : Attended w) (c : Option σ) (t : Nat) (a : List Nat) :
    Attended (w.setCache c t a) where
  owner := ha.owner
  yields := ha.yields
  driver := ha.driver
  scheduled := ha.scheduled
  holders := ha.holders
  inFlight := ha.inFlight
  batch := ha.batch

theorem Attended.step (hw : Placed rt w) (ho : Once w) (ha : Attended w) (e : Event V) :
    Attended (w.step rt e) := by
  obtain ⟨w', c, t, a, hm, h⟩ := exists_move rt w e
  rw [h]
  exact (ha.move hw ho hm).setCache c t a

theorem Attended.run (hw : Placed rt w) (ho : Once w) (ha : Attended w) (es : List (Event V)) :
    Attended (w.run rt es) := by
  induction es generalizing w with
  | nil => exact ha
  | cons e es ih => exact ih (hw.step e) (ho.step hw e) (ha.step hw ho e)

theorem attended_start (cache : Option σ) : Attended (start cache : World σ V) where
  owner := nofun
  yields := nofun
  driver := nofun
  scheduled s := by simp [start, queue]
  holders s := rfl
  inFlight s := rfl
  batch := nofun

/-- In every run open windows have one holder each. -/
theorem attended_run (rt : Runtime σ V) (cache : Option σ) (es : List (Event V)) :
    Attended ((start cache).run rt es) :=
  Attended.run (placed_start rt cache) (fun _ => Nat.zero_le _) (attended_start cache) es

/-! ### The law of a collector -/

/-- The phase of a collector, told from its holders and its outstanding fetches. -/
theorem Attended.phase_cases (ha : Attended w) (s : Slot) :
    w.phase s = .collecting ∧ w.holders s = 1 ∨
    w.phase s = .dispatching ∧ w.holders s = 0 ∧ 0 < w.outstanding s ∨
    w.phase s = .idle ∧ w.holders s = 0 ∧ w.outstanding s = 0 := by
  have hh := ha.holders s
  have hi := ha.inFlight s
  unfold phase Queue.phase
  by_cases hs : (w.queue s).scheduled = true
  · rw [if_pos hs] at hh ⊢
    exact .inl ⟨rfl, hh⟩
  · rw [if_neg hs] at hh ⊢
    by_cases hf : 0 < (w.queue s).inFlight
    · rw [if_pos hf]
      exact .inr (.inl ⟨rfl, hh, hi ▸ hf⟩)
    · rw [if_neg hf]
      exact .inr (.inr ⟨rfl, hh, by omega⟩)

/-- **The law of a collector**, for every key in every state that a session can reach.  A window is
open exactly while loads wait in it, and exactly while one task has still to drain it.  The
collector counts the drained dispatches whose fetches are outstanding, and the count is positive
whenever one of them lands.  No drain comes away with nothing.  The phase tells an undrained window
from an outstanding fetch, and both from none. -/
theorem collector_law (rt : Runtime σ V) (cache : Option σ) (es : List (Event V)) (s : Slot) :
    let w := (start cache).run rt es
    ((w.queue s).scheduled = true ↔ (w.queue s).pending.toList ≠ []) ∧
    ((w.queue s).scheduled = true ↔ w.holders s = 1) ∧ w.holders s ≤ 1 ∧
    (w.queue s).inFlight = w.outstanding s ∧
    (∀ (e : Event V) (d : Nat) (dd : Dispatch V), w.dispatches[d]? = some dd → dd.slot = s →
      dd.stage.isFetching = true →
      (∀ dd' : Dispatch V, (w.step rt e).dispatches[d]? = some dd' →
        dd'.stage.isFetching = false) →
      ((w.step rt e).queue s).inFlight + 1 = (w.queue s).inFlight) ∧
    (∀ (d : Nat) (dd : Dispatch V), w.dispatches[d]? = some dd → dd.slot = s →
      dd.stage.isSpawned = false → dd.batch ≠ []) ∧
    (w.phase s = .collecting ↔ w.holders s = 1) ∧
    (w.phase s = .dispatching ↔ w.holders s = 0 ∧ 0 < w.outstanding s) ∧
    (w.phase s = .idle ↔ w.holders s = 0 ∧ w.outstanding s = 0) := by
  intro w
  have ha : Attended w := attended_run rt cache es
  have hh := ha.holders s
  refine ⟨ha.scheduled s, ?_, ?_, ha.inFlight s, ?_, fun d dd hd _ => ha.batch d dd hd, ?_⟩
  · constructor
    · intro hs
      rw [hh, if_pos hs]
    · intro hone
      by_contra hs
      rw [hh, if_neg hs] at hone
      cases hone
  · rw [hh]
    split <;> omega
  · -- a dispatch that stops fetching has landed
    intro e d dd hd hs hf hend
    obtain ⟨w', c, t, a, hm, hstep⟩ := exists_move rt w e
    rw [hstep] at hend ⊢
    subst hs
    cases hst : dd.stage with
    | fetching rs =>
      obtain ⟨dd', hd', -⟩ := hm.dispatch_step hd
      exact ha.inFlight_of_landing hm hd hst hd' (hend dd' hd')
    | _ =>
      rw [hst] at hf
      cases hf
  · rcases ha.phase_cases s with ⟨hp, h⟩ | ⟨hp, h, ho⟩ | ⟨hp, h, ho⟩
    · simp [hp, h]
    · simp [hp, h, ho]
      omega
    · simp [hp, h, ho]

/-- Two windows of a key have been drained and a third is open.  When the owner of the first is
dropped, its fetch is counted off; the second has taken somebody. -/
theorem collector_law_overlapping :
    let es : List (Event Nat) := [.beginLoad users 1 "Nat", .poll 0, .beginLoad users 2 "Nat",
      .poll 1, .beginLoad users 3 "Nat"]
    let w := (start none).run usersOnly es
    ((w.step usersOnly (.drop 0)).queue users).inFlight + 1 = (w.queue users).inFlight ∧
      (w.queue users).inFlight = 2 ∧ w.phase users = .collecting ∧
      ∃ d : Dispatch Nat, w.dispatches[1]? = some d ∧ d.batch ≠ [] := by
  intro es w
  obtain ⟨-, -, -, -, hland, hbatch, hphase, -⟩ := collector_law usersOnly none es users
  refine ⟨hland (.drop 0) 0 _ rfl rfl rfl fun dd' h => ?_, by decide, hphase.2 (by decide),
    _, rfl, hbatch 1 _ rfl rfl rfl⟩
  obtain rfl := Option.some.inj h
  rfl

end World

end GraphLayer.Batching
