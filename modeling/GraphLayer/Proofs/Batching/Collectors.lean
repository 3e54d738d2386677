import GraphLayer.Proofs.Batching.Calls
import GraphLayer.Proofs.Batching.HandOver

/-!
# Collectors along a run

* `World.enqueued_run`: the count of enqueued loads grows by the loads that join;
* `World.Grown` and `World.GrowsAlong`: nothing has happened to the collector of a slot but that
  loads joined its window and fetches landed;
* `World.owner_run`: so it is while the owner of the window is neither polled nor dropped;
* `World.closed_run` and `World.opened`: a closed window stays closed until a load joins, which then
  waits in it alone;
* `World.batch_run`: what a dispatch has drained stays its batch.
-/

namespace GraphLayer.Batching

variable {σ V : Type}

/-- An event is about a load, other than its beginning: it polls the load, or drops it. -/
def Event.Touches (n : Nat) : Event V → Prop
  | .poll m | .drop m | .dropOutside m => m = n
  | _ => False

theorem Event.Drops.touches {n : Nat} {e : Event V} (h : e.Drops n) : e.Touches n := by
  cases e with
  | drop m => exact h
  | dropOutside m => exact h
  | _ => cases h

theorem Event.not_touches {n : Nat} {e : Event V} (hpoll : e ≠ .poll n) (hdrop : ¬ e.Drops n) :
    ¬ e.Touches n := by
  intro ht
  cases e with
  | poll m => exact hpoll (congrArg Event.poll ht)
  | drop m => exact hdrop ht
  | dropOutside m => exact hdrop ht
  | _ => exact ht

namespace World

variable {rt : Runtime σ V} {w w' : World σ V} {e : Event V} {as : List Joining}
  {hs : List (Nat × Outcome V)}

/-! ### Enqueued loads -/

theorem Move.enqueued_eq (h : Move rt w e as hs w') (s : Slot) :
    (w'.queue s).enqueued = (w.queue s).enqueued + as.countP (·.slot = s) := by
  have hstep := h.queue_step s
  generalize w'.queue s = q at hstep ⊢
  cases hstep with
  | stay hno =>
    have hnone : as.countP (·.slot = s) = 0 := by
      refine List.countP_eq_zero.2 fun j hj => ?_
      simpa using hno j hj
    rw [hnone, Nat.add_zero]
  | join has =>
    rw [has]
    simp [Queue.enqueue]
  | drainOwned has | drainSpawned has | land has | giveUp has =>
    rw [has]
    rfl

/-- The count of enqueued loads of a slot grows by those that join in a run. -/
theorem enqueued_run (rt : Runtime σ V) (w : World σ V) (es : List (Event V)) (s : Slot) :
    ((w.run rt es).queue s).enqueued =
      (w.queue s).enqueued + (w.joined rt es).countP (·.slot = s) := by
  induction es generalizing w with
  | nil => rfl
  | cons e es ih =>
    obtain ⟨w', c, t, a, hm, h⟩ := exists_move rt w e
    have hstep : ((w.step rt e).queue s).enqueued =
        (w.queue s).enqueued + (w.joinings rt e).countP (·.slot = s) := by
      rw [h]
      exact hm.enqueued_eq s
    rw [run_cons, ih, hstep, joined, List.countP_append, Nat.add_assoc]

/-! ### Windows that only grow -/

/-- On the way from one world to another one, with the loads that joined and the dispatches that
drained there, nothing has happened to the collector of a slot but that loads joined its window and
fetches landed. -/
structure Grown (w w' : World σ V) (js : List Joining) (dds : List (Dispatch V)) (s : Slot) :
    Prop where
  waiting : ∀ id, w'.waiting s id = w.waiting s id ++ joinersOf js s id
  drained : ∀ dd ∈ dds, dd.slot ≠ s
  inFlight : (w'.queue s).inFlight ≤ (w.queue s).inFlight

theorem Grown.refl (w : World σ V) (s : Slot) : Grown w w [] [] s where
  waiting _ := (List.append_nil _).symm
  drained := nofun
  inFlight := Nat.le_refl _

theorem Grown.trans {w'' : World σ V} {js ks : List Joining} {dds dds' : List (Dispatch V)}
    {s : Slot} (h : Grown w w' js dds s) (h' : Grown w' w'' ks dds' s) :
    Grown w w'' (js ++ ks) (dds ++ dds') s where
  waiting id := by rw [h'.waiting, h.waiting, joinersOf_append, List.append_assoc]
  drained dd hdd := by
    rcases List.mem_append.1 hdd with hdd | hdd
    · exact h.drained dd hdd
    · exact h'.drained dd hdd
  inFlight := Nat.le_trans h'.inFlight h.inFlight

/-- In the course of some events the window of a slot has only grown. -/
def GrowsAlong (rt : Runtime σ V) (w : World σ V) (es : List (Event V)) (s : Slot) : Prop :=
  Grown w (w.run rt es) (w.joined rt es) (w.drained rt es) s

theorem GrowsAlong.append {es fs : List (Event V)} {s : Slot} (h : GrowsAlong rt w es s)
    (h' : GrowsAlong rt (w.run rt es) fs s) : GrowsAlong rt w (es ++ fs) s := by
  rw [GrowsAlong, run_append, joined_append, drained_append]
  exact h.trans h'

/-- A step after which a window is open has only let it grow. -/
theorem grown_of_scheduled (rt : Runtime σ V) (e : Event V) {s : Slot}
    (hopen : ((w.step rt e).queue s).scheduled = true) :
    Grown w (w.step rt e) (w.joinings rt e) (w.drains rt e) s where
  waiting id := by
    obtain ⟨w', c, t, a, hm, h⟩ := exists_move rt w e
    rw [h] at hopen ⊢
    exact hm.waiting_of_scheduled hopen id
  drained dd hdd := by
    rintro rfl
    rcases drains_cases rt w e with ⟨hnone, -⟩ | ⟨d, di, hd, hone⟩
    · rw [hnone] at hdd
      cases hdd
    · rw [hone] at hdd
      obtain rfl := List.mem_singleton.1 hdd
      rw [hd.queue, if_pos rfl] at hopen
      cases hopen
  inFlight := by
    obtain ⟨w', c, t, a, hm, h⟩ := exists_move rt w e
    rw [h] at hopen ⊢
    have hstep := hm.queue_step s
    show (w'.queue s).inFlight ≤ _
    have hopen' : (w'.queue s).scheduled = true := hopen
    generalize w'.queue s = q at hstep hopen' ⊢
    cases hstep with
    | stay | join => exact Nat.le_refl _
    | land => exact Nat.sub_le _ _
    | drainOwned | drainSpawned | giveUp => cases hopen'

/-! ### The window of an owner -/

/-- An owner that is neither polled nor dropped goes on to wait. -/
theorem Move.collecting_stays (hw : Placed rt w) (ho : Once w) (ha : Attended w)
    (h : Move rt w e as hs w') {n : Nat} {l : Load V} (hl : w.loads[n]? = some l)
    (hc : l.progress.isCollecting = true) (he : ¬ e.Touches n) : w'.loads[n]? = some l := by
  have hother {m : Nat} {p : Progress V} (hne : m ≠ n) :
      (w.setProgress m p).loads[n]? = some l := (List.getElem?_modify_ne _ _ hne).trans hl
  have hfree {d : Nat} {dd : Dispatch V} (hd : w.dispatches[d]? = some dd) : n ∉ dd.waiters := by
    intro hn
    rw [ha.not_collecting ho hd hn hl] at hc
    cases hc
  cases h with
  | stay | drainSpawned | fetched => exact hl
  | arrive | join => exact (List.getElem?_append_left (List.getElem?_eq_some_iff.1 hl).1).trans hl
  | wait => exact hother he
  | drainOwned => exact hother he
  | handOver => exact hother he
  | complete hd hst =>
    refine (getElem?_receiveAll_of_not_mem ?_).trans hl
    rw [hw.map_fst_handouts hd hst]
    exact hfree hd
  | leave hdrop => rcases hdrop with rfl | rfl <;> exact hother he
  | lose hdrop hk hp hd =>
    refine (getElem?_receiveAll_of_not_mem ?_).trans (hother ?_)
    · rw [map_fst_abandonments]
      exact hfree hd
    · rcases hdrop with rfl | rfl <;> exact he
  | @giveUp m k y seen hk hp =>
    refine (getElem?_receiveAll_of_not_mem ?_).trans (hother he)
    rw [map_fst_abandonments]
    intro hn
    -- of those who wait in the window that is given up only its owner owns one
    have hnot := ha.not_collecting_of_waiters hw hk (by rw [hp]; rfl) hn hl (Ne.symm he)
    rw [hnot] at hc
    cases hc

/-- **The window of an owner.**  While the owner is neither polled nor dropped, it waits as it did,
and its window only grows. -/
theorem owner_run (hw : Placed rt w) (ho : Once w) (ha : Attended w) {n : Nat} {l : Load V}
    (hl : w.loads[n]? = some l) (hc : l.progress.isCollecting = true) {es : List (Event V)}
    (hes : ∀ e ∈ es, ¬ e.Touches n) :
    (w.run rt es).loads[n]? = some l ∧
      GrowsAlong rt w es l.slot := by
  induction es generalizing w with
  | nil => exact ⟨hl, .refl w l.slot⟩
  | cons e es ih =>
    have hw₁ := hw.step e
    have ho₁ := ho.step hw e
    have ha₁ := ha.step hw ho e
    have hl₁ : (w.step rt e).loads[n]? = some l := by
      obtain ⟨w', c, t, a, hm, h⟩ := exists_move rt w e
      have hstays := hm.collecting_stays hw ho ha hl hc (hes e List.mem_cons_self)
      rw [h]
      exact hstays
    have hgrown := grown_of_scheduled rt e (ha₁.scheduled_of_owner hl₁ hc)
    obtain ⟨hl₂, hgrown₂⟩ := ih hw₁ ho₁ ha₁ hl₁ fun x hx => hes x (List.mem_cons_of_mem e hx)
    exact ⟨hl₂, hgrown.trans hgrown₂⟩

/-! ### Closed windows -/

/-- A load of the slot joins a window in the course of some events. -/
def Joins (rt : Runtime σ V) (s : Slot) (w : World σ V) (es : List (Event V)) : Prop :=
  ∃ j ∈ w.joined rt es, j.slot = s

theorem countP_joined_eq_zero_iff {s : Slot} {es : List (Event V)} :
    (w.joined rt es).countP (·.slot = s) = 0 ↔ ¬ Joins rt s w es := by
  simp [Joins, List.countP_eq_zero]

theorem Attended.pending_of_closed (ha : Attended w) {s : Slot}
    (hclosed : (w.queue s).scheduled = false) : (w.queue s).pending.toList = [] := by
  by_contra hne
  rw [(ha.scheduled s).2 hne] at hclosed
  cases hclosed

/-- A step in which nobody joins leaves a closed window closed. -/
theorem closed_step (hw : Placed rt w) (ho : Once w) (ha : Attended w) {s : Slot}
    (hclosed : (w.queue s).scheduled = false) (hno : ∀ j ∈ w.joinings rt e, j.slot ≠ s) :
    ((w.step rt e).queue s).scheduled = false ∧
      Grown w (w.step rt e) (w.joinings rt e) (w.drains rt e) s := by
  obtain ⟨w', c, t, a, hm, h⟩ := exists_move rt w e
  have hstep := hm.queue_step s
  have hcollector : (w'.queue s).scheduled = false ∧
      (w'.queue s).inFlight ≤ (w.queue s).inFlight := by
    generalize w'.queue s = q at hstep ⊢
    cases hstep with
    | stay => exact ⟨hclosed, Nat.le_refl _⟩
    | join has => exact absurd rfl (hno _ (has ▸ List.mem_singleton_self _))
    | drainOwned has he hl hs hp =>
      subst hs
      rw [ha.scheduled_of_owner hl (by rw [hp]; rfl)] at hclosed
      cases hclosed
    | drainSpawned has hd hs hst =>
      subst hs
      rw [ha.scheduled_of_spawned hd (by rw [hst]; rfl)] at hclosed
      cases hclosed
    | land => exact ⟨hclosed, Nat.sub_le _ _⟩
    | giveUp => exact ⟨rfl, Nat.le_refl _⟩
  have hclosed' : ((w.step rt e).queue s).scheduled = false := by
    rw [h]
    exact hcollector.1
  have ha' : Attended (w.step rt e) := ha.step hw ho e
  refine ⟨hclosed', ?_, ?_, ?_⟩
  · intro id
    have hnone : joinersOf (w.joinings rt e) s id = [] := by
      rw [joinersOf, List.map_eq_nil_iff, List.filter_eq_nil_iff]
      intro j hj hsame
      exact hno j hj (of_decide_eq_true hsame).1
    rw [hnone, waiting, waiting, ha.pending_of_closed hclosed, ha'.pending_of_closed hclosed']
    rfl
  · intro dd hdd
    rintro rfl
    rcases drains_cases rt w e with ⟨hnone, -⟩ | ⟨d, di, hd, hone⟩
    · rw [hnone] at hdd
      cases hdd
    · -- a dispatch that drains takes somebody
      rw [hone] at hdd
      obtain rfl := List.mem_singleton.1 hdd
      have hne := ha'.batch d dd hd.dispatch hd.isSpawned
      rw [hd.batch] at hne
      exact hne (ha.pending_of_closed hclosed)
  · rw [h]
    exact hcollector.2

/-- **A closed window** stays closed until a load joins, and nothing is drained for it. -/
theorem closed_run (hw : Placed rt w) (ho : Once w) (ha : Attended w) {s : Slot}
    (hclosed : (w.queue s).scheduled = false) {es : List (Event V)} (hno : ¬ Joins rt s w es) :
    ((w.run rt es).queue s).scheduled = false ∧
      GrowsAlong rt w es s := by
  induction es generalizing w with
  | nil => exact ⟨hclosed, .refl w s⟩
  | cons e es ih =>
    have hfirst : ∀ j ∈ w.joinings rt e, j.slot ≠ s := fun j hj hs =>
      hno ⟨j, List.mem_append_left _ hj, hs⟩
    have hrest : ¬ Joins rt s (w.step rt e) es := fun ⟨j, hj, hs⟩ =>
      hno ⟨j, List.mem_append_right _ hj, hs⟩
    obtain ⟨hclosed₁, hgrown₁⟩ := closed_step hw ho ha hclosed hfirst
    obtain ⟨hclosed₂, hgrown₂⟩ := ih (hw.step e) (ho.step hw e) (ha.step hw ho e) hclosed₁ hrest
    exact ⟨hclosed₂, hgrown₁.trans hgrown₂⟩

/-! ### New windows -/

/-- What it takes to join: the load is of the slot, its key is registered and its value is not found
in the cache. -/
theorem joins_singleton_iff {s : Slot} : Joins rt s w [e] ↔
    ∃ id expected, e = .beginLoad s id expected ∧ rt.loaders.contains s.key = true ∧
      (w.lookup rt ⟨s.key, id⟩).1 = none := by
  have hone : w.joined rt [e] = w.joinings rt e := by rw [joined, joined, List.append_nil]
  rw [Joins, hone]
  constructor
  · rintro ⟨j, hj, rfl⟩
    cases e with
    | beginLoad t id expected =>
      simp only [joinings] at hj
      split at hj
      · next hjoins =>
        obtain rfl := List.mem_singleton.1 hj
        exact ⟨id, expected, rfl, hjoins.1, Option.isNone_iff_eq_none.1 hjoins.2⟩
      · cases hj
    | _ => cases hj
  · rintro ⟨id, expected, rfl, hk, hmiss⟩
    refine ⟨⟨w.loads.length, s, id⟩, ?_, rfl⟩
    simp [joinings, hk, hmiss]

theorem joinings_of_miss {s : Slot} {id : Int} (expected : String)
    (hk : rt.loaders.contains s.key = true) (hmiss : (w.lookup rt ⟨s.key, id⟩).1 = none) :
    w.joinings rt (.beginLoad s id expected) = [⟨w.loads.length, s, id⟩] := by
  simp [joinings, hk, hmiss]

/-- A load that finds its window closed opens it: it is its owner, and waits in it alone. -/
theorem opened (ha : Attended w) {s : Slot} (hclosed : (w.queue s).scheduled = false) {id : Int}
    (expected : String) (hk : rt.loaders.contains s.key = true)
    (hmiss : (w.lookup rt ⟨s.key, id⟩).1 = none) :
    let w₁ := w.step rt (.beginLoad s id expected)
    w₁.loads[w.loads.length]? = some ⟨s, id, expected, .collecting 0 (w₁.queue s).enqueued⟩ ∧
      (w₁.queue s).pending.toList = [(id, [w.loads.length])] ∧
      (w₁.queue s).inFlight = (w.queue s).inFlight := by
  intro w₁
  obtain ⟨w', c, t, a, hm, h⟩ := exists_move rt w (.beginLoad s id expected)
  rw [joinings_of_miss expected hk hmiss] at hm
  have hsame : w₁ = w'.setCache c t a := h
  rw [hsame]
  cases hm with
  | join =>
    have hqueue : (w.join s id expected).queue s = (w.queue s).enqueue id w.loads.length := by
      rw [queue_join, if_pos rfl]
    refine ⟨?_, ?_, ?_⟩
    · show (w.join s id expected).loads[w.loads.length]? =
        some ⟨s, id, expected, .collecting 0 ((w.join s id expected).queue s).enqueued⟩
      rw [loads_join, List.getElem?_concat_length, hqueue, hclosed]
      rfl
    · show ((w.join s id expected).queue s).pending.toList = _
      rw [hqueue]
      show Ascending.upsert id _ (w.queue s).pending.toList = _
      rw [ha.pending_of_closed hclosed]
      rfl
    · show ((w.join s id expected).queue s).inFlight = _
      rw [hqueue]
      rfl

/-- Whoever waits in a window has waited in it before, or has just joined. -/
theorem mem_waiting_step (hw : Placed rt w) (ho : Once w) (ha : Attended w) {s : Slot} {id : Int}
    {n : Nat} (hn : n ∈ (w.step rt e).waiting s id) :
    n ∈ w.waiting s id ∨ n ∈ joinersOf (w.joinings rt e) s id := by
  have hopen : ((w.step rt e).queue s).scheduled = true := by
    refine ((ha.step hw ho e).scheduled s).2 fun hnil => ?_
    rw [waiting, hnil] at hn
    cases hn
  rw [(grown_of_scheduled rt e hopen).waiting] at hn
  exact List.mem_append.1 hn

/-- Whoever waits where a window was closed has joined since. -/
theorem mem_waiting_run (hw : Placed rt w) (ho : Once w) (ha : Attended w) {s : Slot}
    (hclosed : (w.queue s).scheduled = false) (es : List (Event V)) {id : Int} {n : Nat}
    (hn : n ∈ (w.run rt es).waiting s id) : n ∈ joinersOf (w.joined rt es) s id := by
  induction es using List.reverseRecOn with
  | nil =>
    have hnone : w.waiting s id = [] := by rw [waiting, ha.pending_of_closed hclosed]; rfl
    have hn' : n ∈ w.waiting s id := hn
    rw [hnone] at hn'
    cases hn'
  | append_singleton es e ih =>
    rw [run_concat] at hn
    rw [joined_concat, joinersOf_append, List.mem_append]
    exact (mem_waiting_step (hw.run es) (ho.run hw es) (ha.run hw ho es) hn).imp_left ih

/-- The batch of a dispatch stays as it was drained. -/
theorem batch_run (rt : Runtime σ V) (es : List (Event V)) {d : Nat} {dd : Dispatch V}
    (hd : w.dispatches[d]? = some dd) (hst : dd.stage.isSpawned = false) :
    ∃ dd' : Dispatch V, (w.run rt es).dispatches[d]? = some dd' ∧ dd'.slot = dd.slot ∧
      dd'.batch = dd.batch ∧ dd'.stage.isSpawned = false := by
  induction es generalizing w dd with
  | nil => exact ⟨dd, hd, rfl, rfl, hst⟩
  | cons e es ih =>
    obtain ⟨w', c, t, a, hm, h⟩ := exists_move rt w e
    obtain ⟨d₁, hd₁, hstep⟩ := hm.dispatch_step hd
    have hkept : d₁.batch = dd.batch ∧ d₁.stage.isSpawned = false := by
      cases hstep with
      | stay => exact ⟨rfl, hst⟩
      | drain hsp =>
        rw [hsp] at hst
        cases hst
      | fetched | complete | lose => exact ⟨rfl, rfl⟩
    have hd' : (w.step rt e).dispatches[d]? = some d₁ := by
      rw [h]
      exact hd₁
    obtain ⟨d₂, hd₂, hs₂, hb₂, hst₂⟩ := ih hd' hkept.2
    exact ⟨d₂, hd₂, hs₂.trans hstep.slot, hb₂.trans hkept.1, hst₂⟩

end World

end GraphLayer.Batching
