import Mathlib.Data.List.Dedup
import Mathlib.Data.List.Sort
import GraphLayer.Batching.Executor
import GraphLayer.Proofs.Batching.Flights
import GraphLayer.Proofs.Batching.Gathering

/-!
# Many ids in one window

* `World.exists_load_of_joined`: a load that has joined, and that nobody drops, is still there;
* `World.exists_outcomes_of_lands`: what the loads of a dispatch are handed when it lands;
* `World.Aloft.answers`: a dispatch whose loads are not dropped stays aloft or answers them all;
* `World.BegunTogether`: loads of many ids that are begun before one of them is polled again, as
  `Executor.pollAll` begins them;
* `World.load_many_one_window`: they make one window, which is fetched once, and answer in their
  order.
-/

namespace GraphLayer.Batching

variable {σ V : Type}

/-- The first polls of some calls begin their loads, one after the other. -/
theorem Executor.world_pollAll [Typed V] (rt : Runtime σ V) (x : Executor σ V) {ts : List (Call V)}
    (hfresh : ∀ t ∈ ts, t.answer = none ∧ t.delay = 0 ∧ t.load = none) :
    (x.pollAll rt ts).2.world =
      x.world.run rt (ts.map fun t => .beginLoad t.slot t.id t.expected) := by
  induction ts generalizing x with
  | nil => rfl
  | cons t ts ih =>
    obtain ⟨hanswer, hdelay, hload⟩ := hfresh t List.mem_cons_self
    have hpoll : (x.pollCall rt t).2 = x.step rt (.beginLoad t.slot t.id t.expected) := by
      simp [pollCall, hanswer, hdelay, hload]
    show (((x.pollCall rt t).2).pollAll rt ts).2.world = _
    rw [hpoll]
    exact ih _ fun u hu => hfresh u (List.mem_cons_of_mem t hu)

namespace World

variable {rt : Runtime σ V} {w : World σ V}

/-! ### Loads that have joined -/

/-- A load that joins has begun in one of the events. -/
theorem exists_begin_of_joined {es : List (Event V)} {j : Joining} (hj : j ∈ w.joined rt es) :
    ∃ es₁ x es₂, es = es₁ ++ .beginLoad j.slot j.id x :: es₂ ∧ ∃ l : Load V,
      (w.run rt (es₁ ++ [.beginLoad j.slot j.id x])).loads[j.load]? = some l ∧ l.slot = j.slot ∧
      l.id = j.id ∧ l.expected = x ∧ l.progress ≠ .dropped := by
  induction es generalizing w with
  | nil => cases hj
  | cons e es ih =>
    rcases List.mem_append.1 hj with hj | hj
    · obtain ⟨w', c, t, a, hm, h⟩ := exists_move rt w e
      generalize w.joinings rt e = as at hm hj
      generalize w.handed rt e = hs at hm
      cases hm with
      | join s id x hk =>
        obtain rfl := List.mem_singleton.1 hj
        have hl : (w.step rt (.beginLoad s id x)).loads[w.loads.length]? = some ⟨s, id, x,
            if (w.queue s).scheduled then .waiting
            else .collecting 0 ((w.queue s).enqueued + 1)⟩ := by
          rw [h]
          exact List.getElem?_concat_length
        refine ⟨[], x, es, rfl, _, hl, rfl, rfl, rfl, ?_⟩
        show (if _ then _ else _) ≠ _
        split <;> nofun
      | _ => cases hj
    · obtain ⟨es₁, x, es₂, rfl, hl⟩ := ih hj
      exact ⟨e :: es₁, x, es₂, rfl, hl⟩

/-- A load that has joined, and that nobody drops, is there and asks for what it was begun for. -/
theorem exists_load_of_joined {es fs : List (Event V)} {j : Joining} {s : Slot} {x : String}
    (hx : ∀ p ∈ begun s es, p.2 = x) (hj : j ∈ w.joined rt es) (hs : j.slot = s)
    (hkept : ∀ e ∈ es ++ fs, ¬ e.Drops j.load) :
    ∃ l : Load V, (w.run rt (es ++ fs)).loads[j.load]? = some l ∧ l.slot = s ∧ l.id = j.id ∧
      l.expected = x ∧ l.progress ≠ .dropped := by
  subst hs
  obtain ⟨es₁, y, es₂, rfl, l, hl, hs, hid, hy, hp⟩ := exists_begin_of_joined hj
  have hsame : y = x := hx _ (mem_begun (List.mem_append_right _ List.mem_cons_self))
  have hrun : w.run rt (es₁ ++ .beginLoad j.slot j.id y :: es₂ ++ fs) =
      (w.run rt (es₁ ++ [.beginLoad j.slot j.id y])).run rt (es₂ ++ fs) := by
    rw [← run_append]
    simp
  obtain ⟨l', hl', hs', hid', hy'⟩ := (continues_run rt _ (es₂ ++ fs)).find _ l hl
  rw [hrun]
  refine ⟨l', hl', hs'.trans hs, hid'.trans hid, (hy'.trans hy).trans hsame, ?_⟩
  refine not_dropped_run rt hl hp (fun e he => hkept e ?_) hl'
  simp only [List.mem_append, List.mem_cons] at he ⊢
  tauto

/-! ### What the loads get -/

/-- When a dispatch lands, there is an outcome for each id of its batch: what the answer to the
chunk of the id says of it.  All who wait for the id are handed this outcome. -/
theorem exists_outcomes_of_lands (rt : Runtime σ V) (cache : Option σ) {es₁ : List (Event V)}
    (es₂ : List (Event V)) {e : Event V} {s : Slot} {d : Nat} {b : List (Int × List Nat)}
    {results : List (Batch V)} (h : Lands rt ((start cache).run rt es₁) e s d b results) :
    ∃ f : Int → Outcome V, ∀ id ∈ b.map Prod.fst,
      (∃ x ∈ (start cache).served rt (es₁ ++ e :: es₂), x.dispatch = d ∧ x.slot = s ∧
        (chunks rt.maxBatchSize (b.map Prod.fst))[x.chunk]? = some x.ids ∧ id ∈ x.ids ∧
        Says id x.result (f id)) ∧
      ∀ n ∈ waitersOf b id, (n, f id) ∈ (start cache).handedBy rt (es₁ ++ e :: es₂) := by
  have hkeys := (placed_run rt cache es₁).map_fst_outcomesOf h.dispatch rfl
  have houtcome (id : Int) :
      ∃ o, id ∈ b.map Prod.fst → (id, o) ∈ outcomesOf rt b results := by
    by_cases hid : id ∈ b.map Prod.fst
    · have hmem : id ∈ (outcomesOf rt b results).map Prod.fst := by rwa [hkeys]
      obtain ⟨⟨id', o⟩, ho, rfl⟩ := List.mem_map.1 hmem
      exact ⟨o, fun _ => ho⟩
    · exact ⟨.ok none, fun hmem => absurd hmem hid⟩
  choose f hf using houtcome
  refine ⟨f, fun id hid => ⟨?_, fun n hn => ?_⟩⟩
  · obtain ⟨x, hx, hd, hs, hids, hmem, ho⟩ :=
      (traced_run rt cache es₁).served_of_outcome h.dispatch rfl (hf id hid)
    refine ⟨x, ?_, hd, hs, hids, hmem, ho ▸ says_outcomeOf id x.result⟩
    rw [served_append]
    exact List.mem_append_left _ hx
  · rw [handedBy_append, handedBy, h.handed]
    exact List.mem_append_right _
      (List.mem_append_left _ (mem_handouts_iff.2 ⟨id, hf id hid, hn⟩))

/-- The batch `b` of a slot holds the loads `js`, each under its id; they ask for values of the type
`expected`, and none of them has been dropped. -/
structure Carries (w : World σ V) (s : Slot) (b : List (Int × List Nat)) (expected : String)
    (js : List Joining) : Prop where
  slot : ∀ j ∈ js, j.slot = s
  waiters : ∀ id n, n ∈ waitersOf b id ↔ ⟨n, s, id⟩ ∈ js
  loads : ∀ j ∈ js, ∃ l : Load V, w.loads[j.load]? = some l ∧ l.slot = s ∧ l.id = j.id ∧
    l.expected = expected ∧ l.progress ≠ .dropped

/-- The loads `js` of a slot, each for one of the ids, have got their answers: nothing is collected
or fetched for the slot any more, and each load has, as a value of the type asked for, what the
answer to the chunk of its own id says of this id, among the calls of the dispatch `d`. -/
structure AllAnswered [Typed V] (rt : Runtime σ V) (es : List (Event V)) (s : Slot) (d : Nat)
    (calls : List (List Int)) (ids : List Int) (expected : String) (js : List Joining) : Prop where
  idle : ((start none : World σ V).run rt es).phase s = .idle
  answers : ∃ f : Int → Outcome V,
    (∀ id ∈ ids, ∃ x ∈ (start none : World σ V).served rt es, x.dispatch = d ∧ x.slot = s ∧
      calls[x.chunk]? = some x.ids ∧ id ∈ x.ids ∧ Says id x.result (f id)) ∧
    js.map (fun j => ((start none : World σ V).run rt es).result? j.load) =
      ids.map fun id => some ((f id).cast s.key expected)

section Answers

variable {s : Slot} {n d : Nat} {b : List (Int × List Nat)} {expected : String} {js : List Joining}

theorem Carries.mem_waitersOf (h : Carries w s b expected js) {j : Joining} (hj : j ∈ js) :
    j.load ∈ waitersOf b j.id := by
  obtain ⟨m, t, id⟩ := j
  obtain rfl : t = s := h.slot _ hj
  exact (h.waiters id m).2 hj

/-- Nobody in a batch is dropped if none of its loads is. -/
theorem Carries.kept (h : Carries w s b expected js) (hb : (b.map Prod.fst).Nodup) {e : Event V}
    (hkept : ∀ j ∈ js, ¬ e.Drops j.load) : ∀ m ∈ b.flatMap Prod.snd, ¬ e.Drops m := by
  intro m hm
  obtain ⟨id, hid⟩ := (mem_flatMap_snd_iff hb).1 hm
  exact hkept _ ((h.waiters id m).1 hid)

theorem Carries.run (h : Carries w s b expected js) (rt : Runtime σ V) {es : List (Event V)}
    (hkept : ∀ j ∈ js, ∀ e ∈ es, ¬ e.Drops j.load) : Carries (w.run rt es) s b expected js where
  slot := h.slot
  waiters := h.waiters
  loads j hj := by
    obtain ⟨l, hl, rfl, hid, rfl, hp⟩ := h.loads j hj
    obtain ⟨l', hl', hs', hid', hx'⟩ := (continues_run rt w es).find _ l hl
    exact ⟨l', hl', hs', hid'.trans hid, hx', not_dropped_run rt hl hp (hkept j hj) hl'⟩

theorem Aloft.mem_taken (h : Aloft w s n d b) {id : Int} {m : Nat} (hm : m ∈ waitersOf b id) :
    m ∈ w.taken := by
  obtain ⟨rs, hd⟩ := h.dispatch
  exact List.mem_flatMap.2 ⟨_, List.mem_of_getElem? hd, mem_flatMap_of_mem_waitersOf hm⟩

variable [Typed V]

theorem allAnswered_of_lands (rt : Runtime σ V) {es₁ es₂ : List (Event V)} {e : Event V}
    {results : List (Batch V)} (hlands : Lands rt ((start none).run rt es₁) e s d b results)
    (hlanded : Landed ((start none).run rt (es₁ ++ e :: es₂)) s d b)
    (hb : Carries ((start none).run rt (es₁ ++ e :: es₂)) s b expected js) :
    AllAnswered rt (es₁ ++ e :: es₂) s d (chunks rt.maxBatchSize (b.map Prod.fst))
      (js.map Joining.id) expected js := by
  obtain ⟨f, hf⟩ := exists_outcomes_of_lands rt none es₂ hlands
  have hmem (j : Joining) (hj : j ∈ js) : j.id ∈ b.map Prod.fst := by
    by_contra hnot
    have hn := hb.mem_waitersOf hj
    rw [waitersOf_eq_nil hnot] at hn
    cases hn
  refine ⟨hlanded.phase, f, fun id hid => ?_, ?_⟩
  · obtain ⟨j, hj, rfl⟩ := List.mem_map.1 hid
    exact (hf j.id (hmem j hj)).1
  · rw [List.map_map]
    refine List.map_congr_left fun j hj => ?_
    have hgiven := (hf j.id (hmem j hj)).2 j.load (hb.mem_waitersOf hj)
    obtain ⟨l, hl, hp⟩ := (recorded_run rt none (es₁ ++ e :: es₂)).kept _ _ hgiven
    obtain ⟨k, hk, rfl, -, rfl, hkept⟩ := hb.loads j hj
    obtain rfl : k = l := Option.some.inj (hk.symm.trans hl)
    obtain ⟨t, id, x, p⟩ := k
    obtain rfl : p = .answered (f j.id) := hp.resolve_right hkept
    simp only [result?, hl, Function.comp_apply]

/-- **What becomes of a batch.**  While no load of the slot joins and none of the batch is dropped,
its dispatch stays aloft, or its loads have got their answers. -/
theorem Aloft.answers {es gs : List (Event V)} (h : Aloft ((start none).run rt es) s n d b)
    (hb : Carries ((start none).run rt es) s b expected js)
    (hno : ¬ Joins rt s ((start none).run rt es) gs)
    (hkept : ∀ j ∈ js, ∀ e ∈ gs, ¬ e.Drops j.load) :
    Aloft ((start none).run rt (es ++ gs)) s n d b ∨
      AllAnswered rt (es ++ gs) s d (chunks rt.maxBatchSize (b.map Prod.fst)) (js.map Joining.id)
        expected js := by
  have hw := placed_run rt (none : Option σ) es
  have ho := once_run rt (none : Option σ) es
  have ha := attended_run rt (none : Option σ) es
  obtain ⟨rs, hd⟩ := h.dispatch
  have hnd := (hw.batch d _ hd).nodup_keys
  have hcarried := hb.run rt hkept
  rcases h.run hw ho ha hno fun m hm e he =>
    hb.kept hnd (fun j hj => hkept j hj e he) m hm with
    haloft | ⟨hlanded, gs₁, e, gs₂, results, rfl, hlands⟩
  · rw [run_append]
    exact .inl haloft
  · right
    rw [← run_append] at hlands hlanded hcarried
    rw [← List.append_assoc] at hlanded hcarried ⊢
    exact allAnswered_of_lands rt hlands hlanded hcarried

/-- A load that waits in a window or is held by a dispatch has no answer yet. -/
theorem result?_eq_none (rt : Runtime σ V) (cache : Option σ) {es : List (Event V)} {j : Joining}
    (hj : j ∈ (start cache).joined rt es)
    (hplace : j.load ∈ ((start cache).run rt es).queued ∨
      j.load ∈ ((start cache).run rt es).taken) :
    ((start cache).run rt es).result? j.load = none := by
  have hnd := (ledger rt cache es).nodup_iff.2 (joined_nodup rt (start cache) es)
  have hnot : j.load ∉ ((start cache).handedBy rt es).map Prod.fst := fun hgiven =>
    List.disjoint_of_nodup_append hnd (List.mem_append.2 hplace) hgiven
  obtain ⟨l, hl, -⟩ := (recorded_run rt cache es).load j hj
  cases hr : ((start cache).run rt es).result? j.load with
  | none => rfl
  | some r =>
    obtain ⟨o, hp, -⟩ := exists_of_result? hl hr
    exact absurd hp ((recorded_run rt cache es).unanswered j l o hj hnot hl)

end Answers

/-! ### All together -/

theorem phase_eq_idle_iff {s : Slot} :
    w.phase s = .idle ↔ (w.queue s).scheduled = false ∧ (w.queue s).inFlight = 0 := by
  unfold phase Queue.phase
  cases (w.queue s).scheduled with
  | true => simp
  | false => simp

theorem phase_of_scheduled {s : Slot} (h : (w.queue s).scheduled = true) :
    w.phase s = .collecting := if_pos h

theorem mem_joinersOf_iff {js : List Joining} {s : Slot} {id : Int} {n : Nat} :
    n ∈ joinersOf js s id ↔ ⟨n, s, id⟩ ∈ js := by
  simp only [joinersOf, List.mem_map, List.mem_filter, decide_eq_true_eq]
  constructor
  · rintro ⟨j, ⟨hj, rfl, rfl⟩, rfl⟩
    exact hj
  · exact fun h => ⟨_, ⟨h, rfl, rfl⟩, rfl⟩

theorem joinersOf_of_not_joins {s : Slot} {es : List (Event V)} (h : ¬ Joins rt s w es) (id : Int) :
    joinersOf (w.joined rt es) s id = [] := by
  by_contra hne
  obtain ⟨j, hj, hs, -⟩ := joinersOf_ne_nil_iff.1 hne
  exact h ⟨j, hj, hs⟩

/-- Dispatches stay in their places. -/
theorem length_dispatches_le (rt : Runtime σ V) (w : World σ V) (es : List (Event V)) :
    w.dispatches.length ≤ (w.run rt es).dispatches.length := by
  induction es generalizing w with
  | nil => exact Nat.le_refl _
  | cons e es ih =>
    refine Nat.le_trans ?_ (ih (w.step rt e))
    obtain ⟨w', c, t, a, hm, h⟩ := exists_move rt w e
    rw [h]
    show w.dispatches.length ≤ w'.dispatches.length
    by_contra hlt
    obtain ⟨d', hd', -⟩ := hm.dispatch_step (List.getElem?_eq_getElem (Nat.lt_of_not_le hlt))
    exact Nat.lt_irrefl _ (List.getElem?_eq_some_iff.1 hd').1

/-- Where no window of a slot is drained, its loader is not called. -/
theorem called_eq_nil {s : Slot} {es : List (Event V)}
    (h : ∀ dd ∈ w.drained rt es, dd.slot ≠ s) : (w.called rt es).filter (·.slot = s) = [] := by
  rw [called_eq, List.filter_eq_nil_iff]
  intro c hc hs
  obtain ⟨dd, hdd, hc⟩ := List.mem_flatMap.1 hc
  obtain ⟨ids, -, rfl⟩ := List.mem_map.1 hc
  exact h dd hdd (of_decide_eq_true hs)

/-- An ascending list with the members of another one is that list, sorted and without its
repetitions. -/
theorem eq_insertionSort_dedup {xs ids : List Int} (hxs : Ascending xs)
    (hmem : ∀ id, id ∈ xs ↔ id ∈ ids) : xs = ids.dedup.insertionSort (· ≤ ·) := by
  have hle : xs.Pairwise (· ≤ ·) := hxs.pairwise_lt.imp Int.le_of_lt
  have hperm : xs.Perm (ids.dedup.insertionSort (· ≤ ·)) := by
    refine List.Perm.trans ?_ (List.perm_insertionSort _ _).symm
    rw [List.perm_ext_iff_of_nodup hxs.nodup (List.nodup_dedup ids)]
    exact fun id => (hmem id).trans List.mem_dedup.symm
  exact hperm.eq_of_pairwise (fun a b _ _ => Int.le_antisymm) hle
    (List.pairwise_insertionSort (· ≤ ·) _)

/-- The loads that join a window of a slot in the course of the events `evs`, after the events `es`
of a run without a cache. -/
def newcomers (rt : Runtime σ V) (es evs : List (Event V)) (s : Slot) : List Joining :=
  (((start none : World σ V).run rt es).joined rt evs).filter (·.slot = s)

theorem mem_newcomers_iff {es evs : List (Event V)} {s : Slot} {j : Joining} :
    j ∈ newcomers rt es evs s ↔
      j ∈ ((start none : World σ V).run rt es).joined rt evs ∧ j.slot = s := by
  simp [newcomers]

/-- After the events `es` of a run without a cache the key of a slot is idle, and the events `evs`
begin loads of the slot for `ids`, in this order, which all ask for values of the type `expected`.
They have all begun before one of them is polled again, and none is dropped. -/
structure BegunTogether (rt : Runtime σ V) (es evs : List (Event V)) (s : Slot) (ids : List Int)
    (expected : String) : Prop where
  registered : rt.loaders.contains s.key = true
  idle : ((start none : World σ V).run rt es).phase s = .idle
  loads : begun s evs = ids.map fun id => (id, expected)
  untouched : ∀ j ∈ newcomers rt es evs s, ∀ e ∈ evs, ¬ e.Touches j.load

/-- Some events begin no load of a slot and drop none of the loads `js`. -/
structure LeavesAlone (s : Slot) (js : List Joining) (es : List (Event V)) : Prop where
  quiet : begun s es = []
  kept : ∀ j ∈ js, ∀ e ∈ es, ¬ e.Drops j.load

section Together

variable {s : Slot} {ids : List Int} {expected : String} {es evs gs : List (Event V)}
  {js : List Joining}

theorem LeavesAlone.append (h : LeavesAlone s js es) (h' : LeavesAlone s js gs) :
    LeavesAlone s js (es ++ gs) where
  quiet := by rw [begun_append, h.quiet, h'.quiet, List.append_nil]
  kept j hj e he := (List.mem_append.1 he).elim (h.kept j hj e) (h'.kept j hj e)

theorem LeavesAlone.of_append (h : LeavesAlone s js (es ++ gs)) :
    LeavesAlone s js es ∧ LeavesAlone s js gs := by
  obtain ⟨hes, hgs⟩ := List.append_eq_nil_iff.1 ((begun_append s es gs).symm.trans h.quiet)
  exact ⟨⟨hes, fun j hj e he => h.kept j hj e (List.mem_append_left _ he)⟩,
    ⟨hgs, fun j hj e he => h.kept j hj e (List.mem_append_right _ he)⟩⟩

theorem LeavesAlone.not_joins (h : LeavesAlone s js gs) (hk : rt.loaders.contains s.key = true)
    (hc : w.cache = none) : ¬ Joins rt s w gs := fun hjoins => (joins_iff hk hc gs).1 hjoins h.quiet

theorem leavesAlone_poll (s : Slot) (js : List Joining) (n : Nat) :
    LeavesAlone s js ([.poll n] : List (Event V)) where
  quiet := rfl
  kept j _ e he := by
    obtain rfl := List.mem_singleton.1 he
    exact id

/-- Who polls a call for each of some ids, all for the first time, begins their loads together. -/
theorem begunTogether_of_pollAll [Typed V] (hk : rt.loaders.contains s.key = true)
    (hidle : ((start none : World σ V).run rt es).phase s = .idle) (ids : List Int)
    (expected : String) {x : Executor σ V} (hx : x.world = (start none).run rt es) :
    ∃ evs : List (Event V),
      (x.pollAll rt (ids.map fun id => ⟨s, id, expected, 0, none, none⟩)).2.world =
        (start none).run rt (es ++ evs) ∧ BegunTogether rt es evs s ids expected := by
  refine ⟨ids.map fun id => .beginLoad s id expected, ?_, hk, hidle, ?_, ?_⟩
  · rw [Executor.world_pollAll rt x (by simp), hx, ← run_append, List.map_map]
    rfl
  · rw [begun, List.filterMap_map, ← List.filterMap_eq_map]
    exact List.filterMap_congr fun id _ => if_pos rfl
  · intro j _ e he htouch
    obtain ⟨id, -, rfl⟩ := List.mem_map.1 he
    exact htouch

namespace BegunTogether

variable (h : BegunTogether rt es evs s ids expected)

include h

theorem map_id_newcomers : (newcomers rt es evs s).map Joining.id = ids := by
  have hids := ids_joined h.registered (cache_run_start rt es) evs
  rw [h.loads, List.map_map] at hids
  exact hids.trans (List.map_id ids)

theorem not_joins (hgs : LeavesAlone s (newcomers rt es evs s) gs) (fs : List (Event V)) :
    ¬ Joins rt s ((start none).run rt fs) gs :=
  hgs.not_joins h.registered (cache_run_start rt fs)

/-- The first of the loads drains their window. -/
theorem drainsAt (hgs : LeavesAlone s (newcomers rt es evs s) gs) {j₀ : Joining}
    (hj₀ : (newcomers rt es evs s).head? = some j₀) :
    GrowsAlong rt ((start none).run rt es) evs s ∧
      DrainsAt rt (((start none).run rt es).run rt evs) gs s j₀.load (min 2 ids.length) := by
  have hmem : j₀ ∈ newcomers rt es evs s := List.mem_of_mem_head? hj₀
  have hdrains := drainsAt_of_begun (placed_run rt none es) (once_run rt none es)
    (attended_run rt none es) h.registered (cache_run_start rt es) (phase_eq_idle_iff.1 h.idle).1
    hj₀ (h.untouched j₀ hmem) (hgs.kept j₀ hmem) hgs.quiet
  rwa [h.loads, List.length_map] at hdrains

/-- Who waits in the window, as long as it is not drained. -/
theorem waiting_eq (hgs : LeavesAlone s (newcomers rt es evs s) gs)
    (hgrown : GrowsAlong rt ((start none).run rt es) (evs ++ gs) s) (id : Int) :
    (((start none).run rt es).run rt (evs ++ gs)).waiting s id =
      joinersOf (((start none).run rt es).joined rt evs) s id := by
  have hclosed := (phase_eq_idle_iff.1 h.idle).1
  have hempty : ((start none : World σ V).run rt es).waiting s id = [] := by
    rw [waiting, (attended_run rt none es).pending_of_closed hclosed]
    rfl
  have hnone := h.not_joins hgs (es ++ evs)
  rw [run_append] at hnone
  rw [hgrown.waiting, hempty, List.nil_append, joined_append, joinersOf_append,
    joinersOf_of_not_joins hnone, List.append_nil]

/-- Until they are drained the loads wait in an open window. -/
theorem collecting [Typed V] (hgs : LeavesAlone s (newcomers rt es evs s) gs)
    (hgrown : GrowsAlong rt ((start none).run rt es) (evs ++ gs) s) :
    ((((start none).run rt es).called rt (evs ++ gs)).filter (·.slot = s)) = [] ∧
      ∀ j ∈ newcomers rt es evs s,
        (((start none).run rt es).run rt (evs ++ gs)).result? j.load = none := by
  refine ⟨called_eq_nil hgrown.drained, fun j hj => ?_⟩
  obtain ⟨hjoined, rfl⟩ := mem_newcomers_iff.1 hj
  have hwaits : j.load ∈
      (((start none).run rt es).run rt (evs ++ gs)).waiting j.slot j.id := by
    rw [h.waiting_eq hgs hgrown]
    exact mem_joinersOf_iff.2 hjoined
  rw [← run_append] at hwaits ⊢
  refine result?_eq_none rt none ?_ (.inl (mem_queued (mem_flatMap_of_mem_waitersOf hwaits)))
  rw [joined_append, joined_append]
  exact List.mem_append_right _ (List.mem_append_left _ hjoined)

/-- The loads ask for values of the type `expected`, and none of them has been dropped. -/
theorem exists_load (hgs : LeavesAlone s (newcomers rt es evs s) gs) {j : Joining}
    (hj : j ∈ newcomers rt es evs s) : ∃ l : Load V,
      (((start none).run rt es).run rt (evs ++ gs)).loads[j.load]? = some l ∧ l.slot = s ∧
      l.id = j.id ∧ l.expected = expected ∧ l.progress ≠ .dropped := by
  have hx : ∀ p ∈ begun s evs, p.2 = expected := by
    rw [h.loads]
    intro p hp
    obtain ⟨id, -, rfl⟩ := List.mem_map.1 hp
    rfl
  obtain ⟨hjoined, hs⟩ := mem_newcomers_iff.1 hj
  refine exists_load_of_joined hx hjoined hs fun e he => ?_
  rcases List.mem_append.1 he with he | he
  · exact fun hdrops => h.untouched j hj e he hdrops.touches
  · exact hgs.kept j hj e he

/-- When their window is drained, the loads are in the batch of a dispatch that is aloft. -/
theorem flight (hgs : LeavesAlone s (newcomers rt es evs s) gs)
    (hgrown : GrowsAlong rt ((start none).run rt es) (evs ++ gs) s) {j₀ : Joining}
    (hj₀ : j₀ ∈ newcomers rt es evs s)
    (hdrain : (((start none).run rt es).run rt (evs ++ gs)).step rt (.poll j₀.load) =
      (((start none).run rt es).run rt (evs ++ gs)).drainOwned rt s j₀.load) :
    let v := ((start none).run rt es).run rt (evs ++ gs)
    ∃ dd : Dispatch V, v.drains rt (.poll j₀.load) = [dd] ∧ dd.slot = s ∧
      dd.batch.map Prod.fst = ids.dedup.insertionSort (· ≤ ·) ∧
      Aloft (v.step rt (.poll j₀.load)) s j₀.load v.dispatches.length dd.batch ∧
      Carries (v.step rt (.poll j₀.load)) s dd.batch expected (newcomers rt es evs s) := by
  intro v
  have hv : (start none).run rt (es ++ (evs ++ gs)) = v := run_append ..
  have hw : Placed rt v := hv ▸ placed_run rt none _
  have ho : Once v := hv ▸ once_run rt none _
  have ha : Attended v := hv ▸ attended_run rt none _
  obtain ⟨l, hl, rfl, -⟩ := h.exists_load hgs hj₀
  obtain ⟨dd, hdd⟩ := exists_drainage hw ho ha hdrain (h.waiting_eq hgs hgrown)
  have hnone : (v.queue l.slot).inFlight = 0 :=
    Nat.le_zero.1 ((phase_eq_idle_iff.1 h.idle).2 ▸ hgrown.inFlight)
  have haloft := aloft_of_drainOwned rt hl hnone
  rw [← hdrain] at haloft
  have hbatch : dd.batch = (v.queue l.slot).pending.toList := by
    obtain ⟨rs, hd⟩ := haloft.dispatch
    rw [Option.some.inj (hdd.dispatch.symm.trans hd)]
  have hkeys (id : Int) : id ∈ dd.batch.map Prod.fst ↔ id ∈ ids := by
    have hcalls := hdd.ids id
    rw [Dispatch.calls, flatten_chunks] at hcalls
    rw [hcalls, ← h.map_id_newcomers, List.mem_map]
    simp only [mem_newcomers_iff, and_assoc]
  have hcarries : Carries v l.slot dd.batch expected (newcomers rt es evs l.slot) := by
    refine ⟨fun j hj => (mem_newcomers_iff.1 hj).2, fun id n => ?_, fun j => h.exists_load hgs⟩
    rw [hdd.waiters, mem_joinersOf_iff, mem_newcomers_iff, and_iff_left rfl]
  refine ⟨dd, hdd.drains, hdd.slot, eq_insertionSort_dedup ?_ hkeys, hbatch ▸ haloft,
    hcarries.run rt (leavesAlone_poll l.slot _ j₀.load).kept⟩
  rw [hbatch]
  exact (v.queue l.slot).pending.ascending

/-- Once they are drained the loader has been called for their ids, and not again. -/
theorem called_of_drained (hgs : LeavesAlone s (newcomers rt es evs s) gs) {fs : List (Event V)}
    {n d : Nat} {dd : Dispatch V}
    (hgrown : GrowsAlong rt ((start none).run rt es) (evs ++ fs) s)
    (hdrains : (((start none).run rt es).run rt (evs ++ fs)).drains rt (.poll n) = [dd])
    (hslot : dd.slot = s) (haloft : Aloft
      ((((start none).run rt es).run rt (evs ++ fs)).step rt (.poll n)) s n d dd.batch) :
    (((start none).run rt es).called rt (evs ++ (fs ++ .poll n :: gs))).filter (·.slot = s) =
      (dd.calls rt.maxBatchSize).map (Calling.mk s) := by
  have hv : (start none).run rt (es ++ (evs ++ fs) ++ [.poll n]) =
      (((start none).run rt es).run rt (evs ++ fs)).step rt (.poll n) := by
    rw [run_concat, run_append]
  have hw := hv ▸ placed_run rt (none : Option σ) _
  have ho := hv ▸ once_run rt (none : Option σ) _
  have ha := hv ▸ attended_run rt (none : Option σ) _
  have hnone := h.not_joins hgs (es ++ (evs ++ fs) ++ [.poll n])
  rw [hv] at hnone
  obtain ⟨-, hlater⟩ := closed_run hw ho ha haloft.closed hnone
  have hcallings : (((start none).run rt es).run rt (evs ++ fs)).callings rt (.poll n) =
      (dd.calls rt.maxBatchSize).map (Calling.mk s) := by
    have heq := callingsTo_eq rt (((start none).run rt es).run rt (evs ++ fs))
      ((((start none).run rt es).run rt (evs ++ fs)).step rt (.poll n))
    rw [callings, heq, ← drains, hdrains, List.flatMap_singleton, Dispatch.callings, hslot]
  rw [← List.append_assoc, called_append, List.filter_append, called_eq_nil hgrown.drained,
    List.nil_append, called, List.filter_append, called_eq_nil hlater.drained, List.append_nil,
    hcallings, List.filter_eq_self]
  intro c hc
  obtain ⟨ids', -, rfl⟩ := List.mem_map.1 hc
  exact decide_eq_true rfl

/-- From then on they are fetched, until they all have their answers: which is so at the latest when
all their chunks are answered and their owner is polled. -/
theorem dispatched [Typed V] (hgs : LeavesAlone s (newcomers rt es evs s) gs)
    {fs : List (Event V)} {n d : Nat} {b : List (Int × List Nat)}
    (haloft : Aloft ((((start none).run rt es).run rt (evs ++ fs)).step rt (.poll n)) s n d b)
    (hcarries : Carries ((((start none).run rt es).run rt (evs ++ fs)).step rt (.poll n)) s b
      expected (newcomers rt es evs s)) :
    let w' := ((start none).run rt es).run rt (evs ++ (fs ++ .poll n :: gs))
    let js := newcomers rt es evs s
    let calls := chunks rt.maxBatchSize (b.map Prod.fst)
    (w'.phase s = .dispatching ∧ (∀ j ∈ js, w'.result? j.load = none) ∧
      ∀ hs, LeavesAlone s js hs → (∀ c < calls.length, ∃ r, .fetched d c r ∈ hs) →
        AllAnswered rt (es ++ (evs ++ (fs ++ .poll n :: gs) ++ (hs ++ [.poll n]))) s d calls ids
          expected js) ∨
      AllAnswered rt (es ++ (evs ++ (fs ++ .poll n :: gs))) s d calls ids expected js := by
  intro w' js calls
  have hv : (start none).run rt (es ++ (evs ++ (fs ++ [.poll n]))) =
      (((start none).run rt es).run rt (evs ++ fs)).step rt (.poll n) := by
    rw [run_append, ← List.append_assoc, run_concat]
  rw [← hv] at haloft hcarries
  have hanswers (hs : List (Event V)) (hhs : LeavesAlone s js hs) :
      Aloft ((start none).run rt (es ++ (evs ++ (fs ++ .poll n :: hs)))) s n d b ∨
        AllAnswered rt (es ++ (evs ++ (fs ++ .poll n :: hs))) s d calls ids expected js := by
    have hall := haloft.answers hcarries (h.not_joins hhs _) hhs.kept
    rw [h.map_id_newcomers] at hall
    simpa using hall
  have hw' : (start none).run rt (es ++ (evs ++ (fs ++ .poll n :: gs))) = w' := run_append ..
  rcases hanswers gs hgs with hflies | hdone
  · left
    refine ⟨hw' ▸ hflies.phase, fun j hj => ?_, fun hs hhs hfetched => ?_⟩
    · obtain ⟨hjoined, -⟩ := mem_newcomers_iff.1 hj
      rw [← hw']
      refine result?_eq_none rt none ?_ (.inr (hflies.mem_taken (hcarries.mem_waitersOf hj)))
      rw [joined_append, joined_append]
      exact List.mem_append_right _ (List.mem_append_left _ hjoined)
    · have hnd : (b.map Prod.fst).Nodup := by
        obtain ⟨rs, hd⟩ := hflies.dispatch
        exact ((placed_run rt none _).batch d _ hd).nodup_keys
      have hlanded := hflies.lands (placed_run rt none _) (once_run rt none _)
        (attended_run rt none _) (h.not_joins hhs _)
        (fun m hm e he => hcarries.kept hnd (fun j hj => hhs.kept j hj e he) m hm) hfetched
      have hmore := hgs.append (hhs.append (leavesAlone_poll s js n))
      rw [← run_append] at hlanded
      simp only [List.append_assoc, List.cons_append] at hlanded ⊢
      exact (hanswers _ hmore).resolve_left fun haloft => haloft.not_landed hlanded
  · exact .inr hdone

end BegunTogether

/-- **Many ids in one window.**  In a session without a cache whose key is idle, let loads of some
ids be begun together, of any ids in any order: all of them before one of them is polled again.
Take any further events in which no other load of the key begins and none of these is dropped.

* Without ids no loader is called, and the key stays idle.
* Otherwise the first load is polled once, or twice if there are more, before anything is called.
  Until then the key is collecting, and there is no answer.
* Then the loader has been called once for each chunk of the distinct ids in ascending order.
  Either the key is dispatching, and there is no answer; when all chunks are answered, the next
  poll of the first load ends this.  Or the key is idle again and all loads have their answers, in
  the order of the ids: each has what the answer to the chunk of its id says of this id, the same
  for equal ids. -/
theorem load_many_one_window [Typed V] (h : BegunTogether rt es evs s ids expected)
    (gs : List (Event V)) (hgs : LeavesAlone s (newcomers rt es evs s) gs) :
    let w : World σ V := (start none).run rt es
    let w' := w.run rt (evs ++ gs)
    let js := newcomers rt es evs s
    let called := (w.called rt (evs ++ gs)).filter (·.slot = s)
    let distinct := ids.dedup.insertionSort (· ≤ ·)
    let calls := chunks rt.maxBatchSize distinct
    js.map Joining.id = ids ∧ CutInto (max 1 rt.maxBatchSize) distinct calls ∧
    (ids = [] → called = [] ∧ w'.phase s = .idle) ∧
    ∀ j₀, js.head? = some j₀ →
      let polls := gs.countP (Event.polls j₀.load)
      (polls < min 2 ids.length →
        called = [] ∧ w'.phase s = .collecting ∧ ∀ j ∈ js, w'.result? j.load = none) ∧
      (min 2 ids.length ≤ polls →
        called = calls.map (Calling.mk s) ∧ ∃ d, w.dispatches.length ≤ d ∧
          (w'.phase s = .dispatching ∧ (∀ j ∈ js, w'.result? j.load = none) ∧
              (∀ hs, LeavesAlone s js hs → (∀ c < calls.length, ∃ r, .fetched d c r ∈ hs) →
                AllAnswered rt (es ++ (evs ++ gs ++ (hs ++ [.poll j₀.load]))) s d calls ids
                  expected js) ∨
            AllAnswered rt (es ++ (evs ++ gs)) s d calls ids expected js)) := by
  intro w w' js called distinct calls
  refine ⟨h.map_id_newcomers, cutInto_chunks rt.maxBatchSize distinct, ?_, ?_⟩
  · intro hnil
    have hloads : begun s (evs ++ gs) = [] := by
      rw [begun_append, h.loads, hgs.quiet, hnil]
      rfl
    have hnone : ¬ Joins rt s w (evs ++ gs) := fun hjoins =>
      (joins_iff h.registered (cache_run_start rt es) _).1 hjoins hloads
    obtain ⟨hclosed, hidle⟩ := phase_eq_idle_iff.1 h.idle
    obtain ⟨hclosed', hgrown⟩ := closed_run (placed_run rt none es) (once_run rt none es)
      (attended_run rt none es) hclosed hnone
    refine ⟨called_eq_nil hgrown.drained, phase_eq_idle_iff.2 ⟨hclosed', ?_⟩⟩
    exact Nat.le_zero.1 (hidle ▸ hgrown.inFlight)
  · intro j₀ hj₀ polls
    obtain ⟨hgrown, ⟨hfew, hopen, hgrown'⟩ | ⟨gs₁, gs₂, rfl, hpolls, hgrown', hdrain⟩⟩ :=
      h.drainsAt hgs hj₀
    · have hall := hgrown.append hgrown'
      rw [← run_append] at hopen
      obtain ⟨hcalled, hresults⟩ := h.collecting hgs hall
      exact ⟨fun _ => ⟨hcalled, phase_of_scheduled hopen, hresults⟩,
        fun hmany => absurd hmany (Nat.not_le.2 hfew)⟩
    · have hone : Event.polls (V := V) j₀.load (.poll j₀.load) = true := beq_self_eq_true _
      have hmany : min 2 ids.length ≤ polls := by
        show _ ≤ (gs₁ ++ .poll j₀.load :: gs₂).countP (Event.polls j₀.load)
        rw [List.countP_append, List.countP_cons_of_pos hone]
        omega
      obtain ⟨hgs₁, hrest⟩ := hgs.of_append
      have hsplit : LeavesAlone s (newcomers rt es evs s) ([.poll j₀.load] ++ gs₂) := hrest
      obtain ⟨-, hgs₂⟩ := hsplit.of_append
      rw [← run_append] at hdrain
      obtain ⟨dd, hdrains, hslot, hbatch, haloft, hcarries⟩ :=
        h.flight hgs₁ (hgrown.append hgrown') (List.mem_of_mem_head? hj₀) hdrain
      have hcalled := h.called_of_drained hgs₂ (hgrown.append hgrown') hdrains hslot haloft
      rw [Dispatch.calls, hbatch] at hcalled
      have hanswers := h.dispatched hgs₂ haloft hcarries
      rw [hbatch] at hanswers
      exact ⟨fun hfew => absurd hmany (Nat.not_le.2 hfew),
        fun _ => ⟨hcalled, _, length_dispatches_le rt w _, hanswers⟩⟩

/-- Four loads for three ids, while another session loads too: the second chunk fails, and the first
one knows nothing of the id `1`. -/
theorem load_many_one_window_of_four :
    let found : Batch Nat := .ok fun id => if id = 2 then some (.ok 20) else none
    let down : Batch Nat := .error (.failed "down")
    let es : List (Event Nat) := [.beginLoad users 9 "Nat", .poll 0, .fetched 0 0 down, .poll 0]
    let evs : List (Event Nat) := [.beginLoad users 3 "Nat", .beginLoad users 1 "Nat",
      .beginLoad ⟨1, "users"⟩ 5 "Nat", .beginLoad users 3 "Nat", .beginLoad users 2 "Nat"]
    let gs : List (Event Nat) :=
      [.poll 1, .poll 1, .fetched 1 1 down, .poll 2, .fetched 1 0 found, .poll 1]
    let js : List Joining := [⟨1, users, 3⟩, ⟨2, users, 1⟩, ⟨4, users, 3⟩, ⟨5, users, 2⟩]
    newcomers usersOnly es evs users = js ∧
    BegunTogether usersOnly es evs users [3, 1, 3, 2] "Nat" ∧ LeavesAlone users js gs ∧
    ∃ d, AllAnswered usersOnly (es ++ (evs ++ gs)) users d [[1, 2], [3]] [3, 1, 3, 2] "Nat" js := by
  intro found down es evs gs js
  have hjs : newcomers usersOnly es evs users = js := by decide
  have htogether : BegunTogether usersOnly es evs users [3, 1, 3, 2] "Nat" :=
    ⟨rfl, by decide, rfl, by simp [evs, Event.Touches]⟩
  have halone : LeavesAlone users js gs := ⟨rfl, by simp [gs, Event.Drops]⟩
  obtain ⟨-, -, -, hall⟩ := load_many_one_window htogether gs (hjs ▸ halone)
  rw [hjs] at hall
  obtain ⟨-, d, -, ⟨hphase, -⟩ | hdone⟩ := (hall ⟨1, users, 3⟩ rfl).2 (by decide)
  · exact absurd hphase (by decide)
  · exact ⟨hjs, htogether, halone, d, hdone⟩

end Together

end World

end GraphLayer.Batching
