import GraphLayer.Proofs.Batching.Drivers
import GraphLayer.Proofs.Batching.HandOver
import GraphLayer.Proofs.Batching.Transparency

/-!
# What a dispatch makes of the answers to its chunks

* `Says`: what the answer to a chunk says of an id, and `AgreeOn`, two answers that say the same of
  it;
* `World.AnsweredOnce` and `World.Served.unique`: no chunk is answered twice, so that an id of a
  dispatch is given one outcome;
* `World.storeAll` and `World.remember_eq_storeAll`: the values that a dispatch stores;
* `World.Drives.answer`, `World.Drives.stores` and `World.Drives.isolated`: what the last step of a
  dispatch answers and stores, and what its answers depend on;
* `World.dispatch_isolated`: every waiter gets what the answer to the chunk of its own id says of
  this id, and nothing else reaches it.
-/

namespace GraphLayer.Batching

variable {σ V : Type}

/-! ### What an answer says of an id -/

/-- What the answer to a chunk says of an id of it: the error of the whole chunk, or else the error
of the id, or its value, or that there is none. -/
inductive Says (id : Int) : Batch V → Outcome V → Prop
  | failed (e : LoadError) : Says id (.error e) (.error e)
  | idFailed {found : Int → Option (Except LoadError V)} {e : LoadError}
    (h : found id = some (.error e)) : Says id (.ok found) (.error e)
  | value {found : Int → Option (Except LoadError V)} {v : V} (h : found id = some (.ok v)) :
    Says id (.ok found) (.ok (some v))
  | miss {found : Int → Option (Except LoadError V)} (h : found id = none) :
    Says id (.ok found) (.ok none)

/-- Two answers to a chunk agree on an id: both are the same error, or both have the same under the
id. -/
inductive AgreeOn (id : Int) : Batch V → Batch V → Prop
  | failed (e : LoadError) : AgreeOn id (.error e) (.error e)
  | found {f f' : Int → Option (Except LoadError V)} (h : f id = f' id) :
    AgreeOn id (.ok f) (.ok f')

theorem says_outcomeOf (id : Int) (r : Batch V) : Says id r (outcomeOf r id) := by
  match r with
  | .error e => exact .failed e
  | .ok found =>
    cases hf : found id with
    | none =>
      simp only [outcomeOf, hf]
      exact .miss hf
    | some x =>
      cases x with
      | error e =>
        simp only [outcomeOf, hf]
        exact .idFailed hf
      | ok v =>
        simp only [outcomeOf, hf]
        exact .value hf

theorem AgreeOn.outcomeOf_eq {id : Int} {r r' : Batch V} (h : AgreeOn id r r') :
    outcomeOf r id = outcomeOf r' id := by
  cases h with
  | failed => rfl
  | found h => simp only [outcomeOf, h]

/-- An element of a list without repetitions stands in one place among the pieces. -/
theorem CutInto.index_unique {α : Type} [DecidableEq α] {b : Nat} {xs : List α}
    {pieces : List (List α)} (h : CutInto b xs pieces) (hnd : xs.Nodup) {a : α} {c c' : Nat}
    {p p' : List α} (hp : pieces[c]? = some p) (hp' : pieces[c']? = some p') (ha : a ∈ p)
    (ha' : a ∈ p') : c = c' := by
  have hone : (pieces.flatMap id).count a ≤ 1 := by
    rw [List.flatMap_id, h.flatten]
    exact List.nodup_iff_count_le_one.1 hnd a
  exact List.eq_of_count_flatMap_le_one hone hp hp' ha ha'

namespace World

variable {rt : Runtime σ V} {w w' : World σ V}

/-! ### What is stored -/

/-- The values among some outcomes. -/
def valuesOf (outs : List (Int × Outcome V)) : List (Int × V) :=
  outs.filterMap fun p => match p.2 with
    | .ok (some v) => some (p.1, v)
    | _ => none

/-- Store some values of a slot, in their order. -/
def storeAll (rt : Runtime σ V) (s : Slot) (w : World σ V) (vals : List (Int × V)) : World σ V :=
  vals.foldl (fun w p => w.store rt ⟨s.key, p.1⟩ p.2) w

theorem mem_valuesOf_iff {outs : List (Int × Outcome V)} {id : Int} {v : V} :
    (id, v) ∈ valuesOf outs ↔ (id, .ok (some v)) ∈ outs := by
  rw [valuesOf, List.mem_filterMap]
  constructor
  · rintro ⟨⟨id', o⟩, hmem, ho⟩
    split at ho
    · next v' hv =>
      obtain ⟨rfl, rfl⟩ := Prod.mk.inj (Option.some.inj ho)
      obtain rfl : o = .ok (some v') := hv
      exact hmem
    · cases ho
  · intro hmem
    exact ⟨_, hmem, rfl⟩

theorem map_fst_valuesOf_sublist (outs : List (Int × Outcome V)) :
    ((valuesOf outs).map Prod.fst).Sublist (outs.map Prod.fst) := by
  induction outs with
  | nil => exact .slnil
  | cons p outs ih =>
    obtain ⟨id, o⟩ := p
    match o with
    | .ok (some v) => exact ih.cons_cons id
    | .ok none => exact ih.cons id
    | .error _ => exact ih.cons id

/-- What a dispatch remembers are the values among its outcomes. -/
theorem remember_eq_storeAll (rt : Runtime σ V) (s : Slot) (w : World σ V)
    (outs : List (Int × Outcome V)) : w.remember rt s outs = w.storeAll rt s (valuesOf outs) := by
  induction outs generalizing w with
  | nil => rfl
  | cons p outs ih =>
    obtain ⟨id, o⟩ := p
    match o with
    | .ok (some v) => exact ih (w.store rt ⟨s.key, id⟩ v)
    | .ok none => exact ih w
    | .error _ => exact ih w

theorem SameCache.storeAll (h : w.SameCache w') (rt : Runtime σ V) (s : Slot)
    (vals : List (Int × V)) : (w.storeAll rt s vals).SameCache (w'.storeAll rt s vals) := by
  induction vals generalizing w w' with
  | nil => exact h
  | cons p vals ih => exact ih (h.store rt ⟨s.key, p.1⟩ p.2)

/-! ### Every chunk is answered once -/

/-- A dispatch has yet to take in the answer to a chunk. -/
def AwaitsChunk (c : Nat) : Stage V → Prop
  | .spawned => True
  | .fetching rs => rs[c]? = some none
  | .done | .lost => False

/-- A chunk that is answered is not waited for again. -/
theorem not_awaitsChunk_modify {rs : List (Option (Batch V))} {c : Nat}
    (h : ¬ AwaitsChunk c (.fetching rs)) (c' : Nat) (r : Batch V) :
    ¬ AwaitsChunk c (.fetching (rs.modify c' fun a => some (a.getD r))) := by
  intro hc
  obtain ⟨a, ha, hnone⟩ := List.exists_of_getElem?_modify hc
  split at hnone
  · cases hnone
  · exact h (ha.trans (congrArg some hnone.symm))

theorem not_awaitsChunk_of_fetched (rs : List (Option (Batch V))) (c : Nat) (r : Batch V) :
    ¬ AwaitsChunk c (.fetching (rs.modify c fun a => some (a.getD r))) := by
  intro hnone
  obtain ⟨a, -, ha⟩ := List.exists_of_getElem?_modify hnone
  rw [if_pos rfl] at ha
  cases ha

theorem not_awaitsChunk_step {window : List (Int × List Nat)} {fetched : Nat → Batch V → Prop}
    {hs : List (Nat × Outcome V)} {dd dd' : Dispatch V} {c : Nat}
    (h : dd.Step rt window fetched hs dd') (hc : ¬ AwaitsChunk c dd.stage) :
    ¬ AwaitsChunk c dd'.stage := by
  cases h with
  | stay => exact hc
  | drain hst => exact absurd (by rw [hst]; trivial) hc
  | fetched hst => exact not_awaitsChunk_modify (by rwa [hst] at hc) _ _
  | complete => exact id
  | lose => exact id

/-- A log holds one answer at most for each chunk of a dispatch, and no dispatch waits for the
answer to a chunk that has one. -/
structure AnsweredOnce (w : World σ V) (log : List (Serving V)) : Prop where
  settled : ∀ x ∈ log, ∃ dd : Dispatch V, w.dispatches[x.dispatch]? = some dd ∧
    ¬ AwaitsChunk x.chunk dd.stage
  unique : ∀ x ∈ log, ∀ y ∈ log, x.dispatch = y.dispatch → x.chunk = y.chunk → x = y

/-- The answer that a step takes in is for a chunk without one, and the chunk is settled then. -/
theorem AnsweredOnce.step {log : List (Serving V)} (h : AnsweredOnce w log) (rt : Runtime σ V)
    (e : Event V) : AnsweredOnce (w.step rt e) (log ++ w.servings rt e) := by
  have hkept (x : Serving V) (hx : x ∈ log) : ∃ dd : Dispatch V,
      (w.step rt e).dispatches[x.dispatch]? = some dd ∧ ¬ AwaitsChunk x.chunk dd.stage := by
    obtain ⟨dd, hd, hc⟩ := h.settled x hx
    obtain ⟨w', c, t, a, hm, hstep⟩ := exists_move rt w e
    obtain ⟨dd', hd', hdd⟩ := hm.dispatch_step hd
    rw [hstep]
    exact ⟨dd', hd', not_awaitsChunk_step hdd hc⟩
  have hnew (x : Serving V) (hx : x ∈ w.servings rt e) : ∃ dd : Dispatch V,
      (w.step rt e).dispatches[x.dispatch]? = some dd ∧ ¬ AwaitsChunk x.chunk dd.stage := by
    obtain ⟨rfl, dd, rs, hd, hst, -⟩ := exists_dispatch_of_servings hx
    exact ⟨_, dispatch_of_fetched rt hd hst _ _, not_awaitsChunk_of_fetched rs _ _⟩
  -- the log has no answer for the chunk of the step, which is still waited for
  have hfresh (x : Serving V) (hx : x ∈ log) (y : Serving V) (hy : y ∈ w.servings rt e)
      (hd : x.dispatch = y.dispatch) (hc : x.chunk = y.chunk) : False := by
    obtain ⟨dd, hdd, hsettled⟩ := h.settled x hx
    obtain ⟨-, dd', rs, hdd', hst, hnone, -, -⟩ := exists_dispatch_of_servings hy
    rw [hd, hdd'] at hdd
    obtain rfl := Option.some.inj hdd
    rw [hst, hc] at hsettled
    exact hsettled hnone
  refine ⟨fun x hx => (List.mem_append.1 hx).elim (hkept x) (hnew x), fun x hx y hy hd hc => ?_⟩
  rcases List.mem_append.1 hx with hx | hx <;> rcases List.mem_append.1 hy with hy | hy
  · exact h.unique x hx y hy hd hc
  · exact (hfresh x hx y hy hd hc).elim
  · exact (hfresh y hy x hx hd.symm hc.symm).elim
  · exact eq_of_mem_servings hx hy

theorem answeredOnce_run (rt : Runtime σ V) (cache : Option σ) (es : List (Event V)) :
    AnsweredOnce ((start cache).run rt es) ((start cache).served rt es) := by
  induction es using List.reverseRecOn with
  | nil => exact ⟨nofun, nofun⟩
  | append_singleton es e ih =>
    rw [run_concat, served_concat]
    exact ih.step rt e

/-- **An id is given one outcome.**  It stands in one chunk of its dispatch, and that is answered
once. -/
theorem Served.unique {cache : Option σ} {es : List (Event V)} {d : Nat} {dd : Dispatch V}
    {id : Int} {o o' : Outcome V} (hd : ((start cache).run rt es).dispatches[d]? = some dd)
    (h : Served rt ((start cache).served rt es) d dd id o)
    (h' : Served rt ((start cache).served rt es) d dd id o') : o = o' := by
  obtain ⟨x, hx, rfl, -, hcall, hid, rfl⟩ := h
  obtain ⟨y, hy, hxy, -, hcall', hid', rfl⟩ := h'
  have hcut : CutInto (max 1 rt.maxBatchSize) (dd.batch.map Prod.fst) (dd.calls rt.maxBatchSize) :=
    cutInto_chunks ..
  have hchunk : y.chunk = x.chunk :=
    hcut.index_unique ((placed_run rt cache es).batch _ dd hd).nodup_keys hcall' hcall hid' hid
  rw [(answeredOnce_run rt cache es).unique y hy x hx hxy hchunk]

/-! ### The last step of a dispatch -/

section Last

variable {e : Event V} {d : Nat} {dd : Dispatch V} {results : List (Batch V)}

theorem Drives.step_eq_finish (h : Drives w d e) (rt : Runtime σ V)
    (hd : w.dispatches[d]? = some dd) (hst : dd.stage = .fetching (results.map some)) :
    w.step rt e = (w.finish d dd.slot .done (handouts dd.batch (outcomesOf rt dd.batch results))
      ).remember rt dd.slot (outcomesOf rt dd.batch results) := by
  rw [h.step_eq rt hd (by rw [hst]; rfl)]
  obtain ⟨s, o, b, st⟩ := dd
  subst hst
  exact complete_eq hd

theorem Drives.loads_eq (h : Drives w d e) (rt : Runtime σ V) (hd : w.dispatches[d]? = some dd)
    (hst : dd.stage = .fetching (results.map some)) :
    (w.step rt e).loads =
      receiveAll w.loads (handouts dd.batch (outcomesOf rt dd.batch results)) := by
  obtain ⟨c, t, a, hsame⟩ := exists_remember_eq_setCache rt dd.slot
    (w.finish d dd.slot .done (handouts dd.batch (outcomesOf rt dd.batch results)))
    (outcomesOf rt dd.batch results)
  rw [h.step_eq_finish rt hd hst, hsame]
  rfl

theorem Drives.dispatch_eq (h : Drives w d e) (rt : Runtime σ V) (hd : w.dispatches[d]? = some dd)
    (hst : dd.stage = .fetching (results.map some)) :
    (w.step rt e).dispatches[d]? = some { dd with stage := .done } := by
  have hdone := dispatch_of_complete rt hd hst
  rwa [h.step_eq rt hd (by rw [hst]; rfl)]

theorem Drives.sameCache (h : Drives w d e) (rt : Runtime σ V) (hd : w.dispatches[d]? = some dd)
    (hst : dd.stage = .fetching (results.map some)) :
    (w.step rt e).SameCache
      (w.storeAll rt dd.slot (valuesOf (outcomesOf rt dd.batch results))) := by
  rw [h.step_eq_finish rt hd hst, remember_eq_storeAll]
  have hsame : (w.finish d dd.slot .done
      (handouts dd.batch (outcomesOf rt dd.batch results))).SameCache w := ⟨rfl, rfl, rfl⟩
  exact hsame.storeAll rt dd.slot _

/-- Whoever waits for an id takes what the answer to the chunk of the id says of it. -/
theorem Drives.receive (h : Drives w d e) (hw : Placed rt w) (ho : Once w)
    (hd : w.dispatches[d]? = some dd) (hst : dd.stage = .fetching (results.map some)) {id : Int}
    {n : Nat} (hn : n ∈ waitersOf dd.batch id) :
    ∃ (c : Nat) (ids : List Int) (r : Batch V), (dd.calls rt.maxBatchSize)[c]? = some ids ∧
      results[c]? = some r ∧ id ∈ ids ∧
      (w.step rt e).loads[n]? = w.loads[n]?.map fun l => l.receive (outcomeOf r id) := by
  obtain ⟨ids, r, hz, hid, hout⟩ := mem_handouts_of_mem_waitersOf hw hd hst hn
  obtain ⟨c, hc⟩ := List.mem_iff_getElem?.1 hz
  obtain ⟨hcalls, hresult⟩ := List.getElem?_zip_eq_some.1 hc
  have hnd : ((handouts dd.batch (outcomesOf rt dd.batch results)).map Prod.fst).Nodup := by
    rw [hw.map_fst_handouts hd hst]
    exact ho.waiters_nodup hd
  refine ⟨c, ids, r, hcalls, hresult, hid, ?_⟩
  rw [h.loads_eq rt hd hst]
  exact getElem?_receiveAll_of_mem hnd hout

/-- A value among the outcomes of a dispatch was found under its id in the answer to the chunk of
the id. -/
theorem mem_valuesOf_outcomesOf_iff {id : Int} {v : V} :
    (id, v) ∈ valuesOf (outcomesOf rt dd.batch results) ↔
      ∃ (c : Nat) (ids : List Int) (found : Int → Option (Except LoadError V)),
        (dd.calls rt.maxBatchSize)[c]? = some ids ∧ results[c]? = some (.ok found) ∧ id ∈ ids ∧
        found id = some (.ok v) := by
  rw [mem_valuesOf_iff, outcomesOf, mem_outcomes_iff]
  constructor
  · rintro ⟨ids, r, hz, hid, hv⟩
    obtain ⟨found, rfl, hfound⟩ := exists_found_of_outcomeOf hv.symm
    obtain ⟨c, hc⟩ := List.mem_iff_getElem?.1 hz
    obtain ⟨hcalls, hresult⟩ := List.getElem?_zip_eq_some.1 hc
    exact ⟨c, ids, found, hcalls, hresult, hid, hfound⟩
  · rintro ⟨c, ids, found, hcalls, hresult, hid, hfound⟩
    refine ⟨ids, .ok found, ?_, hid, by simp only [outcomeOf, hfound]⟩
    exact List.mem_of_getElem? (List.getElem?_zip_eq_some.2 ⟨hcalls, hresult⟩)

/-- **Answers.**  Whoever waits for an id gets what the answer to the chunk of the id says of it,
unless the caller is gone. -/
theorem Drives.answer [Typed V] (h : Drives w d e) (hw : Placed rt w) (ho : Once w)
    (hd : w.dispatches[d]? = some dd) (hst : dd.stage = .fetching (results.map some)) {id : Int}
    {n : Nat} (hn : n ∈ waitersOf dd.batch id) :
    ∃ (c : Nat) (ids : List Int) (r : Batch V) (o : Outcome V) (l : Load V),
      (dd.calls rt.maxBatchSize)[c]? = some ids ∧ results[c]? = some r ∧ id ∈ ids ∧ Says id r o ∧
      w.loads[n]? = some l ∧ l.slot = dd.slot ∧ l.id = id ∧
      (l.progress = .dropped → (w.step rt e).loads[n]? = some l) ∧
      (l.progress ≠ .dropped →
        (w.step rt e).loads[n]? = some { l with progress := .answered o } ∧
        (w.step rt e).result? n = some (o.cast dd.slot.key l.expected)) := by
  obtain ⟨c, ids, r, hids, hr, hid, hload⟩ := h.receive hw ho hd hst hn
  obtain ⟨l, hl, hs, hi⟩ := (hw.batch d dd hd).load_of_mem_waitersOf hn
  rw [hl] at hload
  refine ⟨c, ids, r, outcomeOf r id, l, hids, hr, hid, says_outcomeOf id r, hl, hs, hi, ?_, ?_⟩
  · intro hp
    rw [hload, Option.map_some, Load.receive_of_dropped hp]
  · intro hp
    rw [Option.map_some, Load.receive_of_not_dropped hp] at hload
    refine ⟨hload, ?_⟩
    rw [← hs]
    simp only [result?, hload]

/-- **Stores.**  The values that are stored are those that the answers have under ids of their own
chunks. -/
theorem Drives.stores (h : Drives w d e) (hw : Placed rt w) (hd : w.dispatches[d]? = some dd)
    (hst : dd.stage = .fetching (results.map some)) :
    ∃ vals : List (Int × V), (vals.map Prod.fst).Pairwise (· < ·) ∧
      (∀ id v, (id, v) ∈ vals ↔
        ∃ (c : Nat) (ids : List Int) (found : Int → Option (Except LoadError V)),
          (dd.calls rt.maxBatchSize)[c]? = some ids ∧ results[c]? = some (.ok found) ∧ id ∈ ids ∧
          found id = some (.ok v)) ∧
      (w.step rt e).SameCache (w.storeAll rt dd.slot vals) := by
  refine ⟨valuesOf (outcomesOf rt dd.batch results), ?_,
    fun id v => mem_valuesOf_outcomesOf_iff, h.sameCache rt hd hst⟩
  have hsub := map_fst_valuesOf_sublist (outcomesOf rt dd.batch results)
  rw [hw.map_fst_outcomesOf hd hst] at hsub
  exact (hw.batch d dd hd).ascending.pairwise_lt.sublist hsub

/-- A load that took an outcome has it, if its caller is there. -/
theorem progress_of_receive {ls ls' : List (Load V)} {n : Nat} {l' : Load V} {o : Outcome V}
    (h : ls'[n]? = ls[n]?.map fun l => l.receive o) (hl' : ls'[n]? = some l')
    (hp : l'.progress ≠ .dropped) : l'.progress = .answered o := by
  rw [h] at hl'
  obtain ⟨l, -, rfl⟩ := Option.map_eq_some_iff.1 hl'
  by_cases hl : l.progress = .dropped
  · rw [Load.receive_of_dropped hl] at hp
    exact absurd hl hp
  · rw [Load.receive_of_not_dropped hl]

/-- **Isolation.**  Where the answers to the chunk of an id agree on the id, those who wait for it
get the same. -/
theorem Drives.isolated (h : Drives w d e) (hw : Placed rt w) (ho : Once w)
    (hd : w.dispatches[d]? = some dd) (hst : dd.stage = .fetching (results.map some))
    {w₂ : World σ V} {d₂ : Nat} {e₂ : Event V} {dd₂ : Dispatch V} {results₂ : List (Batch V)}
    (h₂ : Drives w₂ d₂ e₂) (hw₂ : Placed rt w₂) (ho₂ : Once w₂)
    (hd₂ : w₂.dispatches[d₂]? = some dd₂) (hst₂ : dd₂.stage = .fetching (results₂.map some))
    (hbatch : dd₂.batch = dd.batch) {id : Int} {c : Nat} {ids : List Int} {r r₂ : Batch V}
    (hids : (dd.calls rt.maxBatchSize)[c]? = some ids)
    (hid : id ∈ ids) (hr : results[c]? = some r) (hr₂ : results₂[c]? = some r₂)
    (hagree : AgreeOn id r r₂) {n : Nat} (hn : n ∈ waitersOf dd.batch id) {l l₂ : Load V}
    (hl : (w.step rt e).loads[n]? = some l) (hl₂ : (w₂.step rt e₂).loads[n]? = some l₂)
    (hp : l.progress ≠ .dropped) (hp₂ : l₂.progress ≠ .dropped) : l.progress = l₂.progress := by
  have hnd := (hw.batch d dd hd).nodup_keys
  have hcut : CutInto (max 1 rt.maxBatchSize) (dd.batch.map Prod.fst) (dd.calls rt.maxBatchSize) :=
    cutInto_chunks ..
  have hcalls : dd₂.calls rt.maxBatchSize = dd.calls rt.maxBatchSize := by
    rw [Dispatch.calls, hbatch]
    rfl
  -- the id stands in one chunk only, so that the loads take the two answers that agree
  obtain ⟨c', ids', r', hids', hr', hid', hload⟩ := h.receive hw ho hd hst hn
  obtain rfl : c' = c := hcut.index_unique hnd hids' hids hid' hid
  obtain rfl : r' = r := Option.some.inj (hr'.symm.trans hr)
  obtain ⟨c₂, ids₂, r₂', hids₂, hr₂', hid₂, hload₂⟩ := h₂.receive hw₂ ho₂ hd₂ hst₂ (hbatch ▸ hn)
  rw [hcalls] at hids₂
  obtain rfl : c₂ = c' := hcut.index_unique hnd hids₂ hids hid₂ hid
  obtain rfl : r₂' = r₂ := Option.some.inj (hr₂'.symm.trans hr₂)
  rw [progress_of_receive hload hl hp, progress_of_receive hload₂ hl₂ hp₂, hagree.outcomeOf_eq]

end Last

/-! ### Outcomes and isolation -/

/-- **The outcomes of a dispatch, each on its own.**  Take a dispatch of any run whose chunks are
all answered, each by anything at all.

* The answers stand by the chunks that they were given for, and there is an event that drives the
  dispatch; such an event brings it to its end.
* Whoever waits for an id gets what the answer to the chunk of the id says of it, as a value of the
  type asked for, unless its caller is gone; and all other loads stay as they are.
* The values that are stored are those that the answers that are no errors have under ids of their
  own chunks.
* In another run in which a dispatch of the same window is answered, the waiters of an id get the
  same if the two answers to the chunk of the id agree on it, whatever they say of other ids and
  whatever the answers to other chunks are. -/
theorem dispatch_isolated [Typed V] (rt : Runtime σ V) (cache : Option σ) (es : List (Event V))
    {d : Nat} {dd : Dispatch V} {results : List (Batch V)}
    (hd : ((start cache).run rt es).dispatches[d]? = some dd)
    (hst : dd.stage = .fetching (results.map some)) :
    let w := (start cache).run rt es
    let calls := dd.calls rt.maxBatchSize
    results.length = calls.length ∧
    (∀ (c : Nat) (ids : List Int) (r : Batch V), calls[c]? = some ids → results[c]? = some r →
      ⟨d, c, dd.slot, ids, r⟩ ∈ (start cache).served rt es) ∧
    (∃ e, Drives w d e) ∧ ∀ e, Drives w d e →
      let w' := w.step rt e
      w'.dispatches[d]? = some { dd with stage := .done } ∧
      (∀ id n, n ∈ waitersOf dd.batch id →
        ∃ (c : Nat) (ids : List Int) (r : Batch V) (o : Outcome V) (l : Load V),
          calls[c]? = some ids ∧ results[c]? = some r ∧ id ∈ ids ∧ Says id r o ∧
          w.loads[n]? = some l ∧ l.slot = dd.slot ∧ l.id = id ∧
          (l.progress = .dropped → w'.loads[n]? = some l) ∧
          (l.progress ≠ .dropped → w'.loads[n]? = some { l with progress := .answered o } ∧
            w'.result? n = some (o.cast dd.slot.key l.expected))) ∧
      (∀ n, n ∉ dd.waiters → w'.loads[n]? = w.loads[n]?) ∧
      (∃ vals : List (Int × V), (vals.map Prod.fst).Pairwise (· < ·) ∧
        (∀ id v, (id, v) ∈ vals ↔
          ∃ (c : Nat) (ids : List Int) (found : Int → Option (Except LoadError V)),
            calls[c]? = some ids ∧ results[c]? = some (.ok found) ∧ id ∈ ids ∧
            found id = some (.ok v)) ∧
        w'.SameCache (w.storeAll rt dd.slot vals)) ∧
      ∀ (cache₂ : Option σ) (es₂ : List (Event V)) (d₂ : Nat) (dd₂ : Dispatch V)
        (results₂ : List (Batch V)) (e₂ : Event V),
        let w₂ := (start cache₂).run rt es₂
        w₂.dispatches[d₂]? = some dd₂ → dd₂.stage = .fetching (results₂.map some) →
        Drives w₂ d₂ e₂ → dd₂.batch = dd.batch →
        ∀ (id : Int) (c : Nat) (ids : List Int) (r r₂ : Batch V), calls[c]? = some ids → id ∈ ids →
          results[c]? = some r → results₂[c]? = some r₂ → AgreeOn id r r₂ →
          ∀ n ∈ waitersOf dd.batch id, ∀ l l₂ : Load V, w'.loads[n]? = some l →
            (w₂.step rt e₂).loads[n]? = some l₂ → l.progress ≠ .dropped →
            l₂.progress ≠ .dropped → l.progress = l₂.progress := by
  intro w calls
  have hw : Placed rt w := placed_run rt cache es
  have ho : Once w := once_run rt cache es
  have hlen : results.length = calls.length := by
    have hplaces := hw.fetching d dd _ hd hst
    rwa [List.length_map] at hplaces
  refine ⟨hlen, ?_, (driven_run rt cache es).exists_drives hd (by rw [hst]; rfl), ?_⟩
  · intro c ids r hids hr
    have hanswered : (results.map some)[c]? = some (some r) := by
      rw [List.getElem?_map, hr]
      rfl
    obtain ⟨ids', hids', hserved⟩ := (traced_run rt cache es).fetching d dd _ c r hd hst hanswered
    obtain rfl : ids = ids' := Option.some.inj (hids.symm.trans hids')
    exact hserved
  intro e he w'
  refine ⟨he.dispatch_eq rt hd hst, fun id n hn => he.answer hw ho hd hst hn, ?_,
    he.stores hw hd hst, ?_⟩
  · intro n hn
    rw [he.loads_eq rt hd hst]
    refine getElem?_receiveAll_of_not_mem ?_
    rwa [hw.map_fst_handouts hd hst]
  · intro cache₂ es₂ d₂ dd₂ results₂ e₂ w₂ hd₂ hst₂ he₂ hbatch id c ids r r₂ hids hid hr hr₂ hagree
      n hn l l₂ hl hl₂ hp hp₂
    exact he.isolated hw ho hd hst he₂ (placed_run rt cache₂ es₂) (once_run rt cache₂ es₂) hd₂ hst₂
      hbatch hids hid hr hr₂ hagree hn hl hl₂ hp hp₂

/-- Of three loads in two chunks one gets a value, one the error of its own id and one the error of
its chunk; and the first gets the same where the other two are answered otherwise. -/
theorem dispatch_isolated_of_three :
    let mixed : Batch Nat := .ok fun id =>
      if id = 1 then some (.ok 10) else if id = 2 then some (.error (.failed "gone")) else none
    let other : Batch Nat := .ok fun id => if id = 1 then some (.ok 10) else some (.ok 90)
    let down : Batch Nat := .error (.failed "down")
    let opened : List (Event Nat) := [.beginLoad users 3 "Nat", .beginLoad users 1 "Nat",
      .beginLoad users 2 "Nat", .poll 0, .poll 0]
    let es := opened ++ [.fetched 0 1 down, .fetched 0 0 mixed]
    let es₂ := opened ++ [.fetched 0 0 other, .fetched 0 1 other]
    let w := (start none).run usersOnly es
    let w₂ := (start none).run usersOnly es₂
    ∃ dd : Dispatch Nat, w.dispatches[0]? = some dd ∧
      dd.stage = .fetching ([mixed, down].map some) ∧ Drives w 0 (.poll 0) ∧
      (w.step usersOnly (.poll 0)).dispatches[0]? = some { dd with stage := .done } ∧
      (∃ o l, Says 2 mixed o ∧ w.loads[2]? = some l ∧
        (w.step usersOnly (.poll 0)).result? 2 = some (o.cast "users" l.expected)) ∧
      ∃ l l₂ : Load Nat, (w.step usersOnly (.poll 0)).loads[1]? = some l ∧
        (w₂.step usersOnly (.poll 0)).loads[1]? = some l₂ ∧ l.progress = l₂.progress := by
  intro mixed other down opened es es₂ w w₂
  have hd : w.dispatches[0]? = some ⟨users, true, [(1, [1]), (2, [2]), (3, [0])],
    .fetching ([mixed, down].map some)⟩ := rfl
  have hd₂ : w₂.dispatches[0]? = some ⟨users, true, [(1, [1]), (2, [2]), (3, [0])],
    .fetching ([other, other].map some)⟩ := rfl
  have he : Drives w 0 (.poll 0) := .owner (l := ⟨users, 3, "Nat", .dispatching 0⟩) rfl rfl
  have he₂ : Drives w₂ 0 (.poll 0) := .owner (l := ⟨users, 3, "Nat", .dispatching 0⟩) rfl rfl
  obtain ⟨-, -, -, hends⟩ := dispatch_isolated usersOnly none es hd rfl
  obtain ⟨hdone, hanswers, -, -, hisolated⟩ := hends (.poll 0) he
  obtain ⟨c, ids, r, o, l, hids, hr, hid, hsays, hl, -, -, -, hgot⟩ := hanswers 2 2 (by decide)
  obtain rfl : l = ⟨users, 2, "Nat", .waiting⟩ := (Option.some.inj hl).symm
  have hfirst : c = 0 ∧ r = mixed := by
    match c, hids, hr with
    | 0, _, hr => exact ⟨rfl, (Option.some.inj hr).symm⟩
    | 1, hids, _ =>
      obtain rfl : ids = [3] := (Option.some.inj hids).symm
      exact absurd hid (by decide)
  obtain ⟨rfl, rfl⟩ := hfirst
  have hl₁ : (w.step usersOnly (.poll 0)).loads[1]? =
      some ⟨users, 1, "Nat", .answered (.ok (some 10))⟩ := rfl
  have hl₂ : (w₂.step usersOnly (.poll 0)).loads[1]? =
      some ⟨users, 1, "Nat", .answered (.ok (some 10))⟩ := rfl
  have hsame := hisolated none es₂ 0 _ [other, other] (.poll 0) hd₂ rfl he₂ rfl 1 0 [1, 2] mixed
    other rfl (by decide) rfl rfl (.found rfl) 1 (by decide) _ _ hl₁ hl₂ nofun nofun
  exact ⟨_, hd, rfl, he, hdone, ⟨o, _, hsays, hl, (hgot nofun).2⟩, _, _, hl₁, hl₂, hsame⟩

end World

end GraphLayer.Batching
