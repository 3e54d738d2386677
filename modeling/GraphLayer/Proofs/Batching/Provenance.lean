import GraphLayer.Proofs.Batching.Answers

/-!
# Where outcomes come from

* `World.Traced`: the dispatches of a world against the answers of the backing service that were
  taken in so far and the outcomes that were handed out;
* `World.traced_run` shows that they agree after every run;
* `Event.IsLive` and `World.exists_dispatch_of_handed`: where nobody is dropped outside of the
  scheduler, outcomes come from dispatches only.
-/

namespace GraphLayer.Batching

variable {σ V : Type}

/-- A load is not dropped outside of the scheduler. -/
def Event.IsLive : Event V → Prop
  | .dropOutside _ => False
  | _ => True

namespace World

variable {rt : Runtime σ V} {w w' : World σ V} {e : Event V} {as : List Joining}
  {hs given : List (Nat × Outcome V)} {log : List (Serving V)}

/-! ### The answers of the backing service -/

theorem mem_servings {d c : Nat} {r : Batch V} {dd : Dispatch V} {rs : List (Option (Batch V))}
    {ids : List Int} (hd : w.dispatches[d]? = some dd) (hst : dd.stage = .fetching rs)
    (hc : rs[c]? = some none) (hids : (dd.calls rt.maxBatchSize)[c]? = some ids) :
    ⟨d, c, dd.slot, ids, r⟩ ∈ w.servings rt (.fetched d c r) := by
  obtain ⟨s, o, b, st⟩ := dd
  subst hst
  have hids' : (chunks rt.maxBatchSize (b.map Prod.fst))[c]? = some ids := hids
  simp only [servings, hd, hc, hids']
  exact List.mem_singleton_self _

/-- An answer that is taken in is for a chunk that a dispatch waits for. -/
theorem exists_dispatch_of_servings {x : Serving V} (hx : x ∈ w.servings rt e) :
    e = .fetched x.dispatch x.chunk x.result ∧
      ∃ (dd : Dispatch V) (rs : List (Option (Batch V))), w.dispatches[x.dispatch]? = some dd ∧
        dd.stage = .fetching rs ∧ rs[x.chunk]? = some none ∧ dd.slot = x.slot ∧
        (dd.calls rt.maxBatchSize)[x.chunk]? = some x.ids := by
  cases e with
  | fetched d c r =>
    simp only [servings] at hx
    split at hx
    · next s o b rs hd =>
      split at hx
      · next ids hnone hids =>
        obtain rfl := List.mem_singleton.1 hx
        exact ⟨rfl, _, rs, hd, rfl, hnone, rfl, hids⟩
      · cases hx
    · cases hx
  | _ => cases hx

/-- A step takes in one answer at most. -/
theorem eq_of_mem_servings {x y : Serving V} (hx : x ∈ w.servings rt e)
    (hy : y ∈ w.servings rt e) : x = y := by
  obtain ⟨he, dd, rs, hd, -, -, hs, hids⟩ := exists_dispatch_of_servings hx
  obtain ⟨he', dd', rs', hd', -, -, hs', hids'⟩ := exists_dispatch_of_servings hy
  obtain ⟨d, c, s, ids, r⟩ := x
  obtain ⟨d', c', s', ids', r'⟩ := y
  obtain ⟨rfl, rfl, rfl⟩ := Event.fetched.inj (he.symm.trans he')
  obtain rfl := Option.some.inj (hd.symm.trans hd')
  obtain rfl : s = s' := hs.symm.trans hs'
  obtain rfl : ids = ids' := Option.some.inj (hids.symm.trans hids')
  rfl

/-- The outcome that the backing service has given for an id of a dispatch: what the answer to the
chunk of the id says of it. -/
def Served (rt : Runtime σ V) (log : List (Serving V)) (d : Nat) (dd : Dispatch V) (id : Int)
    (o : Outcome V) : Prop :=
  ∃ x ∈ log, x.dispatch = d ∧ x.slot = dd.slot ∧
    (dd.calls rt.maxBatchSize)[x.chunk]? = some x.ids ∧ id ∈ x.ids ∧ o = outcomeOf x.result id

theorem Served.append {d : Nat} {dd : Dispatch V} {id : Int} {o : Outcome V}
    (h : Served rt log d dd id o) (more : List (Serving V)) :
    Served rt (log ++ more) d dd id o := by
  obtain ⟨x, hlog, hx⟩ := h
  exact ⟨x, List.mem_append_left _ hlog, hx⟩

/-- The dispatches of a world agree with a log of answers and with the outcomes handed out. -/
structure Traced (rt : Runtime σ V) (w : World σ V) (log : List (Serving V))
    (given : List (Nat × Outcome V)) : Prop where
  /-- The answers that a dispatch has so far are in the log. -/
  fetching : ∀ (d : Nat) (dd : Dispatch V) rs c r, w.dispatches[d]? = some dd →
    dd.stage = .fetching rs → rs[c]? = some (some r) →
    ∃ ids, (dd.calls rt.maxBatchSize)[c]? = some ids ∧ ⟨d, c, dd.slot, ids, r⟩ ∈ log
  /-- Whoever waited for a dispatch that completed was handed the outcome of the id. -/
  done : ∀ (d : Nat) (dd : Dispatch V) id n, w.dispatches[d]? = some dd → dd.stage = .done →
    n ∈ waitersOf dd.batch id → ∃ o, Served rt log d dd id o ∧ (n, o) ∈ given
  /-- Whoever waited for a dispatch that was lost was told so. -/
  lost : ∀ (d : Nat) (dd : Dispatch V) n, w.dispatches[d]? = some dd → dd.stage = .lost →
    n ∈ dd.waiters → (n, .error (.abandoned dd.slot.key)) ∈ given

/-- An outcome of a dispatch whose chunks are all answered is in the log. -/
theorem Traced.served_of_outcome (ht : Traced rt w log given) {d : Nat} {dd : Dispatch V}
    {results : List (Batch V)} (hd : w.dispatches[d]? = some dd)
    (hst : dd.stage = .fetching (results.map some)) {id : Int} {o : Outcome V}
    (ho : (id, o) ∈ outcomesOf rt dd.batch results) : Served rt log d dd id o := by
  obtain ⟨ids, r, hz, hid, rfl⟩ := mem_outcomes_iff.1 ho
  obtain ⟨c, hc⟩ := List.mem_iff_getElem?.1 hz
  obtain ⟨hcalls, hresult⟩ := List.getElem?_zip_eq_some.1 hc
  have hanswered : (results.map some)[c]? = some (some r) := by
    rw [List.getElem?_map, hresult]
    rfl
  obtain ⟨ids', hids', hlog⟩ := ht.fetching d dd _ c r hd hst hanswered
  obtain rfl : ids = ids' := Option.some.inj (hcalls.symm.trans hids')
  exact ⟨_, hlog, rfl, rfl, hcalls, hid, rfl⟩

theorem exists_result_of_fetched {rs : List (Option (Batch V))} {c c' : Nat} {r r' : Batch V}
    (h : (rs.modify c' fun a => some (a.getD r'))[c]? = some (some r)) :
    rs[c]? = some (some r) ∨ c' = c ∧ r' = r ∧ rs[c]? = some none := by
  obtain ⟨a, ha, hr⟩ := List.exists_of_getElem?_modify h
  by_cases hc : c' = c
  · rw [if_pos hc] at hr
    cases a with
    | none => exact .inr ⟨hc, (Option.some.inj hr).symm, ha⟩
    | some r₀ =>
      rw [Option.some.inj hr]
      exact .inl ha
  · rw [if_neg hc] at hr
    rw [hr]
    exact .inl ha

theorem Traced.fetching_move (hw : Placed rt w) (ht : Traced rt w log given)
    (h : Move rt w e as hs w') {d c : Nat} {dd' : Dispatch V} {rs : List (Option (Batch V))}
    {r : Batch V} (hd' : w'.dispatches[d]? = some dd') (hst' : dd'.stage = .fetching rs)
    (hr : rs[c]? = some (some r)) :
    ∃ ids, (dd'.calls rt.maxBatchSize)[c]? = some ids ∧
      ⟨d, c, dd'.slot, ids, r⟩ ∈ log ++ w.servings rt e := by
  have hnew {b : List (Int × List Nat)} (hb : unanswered rt b = .fetching rs) : False := by
    obtain rfl := Stage.fetching.inj hb
    rw [List.getElem?_map] at hr
    obtain ⟨ids, -, hids⟩ := Option.map_eq_some_iff.1 hr
    cases hids
  rcases h.dispatch_cases hd' with ⟨dd, hd⟩ | ⟨-, n, l, -, -, rfl | rfl⟩
  · obtain ⟨dd₁, hd₁, hstep⟩ := h.dispatch_step hd
    obtain rfl : dd₁ = dd' := Option.some.inj (hd₁.symm.trans hd')
    cases hstep with
    | stay =>
      obtain ⟨ids, hids, hlog⟩ := ht.fetching d dd rs c r hd hst' hr
      exact ⟨ids, hids, List.mem_append_left _ hlog⟩
    | drain => exact (hnew hst').elim
    | @fetched rs₀ hst₀ c' r' he =>
      obtain rfl := Stage.fetching.inj hst'
      rcases exists_result_of_fetched hr with hold | ⟨rfl, rfl, hnone⟩
      · obtain ⟨ids, hids, hlog⟩ := ht.fetching d dd rs₀ c r hd hst₀ hold
        exact ⟨ids, hids, List.mem_append_left _ hlog⟩
      · have hlt : c' < (dd.calls rt.maxBatchSize).length := by
          rw [← hw.fetching d dd rs₀ hd hst₀]
          exact (List.getElem?_eq_some_iff.1 hnone).1
        have hids := List.getElem?_eq_getElem hlt
        have hserving := mem_servings (r := r') hd hst₀ hnone hids
        rw [he]
        exact ⟨_, hids, List.mem_append_right _ hserving⟩
    | complete => cases hst'
    | lose => cases hst'
  · exact (hnew hst').elim
  · cases hst'

theorem Traced.done_move (hw : Placed rt w) (ht : Traced rt w log given)
    (h : Move rt w e as hs w') {d n : Nat} {dd' : Dispatch V} {id : Int}
    (hd' : w'.dispatches[d]? = some dd') (hst' : dd'.stage = .done)
    (hn : n ∈ waitersOf dd'.batch id) :
    ∃ o, Served rt (log ++ w.servings rt e) d dd' id o ∧ (n, o) ∈ given ++ hs := by
  rcases h.dispatch_cases hd' with ⟨dd, hd⟩ | ⟨-, m, l, -, -, rfl | rfl⟩
  · obtain ⟨dd₁, hd₁, hstep⟩ := h.dispatch_step hd
    obtain rfl : dd₁ = dd' := Option.some.inj (hd₁.symm.trans hd')
    cases hstep with
    | stay =>
      obtain ⟨o, ho, hgiven⟩ := ht.done d dd id n hd hst' hn
      exact ⟨o, ho.append _, List.mem_append_left _ hgiven⟩
    | drain => cases hst'
    | fetched => cases hst'
    | @complete results hst hhs =>
      obtain ⟨ids, r, hz, hid, hout⟩ := mem_handouts_of_mem_waitersOf hw hd hst hn
      have hserved := ht.served_of_outcome hd hst (mem_outcomes_iff.2 ⟨ids, r, hz, hid, rfl⟩)
      refine ⟨outcomeOf r id, hserved.append _, ?_⟩
      rw [hhs]
      exact List.mem_append_right _ hout
    | lose => cases hst'
  · cases hst'
  · cases hst'

theorem Traced.lost_move (ht : Traced rt w log given) (h : Move rt w e as hs w') {d n : Nat}
    {dd' : Dispatch V} (hd' : w'.dispatches[d]? = some dd') (hst' : dd'.stage = .lost)
    (hn : n ∈ dd'.waiters) : (n, .error (.abandoned dd'.slot.key)) ∈ given ++ hs := by
  rcases h.dispatch_cases hd' with ⟨dd, hd⟩ | ⟨-, m, l, -, -, rfl | rfl⟩
  · obtain ⟨dd₁, hd₁, hstep⟩ := h.dispatch_step hd
    obtain rfl : dd₁ = dd' := Option.some.inj (hd₁.symm.trans hd')
    cases hstep with
    | stay => exact List.mem_append_left _ (ht.lost d dd n hd hst' hn)
    | drain => cases hst'
    | fetched => cases hst'
    | complete => cases hst'
    | lose hst hhs =>
      rw [hhs]
      exact List.mem_append_right _ (List.mem_map_of_mem hn)
  · cases hst'
  · cases hst'

theorem Traced.move (hw : Placed rt w) (ht : Traced rt w log given) (h : Move rt w e as hs w') :
    Traced rt w' (log ++ w.servings rt e) (given ++ hs) where
  fetching _ _ _ _ _ hd hst hr := ht.fetching_move hw h hd hst hr
  done _ _ _ _ hd hst hn := ht.done_move hw h hd hst hn
  lost _ _ _ hd hst hn := ht.lost_move h hd hst hn

/-- **Every outcome can be traced** to the answers of the backing service, or to a dispatch that was
lost. -/
theorem traced_run (rt : Runtime σ V) (cache : Option σ) (es : List (Event V)) :
    Traced rt ((start cache).run rt es) ((start cache).served rt es)
      ((start cache).handedBy rt es) := by
  induction es using List.reverseRecOn with
  | nil => exact ⟨nofun, nofun, nofun⟩
  | append_singleton es e ih =>
    obtain ⟨w', c, t, a, hm, h⟩ := exists_move rt ((start cache).run rt es) e
    have hmove := ih.move (placed_run rt cache es) hm
    rw [handedBy_concat, served_concat, run_concat, h]
    exact ⟨hmove.fetching, hmove.done, hmove.lost⟩

/-! ### Runs in which nobody is dropped outside of the scheduler -/

/-- A dispatch that has ended stays as it is. -/
theorem dispatch_of_ended_step (rt : Runtime σ V) (e : Event V) {d : Nat} {dd : Dispatch V}
    (hd : w.dispatches[d]? = some dd) (hst : dd.stage = .done ∨ dd.stage = .lost) :
    (w.step rt e).dispatches[d]? = some dd := by
  obtain ⟨w', c, t, a, hm, h⟩ := exists_move rt w e
  obtain ⟨dd', hd', hstep⟩ := hm.dispatch_step hd
  rw [h]
  show w'.dispatches[d]? = some dd
  rw [hd']
  cases hstep with
  | stay => rfl
  | drain hsp => rcases hst with hst | hst <;> rw [hst] at hsp <;> cases hsp
  | fetched hf => rcases hst with hst | hst <;> rw [hst] at hf <;> cases hf
  | complete hf => rcases hst with hst | hst <;> rw [hst] at hf <;> cases hf
  | lose hf => rcases hst with hst | hst <;> rw [hst] at hf <;> cases hf

theorem dispatch_of_ended_run (rt : Runtime σ V) (es : List (Event V)) {d : Nat} {dd : Dispatch V}
    (hd : w.dispatches[d]? = some dd) (hst : dd.stage = .done ∨ dd.stage = .lost) :
    (w.run rt es).dispatches[d]? = some dd := by
  induction es generalizing w with
  | nil => exact hd
  | cons e es ih => exact ih (dispatch_of_ended_step rt e hd hst)

/-- What a step hands out in the scheduler comes from a dispatch that ends. -/
theorem Move.exists_dispatch_of_handed (hw : Placed rt w) (h : Move rt w e as hs w')
    (hlive : e.IsLive) {n : Nat} (hn : n ∈ hs.map Prod.fst) :
    ∃ (d : Nat) (dd : Dispatch V), w'.dispatches[d]? = some dd ∧ n ∈ dd.waiters ∧
      (dd.stage = .done ∨ dd.stage = .lost) := by
  cases h with
  | @complete _ d dd results hd hst =>
    rw [hw.map_fst_handouts hd hst] at hn
    refine ⟨d, { dd with stage := .done }, ?_, hn, .inl rfl⟩
    rw [dispatches_finish, List.getElem?_modify_eq, hd]
    rfl
  | @lose _ m d l dd rs he hl hp hd hst =>
    rw [map_fst_abandonments] at hn
    refine ⟨d, { dd with stage := .lost }, ?_, hn, .inr rfl⟩
    have hd' : (w.setProgress m .dropped).dispatches[d]? = some dd := hd
    rw [dispatches_finish, List.getElem?_modify_eq, hd']
    rfl
  | giveUp => exact hlive.elim
  | _ => cases hn

/-- Whoever is handed an outcome in the scheduler was in the batch of a dispatch. -/
theorem exists_dispatch_of_handed (rt : Runtime σ V) (cache : Option σ) {es : List (Event V)}
    (hlive : ∀ e ∈ es, e.IsLive) {n : Nat} (hn : n ∈ ((start cache).handedBy rt es).map Prod.fst) :
    ∃ (d : Nat) (dd : Dispatch V), ((start cache).run rt es).dispatches[d]? = some dd ∧
      n ∈ dd.waiters ∧ (dd.stage = .done ∨ dd.stage = .lost) := by
  induction es using List.reverseRecOn with
  | nil => cases hn
  | append_singleton es e ih =>
    rw [handedBy_concat, List.map_append, List.mem_append] at hn
    rw [run_concat]
    rcases hn with hn | hn
    · obtain ⟨d, dd, hd, hmem, hst⟩ := ih (fun x hx => hlive x (List.mem_append_left _ hx)) hn
      exact ⟨d, dd, dispatch_of_ended_step rt e hd hst, hmem, hst⟩
    · obtain ⟨w', c, t, a, hm, h⟩ := exists_move rt ((start cache).run rt es) e
      rw [h]
      have he : e.IsLive := hlive e (List.mem_append_right _ (List.mem_singleton_self e))
      exact hm.exists_dispatch_of_handed (placed_run rt cache es) he hn

end World

end GraphLayer.Batching
