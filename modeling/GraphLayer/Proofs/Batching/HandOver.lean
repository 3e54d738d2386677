import GraphLayer.Proofs.Batching.Provenance

/-!
# Windows whose owner is dropped

* `joinersOf`: those among the loads that joined who wait for an id of a slot;
* `World.spawned_run`: until it is polled, the spawned dispatch of a dropped owner holds the window,
  and the window only gains the loads that join it;
* `World.drained_run`: what a dispatch has drained stays its own, and is not lost unless its owner
  is dropped;
* `World.exists_completion`: it can always complete.
-/

namespace GraphLayer.Batching

variable {σ V : Type}

/-- The loads that join the window of a slot under an id, in order. -/
def joinersOf (js : List Joining) (s : Slot) (id : Int) : List Nat :=
  (js.filter fun j => j.slot = s ∧ j.id = id).map Joining.load

/-- A load is dropped, inside the scheduler or outside of it. -/
def Event.Drops (n : Nat) : Event V → Prop
  | .drop m | .dropOutside m => m = n
  | _ => False

theorem joinersOf_append (js ks : List Joining) (s : Slot) (id : Int) :
    joinersOf (js ++ ks) s id = joinersOf js s id ++ joinersOf ks s id := by
  simp [joinersOf]

namespace World

variable {rt : Runtime σ V} {w w' : World σ V} {e : Event V} {as : List Joining}
  {hs : List (Nat × Outcome V)}

/-! ### The window of a spawned dispatch -/

/-- A window that is open after a move has gained those who joined it and lost nobody. -/
theorem Move.waiting_of_scheduled (h : Move rt w e as hs w') {s : Slot}
    (hopen : (w'.queue s).scheduled = true) (id : Int) :
    w'.waiting s id = w.waiting s id ++ joinersOf as s id := by
  have hstep := h.queue_step s
  unfold waiting
  generalize w'.queue s = q at hstep hopen ⊢
  cases hstep with
  | stay hno =>
    have hnone : joinersOf as s id = [] := by
      rw [joinersOf, List.map_eq_nil_iff, List.filter_eq_nil_iff]
      intro j hj hsame
      exact hno j hj (of_decide_eq_true hsame).1
    rw [hnone, List.append_nil]
  | @join id' has =>
    rw [has, waitersOf_enqueue]
    by_cases hid : id' = id
    · simp [joinersOf, hid]
    · simp [joinersOf, hid]
  | land has =>
    rw [has]
    exact (List.append_nil _).symm
  | drainOwned | drainSpawned | giveUp => cases hopen

/-- A spawned dispatch that is not polled stays as it is. -/
theorem Move.spawned_of_ne (h : Move rt w e as hs w') {d : Nat} {dd : Dispatch V}
    (hd : w.dispatches[d]? = some dd) (hst : dd.stage = .spawned) (he : e ≠ .pollDispatch d) :
    w'.dispatches[d]? = some dd := by
  have hlt : d < w.dispatches.length := (List.getElem?_eq_some_iff.1 hd).1
  have hother {i : Nat} {g : Dispatch V → Dispatch V} {di : Dispatch V}
      {rs : List (Option (Batch V))} (hi : w.dispatches[i]? = some di)
      (hf : di.stage = .fetching rs) : (w.dispatches.modify i g)[d]? = some dd := by
    refine (List.getElem?_modify_ne _ _ fun hid => ?_).trans hd
    subst hid
    obtain rfl : di = dd := Option.some.inj (hi.symm.trans hd)
    rw [hst] at hf
    cases hf
  cases h with
  | stay | arrive | join | wait | leave | giveUp => exact hd
  | drainOwned | handOver => exact (List.getElem?_append_left hlt).trans hd
  | drainSpawned =>
    exact (List.getElem?_modify_ne _ _ fun hid => he (congrArg Event.pollDispatch hid)).trans hd
  | fetched hi hf => exact hother hi hf
  | complete hi hf => exact hother hi hf
  | lose _ _ _ hi hf => exact hother hi hf

/-- While its dispatch is not polled, a window gains those who join it and loses nobody. -/
theorem spawned_step (hw : Placed rt w) (ho : Once w) (ha : Attended w) {s : Slot} {d : Nat}
    (hd : w.SpawnedFor s d) (he : e ≠ .pollDispatch d) :
    (w.step rt e).SpawnedFor s d ∧
      ∀ id, (w.step rt e).waiting s id = w.waiting s id ++ joinersOf (w.joinings rt e) s id := by
  obtain ⟨dd, hd, rfl, hst⟩ := hd
  obtain ⟨w', c, t, a, hm, h⟩ := exists_move rt w e
  have hd' := hm.spawned_of_ne hd hst he
  have hopen := (ha.move hw ho hm).scheduled_of_spawned hd' (by rw [hst]; rfl)
  rw [h]
  exact ⟨⟨dd, hd', rfl, hst⟩, hm.waiting_of_scheduled hopen⟩

/-- **The window of a dropped owner.**  Until its dispatch is polled, the window holds those who
waited in it and those who have joined since. -/
theorem spawned_run (hw : Placed rt w) (ho : Once w) (ha : Attended w) {s : Slot} {d : Nat}
    (hd : w.SpawnedFor s d) {es : List (Event V)} (hes : .pollDispatch d ∉ es) :
    (w.run rt es).SpawnedFor s d ∧
      ∀ id, (w.run rt es).waiting s id = w.waiting s id ++ joinersOf (w.joined rt es) s id := by
  induction es generalizing w with
  | nil => exact ⟨hd, fun id => (List.append_nil _).symm⟩
  | cons e es ih =>
    obtain ⟨hne, hes⟩ := List.ne_and_not_mem_of_not_mem_cons hes
    obtain ⟨hd₁, hwaiting₁⟩ := spawned_step hw ho ha hd (Ne.symm hne)
    obtain ⟨hd₂, hwaiting₂⟩ := ih (hw.step e) (ho.step hw e) (ha.step hw ho e) hd₁ hes
    refine ⟨hd₂, fun id => ?_⟩
    rw [run_cons, hwaiting₂, hwaiting₁, joined, joinersOf_append, List.append_assoc]

/-! ### The batch of a dispatch -/

/-- The ids that a dispatch fetches are those for which somebody waits. -/
theorem Placed.mem_calls_iff (hw : Placed rt w) {d : Nat} {dd : Dispatch V}
    (hd : w.dispatches[d]? = some dd) (id : Int) :
    id ∈ (dd.calls rt.maxBatchSize).flatten ↔ waitersOf dd.batch id ≠ [] := by
  rw [Dispatch.calls, flatten_chunks]
  exact (hw.batch d dd hd).mem_keys_iff

/-- A dispatch that has drained its window keeps what it has taken.  It is not lost unless one of
those whom it has taken is dropped, and never if nobody owns it. -/
theorem drained_step (ha : Attended w) {d : Nat} {dd : Dispatch V}
    (hd : w.dispatches[d]? = some dd) (hst : dd.stage.isFetching = true ∨ dd.stage = .done)
    (rt : Runtime σ V) (hkept : dd.owned = true → ∀ n ∈ dd.waiters, ¬ e.Drops n) :
    ∃ dd' : Dispatch V, (w.step rt e).dispatches[d]? = some dd' ∧ dd'.slot = dd.slot ∧
      dd'.owned = dd.owned ∧ dd'.batch = dd.batch ∧
      (dd'.stage.isFetching = true ∨ dd'.stage = .done) := by
  obtain ⟨w', c, t, a, hm, h⟩ := exists_move rt w e
  obtain ⟨dd', hd', hstep⟩ := hm.dispatch_step hd
  rw [h]
  refine ⟨dd', hd', hstep.slot, hstep.owned, ?_⟩
  cases hstep with
  | stay => exact ⟨rfl, hst⟩
  | drain hsp =>
    rw [hsp] at hst
    rcases hst with hst | hst <;> cases hst
  | fetched => exact ⟨rfl, .inl rfl⟩
  | complete => exact ⟨rfl, .inr rfl⟩
  | lose hf =>
    -- only its owner, who waits in it, can lose a dispatch
    obtain ⟨n, l, hdrop, hl, hp⟩ := hm.of_lost hd hf hd' rfl
    obtain ⟨di, rs, hi, -, howned, -, hn⟩ := ha.driver n d l hl hp
    obtain rfl : di = dd := Option.some.inj (hi.symm.trans hd)
    refine absurd ?_ (hkept howned n (mem_flatMap_of_mem_waitersOf hn))
    rcases hdrop with rfl | rfl <;> rfl

theorem drained_run (hw : Placed rt w) (ho : Once w) (ha : Attended w) {d : Nat} {dd : Dispatch V}
    (hd : w.dispatches[d]? = some dd) (hst : dd.stage.isFetching = true ∨ dd.stage = .done)
    {es : List (Event V)}
    (hkept : dd.owned = true → ∀ n ∈ dd.waiters, ∀ e ∈ es, ¬ e.Drops n) :
    ∃ dd' : Dispatch V, (w.run rt es).dispatches[d]? = some dd' ∧ dd'.slot = dd.slot ∧
      dd'.owned = dd.owned ∧ dd'.batch = dd.batch ∧
      (dd'.stage.isFetching = true ∨ dd'.stage = .done) := by
  induction es generalizing w dd with
  | nil => exact ⟨dd, hd, rfl, rfl, rfl, hst⟩
  | cons e es ih =>
    obtain ⟨d₁, hd₁, hs₁, ho₁, hb₁, hst₁⟩ := drained_step ha hd hst rt fun howned n hn =>
      hkept howned n hn e List.mem_cons_self
    have hwaiters : d₁.waiters = dd.waiters := by rw [Dispatch.waiters, hb₁]; rfl
    obtain ⟨d₂, hd₂, hs₂, ho₂, hb₂, hst₂⟩ :=
      ih (hw.step e) (ho.step hw e) (ha.step hw ho e) hd₁ hst₁ fun howned n hn x hx =>
        hkept (ho₁ ▸ howned) n (hwaiters ▸ hn) x (List.mem_cons_of_mem e hx)
    exact ⟨d₂, hd₂, hs₂.trans hs₁, ho₂.trans ho₁, hb₂.trans hb₁, hst₂⟩

/-! ### Completion -/

theorem exists_results {rs : List (Option (Batch V))}
    (h : ∀ c < rs.length, ∃ r, rs[c]? = some (some r)) :
    ∃ results : List (Batch V), rs = results.map some := by
  induction rs with
  | nil => exact ⟨[], rfl⟩
  | cons a rs ih =>
    obtain ⟨r, hr⟩ := h 0 (Nat.zero_lt_succ _)
    obtain ⟨results, hresults⟩ := ih fun c hc => h (c + 1) (Nat.succ_lt_succ hc)
    obtain rfl := Option.some.inj hr
    exact ⟨r :: results, by rw [hresults, List.map_cons]⟩

theorem dispatch_of_fetched (rt : Runtime σ V) {d : Nat} {dd : Dispatch V}
    {rs : List (Option (Batch V))} (hd : w.dispatches[d]? = some dd) (hst : dd.stage = .fetching rs)
    (c : Nat) (r : Batch V) :
    (w.step rt (.fetched d c r)).dispatches[d]? =
      some { dd with stage := .fetching (rs.modify c fun a => some (a.getD r)) } := by
  obtain ⟨s, o, b, st⟩ := dd
  subst hst
  simp [step, fetched, setStage, hd]

/-- The backing service answers some chunks of a dispatch. -/
theorem dispatch_of_fetched_run (rt : Runtime σ V) (r : Nat → Batch V) (cs : List Nat) {d : Nat}
    {dd : Dispatch V} {rs : List (Option (Batch V))} (hd : w.dispatches[d]? = some dd)
    (hst : dd.stage = .fetching rs) :
    ∃ rs', (w.run rt (cs.map fun c => .fetched d c (r c))).dispatches[d]? =
        some { dd with stage := .fetching rs' } ∧ rs'.length = rs.length ∧
      ∀ c, c < rs.length → c ∈ cs ∨ (∃ a, rs[c]? = some (some a)) →
        ∃ a, rs'[c]? = some (some a) := by
  induction cs generalizing w dd rs with
  | nil =>
    obtain ⟨s, o, b, st⟩ := dd
    subst hst
    exact ⟨rs, hd, rfl, fun c _ h => h.resolve_left List.not_mem_nil⟩
  | cons i cs ih =>
    obtain ⟨rs', hd', hlen, hall⟩ := ih (dispatch_of_fetched rt hd hst i (r i)) rfl
    rw [List.length_modify] at hlen hall
    refine ⟨rs', hd', hlen, fun c hc h => hall c hc ?_⟩
    have hget : rs[c]? = some rs[c] := List.getElem?_eq_getElem hc
    by_cases hic : i = c
    · subst hic
      exact .inr ⟨_, by rw [List.getElem?_modify_eq, hget]; rfl⟩
    · rw [List.getElem?_modify_ne _ _ hic]
      exact h.imp_left fun hmem => (List.mem_cons.1 hmem).resolve_left fun he => hic he.symm

theorem dispatch_of_complete (rt : Runtime σ V) {d : Nat} {dd : Dispatch V}
    {results : List (Batch V)} (hd : w.dispatches[d]? = some dd)
    (hst : dd.stage = .fetching (results.map some)) :
    (w.complete rt d).dispatches[d]? = some { dd with stage := .done } := by
  obtain ⟨s, o, b, st⟩ := dd
  subst hst
  obtain ⟨c, t, a, hover⟩ := exists_remember_eq_setCache rt s
    (w.finish d s .done (handouts b (outcomesOf rt b results))) (outcomesOf rt b results)
  have hdone : (w.finish d s .done (handouts b (outcomesOf rt b results))).dispatches[d]? =
      some ⟨s, o, b, .done⟩ := by
    rw [dispatches_finish, List.getElem?_modify_eq, hd]
    rfl
  rw [complete_eq hd, hover]
  exact hdone

/-- A dispatch that nobody owns needs nothing to complete but to be polled and to get the answers of
its chunks, whatever these are. -/
theorem exists_completion_of_fetching (rt : Runtime σ V) (r : Nat → Batch V) {d : Nat}
    {dd : Dispatch V} (hd : w.dispatches[d]? = some dd) (howned : dd.owned = false)
    (hst : dd.stage.isFetching = true) :
    ∃ es : List (Event V), (∀ e ∈ es, e = .pollDispatch d ∨ ∃ c, e = .fetched d c (r c)) ∧
      (w.run rt es).dispatches[d]? = some { dd with stage := .done } := by
  cases hst' : dd.stage with
  | fetching rs =>
    obtain ⟨rs', hd', hlen, hall⟩ :=
      dispatch_of_fetched_run rt r (List.range rs.length) hd hst'
    obtain ⟨results, rfl⟩ := exists_results fun c hc =>
      hall c (hlen ▸ hc) (.inl (List.mem_range.2 (hlen ▸ hc)))
    refine ⟨(List.range rs.length).map (fun c => .fetched d c (r c)) ++ [.pollDispatch d], ?_, ?_⟩
    · intro e he
      rcases List.mem_append.1 he with he | he
      · obtain ⟨c, -, rfl⟩ := List.mem_map.1 he
        exact .inr ⟨c, rfl⟩
      · exact .inl (List.mem_singleton.1 he)
    · obtain ⟨s, o, b, st⟩ := dd
      subst howned
      rw [run_concat]
      have hpoll : (w.run rt ((List.range rs.length).map fun c => .fetched d c (r c))).step rt
          (.pollDispatch d) =
          (w.run rt ((List.range rs.length).map fun c => .fetched d c (r c))).complete rt d := by
        simp only [step, pollDispatch, hd']
      have hdone := dispatch_of_complete rt hd' rfl
      rw [hpoll]
      exact hdone
  | _ =>
    rw [hst'] at hst
    cases hst

theorem dispatch_of_drainSpawned (rt : Runtime σ V) {d : Nat} {dd : Dispatch V}
    (hd : w.dispatches[d]? = some dd) (hst : dd.stage = .spawned) :
    (w.step rt (.pollDispatch d)).dispatches[d]? =
      some { dd with
        batch := (w.queue dd.slot).pending.toList
        stage := unanswered rt (w.queue dd.slot).pending.toList } := by
  obtain ⟨s, o, b, st⟩ := dd
  subst hst
  have hstep : w.step rt (.pollDispatch d) = w.drainSpawned rt s d := by
    simp only [step, pollDispatch, hd]
  rw [hstep, dispatches_drainSpawned, List.getElem?_modify_eq, hd]
  rfl

/-- **A dispatch that nobody owns can always complete.** -/
theorem exists_completion (rt : Runtime σ V) (r : Nat → Batch V) {d : Nat} {dd : Dispatch V}
    (hd : w.dispatches[d]? = some dd) (howned : dd.owned = false) (hst : dd.stage ≠ .lost) :
    ∃ es : List (Event V), (∀ e ∈ es, e = .pollDispatch d ∨ ∃ c, e = .fetched d c (r c)) ∧
      ∃ dd' : Dispatch V, (w.run rt es).dispatches[d]? = some dd' ∧ dd'.stage = .done := by
  cases hst' : dd.stage with
  | spawned =>
    have hd' := dispatch_of_drainSpawned rt hd hst'
    obtain ⟨es, hes, hdone⟩ := exists_completion_of_fetching rt r hd' howned rfl
    refine ⟨.pollDispatch d :: es, fun e he => ?_, _, hdone, rfl⟩
    rcases List.mem_cons.1 he with rfl | he
    · exact .inl rfl
    · exact hes e he
  | fetching =>
    obtain ⟨es, hes, hdone⟩ := exists_completion_of_fetching rt r hd howned (by rw [hst']; rfl)
    exact ⟨es, hes, _, hdone, rfl⟩
  | done => exact ⟨[], nofun, dd, hd, hst'⟩
  | lost => exact absurd hst' hst

end World

end GraphLayer.Batching
