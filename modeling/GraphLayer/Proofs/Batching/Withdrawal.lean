import GraphLayer.Proofs.Batching.Lifecycle

/-!
# Dropping a load that owns no window

* `World.Passive`: a load that waits for somebody else, or waits no more;
* `World.withdraw`, a world without the caller of a load;
* `World.step_withdraw` and `World.run_withdraw`: whether the caller of a passive load is there
  makes no difference to any step, nor to any run, but for the load itself.
-/

namespace GraphLayer.Batching

variable {σ V : Type}

/-- Whether a load neither owns a window nor drives a dispatch. -/
def Progress.isPassive : Progress V → Bool
  | .collecting _ _ | .dispatching _ => false
  | .waiting | .answered _ | .dropped => true

theorem Progress.Step.isPassive {drained : Nat → Prop} {given : Outcome V → Prop}
    {p p' : Progress V} (h : p.Step drained given p') (hp : p.isPassive = true) :
    p'.isPassive = true := by
  cases h with
  | stay => exact hp
  | wait => cases hp
  | drain => cases hp
  | leave => rfl
  | receive => rfl

namespace World

variable {rt : Runtime σ V} {w : World σ V} {n : Nat}

/-- A load that is there and does nothing of its own. -/
def Passive (w : World σ V) (n : Nat) : Prop :=
  ∃ l : Load V, w.loads[n]? = some l ∧ l.progress.isPassive = true

/-- The world without the caller of a load. -/
def withdraw (w : World σ V) (n : Nat) : World σ V := w.setProgress n .dropped

theorem withdraw_eq_mapLoads (w : World σ V) (n : Nat) :
    w.withdraw n = w.mapLoads fun ls => ls.modify n fun l => { l with progress := .dropped } := rfl

theorem withdraw_withdraw (w : World σ V) (n : Nat) : (w.withdraw n).withdraw n = w.withdraw n := by
  have h := List.modify_modify_eq (fun l : Load V => { l with progress := .dropped })
    (fun l : Load V => { l with progress := .dropped }) n w.loads
  simp only [withdraw, setProgress, h]
  rfl

theorem getElem?_withdraw_of_ne {m : Nat} (h : n ≠ m) : (w.withdraw n).loads[m]? = w.loads[m]? :=
  List.getElem?_modify_ne _ _ h

theorem Passive.lt_length (h : w.Passive n) : n < w.loads.length := by
  obtain ⟨l, hl, -⟩ := h
  exact (List.getElem?_eq_some_iff.1 hl).1

/-! ### Steps that know the loads only to change them -/

theorem setProgress_withdraw {m : Nat} (h : n ≠ m) (p : Progress V) :
    (w.withdraw n).setProgress m p = (w.setProgress m p).withdraw n := by
  have hcomm := List.modify_modify_ne (fun l : Load V => { l with progress := .dropped })
    (fun l : Load V => { l with progress := p }) w.loads h
  simp only [withdraw, setProgress, hcomm]

/-- A load takes an outcome and goes, or goes and is handed the outcome in vain. -/
theorem receiveAll_modify_dropped (ls : List (Load V)) (hs : List (Nat × Outcome V)) :
    receiveAll (ls.modify n fun l => { l with progress := .dropped }) hs =
      (receiveAll ls hs).modify n fun l => { l with progress := .dropped } := by
  induction hs generalizing ls with
  | nil => rfl
  | cons h hs ih =>
    rw [receiveAll_cons, receiveAll_cons, ← ih]
    congr 1
    by_cases hn : n = h.1
    · subst hn
      rw [List.modify_modify_eq, List.modify_modify_eq]
      congr 1
      funext l
      have hgone : ({ l with progress := .dropped } : Load V).receive h.2 =
          { l with progress := .dropped } := Load.receive_of_dropped rfl h.2
      simp only [Function.comp_apply, hgone, Load.slot_receive, Load.id_receive,
        Load.expected_receive]
    · exact List.modify_modify_ne _ _ ls hn

theorem deliver_withdraw (w : World σ V) (hs : List (Nat × Outcome V)) :
    (w.withdraw n).deliver hs = (w.deliver hs).withdraw n := by
  simp only [withdraw, setProgress, deliver, receiveAll_modify_dropped]

theorem finish_withdraw (w : World σ V) (d : Nat) (s : Slot) (st : Stage V)
    (hs : List (Nat × Outcome V)) :
    (w.withdraw n).finish d s st hs = (w.finish d s st hs).withdraw n :=
  deliver_withdraw ((w.land s).setStage d st) hs

theorem complete_withdraw (w : World σ V) (d : Nat) :
    (w.withdraw n).complete rt d = (w.complete rt d).withdraw n := by
  have hd : (w.withdraw n).dispatches = w.dispatches := rfl
  match h : w.dispatches[d]? with
  | some ⟨s, o, b, .fetching rs⟩ =>
    cases hr : allResults? rs with
    | some results =>
      obtain rfl := allResults?_eq_some_iff.1 hr
      rw [complete_eq h, complete_eq (hd ▸ h), finish_withdraw, withdraw_eq_mapLoads,
        remember_mapLoads]
      rfl
    | none => simp [complete, hd, h, hr]
  | none | some ⟨_, _, _, .spawned⟩ | some ⟨_, _, _, .done⟩ | some ⟨_, _, _, .lost⟩ =>
    simp [complete, hd, h]

theorem loseDispatch_withdraw (w : World σ V) (d : Nat) :
    (w.withdraw n).loseDispatch d = (w.loseDispatch d).withdraw n := by
  have hd : (w.withdraw n).dispatches = w.dispatches := rfl
  match h : w.dispatches[d]? with
  | some ⟨s, o, b, .fetching rs⟩ =>
    rw [loseDispatch_eq h, loseDispatch_eq (hd ▸ h), finish_withdraw]
  | none | some ⟨_, _, _, .spawned⟩ | some ⟨_, _, _, .done⟩ | some ⟨_, _, _, .lost⟩ =>
    simp [loseDispatch, hd, h]

theorem append_withdraw (hn : n < w.loads.length) (l : Load V) :
    ({ w.withdraw n with loads := (w.withdraw n).loads ++ [l] } : World σ V) =
      ({ w with loads := w.loads ++ [l] } : World σ V).withdraw n := by
  simp only [withdraw, setProgress, List.modify_append_left _ hn]

theorem beginLoad_withdraw (hn : n < w.loads.length) (s : Slot) (id : Int) (expected : String) :
    (w.withdraw n).beginLoad rt s id expected = (w.beginLoad rt s id expected).withdraw n := by
  by_cases hk : rt.loaders.contains s.key = true
  · obtain ⟨c, t, a, ho⟩ := exists_lookup_eq_setCache rt w ⟨s.key, id⟩
    have hn' : n < (w.setCache c t a).loads.length := hn
    have hlookup := lookup_mapLoads rt w ⟨s.key, id⟩
      fun ls => ls.modify n fun l => { l with progress := .dropped }
    rw [← withdraw_eq_mapLoads, ← withdraw_eq_mapLoads, ho] at hlookup
    cases hl : (w.lookup rt ⟨s.key, id⟩).1 with
    | some v =>
      have hold : w.lookup rt ⟨s.key, id⟩ = (some v, w.setCache c t a) := Prod.ext hl ho
      rw [hl] at hlookup
      simp only [beginLoad, hk, if_true, hlookup, hold]
      exact append_withdraw hn' _
    | none =>
      have hold : w.lookup rt ⟨s.key, id⟩ = (none, w.setCache c t a) := Prod.ext hl ho
      rw [hl] at hlookup
      -- the load that begins has the same number in both worlds
      have hlen : ((w.setCache c t a).withdraw n).loads.length = (w.setCache c t a).loads.length :=
        List.length_modify ..
      have hqueue : ((w.setCache c t a).withdraw n).queue s = (w.setCache c t a).queue s := rfl
      simp only [beginLoad, hk, if_true, hlookup, hold, hlen, hqueue]
      exact append_withdraw (w := (w.setCache c t a).setQueue s _) hn' _
  · simp only [beginLoad, hk, Bool.false_eq_true, if_false]
    exact append_withdraw hn _

/-! ### Steps of the load itself and of others -/

theorem getElem?_withdraw_self {l : Load V} (hl : w.loads[n]? = some l) :
    (w.withdraw n).loads[n]? = some { l with progress := .dropped } := by
  rw [withdraw, setProgress, List.getElem?_modify_eq, hl]
  rfl

theorem Passive.withdraw (hn : w.Passive n) : (w.withdraw n).Passive n := by
  obtain ⟨l, hl, -⟩ := hn
  exact ⟨_, getElem?_withdraw_self hl, rfl⟩

theorem poll_of_passive (hn : w.Passive n) : w.poll rt n = w := by
  obtain ⟨⟨s, id, x, p⟩, hl, hp⟩ := hn
  cases p with
  | collecting => cases hp
  | dispatching => cases hp
  | waiting | answered | dropped => simp [poll, hl]

theorem drop_of_passive (hn : w.Passive n) : w.drop n = w ∨ w.drop n = w.withdraw n := by
  obtain ⟨⟨s, id, x, p⟩, hl, hp⟩ := hn
  cases p with
  | collecting => cases hp
  | dispatching => cases hp
  | waiting =>
    simp only [drop, hl]
    exact .inr rfl
  | answered | dropped =>
    simp only [drop, hl]
    exact .inl trivial

theorem drop_withdraw_self (hn : w.Passive n) : (w.withdraw n).drop n = w.withdraw n := by
  obtain ⟨l, hl, -⟩ := hn
  simp [drop, getElem?_withdraw_self hl]

theorem dropOutside_of_passive (hn : w.Passive n) : w.dropOutside n = w.drop n := by
  obtain ⟨⟨s, id, x, p⟩, hl, hp⟩ := hn
  cases p with
  | collecting => cases hp
  | dispatching | waiting | answered | dropped => simp [dropOutside, hl]

theorem poll_withdraw (hn : w.Passive n) (m : Nat) :
    (w.withdraw n).poll rt m = (w.poll rt m).withdraw n := by
  by_cases hm : n = m
  · subst hm
    rw [poll_of_passive hn, poll_of_passive hn.withdraw]
  · have hload := getElem?_withdraw_of_ne (w := w) hm
    match h : w.loads[m]? with
    | some ⟨s, id, x, .collecting y seen⟩ =>
      have hqueue : (w.withdraw n).queue s = w.queue s := rfl
      by_cases hy : (w.queue s).enqueued = seen ∨ y + 1 = maxYields
      · simp only [poll, hload, h, hqueue, if_pos hy]
        exact setProgress_withdraw
          (w := { (w.drainQueue rt s).2 with dispatches := w.dispatches ++ [_] }) hm _
      · simp only [poll, hload, h, hqueue, if_neg hy]
        exact setProgress_withdraw hm _
    | some ⟨s, id, x, .dispatching d⟩ =>
      simp only [poll, hload, h]
      exact complete_withdraw w d
    | none | some ⟨_, _, _, .waiting⟩ | some ⟨_, _, _, .answered _⟩ | some ⟨_, _, _, .dropped⟩ =>
      simp [poll, hload, h]

theorem pollDispatch_withdraw (w : World σ V) (d : Nat) :
    (w.withdraw n).pollDispatch rt d = (w.pollDispatch rt d).withdraw n := by
  have hd : (w.withdraw n).dispatches = w.dispatches := rfl
  match h : w.dispatches[d]? with
  | some ⟨s, o, b, .spawned⟩ =>
    simp only [pollDispatch, hd, h]
    rfl
  | some ⟨s, false, b, .fetching rs⟩ =>
    simp only [pollDispatch, hd, h]
    exact complete_withdraw w d
  | none | some ⟨_, true, _, .fetching _⟩ | some ⟨_, true, _, .done⟩ | some ⟨_, true, _, .lost⟩
  | some ⟨_, false, _, .done⟩ | some ⟨_, false, _, .lost⟩ =>
    simp [pollDispatch, hd, h]

theorem fetched_withdraw (w : World σ V) (d c : Nat) (r : Batch V) :
    (w.withdraw n).fetched d c r = (w.fetched d c r).withdraw n := by
  have hd : (w.withdraw n).dispatches = w.dispatches := rfl
  match h : w.dispatches[d]? with
  | some ⟨s, o, b, .fetching rs⟩ =>
    simp only [fetched, hd, h]
    rfl
  | none | some ⟨_, _, _, .spawned⟩ | some ⟨_, _, _, .done⟩ | some ⟨_, _, _, .lost⟩ =>
    simp [fetched, hd, h]

theorem drop_withdraw (hn : w.Passive n) (m : Nat) :
    (w.withdraw n).drop m = (w.drop m).withdraw n := by
  by_cases hm : n = m
  · subst hm
    rw [drop_withdraw_self hn]
    rcases drop_of_passive hn with h | h
    · rw [h]
    · rw [h, withdraw_withdraw]
  · have hload := getElem?_withdraw_of_ne (w := w) hm
    match h : w.loads[m]? with
    | some ⟨s, id, x, .collecting y seen⟩ =>
      simp only [drop, hload, h]
      exact setProgress_withdraw (w := { w with dispatches := w.dispatches ++ [_] }) hm _
    | some ⟨s, id, x, .dispatching d⟩ =>
      simp only [drop, hload, h]
      rw [setProgress_withdraw hm, loseDispatch_withdraw]
    | some ⟨s, id, x, .waiting⟩ =>
      simp only [drop, hload, h]
      exact setProgress_withdraw hm _
    | none | some ⟨_, _, _, .answered _⟩ | some ⟨_, _, _, .dropped⟩ => simp [drop, hload, h]

theorem dropOutside_withdraw (hn : w.Passive n) (m : Nat) :
    (w.withdraw n).dropOutside m = (w.dropOutside m).withdraw n := by
  by_cases hm : n = m
  · subst hm
    rw [dropOutside_of_passive hn, dropOutside_of_passive hn.withdraw, drop_withdraw hn]
  · have hload := getElem?_withdraw_of_ne (w := w) hm
    match h : w.loads[m]? with
    | some ⟨s, id, x, .collecting y seen⟩ =>
      simp only [dropOutside, hload, h, abandonAll_eq]
      rw [setProgress_withdraw hm]
      exact deliver_withdraw ((w.setProgress m .dropped).setQueue s _) _
    | none | some ⟨_, _, _, .dispatching _⟩ | some ⟨_, _, _, .waiting⟩
    | some ⟨_, _, _, .answered _⟩ | some ⟨_, _, _, .dropped⟩ =>
      simp only [dropOutside, hload, h]
      exact drop_withdraw hn m

/-- Whether the caller of a passive load is there makes no difference to a step. -/
theorem step_withdraw (hn : w.Passive n) (e : Event V) :
    (w.withdraw n).step rt e = (w.step rt e).withdraw n := by
  cases e with
  | clock => rfl
  | beginLoad s id expected => exact beginLoad_withdraw hn.lt_length s id expected
  | poll m => exact poll_withdraw hn m
  | pollDispatch d => exact pollDispatch_withdraw w d
  | fetched d c r => exact fetched_withdraw w d c r
  | drop m => exact drop_withdraw hn m
  | dropOutside m => exact dropOutside_withdraw hn m
  | invalidate k =>
    have hcache : (w.withdraw n).cache = w.cache := rfl
    cases hc : w.cache with
    | none => simp only [step, invalidate, hcache, hc]
    | some c =>
      simp only [step, invalidate, hcache, hc]
      rfl
  | shutdown =>
    have hcache : (w.withdraw n).cache = w.cache := rfl
    cases hc : w.cache with
    | none => simp only [step, shutdown, hcache, hc]
    | some c =>
      simp only [step, shutdown, hcache, hc]
      rfl

theorem Passive.step (rt : Runtime σ V) (hn : w.Passive n) (e : Event V) :
    (w.step rt e).Passive n := by
  obtain ⟨l, hl, hp⟩ := hn
  obtain ⟨w', c, t, a, hm, h⟩ := exists_move rt w e
  obtain ⟨l', hl', -⟩ := hm.continues.find n l hl
  rw [h]
  refine ⟨l', hl', ?_⟩
  rcases hm.load_step hl' with ⟨k, hk, -, -, -, hstep⟩ | ⟨hlen, -⟩
  · obtain rfl : k = l := Option.some.inj (hk.symm.trans hl)
    exact hstep.isPassive hp
  · have := (List.getElem?_eq_some_iff.1 hl).1
    omega

/-- **Withdrawal.**  In no run does it matter, but for the load itself, whether the caller of a
passive load is there. -/
theorem run_withdraw (hn : w.Passive n) (es : List (Event V)) :
    (w.withdraw n).run rt es = (w.run rt es).withdraw n := by
  induction es generalizing w with
  | nil => rfl
  | cons e es ih => rw [run_cons, run_cons, step_withdraw hn, ih (hn.step rt e)]

/-- A passive load that is dropped leaves all dispatches and all other loads as they were going to
be. -/
theorem run_drop_of_passive (rt : Runtime σ V) (hn : w.Passive n) (es : List (Event V)) :
    ((w.step rt (.drop n)).run rt es).dispatches = (w.run rt es).dispatches ∧
      ∀ m, m ≠ n → ((w.step rt (.drop n)).run rt es).loads[m]? = (w.run rt es).loads[m]? := by
  show ((w.drop n).run rt es).dispatches = _ ∧ ∀ m, m ≠ n → ((w.drop n).run rt es).loads[m]? = _
  rcases drop_of_passive hn with h | h
  · rw [h]
    exact ⟨rfl, fun m _ => rfl⟩
  · rw [h, run_withdraw hn]
    exact ⟨rfl, fun m hm => getElem?_withdraw_of_ne hm.symm⟩

end World

end GraphLayer.Batching
