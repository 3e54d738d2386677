import GraphLayer.Proofs.Batching.Holders

/-!
# Calls of loaders

* `World.drained` and `World.called`, the windows that a run drains and the calls of loaders that it
  makes;
* `World.Drained` and `World.drains_cases`: a step drains one window at most, and what it takes
  there;
* `World.called_eq`: loaders are called for the chunks of the windows that are drained, and for
  nothing else;
* `World.fetchCount_step` and `World.fetchCount_run`: the fetch count of a slot counts the calls of
  its loader.
-/

namespace GraphLayer.Batching

variable {σ V : Type}

/-- A call of a loader: the slot that it is made for, and the ids that are asked for. -/
structure Calling where
  slot : Slot
  ids : List Int
  deriving DecidableEq, Repr

/-- The calls for the chunks of a window that is drained. -/
def Dispatch.callings (maxBatchSize : Nat) (d : Dispatch V) : List Calling :=
  (d.calls maxBatchSize).map fun ids => ⟨d.slot, ids⟩

namespace World

/-- Whether a dispatch is there and has drained its window. -/
def hasDrained (w : World σ V) (d : Nat) : Bool :=
  w.dispatches[d]?.any fun dd => !dd.stage.isSpawned

/-- The dispatches that drain their windows on the way from one world to the next. -/
def drainsTo (w w' : World σ V) : List (Dispatch V) :=
  w'.dispatches.zipIdx.flatMap fun (dd, d) =>
    if w'.hasDrained d && !w.hasDrained d then [dd] else []

/-- The dispatches that drain their windows in a step. -/
def drains (rt : Runtime σ V) (w : World σ V) (e : Event V) : List (Dispatch V) :=
  w.drainsTo (w.step rt e)

/-- The dispatches that drain their windows in a run, in order. -/
def drained (rt : Runtime σ V) (w : World σ V) : List (Event V) → List (Dispatch V)
  | [] => []
  | e :: es => w.drains rt e ++ (w.step rt e).drained rt es

/-- The calls of loaders on the way from one world to the next: one for each chunk of every window
that is drained there and was not before. -/
def callingsTo (rt : Runtime σ V) (w w' : World σ V) : List Calling :=
  w'.dispatches.zipIdx.flatMap fun (dd, d) =>
    if w'.hasDrained d && !w.hasDrained d then
      (dd.calls rt.maxBatchSize).map fun ids => ⟨dd.slot, ids⟩
    else []

/-- The calls of loaders that a step makes. -/
def callings (rt : Runtime σ V) (w : World σ V) (e : Event V) : List Calling :=
  w.callingsTo rt (w.step rt e)

/-- The calls of loaders that a run makes, in order. -/
def called (rt : Runtime σ V) (w : World σ V) : List (Event V) → List Calling
  | [] => []
  | e :: es => w.callings rt e ++ (w.step rt e).called rt es

theorem drained_append (rt : Runtime σ V) (w : World σ V) (es fs : List (Event V)) :
    w.drained rt (es ++ fs) = w.drained rt es ++ (w.run rt es).drained rt fs := by
  induction es generalizing w with
  | nil => rfl
  | cons e es ih => simp [drained, ih]

theorem drained_concat (rt : Runtime σ V) (w : World σ V) (es : List (Event V)) (e : Event V) :
    w.drained rt (es ++ [e]) = w.drained rt es ++ (w.run rt es).drains rt e := by
  rw [drained_append, drained, drained, List.append_nil]

theorem called_append (rt : Runtime σ V) (w : World σ V) (es fs : List (Event V)) :
    w.called rt (es ++ fs) = w.called rt es ++ (w.run rt es).called rt fs := by
  induction es generalizing w with
  | nil => rfl
  | cons e es ih => simp [called, ih]

/-! ### Windows that are drained -/

variable {rt : Runtime σ V} {w w' : World σ V}

theorem hasDrained_iff {d : Nat} : w.hasDrained d = true ↔
    ∃ dd : Dispatch V, w.dispatches[d]? = some dd ∧ dd.stage.isSpawned = false := by
  simp [hasDrained, Option.any_eq_true]

/-- A dispatch that has drained its window has done so whatever its stage is then. -/
theorem hasDrained_of_modify {d : Nat} {dd : Dispatch V} {g : Dispatch V → Dispatch V}
    (hd : w.dispatches[d]? = some dd) (hst : dd.stage.isSpawned = false)
    (hw : w'.dispatches = w.dispatches.modify d g) {i : Nat} (hi : w'.hasDrained i = true) :
    w.hasDrained i = true := by
  obtain ⟨b, hb, hbst⟩ := hasDrained_iff.1 hi
  rw [hw] at hb
  obtain ⟨c, hc, rfl⟩ := List.exists_of_getElem?_modify hb
  by_cases hdi : d = i
  · subst hdi
    exact hasDrained_iff.2 ⟨dd, hd, hst⟩
  · rw [if_neg hdi] at hbst
    exact hasDrained_iff.2 ⟨c, hc, hbst⟩

theorem drainsTo_eq_nil (h : ∀ d, w'.hasDrained d = true → w.hasDrained d = true) :
    w.drainsTo w' = [] := by
  refine List.flatMap_eq_nil_iff.2 fun (dd, d) _ => ?_
  cases hd : w'.hasDrained d with
  | false => simp [hd]
  | true => simp [h d hd]

theorem drainsTo_of_unique {d : Nat} {dd : Dispatch V} (hd : w'.dispatches[d]? = some dd)
    (hst : dd.stage.isSpawned = false) (hold : w.hasDrained d = false)
    (h : ∀ i, i ≠ d → w'.hasDrained i = true → w.hasDrained i = true) : w.drainsTo w' = [dd] := by
  have hnew : w'.hasDrained d = true := hasDrained_iff.2 ⟨dd, hd, hst⟩
  rw [drainsTo, List.flatMap_zipIdx_of_unique hd]
  · simp only [hnew, hold, Bool.not_false, Bool.and_self, if_true]
  · intro i b hi
    cases hp : w'.hasDrained i with
    | false => simp [hp]
    | true => simp [hp, h i hi hp]

/-- The calls are those for the chunks of the windows that are drained. -/
theorem callingsTo_eq (rt : Runtime σ V) (w w' : World σ V) :
    w.callingsTo rt w' = (w.drainsTo w').flatMap (Dispatch.callings rt.maxBatchSize) := by
  rw [callingsTo, drainsTo, List.flatMap_assoc]
  refine List.flatMap_congr fun (dd, d) _ => ?_
  cases h : w'.hasDrained d && !w.hasDrained d <;> simp [h, Dispatch.callings]

/-! ### What a step drains -/

/-- On the way from one world to the next the dispatch `d`, and no other one, takes the open window
of its slot. -/
structure Drained (rt : Runtime σ V) (w w' : World σ V) (d : Nat) (dd : Dispatch V) : Prop where
  dispatch : w'.dispatches[d]? = some dd
  batch : dd.batch = (w.queue dd.slot).pending.toList
  stage : dd.stage = unanswered rt dd.batch
  fresh : w.hasDrained d = false
  only : ∀ i, i ≠ d → w'.hasDrained i = true → w.hasDrained i = true
  queue : ∀ t, w'.queue t = if t = dd.slot then emptied rt (w.queue dd.slot) else w.queue t

theorem Drained.isSpawned {d : Nat} {dd : Dispatch V} (h : Drained rt w w' d dd) :
    dd.stage.isSpawned = false := by
  rw [h.stage]
  rfl

theorem Drained.drainsTo_eq {d : Nat} {dd : Dispatch V} (h : Drained rt w w' d dd) :
    w.drainsTo w' = [dd] :=
  drainsTo_of_unique h.dispatch h.isSpawned h.fresh h.only

/-- A move drains nothing and leaves the fetch counts alone, or it drains one window. -/
theorem Move.drained_cases {e : Event V} {as : List Joining} {hs : List (Nat × Outcome V)}
    (h : Move rt w e as hs w') :
    ((∀ i, w'.hasDrained i = true → w.hasDrained i = true) ∧
      ∀ t, (w'.queue t).fetches = (w.queue t).fetches) ∨
    ∃ d dd, Drained rt w w' d dd := by
  -- A collector that changes, but counts no more fetches.
  have hcount {s : Slot} {q : Queue} (hq : ∀ t, w'.queue t = if t = s then q else w.queue t)
      (hf : q.fetches = (w.queue s).fetches) (t : Slot) :
      (w'.queue t).fetches = (w.queue t).fetches := by
    rw [hq]
    split
    · next ht => rw [hf, ht]
    · rfl
  cases h with
  | stay | arrive | wait | leave => exact .inl ⟨fun _ h => h, fun _ => rfl⟩
  | join s id expected hk =>
    exact .inl ⟨fun _ h => h, hcount (fun t => queue_join w s t id expected) rfl⟩
  | @drainOwned n l y seen hl hp =>
    have hnew := dispatches_drainOwned rt w l.slot n
    refine .inr ⟨w.dispatches.length, ⟨l.slot, true, (w.queue l.slot).pending.toList,
      unanswered rt (w.queue l.slot).pending.toList⟩, ?_, rfl, rfl, ?_, ?_,
      fun t => queue_drainOwned rt w l.slot t n⟩
    · rw [hnew, List.getElem?_concat_length]
    · simp [hasDrained]
    · intro i hi hdi
      obtain ⟨b, hb, hst⟩ := hasDrained_iff.1 hdi
      rw [hnew] at hb
      rcases List.getElem?_concat_cases hb with hb | ⟨rfl, -⟩
      · exact hasDrained_iff.2 ⟨b, hb, hst⟩
      · exact absurd rfl hi
  | @drainSpawned d dd hd hst =>
    have hnew := dispatches_drainSpawned rt w dd.slot d
    refine .inr ⟨d, { dd with
      batch := (w.queue dd.slot).pending.toList
      stage := unanswered rt (w.queue dd.slot).pending.toList }, ?_, rfl, rfl, ?_, ?_,
      fun t => queue_drainSpawned rt w dd.slot t d⟩
    · rw [hnew, List.getElem?_modify_eq, hd]
      rfl
    · simp [hasDrained, hd, hst, Stage.isSpawned]
    · intro i hi hdi
      obtain ⟨b, hb, hbst⟩ := hasDrained_iff.1 hdi
      rw [hnew, List.getElem?_modify_ne _ _ (Ne.symm hi)] at hb
      exact hasDrained_iff.2 ⟨b, hb, hbst⟩
  | @fetched d dd rs hd hst c r =>
    exact .inl ⟨fun _ => hasDrained_of_modify hd (by rw [hst]; rfl) rfl, fun _ => rfl⟩
  | @complete e d dd results hd hst =>
    exact .inl ⟨fun _ => hasDrained_of_modify hd (by rw [hst]; rfl) (dispatches_finish ..),
      hcount (fun t => queue_finish w dd.slot t d .done _) rfl⟩
  | @handOver n l y seen hl hp =>
    refine .inl ⟨fun i hi => ?_, fun _ => rfl⟩
    obtain ⟨b, hb, hst⟩ := hasDrained_iff.1 hi
    rw [dispatches_handOver] at hb
    rcases List.getElem?_concat_cases hb with hb | ⟨-, rfl⟩
    · exact hasDrained_iff.2 ⟨b, hb, hst⟩
    · cases hst
  | @lose e n d l dd rs he hl hp hd hst =>
    exact .inl ⟨fun _ => hasDrained_of_modify hd (by rw [hst]; rfl)
        (dispatches_finish (w.setProgress n .dropped) ..),
      hcount (fun t => queue_finish (w.setProgress n .dropped) dd.slot t d .lost _) rfl⟩
  | @giveUp n l y seen hl hp =>
    exact .inl ⟨fun _ h => h, hcount (fun t => queue_giveUp w l.slot t n) rfl⟩

/-- **What a step drains:** nothing, and then it leaves the fetch counts alone, or one window. -/
theorem drains_cases (rt : Runtime σ V) (w : World σ V) (e : Event V) :
    (w.drains rt e = [] ∧ (∀ i, (w.step rt e).hasDrained i = true → w.hasDrained i = true) ∧
      ∀ s, (w.step rt e).fetchCount s = w.fetchCount s) ∨
    ∃ d dd, Drained rt w (w.step rt e) d dd ∧ w.drains rt e = [dd] := by
  obtain ⟨w', c, t, a, hm, hw⟩ := exists_move rt w e
  rw [drains, hw]
  rcases hm.drained_cases with ⟨hd, hf⟩ | ⟨d, dd, hd⟩
  · exact .inl ⟨drainsTo_eq_nil hd, hd, hf⟩
  · have hsame : Drained rt w (w'.setCache c t a) d dd :=
      ⟨hd.dispatch, hd.batch, hd.stage, hd.fresh, hd.only, hd.queue⟩
    exact .inr ⟨d, dd, hsame, hsame.drainsTo_eq⟩

/-- **What a run calls:** the loader of every window that is drained, once for each chunk. -/
theorem called_eq (rt : Runtime σ V) (w : World σ V) (es : List (Event V)) :
    w.called rt es = (w.drained rt es).flatMap (Dispatch.callings rt.maxBatchSize) := by
  induction es generalizing w with
  | nil => rfl
  | cons e es ih =>
    rw [called, drained, List.flatMap_append, ← ih, callings, callingsTo_eq]
    rfl

/-! ### Fetch counts -/

theorem countP_callings (m : Nat) (dd : Dispatch V) (s : Slot) :
    (dd.callings m).countP (·.slot = s) = if s = dd.slot then (dd.calls m).length else 0 := by
  rw [Dispatch.callings, List.countP_map]
  by_cases hs : s = dd.slot
  · subst hs
    simp [Function.comp_def]
  · simp [Function.comp_def, hs, Ne.symm hs]

/-- A collector whose window is taken counts a fetch for each chunk of it. -/
theorem Drained.fetchCount_eq {d : Nat} {dd : Dispatch V} (h : Drained rt w w' d dd) (s : Slot) :
    w'.fetchCount s =
      w.fetchCount s + if s = dd.slot then (dd.calls rt.maxBatchSize).length else 0 := by
  rw [fetchCount, fetchCount, h.queue]
  by_cases hs : s = dd.slot
  · subst hs
    rw [if_pos rfl, if_pos rfl, Dispatch.calls, h.batch]
    rfl
  · rw [if_neg hs, if_neg hs, Nat.add_zero]

/-- In a step the fetch count of a slot grows by the calls that its loader gets. -/
theorem fetchCount_step (rt : Runtime σ V) (w : World σ V) (e : Event V) (s : Slot) :
    (w.step rt e).fetchCount s = w.fetchCount s + (w.callings rt e).countP (·.slot = s) := by
  have hcallings : w.callings rt e = (w.drains rt e).flatMap (Dispatch.callings rt.maxBatchSize) :=
    callingsTo_eq ..
  rcases drains_cases rt w e with ⟨hnone, -, hsame⟩ | ⟨d, dd, hd, hone⟩
  · rw [hcallings, hnone, hsame]
    rfl
  · rw [hcallings, hone, List.flatMap_singleton, countP_callings]
    exact hd.fetchCount_eq s

/-- **Fetch counts count calls.**  In a run the fetch count of a slot grows by the calls that its
loader gets. -/
theorem fetchCount_run (rt : Runtime σ V) (w : World σ V) (es : List (Event V)) (s : Slot) :
    (w.run rt es).fetchCount s = w.fetchCount s + (w.called rt es).countP (·.slot = s) := by
  induction es generalizing w with
  | nil => rfl
  | cons e es ih =>
    rw [run_cons, ih, fetchCount_step, called, List.countP_append, Nat.add_assoc]

end World

end GraphLayer.Batching
