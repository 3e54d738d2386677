import GraphLayer.Proofs.Batching.Chunks

/-!
# The parts of a world and what the operations do to them

* `World.queue_setQueue`, the one law of the table of collectors;
* `Load.receive` and `World.deliver`, outcomes handed to loads; `World.remember`, values stored
  one after the other; `World.setCache`, a change of nothing but the cache and the clock;
* `World.complete_eq` and `World.loseDispatch_eq`, how a dispatch ends, in these terms.
-/

namespace GraphLayer.Batching

variable {σ V : Type}

/-! ### Collectors -/

namespace World

theorem queue_setQueue (w : World σ V) (s t : Slot) (q : Queue) :
    (w.setQueue s q).queue t = if t = s then q else w.queue t := by
  by_cases h : t = s
  · subst h
    simp [queue, setQueue]
  · have hs : ¬ s = t := fun he => h he.symm
    have hfun : (fun p : Slot × Queue => decide (decide (p.1 ≠ s) = true ∧ decide (p.1 = t) = true))
        = fun p => decide (p.1 = t) := by
      funext p
      by_cases hp : p.1 = t
      · simp [hp, h]
      · simp [hp]
    simp only [queue, setQueue, if_neg h, List.find?_cons, hs, decide_false, List.find?_filter]
    rw [hfun]

/-! ### Cache and clock -/

/-- The same collectors and tasks with another cache and clock. -/
def setCache (w : World σ V) (cache : Option σ) (clock : Nat) (ahead : List Nat) : World σ V :=
  { w with cache, clock, ahead }

theorem exists_tick_eq_setCache (w : World σ V) : ∃ t a, w.tick = w.setCache w.cache t a := by
  unfold tick
  split
  · exact ⟨w.clock, w.ahead, rfl⟩
  · rename_i now ahead _
    exact ⟨now, ahead, rfl⟩

theorem exists_lookup_eq_setCache (rt : Runtime σ V) (w : World σ V) (k : CacheKey) :
    ∃ c t a, (w.lookup rt k).2 = w.setCache c t a := by
  unfold lookup
  split
  · exact ⟨w.cache, w.clock, w.ahead, rfl⟩
  · rename_i c _
    obtain ⟨t, a, h⟩ :=
      exists_tick_eq_setCache { w with cache := some (rt.store.get c k w.clock).2 }
    exact ⟨_, t, a, h⟩

theorem exists_store_eq_setCache (rt : Runtime σ V) (w : World σ V) (k : CacheKey) (v : V) :
    ∃ c t a, w.store rt k v = w.setCache c t a := by
  unfold store
  split
  · exact ⟨w.cache, w.clock, w.ahead, rfl⟩
  · rename_i c _
    obtain ⟨t, a, h⟩ :=
      exists_tick_eq_setCache { w with cache := some (rt.store.put c k v w.clock).2 }
    exact ⟨_, t, a, h⟩

/-- Two worlds have the same cache, at the same point of the clock. -/
structure SameCache (w w' : World σ V) : Prop where
  cache : w.cache = w'.cache
  clock : w.clock = w'.clock
  ahead : w.ahead = w'.ahead

/-- Stores look at the cache and at the clock only. -/
theorem SameCache.store {w w' : World σ V} (h : w.SameCache w') (rt : Runtime σ V) (k : CacheKey)
    (v : V) : (w.store rt k v).SameCache (w'.store rt k v) := by
  obtain ⟨hc, ht, ha⟩ := h
  unfold World.store tick
  cases hc' : w'.cache <;> cases ha' : w'.ahead <;>
    exact ⟨by simp [hc, hc', ht, ha, ha'], by simp [hc, hc', ht, ha, ha'],
      by simp [hc, hc', ht, ha, ha']⟩

/-- Store the values among some outcomes, in their order. -/
def remember (rt : Runtime σ V) (s : Slot) (w : World σ V) (outs : List (Int × Outcome V)) :
    World σ V :=
  outs.foldl (fun w p => match p.2 with
    | .ok (some v) => w.store rt ⟨s.key, p.1⟩ v
    | _ => w) w

theorem exists_remember_eq_setCache (rt : Runtime σ V) (s : Slot) (w : World σ V)
    (outs : List (Int × Outcome V)) : ∃ c t a, w.remember rt s outs = w.setCache c t a := by
  induction outs generalizing w with
  | nil => exact ⟨w.cache, w.clock, w.ahead, rfl⟩
  | cons p outs ih =>
    obtain ⟨id, o⟩ := p
    match o with
    | .ok (some v) =>
      obtain ⟨c, t, a, hs⟩ := exists_store_eq_setCache rt w ⟨s.key, id⟩ v
      obtain ⟨c', t', a', h⟩ := ih (w.setCache c t a)
      refine ⟨c', t', a', ?_⟩
      simpa [remember, hs, setCache] using h
    | .ok none => exact ih w
    | .error _ => exact ih w

end World

/-! ### Outcomes handed to loads -/

/-- A load takes an outcome, unless its caller is gone. -/
def Load.receive (l : Load V) (o : Outcome V) : Load V :=
  match l.progress with
  | .dropped => l
  | _ => { l with progress := .answered o }

/-- Hand outcomes to loads, in order. -/
def receiveAll (ls : List (Load V)) (hs : List (Nat × Outcome V)) : List (Load V) :=
  hs.foldl (fun ls h => ls.modify h.1 fun l => l.receive h.2) ls

@[simp] theorem receiveAll_cons (ls : List (Load V)) (h : Nat × Outcome V)
    (hs : List (Nat × Outcome V)) :
    receiveAll ls (h :: hs) = receiveAll (ls.modify h.1 fun l => l.receive h.2) hs := rfl

@[simp] theorem length_receiveAll (ls : List (Load V)) (hs : List (Nat × Outcome V)) :
    (receiveAll ls hs).length = ls.length := by
  induction hs generalizing ls with
  | nil => rfl
  | cons h hs ih => rw [receiveAll_cons, ih, List.length_modify]

theorem Load.receive_of_dropped {l : Load V} (h : l.progress = .dropped) (o : Outcome V) :
    l.receive o = l := by
  simp [receive, h]

theorem Load.receive_of_not_dropped {l : Load V} (h : l.progress ≠ .dropped) (o : Outcome V) :
    l.receive o = { l with progress := .answered o } := by
  unfold receive
  split
  · exact absurd ‹_› h
  · rfl

@[simp] theorem Load.slot_receive (l : Load V) (o : Outcome V) : (l.receive o).slot = l.slot := by
  unfold receive; split <;> rfl

@[simp] theorem Load.id_receive (l : Load V) (o : Outcome V) : (l.receive o).id = l.id := by
  unfold receive; split <;> rfl

@[simp] theorem Load.expected_receive (l : Load V) (o : Outcome V) :
    (l.receive o).expected = l.expected := by
  unfold receive; split <;> rfl

/-- A load to which nothing is handed stays as it is. -/
theorem getElem?_receiveAll_of_not_mem {ls : List (Load V)} {hs : List (Nat × Outcome V)} {n : Nat}
    (h : n ∉ hs.map Prod.fst) : (receiveAll ls hs)[n]? = ls[n]? := by
  induction hs generalizing ls with
  | nil => rfl
  | cons p hs ih =>
    obtain ⟨hp, hs'⟩ := List.ne_and_not_mem_of_not_mem_cons h
    rw [receiveAll_cons, ih hs', List.getElem?_modify_ne _ _ (Ne.symm hp)]

/-- A load to which one outcome is handed takes it. -/
theorem getElem?_receiveAll_of_mem {ls : List (Load V)} {hs : List (Nat × Outcome V)} {n : Nat}
    {o : Outcome V} (hnd : (hs.map Prod.fst).Nodup) (h : (n, o) ∈ hs) :
    (receiveAll ls hs)[n]? = ls[n]?.map fun l => l.receive o := by
  induction hs generalizing ls with
  | nil => cases h
  | cons p hs ih =>
    obtain ⟨hp, hnd⟩ := List.nodup_cons.1 hnd
    rw [receiveAll_cons]
    rcases List.mem_cons.1 h with rfl | h
    · rw [getElem?_receiveAll_of_not_mem hp, List.getElem?_modify_eq]
      rfl
    · have hne : p.1 ≠ n := fun he => hp (he ▸ List.mem_map_of_mem h)
      rw [ih hnd h, List.getElem?_modify_ne _ _ hne]

/-- What became of a load: it is as before, or it was still wanted and took one of the outcomes
handed to it. -/
theorem getElem?_receiveAll_cases {ls : List (Load V)} {hs : List (Nat × Outcome V)} {n : Nat}
    {l' : Load V} (h : (receiveAll ls hs)[n]? = some l') :
    ∃ l, ls[n]? = some l ∧ l'.slot = l.slot ∧ l'.id = l.id ∧ l'.expected = l.expected ∧
      (l'.progress = l.progress ∨
        l.progress ≠ .dropped ∧ ∃ o, (n, o) ∈ hs ∧ l'.progress = .answered o) := by
  induction hs generalizing ls with
  | nil => exact ⟨l', h, rfl, rfl, rfl, .inl rfl⟩
  | cons p hs ih =>
    rw [receiveAll_cons] at h
    obtain ⟨l₁, hl₁, hs₁, hi₁, he₁, hp₁⟩ := ih h
    rw [List.getElem?_modify] at hl₁
    obtain ⟨l, hl, rfl⟩ := Option.map_eq_some_iff.1 hl₁
    refine ⟨l, hl, ?_⟩
    by_cases hpn : p.1 = n
    · subst hpn
      by_cases hd : l.progress = .dropped
      · simp only [Load.receive_of_dropped hd] at hs₁ hi₁ he₁ hp₁
        refine ⟨hs₁, hi₁, he₁, hp₁.imp_right ?_⟩
        rintro ⟨hnd, -⟩
        exact absurd hd hnd
      · simp only [Load.receive_of_not_dropped hd] at hs₁ hi₁ he₁ hp₁
        refine ⟨hs₁, hi₁, he₁, .inr ⟨hd, ?_⟩⟩
        rcases hp₁ with hp₁ | ⟨-, o, ho, hp₁⟩
        · exact ⟨p.2, List.mem_cons_self, hp₁⟩
        · exact ⟨o, List.mem_cons_of_mem _ ho, hp₁⟩
    · simp only [if_neg hpn] at hs₁ hi₁ he₁ hp₁
      refine ⟨hs₁, hi₁, he₁, hp₁.imp_right ?_⟩
      rintro ⟨hnd, o, ho, hp₁⟩
      exact ⟨hnd, o, List.mem_cons_of_mem _ ho, hp₁⟩

/-- A load to which an outcome is handed has its answer, unless its caller is gone. -/
theorem progress_receiveAll_of_mem {ls : List (Load V)} {hs : List (Nat × Outcome V)} {n : Nat}
    {l' : Load V} (hn : n ∈ hs.map Prod.fst) (h : (receiveAll ls hs)[n]? = some l') :
    l'.progress = .dropped ∨ ∃ o, (n, o) ∈ hs ∧ l'.progress = .answered o := by
  induction hs generalizing ls with
  | nil => cases hn
  | cons p hs ih =>
    rw [receiveAll_cons] at h
    by_cases hmem : n ∈ hs.map Prod.fst
    · refine (ih hmem h).imp_right ?_
      rintro ⟨o, ho, hp⟩
      exact ⟨o, List.mem_cons_of_mem _ ho, hp⟩
    · obtain rfl : n = p.1 := (List.mem_cons.1 hn).resolve_right hmem
      rw [getElem?_receiveAll_of_not_mem hmem, List.getElem?_modify_eq] at h
      obtain ⟨l, -, rfl⟩ := Option.map_eq_some_iff.1 h
      by_cases hd : l.progress = .dropped
      · exact .inl (by rw [Load.receive_of_dropped hd, hd])
      · exact .inr ⟨p.2, List.mem_cons_self, by rw [Load.receive_of_not_dropped hd]⟩

namespace World

/-- Change the loads and nothing else. -/
def mapLoads (w : World σ V) (f : List (Load V) → List (Load V)) : World σ V :=
  { w with loads := f w.loads }

/-- Hand outcomes to loads. -/
def deliver (w : World σ V) (hs : List (Nat × Outcome V)) : World σ V :=
  { w with loads := receiveAll w.loads hs }

theorem deliver_deliver (w : World σ V) (hs hs' : List (Nat × Outcome V)) :
    (w.deliver hs).deliver hs' = w.deliver (hs ++ hs') := by
  simp [deliver, receiveAll, List.foldl_append]

theorem answer_eq (w : World σ V) (n : Nat) (o : Outcome V) : w.answer n o = w.deliver [(n, o)] :=
  rfl

theorem answerAll_eq (w : World σ V) (ns : List Nat) (o : Outcome V) :
    w.answerAll ns o = w.deliver (ns.map (·, o)) := by
  induction ns generalizing w with
  | nil => rfl
  | cons n ns ih =>
    have h : w.answerAll (n :: ns) o = (w.answer n o).answerAll ns o := rfl
    rw [h, ih, answer_eq, deliver_deliver]
    rfl

/-- The outcome of those whose window or dispatch goes away. -/
def abandonments (s : Slot) (ns : List Nat) : List (Nat × Outcome V) :=
  ns.map (·, .error (.abandoned s.key))

theorem mem_abandonments_iff {s : Slot} {ns : List Nat} {n : Nat} {o : Outcome V} :
    (n, o) ∈ abandonments s ns ↔ n ∈ ns ∧ o = .error (.abandoned s.key) := by
  simp [abandonments, eq_comm]

theorem abandonAll_eq (w : World σ V) (s : Slot) (b : List (Int × List Nat)) :
    w.abandonAll s b = w.deliver (abandonments s (b.flatMap Prod.snd)) := by
  induction b generalizing w with
  | nil => rfl
  | cons p b ih =>
    have h : w.abandonAll s (p :: b) =
        (w.answerAll p.2 (.error (.abandoned s.key))).abandonAll s b := rfl
    rw [h, ih, answerAll_eq, deliver_deliver, List.flatMap_cons]
    simp [abandonments]

/-- The outcomes of the ids of a drained window, handed to those who wait for each. -/
def handouts (b : List (Int × List Nat)) (outs : List (Int × Outcome V)) :
    List (Nat × Outcome V) :=
  outs.flatMap fun p => (waitersOf b p.1).map (·, p.2)

theorem mem_handouts_iff {b : List (Int × List Nat)} {outs : List (Int × Outcome V)} {n : Nat}
    {o : Outcome V} :
    (n, o) ∈ handouts b outs ↔ ∃ id, (id, o) ∈ outs ∧ n ∈ waitersOf b id := by
  simp only [handouts, List.mem_flatMap, List.mem_map, Prod.mk.injEq, Prod.exists]
  constructor
  · rintro ⟨id, o', hout, n', hn, rfl, rfl⟩
    exact ⟨id, hout, hn⟩
  · rintro ⟨id, hout, hn⟩
    exact ⟨id, o, hout, n, hn, rfl, rfl⟩

theorem map_fst_handouts (b : List (Int × List Nat)) (outs : List (Int × Outcome V)) :
    (handouts b outs).map Prod.fst = (outs.map Prod.fst).flatMap (waitersOf b) := by
  simp [handouts, List.map_flatMap, List.flatMap_map, Function.comp_def]

/-- The cache does not look at the loads. -/
theorem lookup_mapLoads (rt : Runtime σ V) (w : World σ V) (k : CacheKey)
    (f : List (Load V) → List (Load V)) :
    (w.mapLoads f).lookup rt k = ((w.lookup rt k).1, (w.lookup rt k).2.mapLoads f) := by
  cases hc : w.cache with
  | none => simp [lookup, mapLoads, hc]
  | some c => cases ha : w.ahead <;> simp [lookup, mapLoads, tick, hc, ha]

theorem store_mapLoads (rt : Runtime σ V) (w : World σ V) (k : CacheKey) (v : V)
    (f : List (Load V) → List (Load V)) :
    (w.mapLoads f).store rt k v = (w.store rt k v).mapLoads f := by
  cases hc : w.cache with
  | none => simp [store, mapLoads, hc]
  | some c => cases ha : w.ahead <;> simp [store, mapLoads, tick, hc, ha]

theorem remember_mapLoads (rt : Runtime σ V) (s : Slot) (w : World σ V)
    (outs : List (Int × Outcome V)) (f : List (Load V) → List (Load V)) :
    (w.mapLoads f).remember rt s outs = (w.remember rt s outs).mapLoads f := by
  induction outs generalizing w with
  | nil => rfl
  | cons p outs ih =>
    obtain ⟨id, o⟩ := p
    match o with
    | .ok (some v) =>
      show ((w.mapLoads f).store rt ⟨s.key, id⟩ v).remember rt s outs = _
      rw [store_mapLoads, ih]
      rfl
    | .ok none => exact ih w
    | .error _ => exact ih w

theorem deliver_eq_mapLoads (w : World σ V) (hs : List (Nat × Outcome V)) :
    w.deliver hs = w.mapLoads fun ls => receiveAll ls hs := rfl

/-- Settling id by id comes to the same as handing everything out and then storing the values. -/
theorem foldl_settle_eq (rt : Runtime σ V) (s : Slot) (w : World σ V) (b : List (Int × List Nat))
    (outs : List (Int × Outcome V)) :
    outs.foldl (fun w (p : Int × Outcome V) => w.settle rt s p.1 (waitersOf b p.1) p.2) w =
      (w.deliver (handouts b outs)).remember rt s outs := by
  induction outs generalizing w with
  | nil => rfl
  | cons p outs ih =>
    obtain ⟨id, o⟩ := p
    have hsplit : handouts b ((id, o) :: outs) = (waitersOf b id).map (·, o) ++ handouts b outs :=
      rfl
    -- A value that is stored after the loads of its id are answered may as well be stored last.
    rw [List.foldl_cons, ih, hsplit, ← deliver_deliver]
    match o with
    | .ok (some v) =>
      have hsettle : w.settle rt s id (waitersOf b id) (.ok (some v)) =
          (w.store rt ⟨s.key, id⟩ v).deliver ((waitersOf b id).map (·, .ok (some v))) :=
        answerAll_eq ..
      have hstore (w' : World σ V) : w'.remember rt s ((id, .ok (some v)) :: outs) =
          (w'.store rt ⟨s.key, id⟩ v).remember rt s outs := rfl
      rw [hsettle, hstore, deliver_eq_mapLoads, deliver_eq_mapLoads, deliver_eq_mapLoads,
        deliver_eq_mapLoads, store_mapLoads, store_mapLoads]
    | .ok none =>
      have hsettle : w.settle rt s id (waitersOf b id) (.ok none) =
          w.deliver ((waitersOf b id).map (·, .ok none)) := answerAll_eq ..
      rw [hsettle]
      rfl
    | .error e =>
      have hsettle : w.settle rt s id (waitersOf b id) (.error e) =
          w.deliver ((waitersOf b id).map (·, .error e)) := answerAll_eq ..
      rw [hsettle]
      rfl

/-- A dispatch comes to its end: its fetch is no longer outstanding, and those who wait for it
get their outcomes. -/
def finish (w : World σ V) (d : Nat) (s : Slot) (st : Stage V) (hs : List (Nat × Outcome V)) :
    World σ V :=
  ((w.land s).setStage d st).deliver hs

/-- The outcomes of a drained window whose chunks are all answered. -/
def outcomesOf (rt : Runtime σ V) (b : List (Int × List Nat)) (results : List (Batch V)) :
    List (Int × Outcome V) :=
  outcomes (chunks rt.maxBatchSize (b.map Prod.fst)) results

theorem complete_eq {rt : Runtime σ V} {w : World σ V} {d : Nat} {s : Slot} {owned : Bool}
    {b : List (Int × List Nat)} {results : List (Batch V)}
    (h : w.dispatches[d]? = some ⟨s, owned, b, .fetching (results.map some)⟩) :
    w.complete rt d = (w.finish d s .done (handouts b (outcomesOf rt b results))).remember rt s
      (outcomesOf rt b results) := by
  simp only [complete, h, allResults?_eq_some_iff.2 rfl]
  exact foldl_settle_eq ..

theorem loseDispatch_eq {w : World σ V} {d : Nat} {s : Slot} {owned : Bool}
    {b : List (Int × List Nat)} {rs : List (Option (Batch V))}
    (h : w.dispatches[d]? = some ⟨s, owned, b, .fetching rs⟩) :
    w.loseDispatch d = w.finish d s .lost (abandonments s (b.flatMap Prod.snd)) := by
  simp only [loseDispatch, h]
  exact abandonAll_eq ..

end World

end GraphLayer.Batching
