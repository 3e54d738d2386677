import GraphLayer.Proofs.Batching.Delivery

/-!
# What one step can do

* `World.joinings`, the load that joins a window in a step, and `World.handed`, the outcomes that a
  step hands to waiting loads;
* `World.Move`, the ways in which a step changes collectors and tasks, with their guards;
* `World.exists_move`: a step is one of these moves, and besides changes only the cache and the
  clock;
* `World.servings`, the answer of the backing service that a step takes in for a chunk;
* `World.joined`, `World.handedBy` and `World.served`, the same lists over a run.

Every invariant of the sessions is proved move by move, so that the steps are opened only here.
-/

namespace GraphLayer.Batching

variable {σ V : Type}

/-- A load that joins a window: its number, its slot and its id. -/
structure Joining where
  load : Nat
  slot : Slot
  id : Int
  deriving DecidableEq, Repr

/-- An answer of the backing service: the dispatch and the chunk that it is for, the slot and the
ids that were asked for, and what it says. -/
structure Serving (V : Type) where
  dispatch : Nat
  chunk : Nat
  slot : Slot
  ids : List Int
  result : Batch V

namespace World

/-! ### Joining and being answered -/

/-- The load that joins a window in a step: its key is registered and its value not cached. -/
def joinings (rt : Runtime σ V) (w : World σ V) : Event V → List Joining
  | .beginLoad s id _ =>
    if rt.loaders.contains s.key ∧ (w.lookup rt ⟨s.key, id⟩).1.isNone then
      [⟨w.loads.length, s, id⟩]
    else []
  | _ => []

/-- What a dispatch hands out when it is polled: nothing before all its chunks are answered. -/
def handedAtEnd (rt : Runtime σ V) (w : World σ V) (d : Nat) : List (Nat × Outcome V) :=
  match w.dispatches[d]? with
  | some ⟨_, _, b, .fetching rs⟩ =>
    match allResults? rs with
    | some results => handouts b (outcomesOf rt b results)
    | none => []
  | _ => []

/-- What is handed to the waiters of a load that is dropped while it fetches. -/
def handedAtLoss (w : World σ V) (n : Nat) : List (Nat × Outcome V) :=
  match w.loads[n]? with
  | some ⟨_, _, _, .dispatching d⟩ =>
    match w.dispatches[d]? with
    | some ⟨s, _, b, .fetching _⟩ => abandonments s (b.flatMap Prod.snd)
    | _ => []
  | _ => []

/-- The outcomes that a step hands to waiting loads, in order. -/
def handed (rt : Runtime σ V) (w : World σ V) : Event V → List (Nat × Outcome V)
  | .poll n =>
    match w.loads[n]? with
    | some ⟨_, _, _, .dispatching d⟩ => w.handedAtEnd rt d
    | _ => []
  | .pollDispatch d =>
    match w.dispatches[d]? with
    | some ⟨_, false, _, _⟩ => w.handedAtEnd rt d
    | _ => []
  | .drop n => w.handedAtLoss n
  | .dropOutside n =>
    match w.loads[n]? with
    | some ⟨s, _, _, .collecting _ _⟩ =>
      abandonments s ((w.queue s).pending.toList.flatMap Prod.snd)
    | _ => w.handedAtLoss n
  | _ => []

/-- The answer that a step takes in: its dispatch has been waiting for it. -/
def servings (rt : Runtime σ V) (w : World σ V) : Event V → List (Serving V)
  | .fetched d c r =>
    match w.dispatches[d]? with
    | some ⟨s, _, b, .fetching rs⟩ =>
      match rs[c]?, (chunks rt.maxBatchSize (b.map Prod.fst))[c]? with
      | some none, some ids => [⟨d, c, s, ids, r⟩]
      | _, _ => []
    | _ => []
  | _ => []

/-- The loads that join a window in a run, in order. -/
def joined (rt : Runtime σ V) (w : World σ V) : List (Event V) → List Joining
  | [] => []
  | e :: es => w.joinings rt e ++ (w.step rt e).joined rt es

/-- The outcomes that a run hands to waiting loads, in order. -/
def handedBy (rt : Runtime σ V) (w : World σ V) : List (Event V) → List (Nat × Outcome V)
  | [] => []
  | e :: es => w.handed rt e ++ (w.step rt e).handedBy rt es

/-- The answers of the backing service that a run takes in, in order. -/
def served (rt : Runtime σ V) (w : World σ V) : List (Event V) → List (Serving V)
  | [] => []
  | e :: es => w.servings rt e ++ (w.step rt e).served rt es

theorem joined_append (rt : Runtime σ V) (w : World σ V) (es fs : List (Event V)) :
    w.joined rt (es ++ fs) = w.joined rt es ++ (w.run rt es).joined rt fs := by
  induction es generalizing w with
  | nil => rfl
  | cons e es ih => simp [joined, ih]

theorem handedBy_append (rt : Runtime σ V) (w : World σ V) (es fs : List (Event V)) :
    w.handedBy rt (es ++ fs) = w.handedBy rt es ++ (w.run rt es).handedBy rt fs := by
  induction es generalizing w with
  | nil => rfl
  | cons e es ih => simp [handedBy, ih]

theorem served_append (rt : Runtime σ V) (w : World σ V) (es fs : List (Event V)) :
    w.served rt (es ++ fs) = w.served rt es ++ (w.run rt es).served rt fs := by
  induction es generalizing w with
  | nil => rfl
  | cons e es ih => simp [served, ih]

/-- One more step at the end of a run. -/
theorem run_concat (rt : Runtime σ V) (w : World σ V) (es : List (Event V)) (e : Event V) :
    w.run rt (es ++ [e]) = (w.run rt es).step rt e := by
  rw [run_append, run_cons, run_nil]

theorem joined_concat (rt : Runtime σ V) (w : World σ V) (es : List (Event V)) (e : Event V) :
    w.joined rt (es ++ [e]) = w.joined rt es ++ (w.run rt es).joinings rt e := by
  rw [joined_append, joined, joined, List.append_nil]

theorem handedBy_concat (rt : Runtime σ V) (w : World σ V) (es : List (Event V)) (e : Event V) :
    w.handedBy rt (es ++ [e]) = w.handedBy rt es ++ (w.run rt es).handed rt e := by
  rw [handedBy_append, handedBy, handedBy, List.append_nil]

theorem served_concat (rt : Runtime σ V) (w : World σ V) (es : List (Event V)) (e : Event V) :
    w.served rt (es ++ [e]) = w.served rt es ++ (w.run rt es).servings rt e := by
  rw [served_append, served, served, List.append_nil]

/-! ### Moves -/

/-- The answer that a load gets at once: its key is unknown, or its value is in the cache. -/
def atOnce? (rt : Runtime σ V) (w : World σ V) (s : Slot) (id : Int) : Option (Outcome V) :=
  if rt.loaders.contains s.key then (w.lookup rt ⟨s.key, id⟩).1.map fun v => .ok (some v)
  else some (.error (.wiring (.unknownLoader s.key)))

/-- A load joins the open window of its slot, or opens one. -/
def join (w : World σ V) (s : Slot) (id : Int) (expected : String) : World σ V :=
  let q := w.queue s
  { w.setQueue s (q.enqueue id w.loads.length) with
    loads := w.loads ++
      [⟨s, id, expected, if q.scheduled then .waiting else .collecting 0 (q.enqueued + 1)⟩] }

/-- The owner of a window is dropped, and a spawned dispatch holds the window from now on. -/
def handOver (w : World σ V) (s : Slot) (n : Nat) : World σ V :=
  let d : Dispatch V := ⟨s, false, [], .spawned⟩
  { w with dispatches := w.dispatches ++ [d] }.setProgress n .dropped

/-- The owner of a window is dropped, and the window is given up. -/
def giveUp (w : World σ V) (s : Slot) (n : Nat) : World σ V :=
  ((w.setProgress n .dropped).setQueue s
    { w.queue s with pending := .empty, scheduled := false }).deliver
      (abandonments s ((w.queue s).pending.toList.flatMap Prod.snd))

/-- The changes of collectors and tasks that the step of an event can make, with the load that joins
a window and the outcomes handed out. -/
inductive Move (rt : Runtime σ V) (w : World σ V) :
    Event V → List Joining → List (Nat × Outcome V) → World σ V → Prop
  | stay (e : Event V) : Move rt w e [] [] w
  /-- A load is answered at once. -/
  | arrive (l : Load V) (o : Outcome V) (hp : l.progress = .answered o)
    (ho : w.atOnce? rt l.slot l.id = some o) :
    Move rt w (.beginLoad l.slot l.id l.expected) [] [] { w with loads := w.loads ++ [l] }
  | join (s : Slot) (id : Int) (expected : String) (hk : rt.loaders.contains s.key = true) :
    Move rt w (.beginLoad s id expected) [⟨w.loads.length, s, id⟩] [] (w.join s id expected)
  /-- An owner yields once more. -/
  | wait {n : Nat} {l : Load V} {y seen : Nat} (h : w.loads[n]? = some l)
    (hp : l.progress = .collecting y seen) (hy : y + 1 ≠ maxYields) (seen' : Nat) :
    Move rt w (.poll n) [] [] (w.setProgress n (.collecting (y + 1) seen'))
  | drainOwned {n : Nat} {l : Load V} {y seen : Nat} (h : w.loads[n]? = some l)
    (hp : l.progress = .collecting y seen) :
    Move rt w (.poll n) [] [] (w.drainOwned rt l.slot n)
  | drainSpawned {d : Nat} {dd : Dispatch V} (h : w.dispatches[d]? = some dd)
    (hst : dd.stage = .spawned) :
    Move rt w (.pollDispatch d) [] [] (w.drainSpawned rt dd.slot d)
  /-- A chunk is answered, if it has no answer yet. -/
  | fetched {d : Nat} {dd : Dispatch V} {rs : List (Option (Batch V))}
    (h : w.dispatches[d]? = some dd) (hst : dd.stage = .fetching rs) (c : Nat) (r : Batch V) :
    Move rt w (.fetched d c r) [] []
      (w.setStage d (.fetching (rs.modify c fun a => some (a.getD r))))
  /-- All chunks are answered when the dispatch is polled. -/
  | complete {e : Event V} {d : Nat} {dd : Dispatch V} {results : List (Batch V)}
    (h : w.dispatches[d]? = some dd) (hst : dd.stage = .fetching (results.map some)) :
    Move rt w e [] (handouts dd.batch (outcomesOf rt dd.batch results))
      (w.finish d dd.slot .done (handouts dd.batch (outcomesOf rt dd.batch results)))
  /-- A load that owns no open window is dropped. -/
  | leave {e : Event V} {n : Nat} {l : Load V} (he : e = .drop n ∨ e = .dropOutside n)
    (h : w.loads[n]? = some l)
    (hp : l.progress = .waiting ∨ ∃ d, l.progress = .dispatching d ∧
      ∀ dd rs, w.dispatches[d]? = some dd → dd.stage ≠ .fetching rs) :
    Move rt w e [] [] (w.setProgress n .dropped)
  | handOver {n : Nat} {l : Load V} {y seen : Nat} (h : w.loads[n]? = some l)
    (hp : l.progress = .collecting y seen) : Move rt w (.drop n) [] [] (w.handOver l.slot n)
  /-- An owner is dropped while it fetches. -/
  | lose {e : Event V} {n d : Nat} {l : Load V} {dd : Dispatch V} {rs : List (Option (Batch V))}
    (he : e = .drop n ∨ e = .dropOutside n) (h : w.loads[n]? = some l)
    (hp : l.progress = .dispatching d) (hd : w.dispatches[d]? = some dd)
    (hst : dd.stage = .fetching rs) :
    Move rt w e [] (abandonments dd.slot (dd.batch.flatMap Prod.snd))
      ((w.setProgress n .dropped).finish d dd.slot .lost
        (abandonments dd.slot (dd.batch.flatMap Prod.snd)))
  | giveUp {n : Nat} {l : Load V} {y seen : Nat} (h : w.loads[n]? = some l)
    (hp : l.progress = .collecting y seen) :
    Move rt w (.dropOutside n) []
      (abandonments l.slot ((w.queue l.slot).pending.toList.flatMap Prod.snd)) (w.giveUp l.slot n)

/-! ### The parts of a world after a move -/

/-- A collector whose window has just been taken. -/
def emptied (rt : Runtime σ V) (q : Queue) : Queue :=
  { q with
    pending := .empty
    scheduled := false
    inFlight := q.inFlight + 1
    fetches := q.fetches + (chunks rt.maxBatchSize q.pending.keys).length }

section Views

variable (rt : Runtime σ V) (w : World σ V) (s t : Slot) (id : Int) (expected : String) (n d : Nat)
  (st : Stage V) (hs : List (Nat × Outcome V))

theorem queue_join : (w.join s id expected).queue t =
    if t = s then (w.queue s).enqueue id w.loads.length else w.queue t :=
  queue_setQueue w s t _

theorem loads_join : (w.join s id expected).loads = w.loads ++
    [⟨s, id, expected,
      if (w.queue s).scheduled then .waiting else .collecting 0 ((w.queue s).enqueued + 1)⟩] := rfl

theorem dispatches_join : (w.join s id expected).dispatches = w.dispatches := rfl

theorem queue_drainOwned : (w.drainOwned rt s n).queue t =
    if t = s then emptied rt (w.queue s) else w.queue t :=
  queue_setQueue w s t _

theorem loads_drainOwned : (w.drainOwned rt s n).loads =
    w.loads.modify n fun l => { l with progress := .dispatching w.dispatches.length } := rfl

theorem dispatches_drainOwned : (w.drainOwned rt s n).dispatches = w.dispatches ++
    [⟨s, true, (w.queue s).pending.toList, unanswered rt (w.queue s).pending.toList⟩] := rfl

theorem queue_drainSpawned : (w.drainSpawned rt s d).queue t =
    if t = s then emptied rt (w.queue s) else w.queue t :=
  queue_setQueue w s t _

theorem loads_drainSpawned : (w.drainSpawned rt s d).loads = w.loads := rfl

theorem dispatches_drainSpawned : (w.drainSpawned rt s d).dispatches =
    w.dispatches.modify d fun dd =>
      { dd with
        batch := (w.queue s).pending.toList
        stage := unanswered rt (w.queue s).pending.toList } := rfl

theorem queue_finish : (w.finish d s st hs).queue t =
    if t = s then { w.queue s with inFlight := (w.queue s).inFlight - 1 } else w.queue t :=
  queue_setQueue w s t _

theorem loads_finish : (w.finish d s st hs).loads = receiveAll w.loads hs := rfl

theorem dispatches_finish : (w.finish d s st hs).dispatches =
    w.dispatches.modify d fun dd => { dd with stage := st } := rfl

theorem dispatches_handOver : (w.handOver s n).dispatches =
    w.dispatches ++ [⟨s, false, [], .spawned⟩] := rfl

theorem queue_giveUp : (w.giveUp s n).queue t =
    if t = s then { w.queue s with pending := .empty, scheduled := false } else w.queue t :=
  queue_setQueue (w.setProgress n .dropped) s t _

theorem loads_giveUp : (w.giveUp s n).loads =
    receiveAll (w.loads.modify n fun l => { l with progress := .dropped })
      (abandonments s ((w.queue s).pending.toList.flatMap Prod.snd)) := rfl

end Views

/-! ### Every step is a move -/

theorem queue_setCache (w : World σ V) (c : Option σ) (t : Nat) (a : List Nat) :
    (w.setCache c t a).queue = w.queue := rfl

theorem exists_move_beginLoad (rt : Runtime σ V) (w : World σ V) (s : Slot) (id : Int)
    (expected : String) :
    ∃ w' c t a, Move rt w (.beginLoad s id expected) (w.joinings rt (.beginLoad s id expected)) []
      w' ∧ w.beginLoad rt s id expected = w'.setCache c t a := by
  by_cases hk : rt.loaders.contains s.key = true
  · obtain ⟨c, t, a, ho⟩ := exists_lookup_eq_setCache rt w ⟨s.key, id⟩
    cases hl : (w.lookup rt ⟨s.key, id⟩).1 with
    | some v =>
      have hlookup : w.lookup rt ⟨s.key, id⟩ = (some v, w.setCache c t a) := Prod.ext hl ho
      let l : Load V := ⟨s, id, expected, .answered (.ok (some v))⟩
      refine ⟨{ w with loads := w.loads ++ [l] }, c, t, a, ?_, ?_⟩
      · have ho : w.atOnce? rt s id = some (.ok (some v)) := by simp [atOnce?, hk, hl]
        simpa [joinings, hk, hl] using Move.arrive l _ rfl ho
      · simp [beginLoad, hk, hlookup, setCache, l]
    | none =>
      have hlookup : w.lookup rt ⟨s.key, id⟩ = (none, w.setCache c t a) := Prod.ext hl ho
      refine ⟨w.join s id expected, c, t, a, ?_, ?_⟩
      · simpa [joinings, hk, hl] using Move.join s id expected hk
      · simp [beginLoad, hk, hlookup, queue_setCache]
        rfl
  · let l : Load V := ⟨s, id, expected, .answered (.error (.wiring (.unknownLoader s.key)))⟩
    refine ⟨{ w with loads := w.loads ++ [l] }, w.cache, w.clock, w.ahead, ?_, ?_⟩
    · have ho : w.atOnce? rt s id = some (.error (.wiring (.unknownLoader s.key))) := by
        simp [atOnce?, hk]
      simpa [joinings, hk] using Move.arrive l _ rfl ho
    · simp [beginLoad, hk, setCache, l]

/-- A dispatch that is polled answers once all its chunks are answered; before that, and after it
has ended, nothing happens. -/
theorem complete_cases (rt : Runtime σ V) (w : World σ V) (d : Nat) :
    w.handedAtEnd rt d = [] ∧ w.complete rt d = w ∨
    ∃ (dd : Dispatch V) (results : List (Batch V)), w.dispatches[d]? = some dd ∧
      dd.stage = .fetching (results.map some) ∧
      w.handedAtEnd rt d = handouts dd.batch (outcomesOf rt dd.batch results) ∧
      w.complete rt d = (w.finish d dd.slot .done (w.handedAtEnd rt d)).remember rt dd.slot
        (outcomesOf rt dd.batch results) := by
  match h : w.dispatches[d]? with
  | some ⟨s, o, b, .fetching rs⟩ =>
    cases hr : allResults? rs with
    | some results =>
      have hhanded : w.handedAtEnd rt d = handouts b (outcomesOf rt b results) := by
        simp [handedAtEnd, h, hr]
      obtain rfl := allResults?_eq_some_iff.1 hr
      exact .inr ⟨_, results, rfl, rfl, hhanded, by rw [hhanded, complete_eq h]⟩
    | none => exact .inl ⟨by simp [handedAtEnd, h, hr], by simp [complete, h, hr]⟩
  | none | some ⟨_, _, _, .spawned⟩ | some ⟨_, _, _, .done⟩ | some ⟨_, _, _, .lost⟩ =>
    exact .inl ⟨by simp [handedAtEnd, h], by simp [complete, h]⟩

theorem exists_move_complete (rt : Runtime σ V) (w : World σ V) (e : Event V) (d : Nat) :
    ∃ w' c t a, Move rt w e [] (w.handedAtEnd rt d) w' ∧ w.complete rt d = w'.setCache c t a := by
  rcases complete_cases rt w d with ⟨hhanded, hw⟩ | ⟨dd, results, hd, hst, hhanded, hw⟩
  · rw [hhanded, hw]
    exact ⟨w, w.cache, w.clock, w.ahead, .stay e, rfl⟩
  · obtain ⟨c, t, a, hsame⟩ := exists_remember_eq_setCache rt dd.slot
      (w.finish d dd.slot .done (w.handedAtEnd rt d)) (outcomesOf rt dd.batch results)
    refine ⟨_, c, t, a, ?_, hw.trans hsame⟩
    rw [hhanded]
    exact .complete hd hst

/-- A load that does not own an open window is dropped, inside the scheduler or outside of it. -/
theorem move_drop_of_not_owner (rt : Runtime σ V) (w : World σ V) {e : Event V} {n : Nat}
    (he : e = .drop n ∨ e = .dropOutside n)
    (hc : ∀ l y seen, w.loads[n]? = some l → l.progress ≠ .collecting y seen) :
    Move rt w e [] (w.handedAtLoss n) (w.drop n) := by
  match h : w.loads[n]? with
  | some ⟨s, id, x, .collecting y seen⟩ => exact absurd rfl (hc _ y seen h)
  | some ⟨s, id, x, .dispatching d⟩ =>
    have hdisp : (w.setProgress n .dropped).dispatches = w.dispatches := rfl
    match hd : w.dispatches[d]? with
    | some ⟨s', o, b, .fetching rs⟩ =>
      have hdrop := loseDispatch_eq (hdisp ▸ hd : (w.setProgress n .dropped).dispatches[d]? = _)
      simpa [handedAtLoss, drop, h, hd, hdrop] using
        (show Move rt w _ _ _ _ from .lose he h rfl hd rfl)
    | none | some ⟨_, _, _, .spawned⟩ | some ⟨_, _, _, .done⟩ | some ⟨_, _, _, .lost⟩ =>
      have hm : Move rt w e [] [] (w.setProgress n .dropped) := by
        refine .leave he h (.inr ⟨d, rfl, fun dd rs hdd => ?_⟩)
        intro hst
        rw [hd] at hdd
        cases hdd <;> cases hst
      simpa [handedAtLoss, drop, loseDispatch, h, hdisp, hd] using hm
  | some ⟨s, id, x, .waiting⟩ =>
    simpa [handedAtLoss, drop, h] using (show Move rt w _ _ _ _ from .leave he h (.inl rfl))
  | none | some ⟨_, _, _, .answered _⟩ | some ⟨_, _, _, .dropped⟩ =>
    simpa [handedAtLoss, drop, h] using Move.stay e

theorem exists_move_poll (rt : Runtime σ V) (w : World σ V) (n : Nat) :
    ∃ w' c t a, Move rt w (.poll n) [] (w.handed rt (.poll n)) w' ∧
      w.poll rt n = w'.setCache c t a := by
  match h : w.loads[n]? with
  | some ⟨s, id, x, .collecting y seen⟩ =>
    by_cases hy : (w.queue s).enqueued = seen ∨ y + 1 = maxYields
    · refine ⟨w.drainOwned rt s n, w.cache, w.clock, w.ahead, ?_, ?_⟩
      · simpa [handed, h] using (show Move rt w _ _ _ _ from .drainOwned h rfl)
      · simp [poll, h, hy]
        rfl
    · refine ⟨w.setProgress n (.collecting (y + 1) (w.queue s).enqueued), w.cache, w.clock,
        w.ahead, ?_, ?_⟩
      · simpa [handed, h] using
          (show Move rt w _ _ _ _ from .wait h rfl (fun he => hy (.inr he)) _)
      · simp [poll, h, hy]
        rfl
  | some ⟨s, id, x, .dispatching d⟩ =>
    obtain ⟨w', c, t, a, hm, hw⟩ := exists_move_complete rt w (.poll n) d
    exact ⟨w', c, t, a, by simpa [handed, h] using hm, by simpa [poll, h] using hw⟩
  | none | some ⟨_, _, _, .waiting⟩ | some ⟨_, _, _, .answered _⟩ | some ⟨_, _, _, .dropped⟩ =>
    refine ⟨w, w.cache, w.clock, w.ahead, ?_, ?_⟩
    · simpa [handed, h] using Move.stay (.poll n)
    · simp [poll, h, setCache]

theorem exists_move_pollDispatch (rt : Runtime σ V) (w : World σ V) (d : Nat) :
    ∃ w' c t a, Move rt w (.pollDispatch d) [] (w.handed rt (.pollDispatch d)) w' ∧
      w.pollDispatch rt d = w'.setCache c t a := by
  match h : w.dispatches[d]? with
  | some ⟨s, o, b, .spawned⟩ =>
    refine ⟨w.drainSpawned rt s d, w.cache, w.clock, w.ahead, ?_, ?_⟩
    · have hm : Move rt w _ _ _ _ := .drainSpawned h rfl
      cases o <;> simpa [handed, handedAtEnd, h] using hm
    · simp [pollDispatch, h]
      rfl
  | some ⟨s, false, b, .fetching rs⟩ =>
    obtain ⟨w', c, t, a, hm, hw⟩ := exists_move_complete rt w (.pollDispatch d) d
    exact ⟨w', c, t, a, by simpa [handed, h] using hm, by simpa [pollDispatch, h] using hw⟩
  | none | some ⟨_, true, _, .fetching _⟩ | some ⟨_, true, _, .done⟩ | some ⟨_, true, _, .lost⟩
  | some ⟨_, false, _, .done⟩ | some ⟨_, false, _, .lost⟩ =>
    refine ⟨w, w.cache, w.clock, w.ahead, ?_, ?_⟩
    · simpa [handed, handedAtEnd, h] using Move.stay (.pollDispatch d)
    · simp [pollDispatch, h, setCache]

theorem exists_move_fetched (rt : Runtime σ V) (w : World σ V) (d chunk : Nat) (r : Batch V) :
    ∃ w' c t a, Move rt w (.fetched d chunk r) [] [] w' ∧
      w.fetched d chunk r = w'.setCache c t a := by
  match h : w.dispatches[d]? with
  | some ⟨s, o, b, .fetching rs⟩ =>
    refine ⟨w.setStage d (.fetching (rs.modify chunk fun a => some (a.getD r))), w.cache,
      w.clock, w.ahead, .fetched h rfl chunk r, ?_⟩
    simp [fetched, h]
    rfl
  | none | some ⟨_, _, _, .spawned⟩ | some ⟨_, _, _, .done⟩ | some ⟨_, _, _, .lost⟩ =>
    refine ⟨w, w.cache, w.clock, w.ahead, .stay _, ?_⟩
    simp [fetched, h, setCache]

theorem move_drop (rt : Runtime σ V) (w : World σ V) (n : Nat) :
    Move rt w (.drop n) [] (w.handed rt (.drop n)) (w.drop n) := by
  by_cases hc : ∃ l y seen, w.loads[n]? = some l ∧ l.progress = .collecting y seen
  · obtain ⟨⟨s, id, x, p⟩, y, seen, h, rfl⟩ := hc
    have hdrop : w.drop n = w.handOver s n := by
      simp only [drop, h]
      rfl
    rw [hdrop]
    simpa [handed, handedAtLoss, h] using (show Move rt w _ _ _ _ from .handOver h rfl)
  · exact move_drop_of_not_owner rt w (.inl rfl) fun l y seen hl hp => hc ⟨l, y, seen, hl, hp⟩

theorem move_dropOutside (rt : Runtime σ V) (w : World σ V) (n : Nat) :
    Move rt w (.dropOutside n) [] (w.handed rt (.dropOutside n)) (w.dropOutside n) := by
  by_cases hc : ∃ l y seen, w.loads[n]? = some l ∧ l.progress = .collecting y seen
  · obtain ⟨⟨s, id, x, p⟩, y, seen, h, rfl⟩ := hc
    have hdrop : w.dropOutside n = w.giveUp s n := by
      simp only [dropOutside, h, abandonAll_eq]
      rfl
    rw [hdrop]
    simpa [handed, h] using (show Move rt w _ _ _ _ from .giveUp h rfl)
  · have hhanded : w.handed rt (.dropOutside n) = w.handedAtLoss n := by
      simp only [handed]
      split
      · exact absurd ⟨_, _, _, ‹_›, rfl⟩ hc
      · rfl
    have hdrop : w.dropOutside n = w.drop n := by
      simp only [dropOutside]
      split
      · exact absurd ⟨_, _, _, ‹_›, rfl⟩ hc
      · rfl
    rw [hhanded, hdrop]
    exact move_drop_of_not_owner rt w (.inr rfl) fun l y seen hl hp => hc ⟨l, y, seen, hl, hp⟩

theorem exists_invalidate_eq_setCache (rt : Runtime σ V) (w : World σ V) (k : CacheKey) :
    ∃ c t a, (w.invalidate rt k).2 = w.setCache c t a := by
  unfold invalidate
  split
  · exact ⟨w.cache, w.clock, w.ahead, rfl⟩
  · exact ⟨_, w.clock, w.ahead, rfl⟩

theorem exists_shutdown_eq_setCache (rt : Runtime σ V) (w : World σ V) :
    ∃ c t a, w.shutdown rt = w.setCache c t a := by
  unfold shutdown
  split
  · exact ⟨w.cache, w.clock, w.ahead, rfl⟩
  · exact ⟨_, w.clock, w.ahead, rfl⟩

/-- **Every step is a move**, and besides changes only the cache and the clock. -/
theorem exists_move (rt : Runtime σ V) (w : World σ V) (e : Event V) :
    ∃ w' c t a, Move rt w e (w.joinings rt e) (w.handed rt e) w' ∧
      w.step rt e = w'.setCache c t a := by
  cases e with
  | clock now ahead => exact ⟨w, w.cache, now, ahead, .stay _, rfl⟩
  | beginLoad s id expected => exact exists_move_beginLoad rt w s id expected
  | poll n => exact exists_move_poll rt w n
  | pollDispatch d => exact exists_move_pollDispatch rt w d
  | fetched d chunk r => exact exists_move_fetched rt w d chunk r
  | drop n =>
    exact ⟨w.drop n, (w.drop n).cache, (w.drop n).clock, (w.drop n).ahead, move_drop rt w n, rfl⟩
  | dropOutside n =>
    exact ⟨w.dropOutside n, (w.dropOutside n).cache, (w.dropOutside n).clock,
      (w.dropOutside n).ahead, move_dropOutside rt w n, rfl⟩
  | invalidate k =>
    obtain ⟨c, t, a, hw⟩ := exists_invalidate_eq_setCache rt w k
    exact ⟨w, c, t, a, .stay _, hw⟩
  | shutdown =>
    obtain ⟨c, t, a, hw⟩ := exists_shutdown_eq_setCache rt w
    exact ⟨w, c, t, a, .stay _, hw⟩

end World

end GraphLayer.Batching
