import GraphLayer.Proofs.Batching.Transparency
import GraphLayer.Proofs.Cache.Refinement

/-!
# What the cache answers is fresh

* `Note`, a change of the cache that its users see, and `World.noted`, the notes of a run;
* `LastStored`: an item is what its key was last given, and since then nothing has taken it back;
* `Logged`: every item of a list is such; each operation of the list keeps this
  (`Logged.get`, `Logged.put`, `Logged.invalidate`, `Logged.clear`);
* `World.Fresh`: the cache of a world represents such a list; `World.fresh_run` shows it for every
  run;
* `World.noted_served`: what is stored has been fetched as the value of its own id;
* `World.cache_hit`: a load that is answered at once gets what was last stored for its key and id,
  before it expires.
-/

namespace GraphLayer.Batching

variable {V : Type}

/-! ### Notes -/

/-- A change of the cache that its users see. -/
inductive Note (V : Type) where
  /-- A dispatch stores a value; `time` is what the clock reads then. -/
  | stored (dispatch : Nat) (key : CacheKey) (value : V) (time : Nat)
  | removed (key : CacheKey)
  | cleared

/-- The note says that the value of a key is replaced or taken out. -/
def Note.Concerns (k : CacheKey) : Note V → Prop
  | .stored _ k' _ _ => k' = k
  | .removed k' => k' = k
  | .cleared => True

/-- An item holds what a dispatch was the last one to store under its key, with the time of that,
and the key has not been taken out since. -/
def LastStored (h : List (Note V)) (d : Nat) (i : LruList.Item CacheKey V) : Prop :=
  ∃ before after, h = before ++ .stored d i.key i.value i.insertedAt :: after ∧
    ∀ n ∈ after, ¬ n.Concerns i.key

section Log

variable {h : List (Note V)} {d : Nat} {i : LruList.Item CacheKey V} {k : CacheKey} {v : V}

theorem LastStored.mem (hi : LastStored h d i) : .stored d i.key i.value i.insertedAt ∈ h := by
  obtain ⟨before, after, rfl, -⟩ := hi
  exact List.mem_append_right _ List.mem_cons_self

theorem LastStored.concat (hi : LastStored h d i) {n : Note V} (hn : ¬ n.Concerns i.key) :
    LastStored (h ++ [n]) d i := by
  obtain ⟨before, after, rfl, hafter⟩ := hi
  refine ⟨before, after ++ [n], by simp, fun m hm => ?_⟩
  rcases List.mem_append.1 hm with hm | hm
  · exact hafter m hm
  · obtain rfl := List.mem_singleton.1 hm
    exact hn

theorem lastStored_concat (h : List (Note V)) (d : Nat) (k : CacheKey) (v : V) (now : Nat) :
    LastStored (h ++ [.stored d k v now]) d ⟨k, v, now⟩ :=
  ⟨h, [], rfl, nofun⟩

/-- Every item of a list is what its key was last given.  A list without room has no items, since
nothing that is stored goes there. -/
structure Logged (h : List (Note V)) (ttl : Nat) (l : LruList CacheKey V) : Prop where
  ttl : l.ttl = ttl
  room : l.maxSize = 0 → l.items = []
  items : ∀ i ∈ l.items, ∃ d, LastStored h d i

namespace Logged

variable {l : LruList CacheKey V} {ttl : Nat}

theorem start (maxSize ttl : Nat) :
    Logged [] ttl ({ maxSize, ttl } : LruList CacheKey V) := ⟨rfl, fun _ => rfl, nofun⟩

theorem mem_without {i : LruList.Item CacheKey V} (hi : i ∈ l.without k) :
    i ∈ l.items ∧ i.key ≠ k := by
  simpa [LruList.without] using hi

theorem without_eq_nil (hl : l.items = []) : l.without k = [] := by
  simp [LruList.without, hl]

theorem find?_mem {i : LruList.Item CacheKey V} (hf : l.find? k = some i) :
    i ∈ l.items ∧ i.key = k :=
  ⟨List.mem_of_find?_eq_some hf, by simpa using List.find?_some hf⟩

theorem get (hl : Logged h ttl l) (k : CacheKey) (now : Nat) : Logged h ttl (l.get k now).2 := by
  unfold LruList.get
  cases hf : l.find? k with
  | none => exact hl
  | some i =>
    have hi := (find?_mem hf).1
    simp only
    split
    · exact ⟨hl.ttl, fun hmax => without_eq_nil (hl.room hmax),
        fun j hj => hl.items j (mem_without hj).1⟩
    · refine ⟨hl.ttl, fun hmax => ?_, fun j hj => ?_⟩
      · rw [hl.room hmax] at hi
        cases hi
      · rcases List.mem_append.1 hj with hj | hj
        · exact hl.items j (mem_without hj).1
        · obtain rfl := List.mem_singleton.1 hj
          exact hl.items j hi

/-- A value that is found was the last one to be stored, less than the time to live ago. -/
theorem value (hl : Logged h ttl l) {now : Nat} (hv : (l.get k now).1 = some v) :
    ∃ d t, LastStored h d ⟨k, v, t⟩ ∧ now - t < ttl := by
  unfold LruList.get at hv
  cases hf : l.find? k with
  | none => simp [hf] at hv
  | some i =>
    obtain ⟨hi, rfl⟩ := find?_mem hf
    simp only [hf] at hv
    split at hv
    · cases hv
    · rename_i hage
      obtain rfl := Option.some.inj hv
      obtain ⟨d, hd⟩ := hl.items i hi
      exact ⟨d, i.insertedAt, hd, hl.ttl ▸ Nat.lt_of_not_le hage⟩

theorem put (hl : Logged h ttl l) (d : Nat) (k : CacheKey) (v : V) (now : Nat) :
    Logged (h ++ [.stored d k v now]) ttl (l.put k v now) := by
  unfold LruList.put
  split
  · rename_i hmax
    refine ⟨hl.ttl, fun _ => hl.room hmax, fun i hi => ?_⟩
    rw [hl.room hmax] at hi
    cases hi
  · rename_i hmax
    refine ⟨hl.ttl, fun hzero => absurd hzero hmax, fun i hi => ?_⟩
    rcases List.mem_append.1 hi with hi | hi
    · obtain ⟨hi, hk⟩ := mem_without (List.mem_of_mem_drop hi)
      obtain ⟨d', hd'⟩ := hl.items i hi
      exact ⟨d', hd'.concat fun he => hk (Eq.symm he)⟩
    · obtain rfl := List.mem_singleton.1 hi
      exact ⟨d, lastStored_concat h d k v now⟩

theorem invalidate (hl : Logged h ttl l) (k : CacheKey) :
    Logged (h ++ [.removed k]) ttl (l.invalidate k).2 where
  ttl := hl.ttl
  room hmax := without_eq_nil (hl.room hmax)
  items i hi := by
    obtain ⟨hi, hk⟩ := mem_without hi
    obtain ⟨d, hd⟩ := hl.items i hi
    exact ⟨d, hd.concat fun he => hk (Eq.symm he)⟩

theorem clear (hl : Logged h ttl l) : Logged (h ++ [.cleared]) ttl l.clear :=
  ⟨hl.ttl, fun _ => rfl, nofun⟩

end Logged

end Log

namespace World

/-! ### The notes of a run -/

section Notes

variable {σ : Type}

/-- The notes of a dispatch that stores the values among some outcomes, in their order.  The clock
goes on as it does while they are stored. -/
def storings (rt : Runtime σ V) (d : Nat) (s : Slot) (w : World σ V) :
    List (Int × Outcome V) → List (Note V)
  | [] => []
  | (id, .ok (some v)) :: outs =>
    .stored d ⟨s.key, id⟩ v w.clock :: storings rt d s (w.store rt ⟨s.key, id⟩ v) outs
  | _ :: outs => storings rt d s w outs

/-- The notes of a dispatch that is polled: none before all its chunks are answered. -/
def notesAtEnd (rt : Runtime σ V) (w : World σ V) (d : Nat) : List (Note V) :=
  match w.dispatches[d]? with
  | some ⟨s, _, b, .fetching rs⟩ =>
    match allResults? rs with
    | some results => w.storings rt d s (outcomesOf rt b results)
    | none => []
  | _ => []

/-- The notes of a step, in order. -/
def notes (rt : Runtime σ V) (w : World σ V) : Event V → List (Note V)
  | .poll n =>
    match w.loads[n]? with
    | some ⟨_, _, _, .dispatching d⟩ => w.notesAtEnd rt d
    | _ => []
  | .pollDispatch d =>
    match w.dispatches[d]? with
    | some ⟨_, false, _, _⟩ => w.notesAtEnd rt d
    | _ => []
  | .invalidate k => [.removed k]
  | .shutdown => [.cleared]
  | _ => []

/-- The notes of a run, in order. -/
def noted (rt : Runtime σ V) (w : World σ V) : List (Event V) → List (Note V)
  | [] => []
  | e :: es => w.notes rt e ++ (w.step rt e).noted rt es

theorem noted_append (rt : Runtime σ V) (w : World σ V) (es fs : List (Event V)) :
    w.noted rt (es ++ fs) = w.noted rt es ++ (w.run rt es).noted rt fs := by
  induction es generalizing w with
  | nil => rfl
  | cons e es ih => simp [noted, ih]

theorem noted_concat (rt : Runtime σ V) (w : World σ V) (es : List (Event V)) (e : Event V) :
    w.noted rt (es ++ [e]) = w.noted rt es ++ (w.run rt es).notes rt e := by
  rw [noted_append, noted, noted, List.append_nil]

variable {rt : Runtime σ V} {w : World σ V} {d : Nat} {s : Slot}

/-- The notes depend on the cache and on the clock only. -/
theorem storings_congr {w' : World σ V} {outs : List (Int × Outcome V)} (h : w.SameCache w') :
    w.storings rt d s outs = w'.storings rt d s outs := by
  induction outs generalizing w w' with
  | nil => rfl
  | cons p outs ih =>
    obtain ⟨id, o⟩ := p
    match o with
    | .ok (some v) => simp only [storings, h.clock, ih (h.store rt ⟨s.key, id⟩ v)]
    | .ok none => exact ih h
    | .error _ => exact ih h

theorem mem_storings {outs : List (Int × Outcome V)} {d' : Nat} {k : CacheKey} {v : V} {t : Nat}
    (h : .stored d' k v t ∈ w.storings rt d s outs) :
    d' = d ∧ k.loader = s.key ∧ (k.id, .ok (some v)) ∈ outs := by
  induction outs generalizing w with
  | nil => cases h
  | cons p outs ih =>
    obtain ⟨id, o⟩ := p
    have hrest {w' : World σ V} {p : Int × Outcome V}
        (h : .stored d' k v t ∈ w'.storings rt d s outs) :
        d' = d ∧ k.loader = s.key ∧ (k.id, .ok (some v)) ∈ p :: outs := by
      obtain ⟨hd, hk, hmem⟩ := ih h
      exact ⟨hd, hk, List.mem_cons_of_mem _ hmem⟩
    match o, h with
    | .ok (some v'), h =>
      rcases List.mem_cons.1 h with heq | h
      · obtain ⟨rfl, rfl, rfl, -⟩ := Note.stored.inj heq
        exact ⟨rfl, rfl, List.mem_cons_self⟩
      · exact hrest h
    | .ok none, h => exact hrest h
    | .error _, h => exact hrest h

/-- A dispatch that is polled notes what it stores, once all its chunks are answered. -/
theorem notesAtEnd_cases (rt : Runtime σ V) (w : World σ V) (d : Nat) :
    w.notesAtEnd rt d = [] ∧ w.complete rt d = w ∨
    ∃ (dd : Dispatch V) (results : List (Batch V)), w.dispatches[d]? = some dd ∧
      dd.stage = .fetching (results.map some) ∧
      w.notesAtEnd rt d = w.storings rt d dd.slot (outcomesOf rt dd.batch results) ∧
      w.complete rt d = (w.finish d dd.slot .done (handouts dd.batch
        (outcomesOf rt dd.batch results))).remember rt dd.slot (outcomesOf rt dd.batch results) := by
  match h : w.dispatches[d]? with
  | some ⟨s, o, b, .fetching rs⟩ =>
    cases hr : allResults? rs with
    | some results =>
      have hnotes : w.notesAtEnd rt d = w.storings rt d s (outcomesOf rt b results) := by
        simp [notesAtEnd, h, hr]
      obtain rfl := allResults?_eq_some_iff.1 hr
      exact .inr ⟨_, results, rfl, rfl, hnotes, complete_eq h⟩
    | none => exact .inl ⟨by simp [notesAtEnd, h, hr], by simp [complete, h, hr]⟩
  | none | some ⟨_, _, _, .spawned⟩ | some ⟨_, _, _, .done⟩ | some ⟨_, _, _, .lost⟩ =>
    exact .inl ⟨by simp [notesAtEnd, h], by simp [complete, h]⟩

/-- A load that is polled notes what its dispatch does, and else leaves the cache alone. -/
theorem notes_poll_cases (rt : Runtime σ V) (w : World σ V) (n : Nat) :
    w.notes rt (.poll n) = [] ∧ (w.poll rt n).cache = w.cache ∨
    ∃ d, w.notes rt (.poll n) = w.notesAtEnd rt d ∧ w.poll rt n = w.complete rt d := by
  cases hl : w.loads[n]? with
  | none => exact .inl (by simp [notes, poll, hl])
  | some l =>
    obtain ⟨s, id, x, p⟩ := l
    cases p with
    | dispatching d => exact .inr ⟨d, by simp [notes, hl], by simp [poll, hl]⟩
    | collecting y seen =>
      refine .inl ⟨by simp [notes, hl], ?_⟩
      simp only [poll, hl]
      split
      · rfl
      · rfl
    | waiting => exact .inl (by simp [notes, poll, hl])
    | answered o => exact .inl (by simp [notes, poll, hl])
    | dropped => exact .inl (by simp [notes, poll, hl])

/-- A dispatch that nobody owns notes what it does when it is polled. -/
theorem notes_pollDispatch_cases (rt : Runtime σ V) (w : World σ V) (d : Nat) :
    w.notes rt (.pollDispatch d) = [] ∧ (w.pollDispatch rt d).cache = w.cache ∨
    w.notes rt (.pollDispatch d) = w.notesAtEnd rt d ∧ w.pollDispatch rt d = w.complete rt d := by
  cases hd : w.dispatches[d]? with
  | none => exact .inl (by simp [notes, pollDispatch, hd])
  | some dd =>
    obtain ⟨s, owned, b, st⟩ := dd
    cases st with
    | spawned =>
      refine .inl ⟨?_, by simp only [pollDispatch, hd]; rfl⟩
      cases owned <;> simp [notes, notesAtEnd, hd]
    | fetching rs =>
      cases owned with
      | false => exact .inr ⟨by simp [notes, hd], by simp [pollDispatch, hd]⟩
      | true => exact .inl (by simp [notes, pollDispatch, hd])
    | done =>
      refine .inl ⟨?_, by simp [pollDispatch, hd]⟩
      cases owned <;> simp [notes, notesAtEnd, hd]
    | lost =>
      refine .inl ⟨?_, by simp [pollDispatch, hd]⟩
      cases owned <;> simp [notes, notesAtEnd, hd]

/-- What a step stores comes from a dispatch that completes. -/
theorem mem_notes {e : Event V} {k : CacheKey} {v : V} {t : Nat}
    (h : .stored d k v t ∈ w.notes rt e) : .stored d k v t ∈ w.notesAtEnd rt d := by
  have hend {d' : Nat} (h : .stored d k v t ∈ w.notesAtEnd rt d') :
      .stored d k v t ∈ w.notesAtEnd rt d := by
    rcases notesAtEnd_cases rt w d' with ⟨hnotes, -⟩ | ⟨dd, results, -, -, hnotes, -⟩
    · rw [hnotes] at h
      cases h
    · obtain ⟨rfl, -⟩ := mem_storings (hnotes ▸ h)
      exact h
  cases e with
  | poll n =>
    rcases notes_poll_cases rt w n with ⟨hnotes, -⟩ | ⟨d', hnotes, -⟩
    · rw [hnotes] at h
      cases h
    · exact hend (hnotes ▸ h)
  | pollDispatch d' =>
    rcases notes_pollDispatch_cases rt w d' with ⟨hnotes, -⟩ | ⟨hnotes, -⟩
    · rw [hnotes] at h
      cases h
    · exact hend (hnotes ▸ h)
  | invalidate | shutdown => cases List.mem_singleton.1 h
  | _ => cases h

/-- **What is stored has been fetched.**  A dispatch stores nothing under a key but what the loader
of that key gave it as the value of the very id. -/
theorem noted_served (rt : Runtime σ V) (cache : Option σ) {es : List (Event V)} {k : CacheKey}
    {v : V} {t : Nat} (h : .stored d k v t ∈ (start cache).noted rt es) :
    ∃ x ∈ (start cache).served rt es, x.dispatch = d ∧ x.slot.key = k.loader ∧ k.id ∈ x.ids ∧
      ∃ found, x.result = .ok found ∧ found k.id = some (.ok v) := by
  induction es using List.reverseRecOn with
  | nil => cases h
  | append_singleton es e ih =>
    rw [noted_concat] at h
    rw [served_concat]
    rcases List.mem_append.1 h with h | h
    · obtain ⟨x, hx, hserved⟩ := ih h
      exact ⟨x, List.mem_append_left _ hx, hserved⟩
    · have h := mem_notes h
      rcases notesAtEnd_cases rt ((start cache).run rt es) d with
        ⟨hnotes, -⟩ | ⟨dd, results, hd, hst, hnotes, -⟩
      · rw [hnotes] at h
        cases h
      · rw [hnotes] at h
        obtain ⟨-, hk, hout⟩ := mem_storings h
        obtain ⟨x, hx, hxd, hslot, -, hid, heq⟩ :=
          (traced_run rt cache es).served_of_outcome hd hst hout
        refine ⟨x, List.mem_append_left _ hx, hxd, by rw [hslot, hk], hid, ?_⟩
        exact exists_found_of_outcomeOf heq.symm

end Notes

/-! ### The cache of a run -/

variable {rt : Runtime (Lru CacheKey V) V} {w : World (Lru CacheKey V) V} {h : List (Note V)}
  {ttl : Nat}

/-- The cache, if there is one, represents a list whose items are what their keys were last given,
according to the notes so far. -/
def Fresh (h : List (Note V)) (ttl : Nat) (w : World (Lru CacheKey V) V) : Prop :=
  ∀ c, w.cache = some c → ∃ l, c.Refines l ∧ Logged h ttl l

theorem Fresh.of_cache {w' : World (Lru CacheKey V) V} (hw : Fresh h ttl w)
    (hc : w'.cache = w.cache) : Fresh h ttl w' :=
  fun c hc' => hw c (hc ▸ hc')

theorem Fresh.lookup (hw : Fresh h ttl w) (hrt : rt.store = .lru V) (k : CacheKey) :
    Fresh h ttl (w.lookup rt k).2 := by
  unfold World.lookup
  split
  · exact hw
  · rename_i c hc
    intro c' hc'
    rw [cache_tick, hrt] at hc'
    obtain rfl := Option.some.inj hc'
    obtain ⟨l, hl, hlog⟩ := hw c hc
    exact ⟨_, (hl.get k w.clock).2, hlog.get k w.clock⟩

/-- A value that is found in the cache was the last one to be stored under its key, less than the
time to live ago. -/
theorem Fresh.value (hw : Fresh h ttl w) (hrt : rt.store = .lru V) {k : CacheKey} {v : V}
    (hv : (w.lookup rt k).1 = some v) :
    ∃ d t, LastStored h d ⟨k, v, t⟩ ∧ w.clock - t < ttl := by
  unfold World.lookup at hv
  split at hv
  · cases hv
  · rename_i c hc
    obtain ⟨l, hl, hlog⟩ := hw c hc
    rw [hrt] at hv
    exact hlog.value ((hl.get k w.clock).1.symm.trans hv)

theorem Fresh.store (hw : Fresh h ttl w) (hrt : rt.store = .lru V) (d : Nat) (k : CacheKey)
    (v : V) : Fresh (h ++ [.stored d k v w.clock]) ttl (w.store rt k v) := by
  unfold World.store
  split
  · rename_i hc
    intro c hc'
    rw [hc] at hc'
    cases hc'
  · rename_i c hc
    intro c' hc'
    rw [cache_tick, hrt] at hc'
    obtain rfl := Option.some.inj hc'
    obtain ⟨l, hl, hlog⟩ := hw c hc
    exact ⟨_, hl.put k v w.clock, hlog.put d k v w.clock⟩

theorem Fresh.remember (hw : Fresh h ttl w) (hrt : rt.store = .lru V) (d : Nat) (s : Slot)
    (outs : List (Int × Outcome V)) :
    Fresh (h ++ w.storings rt d s outs) ttl (w.remember rt s outs) := by
  induction outs generalizing w h with
  | nil =>
    rw [storings, List.append_nil]
    exact hw
  | cons p outs ih =>
    obtain ⟨id, o⟩ := p
    match o with
    | .ok (some v) =>
      have hrest := ih (hw.store hrt d ⟨s.key, id⟩ v)
      rw [List.append_assoc] at hrest
      exact hrest
    | .ok none => exact ih hw
    | .error _ => exact ih hw

theorem Fresh.complete (hw : Fresh h ttl w) (hrt : rt.store = .lru V) (d : Nat) :
    Fresh (h ++ w.notesAtEnd rt d) ttl (w.complete rt d) := by
  rcases notesAtEnd_cases rt w d with ⟨hnotes, hcomplete⟩ | ⟨dd, results, -, -, hnotes, hcomplete⟩
  · rw [hnotes, hcomplete, List.append_nil]
    exact hw
  · -- what ends a dispatch besides touches neither the cache nor the clock
    have hfinish : Fresh h ttl (w.finish d dd.slot .done (handouts dd.batch
        (outcomesOf rt dd.batch results))) := hw.of_cache rfl
    have hstorings : w.storings rt d dd.slot (outcomesOf rt dd.batch results) =
        (w.finish d dd.slot .done (handouts dd.batch (outcomesOf rt dd.batch results))).storings rt
          d dd.slot (outcomesOf rt dd.batch results) := storings_congr ⟨rfl, rfl, rfl⟩
    rw [hnotes, hcomplete, hstorings]
    exact hfinish.remember hrt d dd.slot _

/-- **Every step keeps the items of the cache what their keys were last given.** -/
theorem Fresh.step (hw : Fresh h ttl w) (hrt : rt.store = .lru V) (e : Event V) :
    Fresh (h ++ w.notes rt e) ttl (w.step rt e) := by
  have hsame {w' : World (Lru CacheKey V) V} (hc : w'.cache = w.cache) :
      Fresh (h ++ []) ttl w' := by
    rw [List.append_nil]
    exact hw.of_cache hc
  cases e with
  | clock now ahead => exact hsame rfl
  | beginLoad s id expected =>
    have hl := hw.lookup hrt ⟨s.key, id⟩
    simp only [World.step, beginLoad, notes, List.append_nil]
    split
    · split
      · rename_i heq
        rw [heq] at hl
        exact hl.of_cache rfl
      · rename_i heq
        rw [heq] at hl
        exact hl.of_cache rfl
    · exact hw.of_cache rfl
  | poll n =>
    rcases notes_poll_cases rt w n with ⟨hnotes, hc⟩ | ⟨d, hnotes, hstep⟩
    · rw [hnotes]
      exact hsame hc
    · rw [hnotes, World.step, hstep]
      exact hw.complete hrt d
  | pollDispatch d =>
    rcases notes_pollDispatch_cases rt w d with ⟨hnotes, hc⟩ | ⟨hnotes, hstep⟩
    · rw [hnotes]
      exact hsame hc
    · rw [hnotes, World.step, hstep]
      exact hw.complete hrt d
  | fetched d c r =>
    simp only [World.step, fetched, notes]
    split
    · exact hsame rfl
    · exact hsame rfl
  | drop n => exact hsame (cache_drop w n)
  | dropOutside n => exact hsame (cache_dropOutside w n)
  | invalidate k =>
    simp only [World.step, World.invalidate, notes]
    split
    · rename_i hc
      intro c hc'
      rw [hc] at hc'
      cases hc'
    · rename_i c hc
      intro c' hc'
      obtain rfl := Option.some.inj hc'
      obtain ⟨l, hl, hlog⟩ := hw c hc
      rw [hrt]
      exact ⟨_, (hl.invalidate k).2, hlog.invalidate k⟩
  | shutdown =>
    simp only [World.step, World.shutdown, notes]
    split
    · rename_i hc
      intro c hc'
      rw [hc] at hc'
      cases hc'
    · rename_i c hc
      intro c' hc'
      obtain rfl := Option.some.inj hc'
      obtain ⟨l, hl, hlog⟩ := hw c hc
      rw [hrt]
      exact ⟨_, hl.clear, hlog.clear⟩

/-- **In every run the items of the cache are what their keys were last given.** -/
theorem fresh_run (hrt : rt.store = .lru V) (maxSize ttl : Nat) (es : List (Event V)) :
    Fresh ((start (some { maxSize, ttl })).noted rt es) ttl
      ((start (some { maxSize, ttl })).run rt es) := by
  induction es using List.reverseRecOn with
  | nil =>
    intro c hc
    obtain rfl := Option.some.inj hc
    exact ⟨_, .start maxSize ttl, .start maxSize ttl⟩
  | append_singleton es e ih =>
    rw [noted_concat, run_concat]
    exact ih.step hrt e

/-! ### What a caller gets at once -/

theorem mem_joined_of_handed (rt : Runtime σ V) (cache : Option σ) {es : List (Event V)}
    {n : Nat} {o : Outcome V} (h : (n, o) ∈ (start cache).handedBy rt es) :
    n ∈ ((start cache).joined rt es).map Joining.load :=
  (ledger rt cache es).subset (List.mem_append_right _ (List.mem_map_of_mem h))

/-- A load whose key is registered and which joins no window has found its value in the cache when
it began. -/
theorem exists_lookup_of_not_joined (rt : Runtime σ V) (cache : Option σ) {es : List (Event V)}
    {n : Nat} {l : Load V} (hl : ((start cache).run rt es).loads[n]? = some l)
    (hkey : rt.loaders.contains l.slot.key = true)
    (hn : n ∉ ((start cache).joined rt es).map Joining.load) :
    ∃ es₁ es₂ v, es = es₁ ++ .beginLoad l.slot l.id l.expected :: es₂ ∧
      ((start cache).run rt es₁).loads.length = n ∧ l.progress = .answered (.ok (some v)) ∧
      (((start cache).run rt es₁).lookup rt ⟨l.slot.key, l.id⟩).1 = some v := by
  induction es using List.reverseRecOn generalizing l with
  | nil => cases hl
  | append_singleton es e ih =>
    obtain ⟨w', c, t, a, hm, hstep⟩ := exists_move rt ((start cache).run rt es) e
    rw [run_concat, hstep] at hl
    rw [joined_concat, List.map_append, List.mem_append, not_or] at hn
    rcases hm.load_step hl with ⟨k, hk, hs, hi, hx, hprogress⟩ | ⟨rfl, hbegun⟩
    · rw [hs] at hkey ⊢
      rw [hi, hx]
      obtain ⟨es₁, es₂, v, hes, hlen, hp, hv⟩ := ih hk hkey hn.1
      refine ⟨es₁, es₂ ++ [e], v, by simp [hes], hlen, ?_, hv⟩
      -- it keeps its answer, since nothing is handed to loads that have not joined
      rw [hp] at hprogress
      generalize l.progress = p at hprogress
      cases hprogress with
      | stay => rfl
      | leave hopen => cases hopen
      | receive _ ho =>
        have hgiven := List.mem_append_right ((start cache).handedBy rt es) ho
        rw [← handedBy_concat] at hgiven
        have hjoined := mem_joined_of_handed rt cache hgiven
        rw [joined_concat, List.map_append, List.mem_append] at hjoined
        exact absurd hjoined (not_or.2 hn)
    · have he := hm.event_of_begun hl
      rcases hbegun with ⟨-, o, hp, honce⟩ | ⟨has, -⟩
      · rw [atOnce?, if_pos hkey] at honce
        obtain ⟨v, hv, rfl⟩ := Option.map_eq_some_iff.1 honce
        exact ⟨es, [], v, by rw [he], rfl, hp, hv⟩
      · rw [has] at hn
        exact absurd (List.mem_singleton.2 rfl) hn.2

/-- **What the cache answers is fresh.**  Take any loaders, whatever they answer from one fetch to
the next, and an empty cache of any size and time to live.  After any steps of any sessions in any
order, a load of a registered key that was answered without joining a window has been answered when
it began, with a value that was the last one to be stored under its very key and id.  Since then it
was neither replaced nor taken out, its age was below the time to live, and the loader of that key
had given it as the value of that id. -/
theorem cache_hit [Typed V] (loaders : Loaders) (maxBatchSize maxSize ttl : Nat)
    (es : List (Event V)) :
    let rt : Runtime (Lru CacheKey V) V := ⟨loaders, maxBatchSize, .lru V⟩
    let w : World (Lru CacheKey V) V := start (some { maxSize, ttl })
    ∀ (n : Nat) (l : Load V), (w.run rt es).loads[n]? = some l →
      loaders.contains l.slot.key = true → n ∉ (w.joined rt es).map Joining.load →
      ∃ es₁ es₂ d v t, es = es₁ ++ .beginLoad l.slot l.id l.expected :: es₂ ∧
        (w.run rt es₁).loads.length = n ∧
        (w.run rt es).result? n = some (Outcome.cast l.slot.key l.expected (.ok (some v))) ∧
        LastStored (w.noted rt es₁) d ⟨⟨l.slot.key, l.id⟩, v, t⟩ ∧
        (w.run rt es₁).clock - t < ttl ∧
        ∃ x ∈ w.served rt es₁, x.dispatch = d ∧ x.slot.key = l.slot.key ∧ l.id ∈ x.ids ∧
          ∃ found, x.result = .ok found ∧ found l.id = some (.ok v) := by
  intro rt w n l hl hkey hn
  obtain ⟨es₁, es₂, v, hes, hlen, hp, hv⟩ := exists_lookup_of_not_joined rt _ hl hkey hn
  have hfresh : Fresh (w.noted rt es₁) ttl (w.run rt es₁) := fresh_run rfl maxSize ttl es₁
  obtain ⟨d, t, hstored, hage⟩ := hfresh.value rfl hv
  have hresult : (w.run rt es).result? n =
      some (Outcome.cast l.slot.key l.expected (.ok (some v))) := by
    obtain ⟨s, id, expected, p⟩ := l
    obtain rfl : p = .answered (.ok (some v)) := hp
    simp only [result?, w, hl]
  exact ⟨es₁, es₂, d, v, t, hes, hlen, hresult, hstored, hage,
    noted_served rt _ hstored.mem⟩

/-- Two sessions share a cache; the second one gets what the first one has fetched last, and not
what was there before the key was taken out. -/
theorem cache_hit_after_invalidate :
    let found (v : Nat) : Batch Nat := .ok fun id => if id = 7 then some (.ok v) else none
    let es : List (Event Nat) := [.beginLoad users 7 "Nat", .poll 0, .poll 0,
      .fetched 0 0 (found 70), .poll 0, .invalidate ⟨"users", 7⟩, .beginLoad users 7 "Nat",
      .poll 1, .poll 1, .clock 3, .fetched 1 0 (found 71), .poll 1, .clock 9,
      .beginLoad ⟨1, "users"⟩ 7 "Nat"]
    let rt : Runtime (Lru CacheKey Nat) Nat := ⟨usersOnly.loaders, 0, .lru Nat⟩
    let w : World (Lru CacheKey Nat) Nat := start (some { maxSize := 1, ttl := 10 })
    (∃ l, (w.run rt es).loads[2]? = some l ∧ usersOnly.loaders.contains l.slot.key = true) ∧
      2 ∉ (w.joined rt es).map Joining.load ∧ (w.run rt es).result? 2 = some (.ok (some 71)) ∧
      ∃ es₁ d t, (w.run rt es₁).clock - t < 10 ∧
        LastStored (w.noted rt es₁) d ⟨⟨"users", 7⟩, 71, t⟩ := by
  intro found es rt w
  have hload : ((w.run rt es).loads[2]?.map fun l => (l.slot.key, l.id, l.expected)) =
      some ("users", 7, "Nat") := by decide
  have hnot : 2 ∉ (w.joined rt es).map Joining.load := by decide
  have hvalue : (w.run rt es).result? 2 = some (.ok (some 71)) := by decide
  obtain ⟨⟨s, id, expected, p⟩, hl, heq⟩ := Option.map_eq_some_iff.1 hload
  simp only [Prod.mk.injEq] at heq
  obtain ⟨hs, rfl, rfl⟩ := heq
  have hkey : usersOnly.loaders.contains s.key = true := by
    rw [hs]
    decide
  obtain ⟨es₁, es₂, d, v, t, -, -, hresult, hstored, hage, -⟩ :=
    cache_hit usersOnly.loaders 0 1 10 es 2 _ hl hkey hnot
  have hv : Outcome.cast s.key "Nat" (.ok (some v)) = .ok (some v) := rfl
  rw [hv] at hresult
  have hsame : (71 : Nat) = v :=
    Option.some.inj (Except.ok.inj (Option.some.inj (hvalue.symm.trans hresult)))
  subst hsame
  rw [hs] at hstored
  exact ⟨⟨_, hl, hkey⟩, hnot, hvalue, es₁, d, t, hage, hstored⟩

end World

end GraphLayer.Batching
