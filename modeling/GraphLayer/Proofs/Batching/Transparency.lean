import GraphLayer.Proofs.Batching.Provenance
import GraphLayer.Proofs.Cache.Keeping

/-!
# Batching and caching are transparent

* `World.CacheHeld`: what the store says of its contents, for the cache of a world;
* `World.abandonedBy`, the loads whose window or dispatch goes away in a run, since its owner is
  dropped;
* `AnswersAs`: the backing service answers every chunk, and says of each id what a function says;
* `World.Transparent`: then the cache and all answers agree with that function, but for the loads
  that were abandoned; `World.transparent_run` shows it for every run;
* `World.transparent`: the same for what a caller gets, with an `Lru` cache or without a cache.
-/

namespace GraphLayer.Batching

variable {σ V : Type}

namespace World

variable {rt : Runtime σ V} {w w' : World σ V} {e : Event V} {as : List Joining}
  {hs given : List (Nat × Outcome V)} {log : List (Serving V)}

/-! ### The cache -/

section Cache

variable {P : CacheKey → V → Prop} {Held : σ → Prop}

/-- The contents of the cache, if there is one, are as the store keeps them. -/
def CacheHeld (Held : σ → Prop) (w : World σ V) : Prop := ∀ c, w.cache = some c → Held c

theorem cache_tick (w : World σ V) : w.tick.cache = w.cache := by
  unfold tick
  split <;> rfl

theorem CacheHeld.lookup (h : w.CacheHeld Held) (hk : rt.store.Keeps P Held) (k : CacheKey) :
    (w.lookup rt k).2.CacheHeld Held := by
  unfold World.lookup
  split
  · exact h
  · rename_i c hc
    intro c' hc'
    rw [cache_tick] at hc'
    obtain rfl := Option.some.inj hc'
    exact hk.get c k _ (h c hc)

/-- A value that is found in the cache was put there under its key. -/
theorem CacheHeld.value (h : w.CacheHeld Held) (hk : rt.store.Keeps P Held) {k : CacheKey} {v : V}
    (hv : (w.lookup rt k).1 = some v) : P k v := by
  unfold World.lookup at hv
  split at hv
  · cases hv
  · rename_i c hc
    refine hk.value c k w.clock v (h c hc) ?_
    cases hg : (rt.store.get c k w.clock).1 with
    | ok r =>
      simp only [hg] at hv
      rw [hv]
    | error _ =>
      simp only [hg] at hv
      cases hv

theorem CacheHeld.store (h : w.CacheHeld Held) (hk : rt.store.Keeps P Held) {k : CacheKey} {v : V}
    (hv : P k v) : (w.store rt k v).CacheHeld Held := by
  unfold World.store
  split
  · exact h
  · rename_i c hc
    intro c' hc'
    rw [cache_tick] at hc'
    obtain rfl := Option.some.inj hc'
    exact hk.put c k v _ (h c hc) hv

theorem CacheHeld.remember (h : w.CacheHeld Held) (hk : rt.store.Keeps P Held) {s : Slot}
    {outs : List (Int × Outcome V)} (hv : ∀ id v, (id, .ok (some v)) ∈ outs → P ⟨s.key, id⟩ v) :
    (w.remember rt s outs).CacheHeld Held := by
  induction outs generalizing w with
  | nil => exact h
  | cons p outs ih =>
    obtain ⟨id, o⟩ := p
    have hrest : ∀ id v, (id, .ok (some v)) ∈ outs → P ⟨s.key, id⟩ v :=
      fun id v hm => hv id v (List.mem_cons_of_mem _ hm)
    match o with
    | .ok (some v) => exact ih (h.store hk (hv id v List.mem_cons_self)) hrest
    | .ok none => exact ih h hrest
    | .error _ => exact ih h hrest

/-- What the dispatches of a world can put into its cache. -/
def CanStore (rt : Runtime σ V) (w : World σ V) (k : CacheKey) (v : V) : Prop :=
  ∃ (d : Nat) (dd : Dispatch V) (results : List (Batch V)), w.dispatches[d]? = some dd ∧
    dd.stage = .fetching (results.map some) ∧ dd.slot.key = k.loader ∧
    (k.id, .ok (some v)) ∈ outcomesOf rt dd.batch results

theorem CacheHeld.complete (h : w.CacheHeld Held) (hk : rt.store.Keeps P Held)
    (hv : ∀ k v, w.CanStore rt k v → P k v) (d : Nat) : (w.complete rt d).CacheHeld Held := by
  rcases complete_cases rt w d with ⟨-, hw⟩ | ⟨dd, results, hd, hst, -, hw⟩
  · rw [hw]
    exact h
  · rw [hw]
    have hfinish : (w.finish d dd.slot .done (w.handedAtEnd rt d)).CacheHeld Held := h
    exact hfinish.remember hk fun id v hm => hv _ v ⟨d, dd, results, hd, hst, rfl, hm⟩

theorem cache_loseDispatch (w : World σ V) (d : Nat) : (w.loseDispatch d).cache = w.cache := by
  unfold loseDispatch
  split
  · rw [abandonAll_eq]
    rfl
  · rfl

theorem cache_drop (w : World σ V) (n : Nat) : (w.drop n).cache = w.cache := by
  unfold drop
  split
  · rfl
  · exact cache_loseDispatch _ _
  · rfl
  · rfl

theorem cache_dropOutside (w : World σ V) (n : Nat) : (w.dropOutside n).cache = w.cache := by
  unfold dropOutside
  split
  · rw [abandonAll_eq]
    rfl
  · exact cache_drop w n

/-- The cache takes in nothing but what a dispatch that completes puts there. -/
theorem CacheHeld.step (h : w.CacheHeld Held) (hk : rt.store.Keeps P Held)
    (hv : ∀ k v, w.CanStore rt k v → P k v) (e : Event V) : (w.step rt e).CacheHeld Held := by
  cases e with
  | clock now ahead => exact h
  | beginLoad s id expected =>
    have hl := h.lookup hk ⟨s.key, id⟩
    simp only [World.step, beginLoad]
    split
    · split
      · rename_i heq
        rw [heq] at hl
        exact hl
      · rename_i heq
        rw [heq] at hl
        exact hl
    · exact h
  | poll n =>
    simp only [World.step, poll]
    split
    · split
      · exact h
      · exact h
    · exact h.complete hk hv _
    · exact h
  | pollDispatch d =>
    simp only [World.step, pollDispatch]
    split
    · exact h
    · exact h.complete hk hv d
    · exact h
  | fetched d c r =>
    simp only [World.step, fetched]
    split
    · exact h
    · exact h
  | drop n =>
    intro c hc
    exact h c ((cache_drop w n).symm.trans hc)
  | dropOutside n =>
    intro c hc
    exact h c ((cache_dropOutside w n).symm.trans hc)
  | invalidate k =>
    simp only [World.step, World.invalidate]
    split
    · exact h
    · rename_i c hc
      intro c' hc'
      obtain rfl := Option.some.inj hc'
      exact hk.invalidate c k (h c hc)
  | shutdown =>
    simp only [World.step, World.shutdown]
    split
    · exact h
    · rename_i c hc
      intro c' hc'
      obtain rfl := Option.some.inj hc'
      exact hk.clear c (h c hc)

end Cache

/-! ### Loads that are abandoned -/

/-- The loads whose window or dispatch goes away in a step, since its owner is dropped. -/
def abandonedIn (rt : Runtime σ V) (w : World σ V) (e : Event V) : List Nat :=
  match e with
  | .drop _ | .dropOutside _ => (w.handed rt e).map Prod.fst
  | _ => []

/-- The loads that are abandoned in a run, in order. -/
def abandonedBy (rt : Runtime σ V) (w : World σ V) : List (Event V) → List Nat
  | [] => []
  | e :: es => w.abandonedIn rt e ++ (w.step rt e).abandonedBy rt es

theorem abandonedBy_append (rt : Runtime σ V) (w : World σ V) (es fs : List (Event V)) :
    w.abandonedBy rt (es ++ fs) = w.abandonedBy rt es ++ (w.run rt es).abandonedBy rt fs := by
  induction es generalizing w with
  | nil => rfl
  | cons e es ih => simp [abandonedBy, ih]

theorem abandonedBy_concat (rt : Runtime σ V) (w : World σ V) (es : List (Event V)) (e : Event V) :
    w.abandonedBy rt (es ++ [e]) = w.abandonedBy rt es ++ (w.run rt es).abandonedIn rt e := by
  rw [abandonedBy_append, abandonedBy, abandonedBy, List.append_nil]

/-- **Where an outcome comes from.**  It is the outcome of the id of the load, from a dispatch of
its slot whose chunks are all answered, or it says that an owner was dropped. -/
theorem Move.of_handed (h : Move rt w e as hs w') (hw : Placed rt w) {n : Nat} {l : Load V}
    {o : Outcome V} (hl : w.loads[n]? = some l) (ho : (n, o) ∈ hs) :
    (∃ (d : Nat) (dd : Dispatch V) (results : List (Batch V)), w.dispatches[d]? = some dd ∧
      dd.stage = .fetching (results.map some) ∧ dd.slot = l.slot ∧
      (l.id, o) ∈ outcomesOf rt dd.batch results) ∨
    (∃ m, e = .drop m ∨ e = .dropOutside m) ∧ o = .error (.abandoned l.slot.key) := by
  cases h with
  | @complete _ d dd results hd hst =>
    obtain ⟨id, hout, hn⟩ := mem_handouts_iff.1 ho
    obtain ⟨k, hk, hs, rfl⟩ := (hw.batch d dd hd).load_of_mem_waitersOf hn
    obtain rfl := Option.some.inj (hk.symm.trans hl)
    exact .inl ⟨d, dd, results, hd, hst, hs.symm, hout⟩
  | @lose _ m d _ dd rs he _ _ hd hst =>
    obtain ⟨hn, rfl⟩ := mem_abandonments_iff.1 ho
    obtain ⟨k, hk, hs⟩ := (hw.batch d dd hd).load_of_mem_flatMap hn
    obtain rfl := Option.some.inj (hk.symm.trans hl)
    exact .inr ⟨⟨m, he⟩, by rw [hs]⟩
  | @giveUp m l₀ =>
    obtain ⟨hn, rfl⟩ := mem_abandonments_iff.1 ho
    obtain ⟨k, hk, hs⟩ := (hw.pending l₀.slot).load_of_mem_flatMap hn
    obtain rfl := Option.some.inj (hk.symm.trans hl)
    exact .inr ⟨⟨m, .inr rfl⟩, by rw [hs]⟩
  | _ => cases ho

end World

/-! ### A backing service that answers as a function -/

/-- No fetch under a key fails as a whole, and of each id that is asked for it says what `f` says:
a value, an error of its own, or nothing. -/
def AnswersAs (key : String) (f : Int → Option (Except LoadError V)) (log : List (Serving V)) :
    Prop :=
  ∀ x ∈ log, x.slot.key = key → ∃ found, x.result = .ok found ∧ ∀ id ∈ x.ids, found id = f id

/-- A cached value under a key is the one that `f` has for the id. -/
def Fits (key : String) (f : Int → Option (Except LoadError V)) (k : CacheKey) (v : V) : Prop :=
  k.loader = key → f k.id = some (.ok v)

namespace World

variable {rt : Runtime σ V} {w w' : World σ V} {e : Event V} {as : List Joining}
  {hs given : List (Nat × Outcome V)} {log : List (Serving V)}
variable {key : String} {f : Int → Option (Except LoadError V)} {Held : σ → Prop} {gone : List Nat}

/-- A dispatch whose chunks are all answered has for each of its ids what the function has. -/
theorem Traced.outcome_eq (ht : Traced rt w log given) (hlog : AnswersAs key f log) {d : Nat}
    {dd : Dispatch V} {results : List (Batch V)} (hd : w.dispatches[d]? = some dd)
    (hst : dd.stage = .fetching (results.map some)) (hkey : dd.slot.key = key) {id : Int}
    {o : Outcome V} (ho : (id, o) ∈ outcomesOf rt dd.batch results) :
    o = outcomeOf (.ok f) id := by
  obtain ⟨x, hx, -, hslot, -, hid, rfl⟩ := ht.served_of_outcome hd hst ho
  obtain ⟨found, hresult, hfound⟩ := hlog x hx (hslot ▸ hkey)
  simp only [hresult, outcomeOf, hfound id hid]

/-- A value that a fetch gives is its own for the id. -/
theorem exists_found_of_outcomeOf {r : Batch V} {id : Int} {v : V}
    (h : outcomeOf r id = .ok (some v)) : ∃ found, r = .ok found ∧ found id = some (.ok v) := by
  unfold outcomeOf at h
  split at h
  · cases h
  · rename_i found
    split at h
    · rename_i hv
      exact ⟨found, rfl, by rw [hv, Option.some.inj (Except.ok.inj h)]⟩
    · cases h
    · cases h

/-- The cache and the answers agree with a function, but for the loads that were abandoned. -/
structure Transparent (key : String) (f : Int → Option (Except LoadError V)) (Held : σ → Prop)
    (gone : List Nat) (w : World σ V) : Prop where
  cache : w.CacheHeld Held
  loads : ∀ (n : Nat) (l : Load V) (o : Outcome V), w.loads[n]? = some l → l.slot.key = key →
    l.progress = .answered o →
    o = outcomeOf (.ok f) l.id ∨ n ∈ gone ∧ o = .error (.abandoned key)

theorem mem_abandonedIn {n : Nat} {o : Outcome V} (he : ∃ m, e = .drop m ∨ e = .dropOutside m)
    (h : (n, o) ∈ w.handed rt e) : n ∈ w.abandonedIn rt e := by
  obtain ⟨m, rfl | rfl⟩ := he
  · exact List.mem_map_of_mem h
  · exact List.mem_map_of_mem h

theorem Transparent.loads_step (h : Transparent key f Held gone w)
    (hkeeps : rt.store.Keeps (Fits key f) Held) (hkey : rt.loaders.contains key = true)
    (hw : Placed rt w) (ht : Traced rt w log given) (hlog : AnswersAs key f log) {n : Nat}
    {l' : Load V} {o : Outcome V} (hl' : (w.step rt e).loads[n]? = some l')
    (hs' : l'.slot.key = key) (hp' : l'.progress = .answered o) :
    o = outcomeOf (.ok f) l'.id ∨
      n ∈ gone ++ w.abandonedIn rt e ∧ o = .error (.abandoned key) := by
  obtain ⟨w', c, t, a, hm, hstep⟩ := exists_move rt w e
  rw [hstep] at hl'
  rcases hm.load_step hl' with ⟨l, hl, hs, hi, -, hprogress⟩ | ⟨-, ⟨-, o', hp, honce⟩ | ⟨-, hp⟩⟩
  · rw [hs] at hs'
    rw [hi]
    rw [hp'] at hprogress
    generalize hq : l.progress = q at hprogress
    cases hprogress with
    | stay =>
      refine (h.loads n l o hl hs' hq).imp_right ?_
      rintro ⟨hn, ho⟩
      exact ⟨List.mem_append_left _ hn, ho⟩
    | receive hnd ho =>
      rcases hm.of_handed hw hl ho with ⟨d, dd, results, hd, hst, hdd, hout⟩ | ⟨he, rfl⟩
      · exact .inl (ht.outcome_eq hlog hd hst (hdd ▸ hs') hout)
      · exact .inr ⟨List.mem_append_right _ (mem_abandonedIn he ho), by rw [hs']⟩
  · -- its key is registered, so that a load that is answered at once has been found in the cache
    obtain rfl := Progress.answered.inj (hp'.symm.trans hp)
    rw [atOnce?, hs', if_pos hkey] at honce
    obtain ⟨v, hv, rfl⟩ := Option.map_eq_some_iff.1 honce
    have hf : f l'.id = some (.ok v) := h.cache.value hkeeps hv rfl
    exact .inl (by simp only [outcomeOf, hf])
  · rw [hp'] at hp
    split at hp <;> cases hp

theorem Transparent.step (h : Transparent key f Held gone w)
    (hkeeps : rt.store.Keeps (Fits key f) Held) (hkey : rt.loaders.contains key = true)
    (hw : Placed rt w) (ht : Traced rt w log given) (hlog : AnswersAs key f log) (e : Event V) :
    Transparent key f Held (gone ++ w.abandonedIn rt e) (w.step rt e) where
  cache := by
    refine h.cache.step hkeeps (fun k v hv hk => ?_) e
    obtain ⟨d, dd, results, hd, hst, hs, hout⟩ := hv
    obtain ⟨found, hf, hv⟩ :=
      exists_found_of_outcomeOf (ht.outcome_eq hlog hd hst (hs.trans hk) hout).symm
    rw [Except.ok.inj hf, hv]
  loads _ _ _ hl hs hp := h.loads_step hkeeps hkey hw ht hlog hl hs hp

/-- **In every run the cache and the answers agree with the function**, as long as the backing
service does, whichever loads the steps interleave and whatever the clock reads. -/
theorem transparent_run (hkeeps : rt.store.Keeps (Fits key f) Held)
    (hkey : rt.loaders.contains key = true) {cache : Option σ}
    (hcache : ∀ c, cache = some c → Held c) (es : List (Event V))
    (hlog : AnswersAs key f ((start cache).served rt es)) :
    Transparent key f Held ((start cache).abandonedBy rt es) ((start cache).run rt es) := by
  induction es using List.reverseRecOn with
  | nil =>
    refine ⟨hcache, fun n l o hl => ?_⟩
    cases hl
  | append_singleton es e ih =>
    -- the dispatches of the state before the last step know only what was served before it
    rw [served_concat] at hlog
    have hlog' : AnswersAs key f ((start cache).served rt es) :=
      fun x hx => hlog x (List.mem_append_left _ hx)
    rw [run_concat, abandonedBy_concat]
    exact (ih hlog').step hkeeps hkey (placed_run rt cache es) (traced_run rt cache es) hlog' e

/-! ### What a caller gets -/

section Callers

variable [Typed V]

theorem exists_of_result? {n : Nat} {l : Load V} {r : Outcome V} (hl : w.loads[n]? = some l)
    (hr : w.result? n = some r) :
    ∃ o, l.progress = .answered o ∧ r = o.cast l.slot.key l.expected := by
  obtain ⟨s, id, expected, p⟩ := l
  simp only [result?, hl] at hr
  split at hr
  · rename_i heq
    obtain ⟨rfl, rfl, rfl, rfl⟩ := Load.mk.inj (Option.some.inj heq)
    exact ⟨_, rfl, (Option.some.inj hr).symm⟩
  · cases hr

/-- What has the type that is asked for is given as it is. -/
theorem cast_outcomeOf {T : String} (hT : ∀ id v, f id = some (.ok v) → Typed.typeName v = T)
    (id : Int) : (outcomeOf (.ok f) id).cast key T = outcomeOf (.ok f) id := by
  cases hf : f id with
  | none => simp [outcomeOf, hf, Outcome.cast]
  | some r =>
    cases r with
    | error e => simp [outcomeOf, hf, Outcome.cast]
    | ok v => simp [outcomeOf, hf, Outcome.cast, Typed.cast, hT id v hf, Except.map]

/-- **Batching and caching are transparent.**  Take a loader that is registered under a key, whose
fetches never fail as a whole and say `f id` of each id, where values are of the type `T`.  For
chunks of any size, without a cache or with an empty one of any size and time to live, for any
sessions and any readings of the clock, after any steps in any order, a load of that key and type
that has a result has exactly what `f` says of its id, unless it was abandoned, and then it is told
so. -/
theorem transparent (loaders : Loaders) (maxBatchSize : Nat) (cache : Option (Lru CacheKey V))
    (hcache : ∀ c, cache = some c → c.entries = []) {key : String}
    (hkey : loaders.contains key = true) (f : Int → Option (Except LoadError V)) (T : String)
    (hT : ∀ id v, f id = some (.ok v) → Typed.typeName v = T) (es : List (Event V))
    (hlog : AnswersAs key f ((start cache).served ⟨loaders, maxBatchSize, .lru V⟩ es)) :
    let rt : Runtime (Lru CacheKey V) V := ⟨loaders, maxBatchSize, .lru V⟩
    let w := (start cache).run rt es
    ∀ (n : Nat) (l : Load V) (r : Outcome V), w.loads[n]? = some l → l.slot.key = key →
      l.expected = T → w.result? n = some r →
      r = outcomeOf (.ok f) l.id ∨
        n ∈ (start cache).abandonedBy rt es ∧ r = .error (.abandoned key) := by
  intro rt w n l r hl hs hx hr
  have hinv : Transparent key f (Lru.Holds (Fits key f)) ((start cache).abandonedBy rt es) w :=
    transparent_run (CacheStore.lru_keeps _) hkey
      (fun c hc => Lru.holds_of_empty (hcache c hc)) es hlog
  obtain ⟨o, hp, rfl⟩ := exists_of_result? hl hr
  rw [hs, hx]
  rcases hinv.loads n l o hl hs hp with rfl | ⟨hn, rfl⟩
  · exact .inl (cast_outcomeOf hT l.id)
  · exact .inr ⟨hn, rfl⟩

end Callers

instance : Typed Nat where
  typeName _ := "Nat"

/-- A value that one session has fetched is found in the cache by another. -/
theorem transparent_across_sessions :
    let f : Int → Option (Except LoadError Nat) := fun id => if id = 7 then some (.ok 70) else none
    let es : List (Event Nat) := [.beginLoad users 7 "Nat", .poll 0, .poll 0, .fetched 0 0 (.ok f),
      .poll 0, .clock 5, .beginLoad ⟨1, "users"⟩ 7 "Nat"]
    let cache : Lru CacheKey Nat := { maxSize := 1, ttl := 10 }
    let rt : Runtime (Lru CacheKey Nat) Nat := ⟨usersOnly.loaders, 0, .lru Nat⟩
    let w := (start (some cache)).run rt es
    (∀ c, some cache = some c → c.entries = []) ∧ rt.loaders.contains "users" = true ∧
    (∀ id v, f id = some (.ok v) → Typed.typeName v = "Nat") ∧
    AnswersAs "users" f ((start (some cache)).served rt es) ∧ w.dispatches.length = 1 ∧
    1 ∉ (start (some cache)).abandonedBy rt es ∧ w.result? 1 = some (outcomeOf (.ok f) 7) := by
  intro f es cache rt w
  have hcache : ∀ c, some cache = some c → c.entries = [] := by
    intro c hc
    obtain rfl := Option.some.inj hc
    rfl
  have hlog : AnswersAs "users" f ((start (some cache)).served rt es) := by
    have hserved : (start (some cache)).served rt es = [⟨0, 0, users, [7], .ok f⟩] := rfl
    rw [hserved]
    intro x hx _
    obtain rfl := List.mem_singleton.1 hx
    exact ⟨f, rfl, fun _ _ => rfl⟩
  have hnot : 1 ∉ (start (some cache)).abandonedBy rt es := by decide
  have hload : (w.loads[1]?.map fun l => (l.slot.key, l.id, l.expected)) =
      some ("users", 7, "Nat") := by decide
  have hresult : w.result? 1 = some (.ok (some 70)) := by decide
  have hone : w.dispatches.length = 1 := by decide
  obtain ⟨⟨s, id, expected, p⟩, hl, heq⟩ := Option.map_eq_some_iff.1 hload
  simp only [Prod.mk.injEq] at heq
  obtain ⟨hs, rfl, rfl⟩ := heq
  have htransparent := transparent usersOnly.loaders 0 (some cache) hcache rfl f "Nat"
    (fun _ _ _ => rfl) es hlog 1 _ _ hl hs rfl hresult
  have heq' := htransparent.resolve_right fun ⟨hn, _⟩ => hnot hn
  exact ⟨hcache, rfl, fun _ _ _ => rfl, hlog, hone, hnot, hresult.trans (congrArg some heq')⟩

end World

end GraphLayer.Batching
