import GraphLayer.Proofs.Batching.Calls
import GraphLayer.Proofs.Batching.Transparency

/-!
# A store that never finds a value

* `CacheStore.Silent`: every look-up fails or finds nothing, whatever the store says otherwise;
* `World.forget`, a world without its cache and clock; over a silent store `World.step_forget` and
  `World.run_forget` show that every run goes as it does without a cache;
* `World.bypassed`: loads, calls of loaders, fetch counts and phases over a silent store.
-/

namespace GraphLayer

/-- No look-up finds a value: each of them fails or finds nothing. -/
def CacheStore.Silent {σ V : Type} (store : CacheStore σ V) : Prop :=
  ∀ c k now, (∃ e, (store.get c k now).1 = .error e) ∨ (store.get c k now).1 = .ok none

end GraphLayer

namespace GraphLayer.Batching

variable {σ V : Type}

namespace World

/-! ### The cache is forgotten -/

/-- The world without its cache and clock. -/
def forget (w : World σ V) : World σ V := w.setCache none 0 []

theorem forget_forget (w : World σ V) : w.forget.forget = w.forget := rfl

/-- Worlds that are the same but for their caches and clocks. -/
theorem exists_eq_setCache_of_forget_eq {w w' : World σ V} (h : w.forget = w'.forget) :
    ∃ c t a, w' = w.setCache c t a := by
  refine ⟨w'.cache, w'.clock, w'.ahead, ?_⟩
  simp only [forget, setCache, mk.injEq, true_and] at h
  obtain ⟨hqueues, hloads, hdispatches⟩ := h
  simp only [setCache, hqueues, hloads, hdispatches]

theorem dispatches_eq_of_forget_eq {w w' : World σ V} (h : w.forget = w'.forget) :
    w.dispatches = w'.dispatches := by
  obtain ⟨_, _, _, rfl⟩ := exists_eq_setCache_of_forget_eq h
  rfl

variable {rt : Runtime σ V}

theorem lookup_forget (w : World σ V) (k : CacheKey) :
    w.forget.lookup rt k = (none, w.forget) := rfl

theorem forget_remember (s : Slot) (w : World σ V) (outs : List (Int × Outcome V)) :
    (w.remember rt s outs).forget = w.forget := by
  obtain ⟨c, t, a, h⟩ := exists_remember_eq_setCache rt s w outs
  rw [h]
  rfl

/-- What a runtime takes out of its cache does not concern the sessions. -/
theorem forget_invalidate (w : World σ V) (k : CacheKey) :
    (w.invalidate rt k).2.forget = w.forget := by
  unfold invalidate
  split <;> rfl

theorem forget_shutdown (w : World σ V) : (w.shutdown rt).forget = w.forget := by
  unfold shutdown
  split <;> rfl

/-- A look-up in a silent store finds nothing. -/
theorem lookup_of_silent (hs : rt.store.Silent) (w : World σ V) (k : CacheKey) :
    (w.lookup rt k).1 = none := by
  unfold lookup
  split
  · rfl
  · rename_i c _
    rcases hs c k w.clock with ⟨e, he⟩ | hnone
    · simp only [he]
    · simp only [hnone]

/-! ### Steps and runs -/

theorem beginLoad_forget (hs : rt.store.Silent) (w : World σ V) (s : Slot) (id : Int)
    (expected : String) :
    (w.forget.beginLoad rt s id expected).forget = (w.beginLoad rt s id expected).forget := by
  by_cases hk : rt.loaders.contains s.key = true
  · obtain ⟨c, t, a, ho⟩ := exists_lookup_eq_setCache rt w ⟨s.key, id⟩
    have hlookup : w.lookup rt ⟨s.key, id⟩ = (none, w.setCache c t a) :=
      Prod.ext (lookup_of_silent hs w _) ho
    simp only [beginLoad, hk, if_true, hlookup, lookup_forget]
    rfl
  · simp only [beginLoad, hk, Bool.false_eq_true, if_false]
    rfl

theorem complete_forget (w : World σ V) (d : Nat) :
    (w.forget.complete rt d).forget = (w.complete rt d).forget := by
  have hd : w.forget.dispatches = w.dispatches := rfl
  match h : w.dispatches[d]? with
  | some ⟨s, o, b, .fetching rs⟩ =>
    cases hr : allResults? rs with
    | some results =>
      obtain rfl := allResults?_eq_some_iff.1 hr
      rw [complete_eq h, complete_eq (hd ▸ h), forget_remember, forget_remember]
      rfl
    | none =>
      simp only [complete, hd, h, hr]
      rfl
  | none | some ⟨_, _, _, .spawned⟩ | some ⟨_, _, _, .done⟩ | some ⟨_, _, _, .lost⟩ =>
    simp only [complete, hd, h]
    rfl

theorem poll_forget (w : World σ V) (n : Nat) :
    (w.forget.poll rt n).forget = (w.poll rt n).forget := by
  have hl : w.forget.loads = w.loads := rfl
  match h : w.loads[n]? with
  | some ⟨s, _, _, .collecting y seen⟩ =>
    have hqueue : w.forget.queue s = w.queue s := rfl
    simp only [poll, hl, h, hqueue]
    split <;> rfl
  | some ⟨_, _, _, .dispatching d⟩ =>
    simp only [poll, hl, h]
    exact complete_forget w d
  | none | some ⟨_, _, _, .waiting⟩ | some ⟨_, _, _, .answered _⟩ | some ⟨_, _, _, .dropped⟩ =>
    simp only [poll, hl, h]
    rfl

theorem pollDispatch_forget (w : World σ V) (d : Nat) :
    (w.forget.pollDispatch rt d).forget = (w.pollDispatch rt d).forget := by
  have hd : w.forget.dispatches = w.dispatches := rfl
  match h : w.dispatches[d]? with
  | some ⟨s, o, b, .spawned⟩ =>
    simp only [pollDispatch, hd, h]
    rfl
  | some ⟨s, false, b, .fetching rs⟩ =>
    simp only [pollDispatch, hd, h]
    exact complete_forget w d
  | none | some ⟨_, true, _, .fetching _⟩ | some ⟨_, true, _, .done⟩ | some ⟨_, true, _, .lost⟩
  | some ⟨_, false, _, .done⟩ | some ⟨_, false, _, .lost⟩ =>
    simp only [pollDispatch, hd, h]
    rfl

theorem fetched_forget (w : World σ V) (d c : Nat) (r : Batch V) :
    w.forget.fetched d c r = (w.fetched d c r).forget := by
  have hd : w.forget.dispatches = w.dispatches := rfl
  unfold fetched
  rw [hd]
  split <;> rfl

theorem loseDispatch_forget (w : World σ V) (d : Nat) :
    w.forget.loseDispatch d = (w.loseDispatch d).forget := by
  have hd : w.forget.dispatches = w.dispatches := rfl
  unfold loseDispatch
  rw [hd]
  split
  · rw [abandonAll_eq, abandonAll_eq]
    rfl
  · rfl

theorem drop_forget (w : World σ V) (n : Nat) : w.forget.drop n = (w.drop n).forget := by
  have hl : w.forget.loads = w.loads := rfl
  unfold drop
  rw [hl]
  split
  · rfl
  · exact loseDispatch_forget (w.setProgress n .dropped) _
  · rfl
  · rfl

theorem dropOutside_forget (w : World σ V) (n : Nat) :
    w.forget.dropOutside n = (w.dropOutside n).forget := by
  have hl : w.forget.loads = w.loads := rfl
  unfold dropOutside
  rw [hl]
  split
  · dsimp only
    rw [abandonAll_eq, abandonAll_eq]
    rfl
  · exact drop_forget w n

/-- Over a silent store a step is what it is without a cache. -/
theorem step_forget (hs : rt.store.Silent) (w : World σ V) (e : Event V) :
    (w.forget.step rt e).forget = (w.step rt e).forget := by
  cases e with
  | clock => rfl
  | beginLoad s id expected => exact beginLoad_forget hs w s id expected
  | poll n => exact poll_forget w n
  | pollDispatch d => exact pollDispatch_forget w d
  | fetched d c r =>
    show (w.forget.fetched d c r).forget = (w.fetched d c r).forget
    rw [fetched_forget, forget_forget]
  | drop n =>
    show (w.forget.drop n).forget = (w.drop n).forget
    rw [drop_forget, forget_forget]
  | dropOutside n =>
    show (w.forget.dropOutside n).forget = (w.dropOutside n).forget
    rw [dropOutside_forget, forget_forget]
  | invalidate k =>
    show (w.forget.invalidate rt k).2.forget = (w.invalidate rt k).2.forget
    rw [forget_invalidate, forget_invalidate, forget_forget]
  | shutdown =>
    show (w.forget.shutdown rt).forget = (w.shutdown rt).forget
    rw [forget_shutdown, forget_shutdown, forget_forget]

/-- **Bypass.**  Worlds that differ in their caches and clocks only do so after every run over a
silent store. -/
theorem run_forget (hs : rt.store.Silent) {w w' : World σ V} (h : w.forget = w'.forget)
    (es : List (Event V)) : (w.run rt es).forget = (w'.run rt es).forget := by
  induction es generalizing w w' with
  | nil => exact h
  | cons e es ih =>
    refine ih ?_
    rw [← step_forget hs w, h, step_forget hs w']

theorem callings_eq_of_forget_eq (hs : rt.store.Silent) {w w' : World σ V}
    (h : w.forget = w'.forget) (e : Event V) : w.callings rt e = w'.callings rt e := by
  have hnow : w.dispatches = w'.dispatches := dispatches_eq_of_forget_eq h
  have hnext : (w.step rt e).dispatches = (w'.step rt e).dispatches :=
    dispatches_eq_of_forget_eq (run_forget hs h [e])
  unfold callings callingsTo hasDrained
  rw [hnow, hnext]

theorem called_eq_of_forget_eq (hs : rt.store.Silent) {w w' : World σ V}
    (h : w.forget = w'.forget) (es : List (Event V)) : w.called rt es = w'.called rt es := by
  induction es generalizing w w' with
  | nil => rfl
  | cons e es ih =>
    have hstep : (w.step rt e).forget = (w'.step rt e).forget := run_forget hs h [e]
    rw [called, called, callings_eq_of_forget_eq hs h, ih hstep]

/-! ### All together -/

/-- **A broken store changes nothing.**  Take a store of which every look-up fails or finds nothing,
and which may answer to everything else as it likes.  In every run over it all loads are as they are
in the same run without a cache, with the same answers for their callers; loaders are called in the
same order with the same ids; and every slot has the same fetch count and phase.  At any time the
runtime can take a key out of the store or clear it: this leaves the sessions alone, whatever the
store says to it, and the key counts as taken out exactly if the store says so. -/
theorem bypassed [Typed V] (rt : Runtime σ V) (hs : rt.store.Silent) (c : σ)
    (es : List (Event V)) :
    let w := (start (some c)).run rt es
    let w' := (start none).run rt es
    w.loads = w'.loads ∧ (∀ n, w.result? n = w'.result? n) ∧
    (start (some c)).called rt es = (start none).called rt es ∧
    (∀ s, w.fetchCount s = w'.fetchCount s ∧ w.phase s = w'.phase s) ∧
    (∀ k, (w.invalidate rt k).2.forget = w.forget ∧ ((w.invalidate rt k).1 = true ↔
      ∃ c', w.cache = some c' ∧ (rt.store.invalidate c' k).1 = .ok true)) ∧
    (w.shutdown rt).forget = w.forget := by
  intro w w'
  have hstart : (start (some c) : World σ V).forget = (start none).forget := rfl
  obtain ⟨_, _, _, hw⟩ := exists_eq_setCache_of_forget_eq (run_forget hs hstart es)
  have hloads : w.loads = w'.loads := (congrArg loads hw).symm
  have hqueue (s : Slot) : w.queue s = w'.queue s := (congrArg (queue · s) hw).symm
  refine ⟨hloads, fun n => ?_, called_eq_of_forget_eq hs hstart es, fun s => ?_,
    fun k => ⟨forget_invalidate w k, ?_⟩, forget_shutdown w⟩
  · rw [result?, result?, hloads]
  · rw [fetchCount, fetchCount, phase, phase, hqueue]
    exact ⟨rfl, rfl⟩
  · unfold invalidate
    split
    · next hnone => simp [hnone]
    · next c' hc' =>
      cases hr : (rt.store.invalidate c' k).1 with
      | ok b => simp [hc', hr]
      | error e => simp [hc', hr]

/-- A store that counts how often it is used: every other look-up fails, and the others find
nothing; it says that nothing can be put into it and that everything has been taken out of it. -/
def moody : CacheStore Nat Nat where
  get n _ _ := (if n % 2 = 0 then .error (.unavailable "busy") else .ok none, n + 1)
  put n _ _ _ := (.error (.unavailable "full"), n + 1)
  invalidate n _ := (if n % 2 = 0 then .ok true else .error (.unavailable "busy"), n + 1)
  clear n := (.error (.unavailable "busy"), n + 1)
  size n := n

/-- Two sessions load the same id over a store that is out of order; it is fetched for each of
them. -/
theorem bypassed_moody :
    let rt : Runtime Nat Nat := ⟨usersOnly.loaders, 2, moody⟩
    let found : Batch Nat := .ok fun id => if id = 7 then some (.ok 70) else none
    let es : List (Event Nat) := [.beginLoad users 7 "Nat", .poll 0, .poll 0, .fetched 0 0 found,
      .poll 0, .invalidate ⟨"users", 7⟩, .shutdown, .beginLoad ⟨1, "users"⟩ 7 "Nat", .poll 1,
      .poll 1]
    let w := (start (some 0)).run rt es
    rt.store.Silent ∧ w.result? 0 = some (.ok (some 70)) ∧
      (start (some 0)).called rt es = [⟨users, [7]⟩, ⟨⟨1, "users"⟩, [7]⟩] ∧
      w.phase ⟨1, "users"⟩ = .dispatching ∧ (w.invalidate rt ⟨"users", 7⟩).1 = false := by
  intro rt found es w
  have hs : rt.store.Silent := by
    intro n k now
    by_cases hn : n % 2 = 0
    · exact .inl ⟨_, if_pos hn⟩
    · exact .inr (if_neg hn)
  obtain ⟨-, hresult, hcalled, hslot, hinvalidate, -⟩ := bypassed rt hs 0 es
  refine ⟨hs, (hresult 0).trans (by decide), hcalled.trans (by decide),
    (hslot ⟨1, "users"⟩).2.trans (by decide), ?_⟩
  rw [← Bool.not_eq_true, (hinvalidate ⟨"users", 7⟩).2]
  rintro ⟨c', hc', hok⟩
  have hcache : w.cache = some 5 := by decide
  obtain rfl : 5 = c' := Option.some.inj (hcache.symm.trans hc')
  cases hok

end World

end GraphLayer.Batching
