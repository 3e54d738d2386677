import GraphLayer.Proofs.Batching.Collectors
import GraphLayer.Proofs.Batching.Outcomes
import GraphLayer.Proofs.Batching.Withdrawal

/-!
# Loads whose callers go away

* `World.Inherited`: what a spawned dispatch makes of the window of a dropped owner;
* `World.LostWith` and `World.lost_iff`: the loads of a dispatch that was lost, and when a dispatch
  is lost;
* `World.abandoned_iff`: when a load is told that it was abandoned;
* `World.opens_window`: a load that finds no undrained window opens a fresh one;
* `World.cancellation_safety`, all of this for every run in the scheduler.
-/

namespace GraphLayer.Batching

variable {σ V : Type}

namespace World

variable {rt : Runtime σ V} {w w' : World σ V}

/-! ### Dropping the owner of an undrained window -/

/-- The window of a slot in `w` belongs to the spawned dispatch `d` from `w₁` on, and after the
events `fs` the dispatch has still to drain it, or it has drained those who waited in `w` and those
who joined before it was polled for the first time. -/
def Inherited (rt : Runtime σ V) (w w₁ : World σ V) (s : Slot) (d : Nat) (fs : List (Event V))
    (dd : Dispatch V) : Prop :=
  (dd.stage = .spawned ∧ ∀ id,
    (w₁.run rt fs).waiting s id = w.waiting s id ++ joinersOf (w₁.joined rt fs) s id) ∨
  (∃ fs₁ fs₂, fs = fs₁ ++ .pollDispatch d :: fs₂ ∧
    (∀ id, waitersOf dd.batch id = w.waiting s id ++ joinersOf (w₁.joined rt fs₁) s id) ∧
    (dd.stage.isFetching = true ∨ dd.stage = .done))

theorem step_drop_of_collecting (rt : Runtime σ V) {m : Nat} {l : Load V}
    (hl : w.loads[m]? = some l) (hc : l.progress.isCollecting = true) :
    w.step rt (.drop m) = w.handOver l.slot m := by
  obtain ⟨s, id, x, p⟩ := l
  cases p with
  | collecting y seen =>
    simp only [step, drop, hl]
    rfl
  | _ => cases hc

/-- **An owner is dropped before it drains.**  A spawned dispatch inherits the window. -/
theorem inherited_of_drop (hw : Placed rt w) (ho : Once w) (ha : Attended w) {m : Nat} {l : Load V}
    (hl : w.loads[m]? = some l) (hc : l.progress.isCollecting = true) (fs : List (Event V)) :
    ∃ dd : Dispatch V,
      ((w.step rt (.drop m)).run rt fs).dispatches[w.dispatches.length]? = some dd ∧
      dd.slot = l.slot ∧ dd.owned = false ∧
      Inherited rt w (w.step rt (.drop m)) l.slot w.dispatches.length fs dd := by
  have hw₁ := hw.step (.drop m)
  have ho₁ := ho.step hw (.drop m)
  have ha₁ := ha.step hw ho (.drop m)
  have hstep := step_drop_of_collecting rt hl hc
  have hspawned : (w.step rt (.drop m)).SpawnedFor l.slot w.dispatches.length := by
    rw [hstep]
    exact ⟨_, by rw [dispatches_handOver, List.getElem?_concat_length], rfl, rfl⟩
  have hwaiting (id : Int) : (w.step rt (.drop m)).waiting l.slot id = w.waiting l.slot id := by
    rw [hstep]
    rfl
  -- Up to its first poll the dispatch leaves the window alone, and from then on it keeps what it
  -- has taken; so the run is cut at that poll.
  by_cases hpolled : .pollDispatch w.dispatches.length ∈ fs
  · obtain ⟨fs₁, fs₂, rfl, hfs₁⟩ := List.eq_append_cons_of_mem hpolled
    obtain ⟨⟨dd, hd, hs, hst⟩, hwindow⟩ := spawned_run hw₁ ho₁ ha₁ hspawned hfs₁
    have hw₂ := hw₁.run fs₁
    have ho₂ := ho₁.run hw₁ fs₁
    have ha₂ := ha₁.run hw₁ ho₁ fs₁
    have hdrained := dispatch_of_drainSpawned rt hd hst
    have hunowned := (hw₂.spawned _ dd hd hst).2
    obtain ⟨d', hd', hs', howned', hbatch', hst'⟩ :=
      drained_run (hw₂.step (.pollDispatch w.dispatches.length)) (ho₂.step hw₂ _)
        (ha₂.step hw₂ ho₂ _) hdrained (.inl rfl) (by rw [hunowned]; nofun)
    refine ⟨d', by rw [run_append]; exact hd', hs'.trans hs, howned'.trans hunowned, .inr ?_⟩
    refine ⟨fs₁, fs₂, rfl, ?_, hst'⟩
    intro id
    rw [hbatch', ← hwaiting id, ← hwindow id, ← hs]
    rfl
  · obtain ⟨⟨dd, hd, hs, hst⟩, hwindow⟩ := spawned_run hw₁ ho₁ ha₁ hspawned hpolled
    refine ⟨dd, hd, hs, ((hw₁.run fs).spawned _ dd hd hst).2, .inl ⟨hst, fun id => ?_⟩⟩
    rw [hwindow id, hwaiting id]

/-- A load whose dispatch has completed has the outcome of its id, if its caller is there. -/
theorem answered_of_done (rt : Runtime σ V) (cache : Option σ) (es : List (Event V)) {d n : Nat}
    {dd : Dispatch V} {id : Int} {l : Load V}
    (hd : ((start cache).run rt es).dispatches[d]? = some dd) (hst : dd.stage = .done)
    (hn : n ∈ waitersOf dd.batch id) (hl : ((start cache).run rt es).loads[n]? = some l)
    (hp : l.progress ≠ .dropped) :
    ∃ o, Served rt ((start cache).served rt es) d dd id o ∧ l.progress = .answered o := by
  obtain ⟨o, ho, hgiven⟩ := (traced_run rt cache es).done d dd id n hd hst hn
  obtain ⟨k, hk, hkp⟩ := (recorded_run rt cache es).kept n o hgiven
  obtain rfl : k = l := Option.some.inj (hk.symm.trans hl)
  exact ⟨o, ho, hkp.resolve_right hp⟩

/-! ### Dropping the owner of a dispatch -/

/-- A load waited for an id in a dispatch of the slot that was lost. -/
def LostWith (w : World σ V) (d : Nat) (s : Slot) (id : Int) (n : Nat) : Prop :=
  ∃ dd : Dispatch V, w.dispatches[d]? = some dd ∧ dd.slot = s ∧ dd.stage = .lost ∧
    n ∈ waitersOf dd.batch id

/-- A load waited for an id in a dispatch of the slot that has completed, for which the backing
service has given the outcome. -/
def ServedWith (rt : Runtime σ V) (log : List (Serving V)) (w : World σ V) (d : Nat) (s : Slot)
    (id : Int) (n : Nat) (o : Outcome V) : Prop :=
  ∃ dd : Dispatch V, w.dispatches[d]? = some dd ∧ dd.slot = s ∧ dd.stage = .done ∧
    n ∈ waitersOf dd.batch id ∧ Served rt log d dd id o

/-- In the course of some events the owner `m` of the dispatch `d` is dropped while the dispatch
fetches. -/
def DroppedFetching (rt : Runtime σ V) (w : World σ V) (es : List (Event V)) (d m : Nat) : Prop :=
  ∃ (es₁ es₂ : List (Event V)) (l : Load V) (dd : Dispatch V), es = es₁ ++ .drop m :: es₂ ∧
    (w.run rt es₁).loads[m]? = some l ∧ l.progress = .dispatching d ∧
    (w.run rt es₁).dispatches[d]? = some dd ∧ dd.stage.isFetching = true

theorem dispatch_of_drop (rt : Runtime σ V) {m d : Nat} {l : Load V} {dd : Dispatch V}
    (hl : w.loads[m]? = some l) (hp : l.progress = .dispatching d)
    (hd : w.dispatches[d]? = some dd) (hst : dd.stage.isFetching = true) :
    (w.step rt (.drop m)).dispatches[d]? = some { dd with stage := .lost } := by
  obtain ⟨s, id, x, p⟩ := l
  subst hp
  obtain ⟨t, o, b, st⟩ := dd
  cases st with
  | fetching rs =>
    have hd' : (w.setProgress m .dropped).dispatches[d]? = some ⟨t, o, b, .fetching rs⟩ := hd
    simp only [step, drop, hl, loseDispatch_eq hd']
    rw [dispatches_finish, List.getElem?_modify_eq, hd']
    rfl
  | _ => cases hst

theorem droppedFetching_of_lost (rt : Runtime σ V) (cache : Option σ) {es : List (Event V)}
    (hlive : ∀ e ∈ es, e.IsLive) {d : Nat} {dd : Dispatch V}
    (hd : ((start cache).run rt es).dispatches[d]? = some dd) (hst : dd.stage = .lost) :
    ∃ m, DroppedFetching rt (start cache) es d m := by
  induction es using List.reverseRecOn generalizing dd with
  | nil => cases hd
  | append_singleton es e ih =>
    have hlive' (x : Event V) (hx : x ∈ es) : x.IsLive := hlive x (List.mem_append_left _ hx)
    have he : e.IsLive := hlive e (List.mem_append_right _ (List.mem_singleton_self e))
    obtain ⟨w', c, t, a, hm, h⟩ := exists_move rt ((start cache).run rt es) e
    rw [run_concat, h] at hd
    rcases hm.dispatch_cases hd with ⟨d₀, hd₀⟩ | ⟨-, n, l, -, -, rfl | rfl⟩
    · obtain ⟨d₁, hd₁, hstep⟩ := hm.dispatch_step hd₀
      obtain rfl : d₁ = dd := Option.some.inj (hd₁.symm.trans hd)
      cases hstep with
      | stay =>
        obtain ⟨m, es₁, es₂, l, dd, rfl, hl, hp, hdd, hf⟩ := ih hlive' hd₀ hst
        exact ⟨m, es₁, es₂ ++ [e], l, dd, by simp, hl, hp, hdd, hf⟩
      | drain => cases hst
      | fetched => cases hst
      | complete => cases hst
      | lose hf =>
        obtain ⟨m, l, hdrop, hl, hp⟩ := hm.of_lost hd₀ hf hd₁ rfl
        rcases hdrop with rfl | rfl
        · exact ⟨m, es, [], l, d₀, rfl, hl, hp, hd₀, by rw [hf]; rfl⟩
        · exact he.elim
    · cases hst
    · cases hst

/-- **When a dispatch is lost:** its owner is dropped while it fetches. -/
theorem lost_iff (rt : Runtime σ V) (cache : Option σ) {es : List (Event V)}
    (hlive : ∀ e ∈ es, e.IsLive) (d : Nat) :
    (∃ dd : Dispatch V, ((start cache).run rt es).dispatches[d]? = some dd ∧ dd.stage = .lost) ↔
      ∃ m, DroppedFetching rt (start cache) es d m := by
  constructor
  · rintro ⟨dd, hd, hst⟩
    exact droppedFetching_of_lost rt cache hlive hd hst
  · rintro ⟨m, es₁, es₂, l, dd, rfl, hl, hp, hd, hf⟩
    rw [run_append, run_cons]
    exact ⟨_, dispatch_of_ended_run rt es₂ (dispatch_of_drop rt hl hp hd hf) (.inr rfl), rfl⟩

/-- Whoever waited for a dispatch that was lost is told so, if the caller is there. -/
theorem abandoned_of_lostWith (rt : Runtime σ V) (cache : Option σ) (es : List (Event V))
    {d n : Nat} {s : Slot} {id : Int} {l : Load V}
    (hlost : ((start cache).run rt es).LostWith d s id n)
    (hl : ((start cache).run rt es).loads[n]? = some l) (hp : l.progress ≠ .dropped) :
    l.progress = .answered (.error (.abandoned s.key)) := by
  obtain ⟨dd, hd, rfl, hst, hn⟩ := hlost
  have hgiven := (traced_run rt cache es).lost d dd n hd hst (mem_flatMap_of_mem_waitersOf hn)
  obtain ⟨k, hk, hkp⟩ := (recorded_run rt cache es).kept n _ hgiven
  obtain rfl : k = l := Option.some.inj (hk.symm.trans hl)
  exact hkp.resolve_right hp

/-- A load that has joined a window and got an outcome waited for a dispatch of its slot, which was
lost, or completed and had that outcome for the id. -/
theorem source_of_answered (rt : Runtime σ V) (cache : Option σ) {es : List (Event V)}
    (hlive : ∀ e ∈ es, e.IsLive) {n : Nat} {s : Slot} {id : Int} {l : Load V} {o : Outcome V}
    (hj : ⟨n, s, id⟩ ∈ (start cache).joined rt es)
    (hl : ((start cache).run rt es).loads[n]? = some l) (hp : l.progress = .answered o) :
    (∃ d, ((start cache).run rt es).LostWith d s id n) ∨
    ∃ d, ((start cache).run rt es).ServedWith rt ((start cache).served rt es) d s id n o := by
  have hr := recorded_run rt cache es
  have hgiven := hr.handed_of_answered hj hl hp
  obtain ⟨d, dd, hd, hmem, hst⟩ :=
    exists_dispatch_of_handed rt cache hlive (List.mem_map_of_mem hgiven)
  have hfiled := (placed_run rt cache es).batch d dd hd
  obtain ⟨id', hn⟩ := (mem_flatMap_snd_iff hfiled.nodup_keys).1 hmem
  obtain ⟨k, hk, hs, rfl⟩ := hfiled.load_of_mem_waitersOf hn
  obtain ⟨k', hk', rfl, rfl⟩ := hr.load _ hj
  obtain rfl : k = l := Option.some.inj (hk.symm.trans hl)
  obtain rfl : k' = k := Option.some.inj (hk'.symm.trans hl)
  rcases hst with hst | hst
  · obtain ⟨o', ho', hgiven'⟩ := (traced_run rt cache es).done d dd _ n hd hst hn
    obtain rfl := eq_of_mem_of_nodup (handedBy_nodup rt cache es) hgiven hgiven'
    exact .inr ⟨d, dd, hd, hs.symm, hst, hn, ho'⟩
  · exact .inl ⟨d, dd, hd, hs.symm, hst, hn⟩

/-- **When a load is told that it was abandoned:** its dispatch is lost, or the backing service has
itself given this for the id. -/
theorem abandoned_iff (rt : Runtime σ V) (cache : Option σ) {es : List (Event V)}
    (hlive : ∀ e ∈ es, e.IsLive) {n : Nat} {s : Slot} {id : Int} {l : Load V}
    (hj : ⟨n, s, id⟩ ∈ (start cache).joined rt es)
    (hl : ((start cache).run rt es).loads[n]? = some l) (hp : l.progress ≠ .dropped) :
    l.progress = .answered (.error (.abandoned s.key)) ↔
      (∃ d, ((start cache).run rt es).LostWith d s id n) ∨
      ∃ d, ((start cache).run rt es).ServedWith rt ((start cache).served rt es) d s id n
        (.error (.abandoned s.key)) := by
  constructor
  · exact source_of_answered rt cache hlive hj hl
  · rintro (⟨d, hlost⟩ | ⟨d, dd, hd, rfl, hst, hn, hserved⟩)
    · exact abandoned_of_lostWith rt cache es hlost hl hp
    · obtain ⟨o, ho, hanswered⟩ := answered_of_done rt cache es hd hst hn hl hp
      rw [hanswered, ho.unique hd hserved]

/-! ### The next load -/

/-- A load that finds no undrained window opens a fresh one, in which it waits alone. -/
theorem opens_window (ha : Attended w) {s : Slot} (hnone : w.holders s = 0) (id : Int)
    (expected : String) (hk : rt.loaders.contains s.key = true)
    (hmiss : (w.lookup rt ⟨s.key, id⟩).1 = none) :
    (w.step rt (.beginLoad s id expected)).OwnedBy s w.loads.length 0 ∧
      ((w.step rt (.beginLoad s id expected)).queue s).pending.toList =
        [(id, [w.loads.length])] := by
  have hclosed : (w.queue s).scheduled = false := by
    have hh := ha.holders s
    rw [hnone] at hh
    by_contra hopen
    rw [if_pos (Bool.of_not_eq_false hopen)] at hh
    cases hh
  obtain ⟨hl, hpending, -⟩ := opened ha hclosed expected hk hmiss
  exact ⟨⟨_, _, hl, rfl, rfl⟩, hpending⟩

/-! ### All together -/

/-- **Cancellation is safe**, in every state of every run in the scheduler.

* To drop a load that owns nothing changes neither what is fetched nor any other load, whatever
  happens afterwards.
* A window whose owner is dropped belongs to a spawned dispatch.  Until that is polled it holds
  those who waited and those who have joined since; then it fetches exactly their ids, the one of
  the owner among them, and once it has completed each of them whose caller is there has the outcome
  of the id.  It needs nobody to complete but the service.
* A load is told that it was abandoned if and only if its dispatch is lost, or has completed and
  the backing service itself has given this error for its id; and where a dispatch is lost, each
  waiter whose caller is there is told so.
* A dispatch is lost when its owner is dropped while it fetches.
* A load that is not answered from the cache and finds no undrained window opens a fresh one. -/
theorem cancellation_safety (rt : Runtime σ V) (cache : Option σ) (es : List (Event V))
    (hlive : ∀ e ∈ es, e.IsLive) :
    let w := (start cache).run rt es
    (∀ n, w.Passive n → ∀ fs,
      ((w.step rt (.drop n)).run rt fs).dispatches = (w.run rt fs).dispatches ∧
      ∀ m, m ≠ n → ((w.step rt (.drop n)).run rt fs).loads[m]? = (w.run rt fs).loads[m]?) ∧
    (∀ (m : Nat) (l : Load V) (fs : List (Event V)), w.loads[m]? = some l →
      l.progress.isCollecting = true →
      let w₁ := w.step rt (.drop m)
      let w₂ := w₁.run rt fs
      ∃ dd : Dispatch V, w₂.dispatches[w.dispatches.length]? = some dd ∧ dd.slot = l.slot ∧
        Inherited rt w w₁ l.slot w.dispatches.length fs dd ∧
        (∀ id, id ∈ (dd.calls rt.maxBatchSize).flatten ↔ waitersOf dd.batch id ≠ []) ∧
        m ∈ w.waiting l.slot l.id ∧
        (dd.stage = .done → ∀ (id : Int) (n : Nat) (k : Load V), n ∈ waitersOf dd.batch id →
          w₂.loads[n]? = some k → k.progress ≠ .dropped →
          ∃ o, Served rt ((start cache).served rt (es ++ .drop m :: fs)) w.dispatches.length dd id
            o ∧ k.progress = .answered o) ∧
        ∀ r : Nat → Batch V, ∃ gs : List (Event V),
          (∀ e ∈ gs, e = .pollDispatch w.dispatches.length ∨
            ∃ c, e = .fetched w.dispatches.length c (r c)) ∧
          ∃ dd' : Dispatch V, (w₂.run rt gs).dispatches[w.dispatches.length]? = some dd' ∧
            dd'.stage = .done) ∧
    (∀ (n : Nat) (s : Slot) (id : Int) (l : Load V), ⟨n, s, id⟩ ∈ (start cache).joined rt es →
      w.loads[n]? = some l → l.progress ≠ .dropped →
      (l.progress = .answered (.error (.abandoned s.key)) ↔ (∃ d, w.LostWith d s id n) ∨
        ∃ d, w.ServedWith rt ((start cache).served rt es) d s id n
          (.error (.abandoned s.key)))) ∧
    (∀ (d n : Nat) (s : Slot) (id : Int) (l : Load V), w.LostWith d s id n →
      w.loads[n]? = some l → l.progress ≠ .dropped →
      l.progress = .answered (.error (.abandoned s.key))) ∧
    (∀ d, (∃ dd : Dispatch V, w.dispatches[d]? = some dd ∧ dd.stage = .lost) ↔
      ∃ m, DroppedFetching rt (start cache) es d m) ∧
    ∀ (s : Slot) (id : Int) (expected : String), w.holders s = 0 →
      rt.loaders.contains s.key = true → (w.lookup rt ⟨s.key, id⟩).1 = none →
      (w.step rt (.beginLoad s id expected)).OwnedBy s w.loads.length 0 ∧
      ((w.step rt (.beginLoad s id expected)).queue s).pending.toList =
        [(id, [w.loads.length])] := by
  intro w
  have hw : Placed rt w := placed_run rt cache es
  have ho : Once w := once_run rt cache es
  have ha : Attended w := attended_run rt cache es
  refine ⟨fun n hn fs => run_drop_of_passive rt hn fs, ?_,
    fun n s id l hj hl hp => abandoned_iff rt cache hlive hj hl hp,
    fun d n s id l hlost hl hp => abandoned_of_lostWith rt cache es hlost hl hp,
    lost_iff rt cache hlive, ?_⟩
  · intro m l fs hl hc w₁ w₂
    obtain ⟨dd, hd, hs, howned, hinherited⟩ := inherited_of_drop hw ho ha hl hc fs
    have hrun : (start cache).run rt (es ++ .drop m :: fs) = w₂ := run_append ..
    have hlost : dd.stage ≠ .lost := by
      rcases hinherited with ⟨hst, -⟩ | ⟨-, -, -, -, hst | hst⟩
      · rw [hst]
        nofun
      · intro he
        rw [he] at hst
        cases hst
      · rw [hst]
        nofun
    have hplaced : Placed rt w₂ := hrun ▸ placed_run rt cache (es ++ .drop m :: fs)
    refine ⟨dd, hd, hs, hinherited, hplaced.mem_calls_iff hd, ha.owner m l hl hc, ?_,
      fun r => exists_completion rt r hd howned hlost⟩
    intro hst id n k hn hk hp
    rw [← hrun] at hk
    exact answered_of_done rt cache _ (by rw [hrun]; exact hd) hst hn hk hp
  · intro s id expected hnone hk hmiss
    exact opens_window ha hnone id expected hk hmiss

/-- Of two loads of a window, the waiting one may go and the same ids are fetched; or the owner may
go, and a spawned dispatch fetches both ids and answers the other; or the owner may go while it
fetches, and the other is told so. -/
theorem cancellation_safety_of_two :
    let found : Batch Nat := .ok fun id => if id = 7 then some (.ok 70) else none
    let es : List (Event Nat) := [.beginLoad users 5 "Nat", .beginLoad users 7 "Nat"]
    let fs : List (Event Nat) := [.pollDispatch 0, .fetched 0 0 found, .pollDispatch 0]
    let w := (start none).run usersOnly es
    (∀ e ∈ es, e.IsLive) ∧ w.Passive 1 ∧
    ((w.step usersOnly (.drop 1)).run usersOnly fs).dispatches = (w.run usersOnly fs).dispatches ∧
    ∃ (dd : Dispatch Nat) (k : Load Nat) (o : Outcome Nat),
      ((w.step usersOnly (.drop 0)).run usersOnly fs).dispatches[0]? = some dd ∧ dd.stage = .done ∧
      5 ∈ (dd.calls usersOnly.maxBatchSize).flatten ∧
      ((w.step usersOnly (.drop 0)).run usersOnly fs).loads[1]? = some k ∧
      k.progress = .answered o ∧
      Served usersOnly ((start none).served usersOnly (es ++ .drop 0 :: fs)) 0 dd 7 o ∧
    ∃ k' : Load Nat,
      ((start none).run usersOnly (es ++ [.poll 0, .poll 0, .drop 0])).loads[1]? = some k' ∧
      k'.progress = .answered (.error (.abandoned "users")) := by
  intro found es fs w
  have hlive : ∀ e ∈ es, e.IsLive := by simp [es, Event.IsLive]
  have hpassive : w.Passive 1 := ⟨_, rfl, rfl⟩
  obtain ⟨hwaiting, howner, -⟩ := cancellation_safety usersOnly none es hlive
  obtain ⟨dd, hd, -, -, hcalls, -, hanswers, -⟩ := howner 0 _ fs rfl rfl
  obtain rfl := Option.some.inj hd
  obtain ⟨o, hserved, ho⟩ := hanswers rfl 7 1 _ (by decide) rfl nofun
  obtain ⟨-, -, habandoned, -⟩ := cancellation_safety usersOnly none
    (es ++ [.poll 0, .poll 0, .drop 0]) (by simp [es, Event.IsLive])
  have hlost : ((start none).run usersOnly (es ++ [.poll 0, .poll 0, .drop 0])).LostWith 0 users 7
      1 := ⟨_, rfl, rfl, rfl, by decide⟩
  exact ⟨hlive, hpassive, (hwaiting 1 hpassive fs).1, _, _, o, rfl, rfl,
    (hcalls 5).2 (by decide), rfl, ho, hserved, _, rfl,
    (habandoned 1 users 7 _ (by decide) rfl nofun).2 (.inl ⟨0, hlost⟩)⟩

/-- Without any loss a load is told that it was abandoned, where the backing service says so; and
after a drop a load whose value is cached finds no undrained window and opens none. -/
theorem abandoned_without_loss :
    let gone : Batch Nat := .error (.abandoned "users")
    let es : List (Event Nat) := [.beginLoad users 5 "Nat", .poll 0, .poll 0, .fetched 0 0 gone,
      .poll 0]
    let w := (start none).run usersOnly es
    let found : Batch Nat := .ok fun id => if id = 5 then some (.ok 50) else none
    let rt : Runtime (Lru CacheKey Nat) Nat := ⟨usersOnly.loaders, 2, .lru Nat⟩
    let fs : List (Event Nat) := [.beginLoad users 5 "Nat", .poll 0, .poll 0, .fetched 0 0 found,
      .poll 0, .beginLoad users 7 "Nat", .drop 1, .pollDispatch 1, .fetched 1 0 found,
      .pollDispatch 1]
    let v := (start (some { maxSize := 4, ttl := 10 })).run rt fs
    ((∀ e ∈ es, e.IsLive) ∧ (∀ n, .drop n ∉ es) ∧ (∀ d s id n, ¬ w.LostWith d s id n) ∧
      ∃ l : Load Nat, w.loads[0]? = some l ∧
        l.progress = .answered (.error (.abandoned "users"))) ∧
    (∀ e ∈ fs, e.IsLive) ∧ rt.loaders.contains "users" = true ∧ v.holders users = 0 ∧
      (v.step rt (.beginLoad users 5 "Nat")).holders users = 0 ∧
      (v.step rt (.beginLoad users 5 "Nat")).result? 2 = some (.ok (some 50)) := by
  intro gone es w found rt fs v
  have hlost (d : Nat) (s : Slot) (id : Int) (n : Nat) : ¬ w.LostWith d s id n := by
    rintro ⟨dd, hd, -, hst, -⟩
    cases d with
    | zero =>
      rw [← Option.some.inj hd] at hst
      cases hst
    | succ d => cases hd
  refine ⟨⟨by simp [es, Event.IsLive], by simp [es], hlost, _, rfl, rfl⟩, ?_, rfl, by decide,
    by decide, by decide⟩
  simp [fs, Event.IsLive]

end World

end GraphLayer.Batching
