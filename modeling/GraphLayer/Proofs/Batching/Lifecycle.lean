import GraphLayer.Proofs.Batching.Placement

/-!
# The life of loads and dispatches

* `Progress.Step` and `Dispatch.Step`, what one step can make of a load and of a dispatch;
* `World.Move.load_step`: a load of the next world has just come, or is an old one after such a
  step;
* `World.Move.of_landing` and `World.Move.of_lost`: a dispatch stops fetching when it is answered or
  its owner is dropped;
* `World.Move.dispatch_step` and `World.Move.dispatch_cases`: dispatches keep their places, and a
  new one has just drained its window or was spawned for it.
-/

namespace GraphLayer.Batching

variable {σ V : Type}

/-! ### Loads -/

/-- Whether a load owns an open window. -/
def Progress.isCollecting : Progress V → Bool
  | .collecting _ _ => true
  | _ => false

/-- Whether the fetches of a dispatch are outstanding. -/
def Stage.isFetching : Stage V → Bool
  | .fetching _ => true
  | _ => false

/-- Whether a caller still waits for its answer. -/
def Progress.isOpen : Progress V → Bool
  | .collecting _ _ | .dispatching _ | .waiting => true
  | .answered _ | .dropped => false

/-- The ways in which one step changes the progress of a load, where `drained d` says that the load
drains its window in the dispatch `d`, and `given o` that it is handed the outcome `o`. -/
inductive Progress.Step (drained : Nat → Prop) (given : Outcome V → Prop) :
    Progress V → Progress V → Prop
  | stay (p : Progress V) : Step drained given p p
  | wait {y seen : Nat} (hy : y + 1 ≠ maxYields) (seen' : Nat) :
    Step drained given (.collecting y seen) (.collecting (y + 1) seen')
  | drain (y seen : Nat) {d : Nat} (hd : drained d) :
    Step drained given (.collecting y seen) (.dispatching d)
  | leave {p : Progress V} (hp : p.isOpen = true) : Step drained given p .dropped
  | receive {p : Progress V} {o : Outcome V} (hp : p ≠ .dropped) (ho : given o) :
    Step drained given p (.answered o)

/-- An owner of an open window has been its owner before. -/
theorem Progress.Step.isCollecting {drained : Nat → Prop} {given : Outcome V → Prop}
    {p p' : Progress V} (h : p.Step drained given p') (hp : p'.isCollecting = true) :
    p.isCollecting = true := by
  cases h with
  | stay => exact hp
  | wait => rfl
  | drain => cases hp
  | leave => cases hp
  | receive => cases hp

/-! ### Dispatches -/

/-- The ways in which one step changes a dispatch, where `window` is the open window of its slot,
`fetched c r` says that `r` is answered for its chunk `c`, and `hs` are the outcomes that the step
hands out. -/
inductive Dispatch.Step (rt : Runtime σ V) (window : List (Int × List Nat))
    (fetched : Nat → Batch V → Prop) (hs : List (Nat × Outcome V)) : Dispatch V → Dispatch V → Prop
  | stay (d : Dispatch V) : Step rt window fetched hs d d
  | drain {d : Dispatch V} (hst : d.stage = .spawned) :
    Step rt window fetched hs d { d with batch := window, stage := World.unanswered rt window }
  | fetched {d : Dispatch V} {rs : List (Option (Batch V))} (hst : d.stage = .fetching rs)
    {c : Nat} {r : Batch V} (hr : fetched c r) :
    Step rt window fetched hs d
      { d with stage := .fetching (rs.modify c fun a => some (a.getD r)) }
  | complete {d : Dispatch V} {results : List (Batch V)}
    (hst : d.stage = .fetching (results.map some))
    (hhs : hs = World.handouts d.batch (World.outcomesOf rt d.batch results)) :
    Step rt window fetched hs d { d with stage := .done }
  | lose {d : Dispatch V} {rs : List (Option (Batch V))} (hst : d.stage = .fetching rs)
    (hhs : hs = World.abandonments d.slot (d.batch.flatMap Prod.snd)) :
    Step rt window fetched hs d { d with stage := .lost }

theorem Dispatch.Step.slot {rt : Runtime σ V} {window : List (Int × List Nat)}
    {fetched : Nat → Batch V → Prop} {hs : List (Nat × Outcome V)} {d d' : Dispatch V}
    (h : d.Step rt window fetched hs d') :
    d'.slot = d.slot := by
  cases h <;> rfl

theorem Dispatch.Step.owned {rt : Runtime σ V} {window : List (Int × List Nat)}
    {fetched : Nat → Batch V → Prop} {hs : List (Nat × Outcome V)} {d d' : Dispatch V}
    (h : d.Step rt window fetched hs d') :
    d'.owned = d.owned := by
  cases h <;> rfl

namespace World

/-- The owner of a window drains it in the next dispatch. -/
def DrainedInto (rt : Runtime σ V) (w w' : World σ V) (s : Slot) (n d : Nat) : Prop :=
  d = w.dispatches.length ∧ w' = w.drainOwned rt s n

namespace Move

variable {rt : Runtime σ V} {w w' : World σ V} {e : Event V} {as : List Joining}
  {hs : List (Nat × Outcome V)}

/-- What becomes of the loads when the progress of one is replaced and outcomes are handed out. -/
theorem load_step_setProgress {n m : Nat} {l l' : Load V} {p : Progress V}
    (hl : w.loads[n]? = some l)
    (hp : l.progress.Step (DrainedInto rt w w' l.slot n) (fun o => (n, o) ∈ hs) p)
    (hd : p = .dropped ∨ hs = [])
    (h : (receiveAll (w.setProgress n p).loads hs)[m]? = some l') :
    ∃ k : Load V, w.loads[m]? = some k ∧ l'.slot = k.slot ∧ l'.id = k.id ∧
      l'.expected = k.expected ∧
      k.progress.Step (DrainedInto rt w w' k.slot m) (fun o => (m, o) ∈ hs) l'.progress := by
  obtain ⟨k₁, hk₁, hs₁, hi₁, he₁, hp₁⟩ := getElem?_receiveAll_cases h
  obtain ⟨k, hk, rfl⟩ := List.exists_of_getElem?_modify hk₁
  refine ⟨k, hk, ?_⟩
  by_cases hnm : n = m
  · subst hnm
    obtain rfl : k = l := Option.some.inj (hk.symm.trans hl)
    simp only [if_pos] at hs₁ hi₁ he₁ hp₁
    refine ⟨hs₁, hi₁, he₁, ?_⟩
    rcases hp₁ with hp₁ | ⟨hnd, o, ho, -⟩
    · rwa [hp₁]
    · rcases hd with hd | hd
      · exact absurd hd hnd
      · rw [hd] at ho
        cases ho
  · simp only [if_neg hnm] at hs₁ hi₁ he₁ hp₁
    refine ⟨hs₁, hi₁, he₁, ?_⟩
    rcases hp₁ with hp₁ | ⟨hnd, o, ho, hp₁⟩
    · rw [hp₁]
      exact .stay _
    · rw [hp₁]
      exact .receive hnd ho

/-- **Where a load comes from.**  It has just begun, and joins a window or is answered at once, or
it was there and has made a step. -/
theorem load_step (h : Move rt w e as hs w') {n : Nat} {l' : Load V} (hl : w'.loads[n]? = some l') :
    (∃ l : Load V, w.loads[n]? = some l ∧ l'.slot = l.slot ∧ l'.id = l.id ∧
      l'.expected = l.expected ∧
      l.progress.Step (DrainedInto rt w w' l.slot n) (fun o => (n, o) ∈ hs) l'.progress) ∨
    n = w.loads.length ∧ (
      as = [] ∧ (∃ o, l'.progress = .answered o ∧ w.atOnce? rt l'.slot l'.id = some o) ∨
      as = [⟨n, l'.slot, l'.id⟩] ∧ l'.progress =
        if (w.queue l'.slot).scheduled then .waiting
        else .collecting 0 ((w.queue l'.slot).enqueued + 1)) := by
  have hold (hw : w.loads[n]? = some l') : ∃ l : Load V, w.loads[n]? = some l ∧ l'.slot = l.slot ∧
      l'.id = l.id ∧ l'.expected = l.expected ∧
      l.progress.Step (DrainedInto rt w w' l.slot n) (fun o => (n, o) ∈ hs) l'.progress :=
    ⟨l', hw, rfl, rfl, rfl, .stay _⟩
  cases h with
  | stay | drainSpawned | fetched => exact .inl (hold hl)
  | arrive l o hp ho =>
    rcases List.getElem?_concat_cases hl with hl | ⟨hn, rfl⟩
    · exact .inl (hold hl)
    · exact .inr ⟨hn, .inl ⟨rfl, o, hp, ho⟩⟩
  | join s id expected hk =>
    rcases List.getElem?_concat_cases hl with hl | ⟨hn, rfl⟩
    · exact .inl (hold hl)
    · subst hn
      exact .inr ⟨rfl, .inr ⟨rfl, rfl⟩⟩
  | @wait m k y seen hk hp hy seen' =>
    exact .inl (load_step_setProgress hk (hp ▸ .wait hy seen') (.inr rfl) hl)
  | @drainOwned m k y seen hk hp =>
    rw [loads_drainOwned] at hl
    exact .inl (load_step_setProgress hk (hp ▸ .drain y seen ⟨rfl, rfl⟩) (.inr rfl) hl)
  | complete =>
    obtain ⟨l, hl, hs', hi, he, hp⟩ := getElem?_receiveAll_cases hl
    refine .inl ⟨l, hl, hs', hi, he, ?_⟩
    rcases hp with hp | ⟨hnd, o, ho, hp⟩
    · rw [hp]
      exact .stay _
    · rw [hp]
      exact .receive hnd ho
  | @leave _ m k he hk hp =>
    have hopen : k.progress.isOpen = true := by
      rcases hp with hp | ⟨d, hp, -⟩ <;> rw [hp] <;> rfl
    exact .inl (load_step_setProgress hk (.leave hopen) (.inl rfl) hl)
  | @handOver m k y seen hk hp =>
    have hopen : k.progress.isOpen = true := by rw [hp]; rfl
    exact .inl (load_step_setProgress hk (.leave hopen) (.inl rfl) hl)
  | @lose _ m d k dd rs he hk hp hd hst =>
    have hopen : k.progress.isOpen = true := by rw [hp]; rfl
    exact .inl (load_step_setProgress hk (.leave hopen) (.inl rfl) hl)
  | @giveUp m k y seen hk hp =>
    have hopen : k.progress.isOpen = true := by rw [hp]; rfl
    exact .inl (load_step_setProgress hk (.leave hopen) (.inl rfl) hl)

/-- A load that was not there has begun in this step. -/
theorem event_of_begun (h : Move rt w e as hs w') {l' : Load V}
    (hl : w'.loads[w.loads.length]? = some l') : e = .beginLoad l'.slot l'.id l'.expected := by
  have hlen : w.loads.length < w'.loads.length := (List.getElem?_eq_some_iff.1 hl).1
  cases h with
  | arrive | join =>
    rcases List.getElem?_concat_cases hl with hl | ⟨-, rfl⟩
    · exact absurd (List.getElem?_eq_some_iff.1 hl).1 (Nat.lt_irrefl _)
    · rfl
  | stay | drainSpawned | fetched => exact absurd hlen (Nat.lt_irrefl _)
  | _ => simp [setProgress, World.handOver, loads_drainOwned, loads_finish, loads_giveUp] at hlen

/-- Whoever is handed an outcome has it, unless the caller is gone. -/
theorem progress_of_handed (h : Move rt w e as hs w') {n : Nat} {l' : Load V}
    (hn : n ∈ hs.map Prod.fst) (hl : w'.loads[n]? = some l') :
    l'.progress = .dropped ∨ ∃ o, (n, o) ∈ hs ∧ l'.progress = .answered o := by
  cases h with
  | complete | lose | giveUp => exact progress_receiveAll_of_mem hn hl
  | _ => cases hn

/-- A dispatch of which one field changes at one place. -/
theorem dispatch_step_modify {d i : Nat} {dd di : Dispatch V} {g : Dispatch V → Dispatch V}
    (hd : w.dispatches[d]? = some dd) (hi : w.dispatches[i]? = some di)
    (hg : dd.Step rt (w.queue dd.slot).pending.toList (fun c r => e = .fetched d c r) hs (g dd)) :
    ∃ di', (w.dispatches.modify d g)[i]? = some di' ∧
      di.Step rt (w.queue di.slot).pending.toList (fun c r => e = .fetched i c r) hs di' := by
  by_cases hdi : d = i
  · subst hdi
    obtain rfl : di = dd := Option.some.inj (hi.symm.trans hd)
    exact ⟨g di, by rw [List.getElem?_modify_eq, hi]; rfl, hg⟩
  · exact ⟨di, by rw [List.getElem?_modify_ne _ _ hdi, hi], .stay _⟩

/-- **What becomes of a dispatch.**  It keeps its place and makes a step. -/
theorem dispatch_step (h : Move rt w e as hs w') {i : Nat} {di : Dispatch V}
    (hi : w.dispatches[i]? = some di) :
    ∃ di', w'.dispatches[i]? = some di' ∧
      di.Step rt (w.queue di.slot).pending.toList (fun c r => e = .fetched i c r) hs di' := by
  have hlt : i < w.dispatches.length := (List.getElem?_eq_some_iff.1 hi).1
  cases h with
  | stay | arrive | join | wait | leave | giveUp => exact ⟨di, hi, .stay di⟩
  | drainOwned | handOver => exact ⟨di, (List.getElem?_append_left hlt).trans hi, .stay di⟩
  | drainSpawned hd hst => exact dispatch_step_modify hd hi (.drain hst)
  | fetched hd hst c r => exact dispatch_step_modify hd hi (.fetched hst rfl)
  | complete hd hst => exact dispatch_step_modify hd hi (.complete hst rfl)
  | lose he hl hp hd hst => exact dispatch_step_modify hd hi (.lose hst rfl)

/-- **Where a dispatch comes from.**  It was there before, or its window has just been drained by
its owner, or its owner has just been dropped. -/
theorem dispatch_cases (h : Move rt w e as hs w') {i : Nat} {di' : Dispatch V}
    (hi : w'.dispatches[i]? = some di') :
    (∃ di, w.dispatches[i]? = some di) ∨ i = w.dispatches.length ∧ ∃ (n : Nat) (l : Load V),
      w.loads[n]? = some l ∧ l.progress.isCollecting = true ∧
      (di' = ⟨l.slot, true, (w.queue l.slot).pending.toList,
          unanswered rt (w.queue l.slot).pending.toList⟩ ∨
        di' = ⟨l.slot, false, [], .spawned⟩) := by
  have hold {d : Nat} {g : Dispatch V → Dispatch V}
      (hm : (w.dispatches.modify d g)[i]? = some di') : ∃ di, w.dispatches[i]? = some di := by
    obtain ⟨di, hdi, -⟩ := List.exists_of_getElem?_modify hm
    exact ⟨di, hdi⟩
  cases h with
  | stay | arrive | join | wait | leave | giveUp => exact .inl ⟨di', hi⟩
  | drainOwned hl hp =>
    rcases List.getElem?_concat_cases hi with hi | ⟨hn, rfl⟩
    · exact .inl ⟨di', hi⟩
    · exact .inr ⟨hn, _, _, hl, by rw [hp]; rfl, .inl rfl⟩
  | handOver hl hp =>
    rcases List.getElem?_concat_cases hi with hi | ⟨hn, rfl⟩
    · exact .inl ⟨di', hi⟩
    · exact .inr ⟨hn, _, _, hl, by rw [hp]; rfl, .inr rfl⟩
  | drainSpawned | fetched | complete | lose => exact .inl (hold hi)

/-- **How a fetch lands.**  A dispatch stops fetching when all its chunks are answered, or when its
owner is dropped. -/
theorem of_landing (h : Move rt w e as hs w') {d : Nat} {dd dd' : Dispatch V}
    {rs : List (Option (Batch V))} (hd : w.dispatches[d]? = some dd) (hst : dd.stage = .fetching rs)
    (hd' : w'.dispatches[d]? = some dd') (hend : dd'.stage.isFetching = false) :
    (∃ results, rs = results.map some ∧
      hs = handouts dd.batch (outcomesOf rt dd.batch results) ∧ w' = w.finish d dd.slot .done hs) ∨
    ∃ (n : Nat) (l : Load V), (e = .drop n ∨ e = .dropOutside n) ∧ w.loads[n]? = some l ∧
      l.progress = .dispatching d ∧
      hs = abandonments dd.slot (dd.batch.flatMap Prod.snd) ∧
      w' = (w.setProgress n .dropped).finish d dd.slot .lost hs := by
  have hlt : d < w.dispatches.length := (List.getElem?_eq_some_iff.1 hd).1
  have hkept (hkept : w'.dispatches[d]? = some dd) : False := by
    obtain rfl := Option.some.inj (hkept.symm.trans hd')
    rw [hst] at hend
    cases hend
  have hother {i : Nat} {g : Dispatch V → Dispatch V} (hi : i ≠ d) :
      (w.dispatches.modify i g)[d]? = some dd := by
    rw [List.getElem?_modify_ne _ _ hi, hd]
  cases h with
  | stay | arrive | join | wait | leave | giveUp => exact (hkept hd).elim
  | drainOwned | handOver => exact (hkept ((List.getElem?_append_left hlt).trans hd)).elim
  | @drainSpawned i di hi hsp =>
    refine (hkept (hother fun he => ?_)).elim
    subst he
    obtain rfl : di = dd := Option.some.inj (hi.symm.trans hd)
    rw [hsp] at hst
    cases hst
  | @fetched i di rs₀ hi hst₀ c r =>
    by_cases he : i = d
    · subst he
      rw [setStage, List.getElem?_modify_eq, hd] at hd'
      obtain rfl := Option.some.inj hd'
      cases hend
    · exact (hkept (hother he)).elim
  | @complete _ i di results hi hst₀ =>
    by_cases he : i = d
    · subst he
      obtain rfl : di = dd := Option.some.inj (hi.symm.trans hd)
      exact .inl ⟨results, Stage.fetching.inj (hst.symm.trans hst₀), rfl, rfl⟩
    · exact (hkept (hother he)).elim
  | @lose _ n i l di rs₀ he hl hp hi hst₀ =>
    by_cases hid : i = d
    · subst hid
      obtain rfl : di = dd := Option.some.inj (hi.symm.trans hd)
      exact .inr ⟨n, l, he, hl, hp, rfl, rfl⟩
    · exact (hkept (hother hid)).elim

/-- A dispatch is lost with the owner that is dropped. -/
theorem of_lost (h : Move rt w e as hs w') {d : Nat} {dd dd' : Dispatch V}
    {rs : List (Option (Batch V))} (hd : w.dispatches[d]? = some dd) (hst : dd.stage = .fetching rs)
    (hd' : w'.dispatches[d]? = some dd') (hlost : dd'.stage = .lost) :
    ∃ (n : Nat) (l : Load V), (e = .drop n ∨ e = .dropOutside n) ∧ w.loads[n]? = some l ∧
      l.progress = .dispatching d := by
  rcases h.of_landing hd hst hd' (by rw [hlost]; rfl) with ⟨results, -, -, rfl⟩ | hdropped
  · rw [dispatches_finish, List.getElem?_modify_eq, hd] at hd'
    obtain rfl := Option.some.inj hd'
    cases hlost
  · obtain ⟨n, l, he, hl, hp, -⟩ := hdropped
    exact ⟨n, l, he, hl, hp⟩

/-- The ways in which a move changes the collector of a slot. -/
inductive QueueStep (rt : Runtime σ V) (w : World σ V) (e : Event V) (as : List Joining)
    (w' : World σ V) (t : Slot) : Queue → Prop
  | stay (hno : ∀ j ∈ as, j.slot ≠ t) : QueueStep rt w e as w' t (w.queue t)
  | join {id : Int} (has : as = [⟨w.loads.length, t, id⟩]) :
    QueueStep rt w e as w' t ((w.queue t).enqueue id w.loads.length)
  | drainOwned {n : Nat} {l : Load V} {y seen : Nat} (has : as = []) (he : e = .poll n)
    (hl : w.loads[n]? = some l) (hs : l.slot = t) (hp : l.progress = .collecting y seen)
    (hw : w' = w.drainOwned rt t n) : QueueStep rt w e as w' t (emptied rt (w.queue t))
  | drainSpawned {d : Nat} {dd : Dispatch V} (has : as = []) (hd : w.dispatches[d]? = some dd)
    (hs : dd.slot = t) (hst : dd.stage = .spawned) (hw : w' = w.drainSpawned rt t d) :
    QueueStep rt w e as w' t (emptied rt (w.queue t))
  /-- A fetch is no longer outstanding. -/
  | land (has : as = []) :
    QueueStep rt w e as w' t { w.queue t with inFlight := (w.queue t).inFlight - 1 }
  | giveUp {n : Nat} {l : Load V} {y seen : Nat} (has : as = []) (he : e = .dropOutside n)
    (hl : w.loads[n]? = some l) (hs : l.slot = t) (hp : l.progress = .collecting y seen)
    (hw : w' = w.giveUp t n) :
    QueueStep rt w e as w' t { w.queue t with pending := .empty, scheduled := false }

/-- **What becomes of a collector.** -/
theorem queue_step (h : Move rt w e as hs w') (t : Slot) : QueueStep rt w e as w' t (w'.queue t) := by
  have hnone : ∀ j ∈ ([] : List Joining), j.slot ≠ t := by simp
  cases h with
  | stay | arrive | wait | fetched | leave | handOver => exact .stay hnone
  | join s id expected hk =>
    rw [queue_join]
    split
    · subst t
      exact .join rfl
    · rename_i hne
      refine .stay fun j hj => ?_
      obtain rfl := List.mem_singleton.1 hj
      exact fun he => hne he.symm
  | @drainOwned n l y seen hl hp =>
    rw [queue_drainOwned]
    split
    · subst t
      exact .drainOwned rfl rfl hl rfl hp rfl
    · exact .stay hnone
  | @drainSpawned d dd hd hst =>
    rw [queue_drainSpawned]
    split
    · subst t
      exact .drainSpawned rfl hd rfl hst rfl
    · exact .stay hnone
  | complete | lose =>
    rw [queue_finish]
    split
    · subst t
      exact .land rfl
    · exact .stay hnone
  | @giveUp n l y seen hl hp =>
    rw [queue_giveUp]
    split
    · subst t
      exact .giveUp rfl rfl hl rfl hp rfl
    · exact .stay hnone

/-- An owner that drains its window owns it no more. -/
theorem not_collecting_drainOwned {n : Nat} {s : Slot} {l' : Load V}
    (hl : (w.drainOwned rt s n).loads[n]? = some l') : l'.progress.isCollecting = false := by
  rw [loads_drainOwned] at hl
  obtain ⟨l, -, rfl⟩ := List.exists_of_getElem?_modify hl
  rw [if_pos rfl]
  rfl

/-- An owner that gives its window up owns it no more. -/
theorem not_collecting_giveUp {n : Nat} {s : Slot} {l' : Load V}
    (hl : (w.giveUp s n).loads[n]? = some l') : l'.progress.isCollecting = false := by
  rw [loads_giveUp] at hl
  obtain ⟨k, hk, -, -, -, hcases⟩ := getElem?_receiveAll_cases hl
  obtain ⟨l, -, rfl⟩ := List.exists_of_getElem?_modify hk
  rw [if_pos rfl] at hcases
  rcases hcases with hq | ⟨-, o, -, hq⟩ <;> rw [hq] <;> rfl

/-- **What becomes of a window.**  It stays, or a load joins it, or its holder takes it or gives it
up. -/
theorem window_cases (h : Move rt w e as hs w') (t : Slot) :
    (w'.queue t).pending = (w.queue t).pending ∧
      (w'.queue t).scheduled = (w.queue t).scheduled ∧ (∀ j ∈ as, j.slot ≠ t) ∨
    (∃ id, as = [⟨w.loads.length, t, id⟩] ∧ w'.queue t = (w.queue t).enqueue id w.loads.length) ∨
    as = [] ∧ (w'.queue t).pending = .empty ∧ (w'.queue t).scheduled = false ∧
      ((∃ (n : Nat) (l : Load V), w.loads[n]? = some l ∧ l.slot = t ∧
          l.progress.isCollecting = true ∧
          ∀ l' : Load V, w'.loads[n]? = some l' → l'.progress.isCollecting = false) ∨
        ∃ (d : Nat) (dd : Dispatch V), w.dispatches[d]? = some dd ∧ dd.slot = t ∧
          dd.stage = .spawned ∧ w' = w.drainSpawned rt t d) := by
  have hstep := h.queue_step t
  generalize w'.queue t = q at hstep ⊢
  cases hstep with
  | stay hno => exact .inl ⟨rfl, rfl, hno⟩
  | join has => exact .inr (.inl ⟨_, has, rfl⟩)
  | @drainOwned n l y seen has he hl hs hp hw =>
    refine .inr (.inr ⟨has, rfl, rfl, .inl ⟨n, l, hl, hs, by rw [hp]; rfl, fun l' hl' => ?_⟩⟩)
    rw [hw] at hl'
    exact not_collecting_drainOwned hl'
  | drainSpawned has hd hs hst hw =>
    exact .inr (.inr ⟨has, rfl, rfl, .inr ⟨_, _, hd, hs, hst, hw⟩⟩)
  | land has =>
    refine .inl ⟨rfl, rfl, fun j hj => ?_⟩
    rw [has] at hj
    cases hj
  | @giveUp n l y seen has he hl hs hp hw =>
    refine .inr (.inr ⟨has, rfl, rfl, .inl ⟨n, l, hl, hs, by rw [hp]; rfl, fun l' hl' => ?_⟩⟩)
    rw [hw] at hl'
    exact not_collecting_giveUp hl'

end Move

end World

end GraphLayer.Batching
