import GraphLayer.Proofs.Batching.Collectors
import GraphLayer.Proofs.Batching.Outcomes

/-!
# The flight of a dispatch

* `World.Aloft`: the dispatch that the owner of a window has drained fetches, and nothing else does
  so for its slot; `World.Landed`: it has completed, and nothing is fetched for the slot;
* `World.Aloft.run`: while nobody joins and none of its waiters is dropped, a dispatch that is aloft
  stays so or lands;
* `World.Aloft.lands`: it lands when its chunks are answered and its owner is polled;
* `World.not_dropped_run`: a load that nobody drops is not dropped.
-/

namespace GraphLayer.Batching

variable {σ V : Type}

namespace World

variable {rt : Runtime σ V} {w w' : World σ V} {e : Event V} {as : List Joining}
  {hs : List (Nat × Outcome V)}

/-! ### Loads that nobody drops -/

theorem Move.not_dropped (h : Move rt w e as hs w') {n : Nat} {l l' : Load V}
    (hl : w.loads[n]? = some l) (hp : l.progress ≠ .dropped) (he : ¬ e.Drops n)
    (hl' : w'.loads[n]? = some l') : l'.progress ≠ .dropped := by
  have hsame (hk : w.loads[n]? = some l') : l'.progress ≠ .dropped := by
    obtain rfl := Option.some.inj (hk.symm.trans hl)
    exact hp
  -- the progress of one load is replaced; it is another load, or it is not dropped
  have hset {m : Nat} {p : Progress V} (hm : m ≠ n ∨ p ≠ .dropped) {k : Load V}
      (hk : (w.setProgress m p).loads[n]? = some k) : k.progress ≠ .dropped := by
    obtain ⟨k₀, hk₀, rfl⟩ := List.exists_of_getElem?_modify hk
    obtain rfl : k₀ = l := Option.some.inj (hk₀.symm.trans hl)
    split
    · next hmn => exact hm.resolve_left fun hne => hne hmn
    · exact hp
  have hreceive {ls : List (Load V)} {hs : List (Nat × Outcome V)}
      (hls : ∀ k : Load V, ls[n]? = some k → k.progress ≠ .dropped)
      (hk : (receiveAll ls hs)[n]? = some l') : l'.progress ≠ .dropped := by
    obtain ⟨k, hk, -, -, -, hp | ⟨-, o, -, hp⟩⟩ := getElem?_receiveAll_cases hk
    · rw [hp]
      exact hls k hk
    · rw [hp]
      nofun
  have hother {m : Nat} (hdrop : e = .drop m ∨ e = .dropOutside m) : m ≠ n := by
    rintro rfl
    rcases hdrop with rfl | rfl <;> exact he rfl
  have hlt : n < w.loads.length := (List.getElem?_eq_some_iff.1 hl).1
  cases h with
  | stay | drainSpawned | fetched => exact hsame hl'
  | arrive | join => exact hsame ((List.getElem?_append_left hlt).symm.trans hl')
  | wait => exact hset (p := .collecting _ _) (.inr nofun) hl'
  | drainOwned => exact hset (p := .dispatching _) (.inr nofun) hl'
  | complete => exact hreceive (fun k hk => Option.some.inj (hk.symm.trans hl) ▸ hp) hl'
  | leave hdrop => exact hset (.inl (hother hdrop)) hl'
  | handOver => exact hset (.inl he) hl'
  | lose hdrop => exact hreceive (fun k hk => hset (.inl (hother hdrop)) hk) hl'
  | giveUp => exact hreceive (fun k hk => hset (.inl he) hk) hl'

/-- A load that nobody drops is not dropped. -/
theorem not_dropped_run (rt : Runtime σ V) {es : List (Event V)} {n : Nat} {l l' : Load V}
    (hl : w.loads[n]? = some l) (hp : l.progress ≠ .dropped) (hkept : ∀ e ∈ es, ¬ e.Drops n)
    (hl' : (w.run rt es).loads[n]? = some l') : l'.progress ≠ .dropped := by
  induction es generalizing w l with
  | nil =>
    obtain rfl := Option.some.inj (hl.symm.trans hl')
    exact hp
  | cons e es ih =>
    obtain ⟨w', c, t, a, hm, h⟩ := exists_move rt w e
    obtain ⟨l₁, hl₁, -⟩ := hm.continues.find n l hl
    have hp₁ := hm.not_dropped hl hp (hkept e List.mem_cons_self) hl₁
    have hfirst : (w.step rt e).loads[n]? = some l₁ := by
      rw [h]
      exact hl₁
    exact ih hfirst hp₁ (fun x hx => hkept x (List.mem_cons_of_mem e hx)) hl'

/-! ### One dispatch at a time -/

/-- The dispatch `d`, which the load `n` has drained with the batch `b`, fetches; nothing else is
fetched for its slot, and no window of it is open. -/
structure Aloft (w : World σ V) (s : Slot) (n d : Nat) (b : List (Int × List Nat)) : Prop where
  closed : (w.queue s).scheduled = false
  inFlight : (w.queue s).inFlight = 1
  dispatch : ∃ rs, w.dispatches[d]? = some ⟨s, true, b, .fetching rs⟩
  driver : ∃ l : Load V, w.loads[n]? = some l ∧ l.progress = .dispatching d

/-- The dispatch `d` with the batch `b` has completed; nothing is fetched for its slot, and no
window of it is open. -/
structure Landed (w : World σ V) (s : Slot) (d : Nat) (b : List (Int × List Nat)) : Prop where
  closed : (w.queue s).scheduled = false
  inFlight : (w.queue s).inFlight = 0
  dispatch : w.dispatches[d]? = some ⟨s, true, b, .done⟩

/-- In this step all chunks of the dispatch `d` with the batch `b` are answered by `results`, and it
hands out what they say. -/
structure Lands (rt : Runtime σ V) (w : World σ V) (e : Event V) (s : Slot) (d : Nat)
    (b : List (Int × List Nat)) (results : List (Batch V)) : Prop where
  dispatch : w.dispatches[d]? = some ⟨s, true, b, .fetching (results.map some)⟩
  handed : w.handed rt e = handouts b (outcomesOf rt b results)

theorem Aloft.phase {s : Slot} {n d : Nat} {b : List (Int × List Nat)} (h : Aloft w s n d b) :
    w.phase s = .dispatching := by
  rw [World.phase, Queue.phase, h.closed, h.inFlight]
  rfl

theorem Landed.phase {s : Slot} {d : Nat} {b : List (Int × List Nat)} (h : Landed w s d b) :
    w.phase s = .idle := by
  rw [World.phase, Queue.phase, h.closed, h.inFlight]
  rfl

theorem Aloft.not_landed {s : Slot} {n d : Nat} {b : List (Int × List Nat)} (h : Aloft w s n d b) :
    ¬ Landed w s d b := fun h' => Nat.one_ne_zero (h.inFlight.symm.trans h'.inFlight)

section Flight

variable {s : Slot} {n d : Nat} {b : List (Int × List Nat)}

/-- An owner that drains its window, while nothing is fetched for the slot, has a dispatch aloft. -/
theorem aloft_of_drainOwned (rt : Runtime σ V) {l : Load V} (hl : w.loads[n]? = some l)
    (hnone : (w.queue s).inFlight = 0) :
    Aloft (w.drainOwned rt s n) s n w.dispatches.length (w.queue s).pending.toList where
  closed := by
    rw [queue_drainOwned, if_pos rfl]
    rfl
  inFlight := by
    rw [queue_drainOwned, if_pos rfl]
    show (w.queue s).inFlight + 1 = 1
    rw [hnone]
  dispatch := ⟨_, by rw [dispatches_drainOwned, List.getElem?_concat_length]; rfl⟩
  driver := by
    refine ⟨{ l with progress := .dispatching w.dispatches.length }, ?_, rfl⟩
    rw [loads_drainOwned, List.getElem?_modify_eq, hl]
    rfl

/-- A step in which nobody joins and none of its waiters is dropped leaves a dispatch aloft, or it
lands. -/
theorem Aloft.step (h : Aloft w s n d b) (hw : Placed rt w) (ho : Once w) (ha : Attended w)
    (hno : ∀ j ∈ w.joinings rt e, j.slot ≠ s) (hkept : ∀ m ∈ b.flatMap Prod.snd, ¬ e.Drops m) :
    Aloft (w.step rt e) s n d b ∨
      Landed (w.step rt e) s d b ∧ ∃ results, Lands rt w e s d b results := by
  obtain ⟨rs, hd⟩ := h.dispatch
  obtain ⟨l, hl, hp⟩ := h.driver
  obtain ⟨hclosed, hgrown⟩ := closed_step hw ho ha h.closed hno
  have hle : ((w.step rt e).queue s).inFlight ≤ 1 := h.inFlight ▸ hgrown.inFlight
  obtain ⟨dd', hd', hs', howned', hbatch', hst'⟩ :=
    drained_step ha hd (.inl rfl) rt fun _ => hkept
  obtain ⟨s', owned', b', st'⟩ := dd'
  obtain ⟨rfl, rfl, rfl⟩ : s' = s ∧ owned' = true ∧ b' = b := ⟨hs', howned', hbatch'⟩
  obtain ⟨w', c, t, a, hm, hstep⟩ := exists_move rt w e
  have hplace : w'.dispatches[d]? = some ⟨s', true, b', st'⟩ := by
    rw [hstep] at hd'
    exact hd'
  rcases hst' with hst' | rfl
  · left
    obtain ⟨rs', rfl⟩ : ∃ rs', st' = .fetching rs' := by
      cases st' with
      | fetching rs' => exact ⟨rs', rfl⟩
      | _ => cases hst'
    have hpos := (ha.step hw ho e).inFlight_pos hd' rfl
    have hload : (w.step rt e).loads[n]? = some l := by
      rw [hstep]
      rcases hm.dispatching_step hw ho ha hl hp with hload | ⟨dd', hend, hnot⟩
      · exact hload
      · -- the dispatch still fetches
        obtain rfl := Option.some.inj (hend.symm.trans hplace)
        cases hnot
    exact ⟨hclosed, Nat.le_antisymm hle hpos, ⟨rs', hd'⟩, ⟨l, hload, hp⟩⟩
  · right
    have hlanded := ha.inFlight_of_landing hm hd rfl hplace rfl
    have hzero : ((w.step rt e).queue s').inFlight = 0 := by
      have hone := h.inFlight
      rw [hstep]
      exact Nat.succ.inj (hlanded.trans hone)
    refine ⟨⟨hclosed, hzero, hd'⟩, ?_⟩
    rcases hm.of_landing hd rfl hplace rfl with ⟨results, rfl, hhs, -⟩ | ⟨m, k, -, -, -, -, rfl⟩
    · exact ⟨results, hd, hhs⟩
    · -- a dispatch that is lost is not done
      rw [dispatches_finish] at hplace
      obtain ⟨di, -, hdi⟩ := List.exists_of_getElem?_modify hplace
      rw [if_pos rfl] at hdi
      cases congrArg Dispatch.stage hdi

/-- What has landed stays so until a load joins. -/
theorem Landed.run (h : Landed w s d b) (hw : Placed rt w) (ho : Once w) (ha : Attended w)
    {es : List (Event V)} (hno : ¬ Joins rt s w es) : Landed (w.run rt es) s d b := by
  obtain ⟨hclosed, hgrown⟩ := closed_run hw ho ha h.closed hno
  refine ⟨hclosed, ?_, dispatch_of_ended_run rt es h.dispatch (.inl rfl)⟩
  exact Nat.le_zero.1 (h.inFlight ▸ hgrown.inFlight)

/-- **The flight of a dispatch.**  While nobody joins and none of its waiters is dropped, it stays
aloft, until in some step all its chunks are answered and it lands. -/
theorem Aloft.run (h : Aloft w s n d b) (hw : Placed rt w) (ho : Once w) (ha : Attended w)
    {es : List (Event V)} (hno : ¬ Joins rt s w es)
    (hkept : ∀ m ∈ b.flatMap Prod.snd, ∀ e ∈ es, ¬ e.Drops m) :
    Aloft (w.run rt es) s n d b ∨ Landed (w.run rt es) s d b ∧ ∃ es₁ e es₂ results,
      es = es₁ ++ e :: es₂ ∧ Lands rt (w.run rt es₁) e s d b results := by
  induction es generalizing w with
  | nil => exact .inl h
  | cons e es ih =>
    have hw₁ := hw.step e
    have ho₁ := ho.step hw e
    have ha₁ : Attended (w.step rt e) := ha.step hw ho e
    have hfirst : ∀ j ∈ w.joinings rt e, j.slot ≠ s := fun j hj hs =>
      hno ⟨j, List.mem_append_left _ hj, hs⟩
    have hrest : ¬ Joins rt s (w.step rt e) es := fun ⟨j, hj, hs⟩ =>
      hno ⟨j, List.mem_append_right _ hj, hs⟩
    rcases h.step hw ho ha hfirst fun m hm => hkept m hm e List.mem_cons_self with
      h₁ | ⟨h₁, results, hlands⟩
    · rcases ih h₁ hw₁ ho₁ ha₁ hrest fun m hm x hx => hkept m hm x (List.mem_cons_of_mem e hx) with
        h₂ | ⟨h₂, es₁, e', es₂, results, rfl, hlands⟩
      · exact .inl h₂
      · exact .inr ⟨h₂, e :: es₁, e', es₂, results, rfl, hlands⟩
    · exact .inr ⟨h₁.run hw₁ ho₁ ha₁ hrest, [], e, es, results, rfl, hlands⟩

/-! ### Landing -/

/-- The answers of a dispatch that fetches stay, and an answer that comes in for a chunk is there
from then on. -/
theorem answers_run (rt : Runtime σ V) {es : List (Event V)} {o : Bool}
    {rs rs' : List (Option (Batch V))} (hd : w.dispatches[d]? = some ⟨s, o, b, .fetching rs⟩)
    (hd' : (w.run rt es).dispatches[d]? = some ⟨s, o, b, .fetching rs'⟩) :
    rs'.length = rs.length ∧ ∀ c < rs.length,
      (∃ a, rs[c]? = some (some a)) ∨ (∃ r, .fetched d c r ∈ es) →
        ∃ a, rs'[c]? = some (some a) := by
  induction es generalizing w rs with
  | nil =>
    obtain rfl : rs = rs' := by
      have hsame := hd.symm.trans hd'
      simpa using hsame
    exact ⟨rfl, fun c _ h => h.resolve_right fun ⟨r, hr⟩ => by cases hr⟩
  | cons e es ih =>
    by_cases he : ∃ c r, e = .fetched d c r
    · obtain ⟨i, r, rfl⟩ := he
      have hd₁ := dispatch_of_fetched rt hd rfl i r
      obtain ⟨hlen, hall⟩ := ih hd₁ hd'
      rw [List.length_modify] at hlen hall
      refine ⟨hlen, fun c hc h => hall c hc ?_⟩
      have hget : rs[c]? = some rs[c] := List.getElem?_eq_getElem hc
      by_cases hic : i = c
      · subst hic
        exact .inl ⟨_, by rw [List.getElem?_modify_eq, hget]; rfl⟩
      · rw [List.getElem?_modify_ne _ _ hic]
        refine h.imp_right fun ⟨r', hr'⟩ => ⟨r', (List.mem_cons.1 hr').resolve_left ?_⟩
        intro heq
        exact hic (Event.fetched.inj heq).2.1.symm
    · obtain ⟨w', c', t, a, hm, h⟩ := exists_move rt w e
      obtain ⟨d₁, hd₁, hstep⟩ := hm.dispatch_step hd
      have hd₁' : (w.step rt e).dispatches[d]? = some d₁ := by
        rw [h]
        exact hd₁
      -- it has not ended, since it still fetches later
      have hgoing : ¬ (d₁.stage = .done ∨ d₁.stage = .lost) := by
        intro hend
        have hstays := dispatch_of_ended_run rt es hd₁' hend
        obtain rfl := Option.some.inj (hstays.symm.trans hd')
        rcases hend with hend | hend <;> cases hend
      have hsame : d₁ = ⟨s, o, b, .fetching rs⟩ := by
        cases hstep with
        | stay => rfl
        | drain hst => cases hst
        | fetched _ hr => exact absurd ⟨_, _, hr⟩ he
        | complete => exact absurd (.inl rfl) hgoing
        | lose => exact absurd (.inr rfl) hgoing
      subst hsame
      obtain ⟨hlen, hall⟩ := ih hd₁' hd'
      refine ⟨hlen, fun c hc hor => hall c hc (hor.imp_right ?_)⟩
      rintro ⟨r, hr⟩
      exact ⟨r, (List.mem_cons.1 hr).resolve_left fun heq => he ⟨c, r, heq.symm⟩⟩

/-- **A dispatch lands** when all its chunks are answered and its owner is polled. -/
theorem Aloft.lands (h : Aloft w s n d b) (hw : Placed rt w) (ho : Once w) (ha : Attended w)
    {es : List (Event V)} (hno : ¬ Joins rt s w es)
    (hkept : ∀ m ∈ b.flatMap Prod.snd, ∀ e ∈ es, ¬ e.Drops m)
    (hanswered : ∀ c < (chunks rt.maxBatchSize (b.map Prod.fst)).length, ∃ r, .fetched d c r ∈ es) :
    Landed (w.run rt (es ++ [.poll n])) s d b := by
  have hw₁ := hw.run es
  have ho₁ := ho.run hw es
  have ha₁ : Attended (w.run rt es) := ha.run hw ho es
  have hpoll : ¬ Joins rt s (w.run rt es) [.poll n] := by
    rintro ⟨j, hj, -⟩
    cases hj
  rw [run_append]
  rcases h.run hw ho ha hno hkept with h₁ | ⟨h₁, -⟩
  · obtain ⟨rs, hd⟩ := h.dispatch
    obtain ⟨rs₁, hd₁⟩ := h₁.dispatch
    obtain ⟨hlen, hall⟩ := answers_run rt hd hd₁
    have hplaces : rs.length = (chunks rt.maxBatchSize (b.map Prod.fst)).length :=
      hw.fetching d _ rs hd rfl
    obtain ⟨results, rfl⟩ := exists_results fun c hc =>
      hall c (hlen ▸ hc) (.inr (hanswered c (by rw [← hplaces, ← hlen]; exact hc)))
    obtain ⟨l, hl, hp⟩ := h₁.driver
    have hdone := (Drives.owner hl hp).dispatch_eq rt hd₁ rfl
    rcases h₁.step (e := .poll n) hw₁ ho₁ ha₁ (fun j hj => by cases hj) (fun _ _ => id) with
      h₂ | ⟨h₂, -⟩
    · obtain ⟨rs₂, hd₂⟩ := h₂.dispatch
      have hsame := Option.some.inj (hdone.symm.trans hd₂)
      cases congrArg Dispatch.stage hsame
    · exact h₂
  · exact h₁.run hw₁ ho₁ ha₁ hpoll

end Flight

end World

end GraphLayer.Batching
