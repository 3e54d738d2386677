import GraphLayer.Proofs.Batching.Transparency
import GraphLayer.Proofs.Batching.Window

/-!
# Windows that are gathered at once

* `begun`: the loads of a slot that some events begin; without a cache these are the loads that join
  (`World.ids_joined`);
* `World.DrainsAt`: the owner of a window drains it at a certain one of its polls, and up to then
  the window only grows;
* `World.gathered_window`: a window that all its loads join before its owner is polled is drained at
  the second poll, or at the first one if it has a single load;
* `World.drainsAt_of_begun`: so is the window of loads that are begun together.
-/

namespace GraphLayer.Batching

variable {σ V : Type}

/-- The loads of a slot that some events begin: their ids and the types asked for. -/
def begun (s : Slot) (es : List (Event V)) : List (Int × String) :=
  es.filterMap fun
    | .beginLoad t id expected => if t = s then some (id, expected) else none
    | _ => none

/-- The event polls a load. -/
def Event.polls (n : Nat) : Event V → Bool
  | .poll m => m == n
  | _ => false

theorem begun_append (s : Slot) (es fs : List (Event V)) :
    begun s (es ++ fs) = begun s es ++ begun s fs := List.filterMap_append

theorem begun_cons (s : Slot) (e : Event V) (es : List (Event V)) :
    begun s (e :: es) = begun s [e] ++ begun s es := begun_append s [e] es

theorem mem_begun {s : Slot} {es : List (Event V)} {id : Int} {x : String}
    (h : .beginLoad s id x ∈ es) : (id, x) ∈ begun s es :=
  List.mem_filterMap.2 ⟨_, h, if_pos rfl⟩

/-- The first load of a slot that is begun. -/
theorem exists_first_begun {s : Slot} {es : List (Event V)} {p : Int × String}
    {ps : List (Int × String)} (h : begun s es = p :: ps) :
    ∃ es₁ es₂, es = es₁ ++ .beginLoad s p.1 p.2 :: es₂ ∧ begun s es₁ = [] ∧ begun s es₂ = ps := by
  obtain ⟨es₁, e, es₂, rfl, hnone, he, hrest⟩ := List.filterMap_eq_cons_iff.1 h
  refine ⟨es₁, es₂, ?_, List.filterMap_eq_nil_iff.2 hnone, hrest⟩
  cases e with
  | beginLoad t id x =>
    simp only [Option.ite_none_right_eq_some, Option.some.injEq] at he
    obtain ⟨rfl, rfl⟩ := he
    rfl
  | _ => cases he

theorem countP_polls_eq_zero_iff {n : Nat} {es : List (Event V)} :
    es.countP (Event.polls n) = 0 ↔ .poll n ∉ es := by
  rw [List.countP_eq_zero]
  constructor
  · intro h hmem
    exact h _ hmem (beq_self_eq_true n)
  · intro h e he hpolls
    cases e with
    | poll m =>
      obtain rfl : m = n := beq_iff_eq.1 hpolls
      exact h he
    | _ => cases hpolls
namespace World

variable {rt : Runtime σ V} {w : World σ V}

/-! ### Loads that are begun -/

/-- A world without a cache never gets one. -/
theorem cache_step_of_none (rt : Runtime σ V) (hc : w.cache = none) (e : Event V) :
    (w.step rt e).cache = none := by
  have hheld : w.CacheHeld fun _ => False := by
    intro c hsome
    rw [hc] at hsome
    cases hsome
  have hkeeps : rt.store.Keeps (fun _ _ => True) fun _ => False :=
    ⟨fun _ _ _ h => h, fun _ _ _ _ h _ => h.elim, fun _ _ _ _ h _ => h, fun _ _ h => h,
      fun _ h => h⟩
  have hstep := hheld.step hkeeps (fun _ _ _ => trivial) e
  cases hnext : (w.step rt e).cache with
  | none => rfl
  | some c => exact (hstep c hnext).elim

theorem cache_run_of_none (rt : Runtime σ V) (hc : w.cache = none) (es : List (Event V)) :
    (w.run rt es).cache = none := by
  induction es generalizing w with
  | nil => exact hc
  | cons e es ih => exact ih (cache_step_of_none rt hc e)

theorem cache_run_start (rt : Runtime σ V) (es : List (Event V)) :
    ((start none : World σ V).run rt es).cache = none := cache_run_of_none rt rfl es

theorem lookup_of_cache_none (rt : Runtime σ V) (hc : w.cache = none) (k : CacheKey) :
    (w.lookup rt k).1 = none := by
  simp only [lookup, hc]

/-- Without a cache every load of a registered key joins. -/
theorem ids_joined {s : Slot} (hk : rt.loaders.contains s.key = true) (hc : w.cache = none)
    (es : List (Event V)) :
    ((w.joined rt es).filter (·.slot = s)).map Joining.id = (begun s es).map Prod.fst := by
  induction es generalizing w with
  | nil => rfl
  | cons e es ih =>
    have hfirst : ((w.joinings rt e).filter (·.slot = s)).map Joining.id =
        (begun s [e]).map Prod.fst := by
      cases e with
      | beginLoad t id x =>
        by_cases ht : t = s
        · subst ht
          rw [joinings_of_miss x hk (lookup_of_cache_none rt hc _)]
          simp [begun]
        · have hother : (w.joinings rt (.beginLoad t id x)).filter (·.slot = s) = [] := by
            rw [List.filter_eq_nil_iff]
            intro j hj hs
            obtain ⟨id', y, he, -⟩ := joins_singleton_iff.1
              ⟨j, List.mem_append_left _ hj, of_decide_eq_true hs⟩
            exact ht (Event.beginLoad.inj he).1
          simp [hother, begun, ht]
      | _ => rfl
    rw [joined, List.filter_append, List.map_append, hfirst, ih (cache_step_of_none rt hc e),
      ← List.map_append, ← begun_cons]

theorem joins_iff {s : Slot} (hk : rt.loaders.contains s.key = true) (hc : w.cache = none)
    (es : List (Event V)) : Joins rt s w es ↔ begun s es ≠ [] := by
  have hnil : (w.joined rt es).filter (·.slot = s) = [] ↔ begun s es = [] := by
    rw [← List.map_eq_nil_iff, ids_joined hk hc, List.map_eq_nil_iff]
  rw [Ne, ← hnil, List.filter_eq_nil_iff]
  simp [Joins]

/-! ### The window of loads that are begun together -/

/-- In the course of some events the owner `n` of the window of a slot drains it when it is polled
for the `k`-th time.  Up to then the window is open and only grows. -/
def DrainsAt (rt : Runtime σ V) (w : World σ V) (es : List (Event V)) (s : Slot) (n k : Nat) :
    Prop :=
  (es.countP (Event.polls n) < k ∧ ((w.run rt es).queue s).scheduled = true ∧
    GrowsAlong rt w es s) ∨
  ∃ es₁ es₂, es = es₁ ++ .poll n :: es₂ ∧ es₁.countP (Event.polls n) + 1 = k ∧
    GrowsAlong rt w es₁ s ∧
    (w.run rt es₁).step rt (.poll n) = (w.run rt es₁).drainOwned rt s n

/-- The first poll comes before the others. -/
theorem DrainsAt.succ {es fs : List (Event V)} {s : Slot} {n k : Nat} (hnot : .poll n ∉ es)
    (hgrown : GrowsAlong rt w es s)
    (hopen : (((w.run rt es).step rt (.poll n)).queue s).scheduled = true)
    (h : DrainsAt rt ((w.run rt es).step rt (.poll n)) fs s n k) :
    DrainsAt rt w (es ++ .poll n :: fs) s n (k + 1) := by
  have hcount (gs : List (Event V)) :
      (es ++ .poll n :: gs).countP (Event.polls n) = gs.countP (Event.polls n) + 1 := by
    have hone : Event.polls (V := V) n (.poll n) = true := beq_self_eq_true n
    rw [List.countP_append, List.countP_cons_of_pos hone, countP_polls_eq_zero_iff.2 hnot,
      Nat.zero_add]
  have hpoll := grown_of_scheduled rt (.poll n) hopen
  rcases h with ⟨hfew, hlast, hrest⟩ | ⟨fs₁, fs₂, rfl, hk, hrest, hdrain⟩
  · left
    refine ⟨?_, ?_, hgrown.append (hpoll.trans hrest)⟩
    · rw [hcount]
      exact Nat.succ_lt_succ hfew
    · rw [run_append]
      exact hlast
  · right
    refine ⟨es ++ .poll n :: fs₁, fs₂, by simp, ?_, hgrown.append (hpoll.trans hrest), ?_⟩
    · rw [hcount, hk]
    · rw [run_append]
      exact hdrain

section Owner

variable {n : Nat} {l : Load V} {es : List (Event V)}

/-- An owner that is not polled goes on to wait in an open window. -/
theorem untouched_window (hw : Placed rt w) (ho : Once w) (ha : Attended w)
    (hl : w.loads[n]? = some l) (hc : l.progress.isCollecting = true)
    (htouch : ∀ e ∈ es, ¬ e.Touches n) :
    (w.run rt es).loads[n]? = some l ∧ ((w.run rt es).queue l.slot).scheduled = true ∧
      GrowsAlong rt w es l.slot := by
  obtain ⟨hl', hgrown⟩ := owner_run hw ho ha hl hc htouch
  exact ⟨hl', (ha.run hw ho es).scheduled_of_owner hl' hc, hgrown⟩

theorem not_touches_of_not_mem (hkept : ∀ e ∈ es, ¬ e.Drops n) (hnot : .poll n ∉ es) :
    ∀ e ∈ es, ¬ e.Touches n := fun e he =>
  Event.not_touches (fun h => hnot (h ▸ he)) (hkept e he)

/-- An owner that has seen all who have joined drains its window at its next poll, if nobody joins
until then. -/
theorem quiet_window (hw : Placed rt w) (ho : Once w) (ha : Attended w) {y : Nat}
    (hl : w.loads[n]? = some l) (hp : l.progress = .collecting y (w.queue l.slot).enqueued)
    (hkept : ∀ e ∈ es, ¬ e.Drops n) (hno : ¬ Joins rt l.slot w es) :
    DrainsAt rt w es l.slot n 1 := by
  have hc : l.progress.isCollecting = true := by rw [hp]; rfl
  by_cases hpoll : .poll n ∈ es
  · obtain ⟨es₁, es₂, rfl, hnot⟩ := List.eq_append_cons_of_mem hpoll
    obtain ⟨hl₁, -, hgrown⟩ := untouched_window hw ho ha hl hc
      (not_touches_of_not_mem (fun e he => hkept e (List.mem_append_left _ he)) hnot)
    have hquiet : ¬ Joins rt l.slot w es₁ := fun ⟨j, hj, hs⟩ =>
      hno ⟨j, by rw [joined_append]; exact List.mem_append_left _ hj, hs⟩
    have hseen : ((w.run rt es₁).queue l.slot).enqueued = (w.queue l.slot).enqueued :=
      (enqueued_eq_iff rt w [] es₁ l.slot).2 hquiet
    refine .inr ⟨es₁, es₂, rfl, by rw [countP_polls_eq_zero_iff.2 hnot], hgrown, ?_⟩
    rw [step_poll_of_collecting rt hl₁ hp, if_pos (.inl hseen)]
  · obtain ⟨-, hopen, hgrown⟩ := untouched_window hw ho ha hl hc
      (not_touches_of_not_mem hkept hpoll)
    refine .inl ⟨?_, hopen, hgrown⟩
    rw [countP_polls_eq_zero_iff.2 hpoll]
    exact Nat.one_pos

/-- An owner that finds at its first poll that loads have joined yields once more. -/
theorem load_of_first_yield (rt : Runtime σ V) {seen : Nat} (hl : w.loads[n]? = some l)
    (hp : l.progress = .collecting 0 seen) (hne : (w.queue l.slot).enqueued ≠ seen) :
    (w.step rt (.poll n)).loads[n]? = some { l with
      progress := .collecting 1 ((w.step rt (.poll n)).queue l.slot).enqueued } := by
  have hfew : 0 + 1 ≠ maxYields := by decide
  have hstep : w.step rt (.poll n) =
      w.setProgress n (.collecting 1 (w.queue l.slot).enqueued) := by
    rw [step_poll_of_collecting rt hl hp, if_neg (not_or.2 ⟨hne, hfew⟩)]
  rw [hstep, setProgress, List.getElem?_modify_eq, hl]
  rfl

/-- An owner that has not yet seen all who have joined drains its window at its second poll, if
nobody joins until then. -/
theorem busy_window (hw : Placed rt w) (ho : Once w) (ha : Attended w) {seen : Nat}
    (hl : w.loads[n]? = some l) (hp : l.progress = .collecting 0 seen)
    (hne : (w.queue l.slot).enqueued ≠ seen) (hkept : ∀ e ∈ es, ¬ e.Drops n)
    (hno : ¬ Joins rt l.slot w es) : DrainsAt rt w es l.slot n 2 := by
  have hc : l.progress.isCollecting = true := by rw [hp]; rfl
  by_cases hpoll : .poll n ∈ es
  · obtain ⟨es₁, es₂, rfl, hnot⟩ := List.eq_append_cons_of_mem hpoll
    obtain ⟨hl₁, -, hgrown₁⟩ := untouched_window hw ho ha hl hc
      (not_touches_of_not_mem (fun e he => hkept e (List.mem_append_left _ he)) hnot)
    have hw₁ := hw.run es₁
    have ho₁ := ho.run hw es₁
    have ha₁ : Attended (w.run rt es₁) := ha.run hw ho es₁
    have hquiet : ¬ Joins rt l.slot w es₁ := fun ⟨j, hj, hs⟩ =>
      hno ⟨j, by rw [joined_append]; exact List.mem_append_left _ hj, hs⟩
    have hsame : ((w.run rt es₁).queue l.slot).enqueued = (w.queue l.slot).enqueued :=
      (enqueued_eq_iff rt w [] es₁ l.slot).2 hquiet
    -- the poll shows it that loads have joined, and from then on it has seen them all
    have hl₂ := load_of_first_yield rt hl₁ hp (hsame ▸ hne)
    have hw₂ := hw₁.step (.poll n)
    have ho₂ := ho₁.step hw₁ (.poll n)
    have ha₂ := ha₁.step hw₁ ho₁ (.poll n)
    have hrest : ¬ Joins rt l.slot ((w.run rt es₁).step rt (.poll n)) es₂ := fun ⟨j, hj, hs⟩ =>
      hno ⟨j, by rw [joined_append]; exact List.mem_append_right _ hj, hs⟩
    have hopen := ha₂.scheduled_of_owner hl₂ rfl
    have hlast := quiet_window hw₂ ho₂ ha₂ hl₂ rfl
      (fun e he => hkept e (List.mem_append_right _ (List.mem_cons_of_mem _ he))) hrest
    exact hlast.succ hnot hgrown₁ hopen
  · obtain ⟨-, hopen, hgrown⟩ := untouched_window hw ho ha hl hc
      (not_touches_of_not_mem hkept hpoll)
    refine .inl ⟨?_, hopen, hgrown⟩
    rw [countP_polls_eq_zero_iff.2 hpoll]
    exact Nat.two_pos

/-- **A window that is gathered at once.**  Where all loads join before the owner is polled, the
owner drains the window at its second poll, or at its first one if nobody has joined. -/
theorem gathered_window (hw : Placed rt w) (ho : Once w) (ha : Attended w)
    (hl : w.loads[n]? = some l) (hp : l.progress = .collecting 0 (w.queue l.slot).enqueued)
    {gs : List (Event V)} (htouch : ∀ e ∈ es, ¬ e.Touches n) (hkept : ∀ e ∈ gs, ¬ e.Drops n)
    (hno : ¬ Joins rt l.slot (w.run rt es) gs) :
    GrowsAlong rt w es l.slot ∧
      (¬ Joins rt l.slot w es → DrainsAt rt (w.run rt es) gs l.slot n 1) ∧
      (Joins rt l.slot w es → DrainsAt rt (w.run rt es) gs l.slot n 2) := by
  have hc : l.progress.isCollecting = true := by rw [hp]; rfl
  have hw₁ := hw.run es
  have ho₁ := ho.run hw es
  have ha₁ : Attended (w.run rt es) := ha.run hw ho es
  obtain ⟨hl₁, -, hgrown⟩ := untouched_window hw ho ha hl hc htouch
  have hseen : ((w.run rt es).queue l.slot).enqueued = (w.queue l.slot).enqueued ↔
      ¬ Joins rt l.slot w es := enqueued_eq_iff rt w [] es l.slot
  refine ⟨hgrown, fun hnone => ?_, fun hjoins => ?_⟩
  · rw [← hseen.2 hnone] at hp
    exact quiet_window hw₁ ho₁ ha₁ hl₁ hp hkept hno
  · exact busy_window hw₁ ho₁ ha₁ hl₁ hp (fun heq => hseen.1 heq hjoins) hkept hno

end Owner

/-! ### Loads that are begun together -/

/-- Loads that are begun together, in a slot whose window is closed, open one window.  The first of
them owns it, and drains it at its second poll, or at its first one if it is alone. -/
theorem drainsAt_of_begun (hw : Placed rt w) (ho : Once w) (ha : Attended w) {s : Slot}
    (hk : rt.loaders.contains s.key = true) (hc : w.cache = none)
    (hclosed : (w.queue s).scheduled = false) {evs gs : List (Event V)} {j₀ : Joining}
    (hj₀ : ((w.joined rt evs).filter (·.slot = s)).head? = some j₀)
    (htouch : ∀ e ∈ evs, ¬ e.Touches j₀.load) (hkept : ∀ e ∈ gs, ¬ e.Drops j₀.load)
    (hquiet : begun s gs = []) :
    GrowsAlong rt w evs s ∧
      DrainsAt rt (w.run rt evs) gs s j₀.load (min 2 (begun s evs).length) := by
  cases hevs : begun s evs with
  | nil =>
    have hnil : (w.joined rt evs).filter (·.slot = s) = [] := by
      rw [← List.map_eq_nil_iff, ids_joined hk hc, hevs]
      rfl
    rw [hnil] at hj₀
    cases hj₀
  | cons p ps =>
    obtain ⟨pre, post, rfl, hpre, hpost⟩ := exists_first_begun hevs
    -- nothing happens to the window until the first load opens it
    have hnone : ¬ Joins rt s w pre := fun h => (joins_iff hk hc pre).1 h hpre
    obtain ⟨hclosed₁, hgrown₁⟩ := closed_run hw ho ha hclosed hnone
    have hw₁ := hw.run pre
    have ho₁ := ho.run hw pre
    have ha₁ : Attended (w.run rt pre) := ha.run hw ho pre
    have hc₁ := cache_run_of_none rt hc pre
    have hmiss := lookup_of_cache_none rt hc₁ ⟨s.key, p.1⟩
    obtain ⟨hl, -, -⟩ := opened ha₁ hclosed₁ p.2 hk hmiss
    have hw₂ := hw₁.step (.beginLoad s p.1 p.2)
    have ho₂ := ho₁.step hw₁ (.beginLoad s p.1 p.2)
    have ha₂ := ha₁.step hw₁ ho₁ (.beginLoad s p.1 p.2)
    have hc₂ := cache_step_of_none rt hc₁ (.beginLoad s p.1 p.2)
    have hgrown₂ := grown_of_scheduled rt (.beginLoad s p.1 p.2) (ha₂.scheduled_of_owner hl rfl)
    have hfilter : (w.joined rt pre).filter (·.slot = s) = [] := by
      rw [← List.map_eq_nil_iff, ids_joined hk hc, hpre]
      rfl
    obtain rfl : ⟨(w.run rt pre).loads.length, s, p.1⟩ = j₀ := by
      rw [joined_append, joined, joinings_of_miss p.2 hk hmiss, List.filter_append, hfilter,
        List.nil_append] at hj₀
      simpa using hj₀
    have hrest : ¬ Joins rt s
        (((w.run rt pre).step rt (.beginLoad s p.1 p.2)).run rt post) gs := fun h =>
      (joins_iff hk (cache_run_of_none rt hc₂ post) gs).1 h hquiet
    obtain ⟨hgrown₃, halone, hmany⟩ := gathered_window (l := ⟨s, p.1, p.2, _⟩) hw₂ ho₂ ha₂ hl rfl
      (fun e he => htouch e (List.mem_append_right _ (List.mem_cons_of_mem _ he))) hkept hrest
    refine ⟨hgrown₁.append (hgrown₂.trans hgrown₃), ?_⟩
    have hiff := joins_iff hk hc₂ post
    rw [hpost] at hiff
    rw [run_append, run_cons]
    cases ps with
    | nil => exact halone fun h => hiff.1 h rfl
    | cons q qs =>
      have htwo : min 2 (p :: q :: qs).length = 2 := by simp
      rw [htwo]
      exact hmany (hiff.2 (List.cons_ne_nil q qs))

end World

end GraphLayer.Batching
