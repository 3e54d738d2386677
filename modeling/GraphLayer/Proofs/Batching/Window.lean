import GraphLayer.Proofs.Batching.Collectors

/-!
# The course of a collection window

* `World.step_poll_of_collecting`: what an owner does when it is polled;
* `yielding` and `World.Waited`: the events of a window, cut at the polls of its owner;
* `World.window_course`: an owner waits through yields in which loads join, and then drains;
* `World.Drainage`: what it drains, and what becomes of the loads that come later;
* `World.collection_window`, all of this for a window that opens in any state of any run.
-/

namespace GraphLayer.Batching

variable {σ V : Type}

/-- The events of some yields of a load: after each of them the load is polled. -/
def yielding (n : Nat) (ys : List (List (Event V))) : List (Event V) :=
  ys.flatMap fun y => y ++ [.poll n]

theorem yielding_concat (n : Nat) (ys : List (List (Event V))) (y : List (Event V)) :
    yielding n (ys ++ [y]) = yielding n ys ++ y ++ [.poll n] := by
  simp [yielding]

namespace World

variable {rt : Runtime σ V} {w : World σ V}

/-! ### Polls of an owner -/

theorem step_poll_of_collecting (rt : Runtime σ V) {n : Nat} {l : Load V} {y seen : Nat}
    (hl : w.loads[n]? = some l) (hp : l.progress = .collecting y seen) :
    w.step rt (.poll n) =
      if (w.queue l.slot).enqueued = seen ∨ y + 1 = maxYields then w.drainOwned rt l.slot n
      else w.setProgress n (.collecting (y + 1) (w.queue l.slot).enqueued) := by
  obtain ⟨s, id, x, p⟩ := l
  subst hp
  simp only [step, poll, hl]

/-- The yields of an owner so far: it has been polled after each of `ys`, in each of which loads
joined its window, and `y` are the events since the last poll. -/
structure Waited (rt : Runtime σ V) (w : World σ V) (s : Slot) (n : Nat)
    (ys : List (List (Event V))) (y : List (Event V)) : Prop where
  few : ys.length < maxYields
  unpolled : ∀ z ∈ y :: ys, .poll n ∉ z
  busy : ∀ i z, ys[i]? = some z → Joins rt s (w.run rt (yielding n (ys.take i))) z

theorem Waited.start (rt : Runtime σ V) (w : World σ V) (s : Slot) (n : Nat) :
    Waited rt w s n [] [] where
  few := by
    show 0 < maxYields
    decide
  unpolled z hz := by
    obtain rfl := List.mem_singleton.1 hz
    exact List.not_mem_nil
  busy := nofun

/-- One more event that is no poll of the owner. -/
theorem Waited.event {s : Slot} {n : Nat} {ys : List (List (Event V))} {y : List (Event V)}
    (h : Waited rt w s n ys y) {e : Event V} (he : e ≠ .poll n) :
    Waited rt w s n ys (y ++ [e]) where
  few := h.few
  unpolled z hz := by
    rcases List.mem_cons.1 hz with rfl | hz
    · intro hmem
      rcases List.mem_append.1 hmem with hmem | hmem
      · exact h.unpolled y List.mem_cons_self hmem
      · exact he (List.mem_singleton.1 hmem).symm
    · exact h.unpolled z (List.mem_cons_of_mem _ hz)
  busy := h.busy

/-- One more poll of the owner, after a yield in which loads joined. -/
theorem Waited.poll {s : Slot} {n : Nat} {ys : List (List (Event V))} {y : List (Event V)}
    (h : Waited rt w s n ys y) (hlast : ys.length + 1 ≠ maxYields)
    (hjoins : Joins rt s (w.run rt (yielding n ys)) y) : Waited rt w s n (ys ++ [y]) [] where
  few := by
    have := h.few
    rw [List.length_append, List.length_singleton]
    omega
  unpolled z hz := by
    rcases List.mem_cons.1 hz with rfl | hz
    · exact List.not_mem_nil
    · rcases List.mem_append.1 hz with hz | hz
      · exact h.unpolled z (List.mem_cons_of_mem _ hz)
      · obtain rfl := List.mem_singleton.1 hz
        exact h.unpolled z List.mem_cons_self
  busy i z hz := by
    rcases List.getElem?_concat_cases hz with hz | ⟨rfl, rfl⟩
    · have hlt : i < ys.length := (List.getElem?_eq_some_iff.1 hz).1
      rw [List.take_append_of_le_length (Nat.le_of_lt hlt)]
      exact h.busy i z hz
    · rw [List.take_left]
      exact hjoins

/-! ### The course of a window -/

/-- The owner of a window of the slot is still waiting: it has made the yields `ys` and has seen the
loads that joined up to its last poll. -/
structure StillWaits (rt : Runtime σ V) (w : World σ V) (l : Load V) (n : Nat)
    (ys : List (List (Event V))) (y : List (Event V)) : Prop where
  waited : Waited rt w l.slot n ys y
  load : (w.run rt (yielding n ys ++ y)).loads[n]? = some { l with
    progress := .collecting ys.length ((w.run rt (yielding n ys)).queue l.slot).enqueued }
  grown : GrowsAlong rt w (yielding n ys ++ y) l.slot

/-- One more event after which the window is still open. -/
theorem GrowsAlong.concat {es : List (Event V)} {e : Event V} {s : Slot}
    (h : GrowsAlong rt w es s) (hopen : ((w.run rt (es ++ [e])).queue s).scheduled = true) :
    GrowsAlong rt w (es ++ [e]) s := by
  rw [GrowsAlong, joined_concat, drained_concat, run_concat]
  rw [run_concat] at hopen
  exact h.trans (grown_of_scheduled rt e hopen)

section Course

variable {n : Nat} {l : Load V} {ys : List (List (Event V))} {y : List (Event V)}

/-- An event that neither polls nor drops the owner only lets the window grow. -/
theorem StillWaits.event (h : StillWaits rt w l n ys y) (hw : Placed rt w) (ho : Once w)
    (ha : Attended w) {e : Event V} (he : ¬ e.Touches n) : StillWaits rt w l n ys (y ++ [e]) := by
  have hload : (w.run rt (yielding n ys ++ (y ++ [e]))).loads[n]? = some { l with
      progress := .collecting ys.length ((w.run rt (yielding n ys)).queue l.slot).enqueued } := by
    obtain ⟨w', c, t, a, hm, hstep⟩ := exists_move rt (w.run rt (yielding n ys ++ y)) e
    have hstays := hm.collecting_stays (hw.run _) (ho.run hw _) (ha.run hw ho _) h.load rfl he
    rw [← List.append_assoc, run_concat, hstep]
    exact hstays
  refine ⟨h.waited.event fun hpoll => ?_, hload, ?_⟩
  · subst hpoll
    exact he rfl
  · have hopen := (ha.run hw ho _).scheduled_of_owner hload rfl
    rw [← List.append_assoc] at hopen ⊢
    exact h.grown.concat hopen

/-- The count of enqueued loads stays the same exactly where nobody joins. -/
theorem enqueued_eq_iff (rt : Runtime σ V) (w : World σ V) (es fs : List (Event V)) (s : Slot) :
    ((w.run rt (es ++ fs)).queue s).enqueued = ((w.run rt es).queue s).enqueued ↔
      ¬ Joins rt s (w.run rt es) fs := by
  have hcount := enqueued_run rt (w.run rt es) fs s
  rw [← run_append] at hcount
  rw [← countP_joined_eq_zero_iff]
  omega

/-- A poll after a yield in which loads joined, if it was not the last one: the owner yields once
more. -/
theorem StillWaits.poll (h : StillWaits rt w l n ys y) (hw : Placed rt w) (ho : Once w)
    (ha : Attended w) (hlast : ys.length + 1 ≠ maxYields)
    (hjoins : Joins rt l.slot (w.run rt (yielding n ys)) y) :
    StillWaits rt w l n (ys ++ [y]) [] := by
  have hseen : ((w.run rt (yielding n ys ++ y)).queue l.slot).enqueued ≠
      ((w.run rt (yielding n ys)).queue l.slot).enqueued := fun heq =>
    (enqueued_eq_iff ..).1 heq hjoins
  have hrun : w.run rt (yielding n (ys ++ [y])) = (w.run rt (yielding n ys ++ y)).setProgress n
      (.collecting (ys.length + 1) ((w.run rt (yielding n ys ++ y)).queue l.slot).enqueued) := by
    rw [yielding_concat, run_concat, step_poll_of_collecting rt h.load rfl,
      if_neg (not_or.2 ⟨hseen, hlast⟩)]
  have hload : (w.run rt (yielding n (ys ++ [y]))).loads[n]? = some { l with
      progress := .collecting (ys ++ [y]).length
        ((w.run rt (yielding n (ys ++ [y]))).queue l.slot).enqueued } := by
    rw [hrun, setProgress, List.getElem?_modify_eq, h.load, List.length_append]
    rfl
  have hopen := (ha.run hw ho _).scheduled_of_owner hload rfl
  refine ⟨h.waited.poll hlast hjoins, ?_, ?_⟩
  · rw [List.append_nil]
    exact hload
  · rw [List.append_nil]
    rw [yielding_concat] at hopen ⊢
    exact h.grown.concat hopen

/-- A poll after the last yield, or after one in which nobody joined: the owner drains its
window. -/
theorem StillWaits.drain (h : StillWaits rt w l n ys y)
    (hlast : ys.length + 1 = maxYields ∨ ¬ Joins rt l.slot (w.run rt (yielding n ys)) y) :
    (w.run rt (yielding n ys ++ y)).step rt (.poll n) =
      (w.run rt (yielding n ys ++ y)).drainOwned rt l.slot n := by
  rw [step_poll_of_collecting rt h.load rfl, if_pos]
  rw [← enqueued_eq_iff] at hlast
  exact hlast.symm

/-- **The course of a window.**  As long as its owner is not dropped, it still waits, or it has
drained its window when it was polled after its last yield, or after one in which nobody joined. -/
theorem window_course (hw : Placed rt w) (ho : Once w) (ha : Attended w)
    (hl : w.loads[n]? = some l) (hp : l.progress = .collecting 0 (w.queue l.slot).enqueued)
    (fs : List (Event V)) (hkept : ∀ e ∈ fs, ¬ e.Drops n) :
    ∃ ys y, StillWaits rt w l n ys y ∧ (fs = yielding n ys ++ y ∨
      ∃ rest, fs = yielding n ys ++ y ++ .poll n :: rest ∧
        (ys.length + 1 = maxYields ∨ ¬ Joins rt l.slot (w.run rt (yielding n ys)) y)) := by
  induction fs using List.reverseRecOn with
  | nil =>
    refine ⟨[], [], ⟨.start rt w l.slot n, ?_, .refl w l.slot⟩, .inl rfl⟩
    show w.loads[n]? = some { l with progress := .collecting 0 (w.queue l.slot).enqueued }
    rw [← hp]
    exact hl
  | append_singleton fs e ih =>
    have hrest : ∀ e ∈ fs, ¬ e.Drops n := fun x hx => hkept x (List.mem_append_left _ hx)
    have he : ¬ e.Drops n := hkept e (List.mem_append_right _ (List.mem_singleton_self e))
    obtain ⟨ys, y, hwaits, rfl | ⟨rest, rfl, hlast⟩⟩ := ih hrest
    · by_cases hpoll : e = .poll n
      · subst hpoll
        by_cases hlast : ys.length + 1 = maxYields ∨
            ¬ Joins rt l.slot (w.run rt (yielding n ys)) y
        · exact ⟨ys, y, hwaits, .inr ⟨[], rfl, hlast⟩⟩
        · rw [not_or, not_not] at hlast
          refine ⟨ys ++ [y], [], hwaits.poll hw ho ha hlast.1 hlast.2, .inl ?_⟩
          rw [List.append_nil, yielding_concat]
      · have htouch : ¬ e.Touches n := Event.not_touches hpoll he
        exact ⟨ys, y ++ [e], hwaits.event hw ho ha htouch, .inl (List.append_assoc ..)⟩
    · refine ⟨ys, y, hwaits, .inr ⟨rest ++ [e], ?_, hlast⟩⟩
      rw [List.append_assoc, List.cons_append]

end Course

/-! ### What is drained -/

theorem joinersOf_ne_nil_iff {js : List Joining} {s : Slot} {id : Int} :
    joinersOf js s id ≠ [] ↔ ∃ j ∈ js, j.slot = s ∧ j.id = id := by
  rw [joinersOf, Ne, List.map_eq_nil_iff, List.filter_eq_nil_iff]
  simp

/-- The owner `n` of the window of a slot drains it, after the loads `js` have joined. -/
structure Drainage (rt : Runtime σ V) (w : World σ V) (s : Slot) (n : Nat) (js : List Joining)
    (dd : Dispatch V) : Prop where
  dispatch : (w.step rt (.poll n)).dispatches[w.dispatches.length]? = some dd
  drains : w.drains rt (.poll n) = [dd]
  slot : dd.slot = s
  stage : dd.stage = unanswered rt dd.batch
  waiters : ∀ id, waitersOf dd.batch id = joinersOf js s id
  ids : ∀ id, id ∈ (dd.calls rt.maxBatchSize).flatten ↔ ∃ j ∈ js, j.slot = s ∧ j.id = id
  /-- The batch stays as it was drained. -/
  kept : ∀ gs, ∃ dd' : Dispatch V,
    ((w.step rt (.poll n)).run rt gs).dispatches[w.dispatches.length]? = some dd' ∧
    dd'.slot = s ∧ dd'.batch = dd.batch
  /-- Whoever joins later is not in it. -/
  later : ∀ gs, ∀ j ∈ (w.step rt (.poll n)).joined rt gs, j.load ∉ dd.waiters
  /-- Whoever joins later waits only with others who do. -/
  apart : ∀ gs id, ∀ m ∈ ((w.step rt (.poll n)).run rt gs).waiting s id,
    m ∈ joinersOf ((w.step rt (.poll n)).joined rt gs) s id
  /-- The first one to join later opens a window. -/
  next : ∀ gs id expected, ¬ Joins rt s (w.step rt (.poll n)) gs →
    let v := (w.step rt (.poll n)).run rt gs
    let v' := v.step rt (.beginLoad s id expected)
    Joins rt s v [.beginLoad s id expected] →
      v'.OwnedBy s v.loads.length 0 ∧ (v'.queue s).pending.toList = [(id, [v.loads.length])]

theorem exists_drainage (hw : Placed rt w) (ho : Once w) (ha : Attended w) {n : Nat} {l : Load V}
    (hstep : w.step rt (.poll n) = w.drainOwned rt l.slot n) {js : List Joining}
    (hwaiting : ∀ id, w.waiting l.slot id = joinersOf js l.slot id) :
    ∃ dd, Drainage rt w l.slot n js dd := by
  have hw' := hw.step (.poll n)
  have ho' := ho.step hw (.poll n)
  have ha' : Attended (w.step rt (.poll n)) := ha.step hw ho (.poll n)
  have hd : (w.step rt (.poll n)).dispatches[w.dispatches.length]? = some
      ⟨l.slot, true, (w.queue l.slot).pending.toList,
        unanswered rt (w.queue l.slot).pending.toList⟩ := by
    rw [hstep, dispatches_drainOwned, List.getElem?_concat_length]
  have hclosed : ((w.step rt (.poll n)).queue l.slot).scheduled = false := by
    rw [hstep, queue_drainOwned, if_pos rfl]
    rfl
  have hbefore : (w.step rt (.poll n)).loads.length = w.loads.length := by
    rw [hstep, loads_drainOwned, List.length_modify]
  refine ⟨_, hd, ?_, rfl, rfl, hwaiting, ?_, fun gs => ?_, ?_, ?_, ?_⟩
  · have hnew : (w.step rt (.poll n)).hasDrained w.dispatches.length = true :=
      hasDrained_iff.2 ⟨_, hd, rfl⟩
    have hold : w.hasDrained w.dispatches.length = false := by simp [hasDrained]
    rcases drains_cases rt w (.poll n) with ⟨-, hnone, -⟩ | ⟨d, di, hdrained, hone⟩
    · rw [hnone _ hnew] at hold
      cases hold
    · obtain rfl : w.dispatches.length = d := by
        by_contra hne
        rw [hdrained.only _ hne hnew] at hold
        cases hold
      rw [hone, Option.some.inj (hdrained.dispatch.symm.trans hd)]
  · intro id
    rw [hw'.mem_calls_iff hd, ← joinersOf_ne_nil_iff, ← hwaiting]
    rfl
  · obtain ⟨dd', hd', hs', hb', -⟩ := batch_run rt gs hd rfl
    exact ⟨dd', hd', hs', hb'⟩
  · intro gs j hj hmem
    have hge := ((joined_pairwise rt _ gs).2 j hj).1
    have hlt := (hw.pending l.slot).lt_length hmem
    omega
  · exact fun gs id m hm => mem_waiting_run hw' ho' ha' hclosed gs hm
  · intro gs id expected hquiet v v' hjoins
    obtain ⟨hclosed', -⟩ := closed_run hw' ho' ha' hclosed hquiet
    obtain ⟨id', x, he, hk, hmiss⟩ := joins_singleton_iff.1 hjoins
    obtain ⟨-, rfl, rfl⟩ := Event.beginLoad.inj he
    obtain ⟨hl, hpending, -⟩ := opened (ha'.run hw' ho' gs) hclosed' expected hk hmiss
    exact ⟨⟨_, _, hl, rfl, rfl⟩, hpending⟩

/-! ### All together -/

/-- **Collection windows.**  In any state of a run, let a load join while the window of its slot is
not open.  It opens the window and owns it.  Take any further events in which it is not dropped.

* Loads join the window exactly if they are of its slot, their key is registered and their value is
  not in the cache; so no others count or enter in what follows.
* The owner yields at most sixteen times, and in each yield but the last one loads have joined.  Up
  to then nothing is drained for the slot.  The owner still owns the window, which holds exactly
  those who have joined; or it was polled after a yield in which nobody joined, or after its
  sixteenth one, and drained the window then.
* What it has drained are exactly the loads that have joined up to then, each under its id.  Nobody
  who joins later is among them, whatever happens; the first one to do so opens a new window. -/
theorem collection_window (rt : Runtime σ V) (cache : Option σ) (es : List (Event V)) (s : Slot)
    (id : Int) (expected : String) (hk : rt.loaders.contains s.key = true)
    (hmiss : (((start cache).run rt es).lookup rt ⟨s.key, id⟩).1 = none)
    (hclosed : ((start cache).run rt es).phase s ≠ .collecting) (fs : List (Event V))
    (hkept : ∀ e ∈ fs, ¬ e.Drops ((start cache).run rt es).loads.length) :
    let w := (start cache).run rt es
    let n := w.loads.length
    let opening : Event V := .beginLoad s id expected
    let w₁ := w.step rt opening
    (∀ (v : World σ V) (e : Event V), Joins rt s v [e] ↔
      ∃ id expected, e = .beginLoad s id expected ∧ rt.loaders.contains s.key = true ∧
        (v.lookup rt ⟨s.key, id⟩).1 = none) ∧
    ∃ ys y, Waited rt w₁ s n ys y ∧
      (∀ dd ∈ w.drained rt (opening :: (yielding n ys ++ y)), dd.slot ≠ s) ∧
      (fs = yielding n ys ++ y ∧ (w₁.run rt fs).OwnedBy s n ys.length ∧
          (∀ id, (w₁.run rt fs).waiting s id = joinersOf (w.joined rt (opening :: fs)) s id) ∨
        ∃ rest, fs = yielding n ys ++ y ++ .poll n :: rest ∧
          (ys.length + 1 = maxYields ∨ ¬ Joins rt s (w₁.run rt (yielding n ys)) y) ∧
          ∃ dd, Drainage rt (w₁.run rt (yielding n ys ++ y)) s n
            (w.joined rt (opening :: (yielding n ys ++ y))) dd) := by
  intro w n opening w₁
  have hw : Placed rt w := placed_run rt cache es
  have ho : Once w := once_run rt cache es
  have ha : Attended w := attended_run rt cache es
  have hw₁ : Placed rt w₁ := hw.step opening
  have ho₁ : Once w₁ := ho.step hw opening
  have ha₁ : Attended w₁ := ha.step hw ho opening
  have hclosed' : (w.queue s).scheduled = false := by
    by_contra hopen
    exact hclosed (if_pos (Bool.of_not_eq_false hopen))
  obtain ⟨hl, -, -⟩ := opened ha hclosed' expected hk hmiss
  have hgrown₁ := grown_of_scheduled rt opening (ha₁.scheduled_of_owner hl rfl)
  have hempty (id : Int) : w.waiting s id = [] := by
    rw [waiting, ha.pending_of_closed hclosed']
    rfl
  obtain ⟨ys, y, hwaits, hcourse⟩ := window_course hw₁ ho₁ ha₁ hl rfl fs hkept
  -- all who have joined since the window opened wait in it
  have hgrown := hgrown₁.trans hwaits.grown
  have hwaiting (id : Int) : (w₁.run rt (yielding n ys ++ y)).waiting s id =
      joinersOf (w.joined rt (opening :: (yielding n ys ++ y))) s id := by
    have hall := hgrown.waiting id
    rwa [hempty, List.nil_append] at hall
  refine ⟨fun v e => joins_singleton_iff, ys, y, hwaits.waited, hgrown.drained, ?_⟩
  rcases hcourse with rfl | ⟨rest, rfl, hlast⟩
  · exact .inl ⟨rfl, ⟨_, _, hwaits.load, rfl, rfl⟩, hwaiting⟩
  · refine .inr ⟨rest, rfl, hlast, ?_⟩
    exact exists_drainage (hw₁.run _) (ho₁.run hw₁ _) (ha₁.run hw₁ ho₁ _) (hwaits.drain hlast)
      hwaiting

/-- While the batch of another window is fetched, a window of two opens.  Its owner yields twice,
and a load of another session does not make it yield again. -/
theorem collection_window_of_two :
    let fs : List (Event Nat) := [.beginLoad users 2 "Nat", .poll 1,
      .beginLoad ⟨1, "users"⟩ 5 "Nat", .poll 1, .beginLoad users 3 "Nat"]
    let w := (start none).run usersOnly [.beginLoad users 9 "Nat", .poll 0]
    let w₁ := w.step usersOnly (.beginLoad users 1 "Nat")
    usersOnly.loaders.contains users.key = true ∧
    (w.lookup usersOnly ⟨users.key, 1⟩).1 = none ∧ w.phase users ≠ .collecting ∧
    (∀ e ∈ fs, ¬ e.Drops w.loads.length) ∧
    ∃ ys y rest dd, Waited usersOnly w₁ users 1 ys y ∧ fs = yielding 1 ys ++ y ++ .poll 1 :: rest ∧
      Drainage usersOnly (w₁.run usersOnly (yielding 1 ys ++ y)) users 1
        (w.joined usersOnly (.beginLoad users 1 "Nat" :: (yielding 1 ys ++ y))) dd := by
  intro fs w w₁
  have hclosed : w.phase users ≠ .collecting := by decide
  have hkept : ∀ e ∈ fs, ¬ e.Drops w.loads.length := by simp [fs, Event.Drops]
  obtain ⟨-, ys, y, hwaited, -, ⟨-, howned, -⟩ | ⟨rest, hfs, -, dd, hdd⟩⟩ :=
    collection_window usersOnly none [.beginLoad users 9 "Nat", .poll 0] users 1 "Nat" rfl rfl
      hclosed fs hkept
  · -- the load fetches in the end
    obtain ⟨l, seen, hl, -, hp⟩ := howned
    obtain rfl : l = ⟨users, 1, "Nat", .dispatching 1⟩ := (Option.some.inj hl).symm
    cases hp
  · exact ⟨rfl, rfl, hclosed, hkept, ys, y, rest, dd, hwaited, hfs, hdd⟩

end World

end GraphLayer.Batching
