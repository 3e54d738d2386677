import GraphLayer.Proofs.Batching.Moves
import GraphLayer.Proofs.Data.Modify

/-!
# Where the waiters stand

* `Continues`: a list of loads after some steps, which keep what a load asks for;
* `Filed`: a window whose waiters ask for the ids under which they stand;
* `World.Placed`: every open window and every drained one is filed, and a dispatch has one answer
  place for each of its chunks; `World.placed_run` shows it for every run.
-/

namespace GraphLayer.Batching

variable {σ V : Type}

/-! ### Loads keep what they ask for -/

/-- Every load of the first list is in the second, and asks for the same. -/
structure Continues (ls ls' : List (Load V)) : Prop where
  find : ∀ (n : Nat) (l : Load V), ls[n]? = some l →
    ∃ l' : Load V, ls'[n]? = some l' ∧ l'.slot = l.slot ∧ l'.id = l.id ∧ l'.expected = l.expected

namespace Continues

theorem refl (ls : List (Load V)) : Continues ls ls := ⟨fun _ l h => ⟨l, h, rfl, rfl, rfl⟩⟩

theorem trans {ls₁ ls₂ ls₃ : List (Load V)} (h : Continues ls₁ ls₂) (h' : Continues ls₂ ls₃) :
    Continues ls₁ ls₃ := by
  refine ⟨fun n l hl => ?_⟩
  obtain ⟨l₂, hl₂, hs₂, hi₂, he₂⟩ := h.find n l hl
  obtain ⟨l₃, hl₃, hs₃, hi₃, he₃⟩ := h'.find n l₂ hl₂
  exact ⟨l₃, hl₃, hs₃.trans hs₂, hi₃.trans hi₂, he₃.trans he₂⟩

theorem append (ls more : List (Load V)) : Continues ls (ls ++ more) := by
  refine ⟨fun n l h => ?_⟩
  obtain ⟨hn, -⟩ := List.getElem?_eq_some_iff.1 h
  exact ⟨l, by rw [List.getElem?_append_left hn, h], rfl, rfl, rfl⟩

theorem modify (ls : List (Load V)) (n : Nat) {g : Load V → Load V}
    (hg : ∀ l, (g l).slot = l.slot ∧ (g l).id = l.id ∧ (g l).expected = l.expected) :
    Continues ls (ls.modify n g) := by
  refine ⟨fun m l h => ?_⟩
  by_cases hm : n = m
  · subst hm
    exact ⟨g l, by rw [List.getElem?_modify_eq, h]; rfl, hg l⟩
  · exact ⟨l, by rw [List.getElem?_modify_ne _ _ hm, h], rfl, rfl, rfl⟩

theorem receiveAll (ls : List (Load V)) (hs : List (Nat × Outcome V)) :
    Continues ls (receiveAll ls hs) := by
  induction hs generalizing ls with
  | nil => exact refl ls
  | cons h hs ih =>
    refine (modify ls h.1 fun l => ?_).trans (ih _)
    exact ⟨l.slot_receive h.2, l.id_receive h.2, l.expected_receive h.2⟩

theorem length_le {ls ls' : List (Load V)} (h : Continues ls ls') : ls.length ≤ ls'.length := by
  by_contra hlt
  have hn : ls'.length < ls.length := by omega
  obtain ⟨l', hl', -⟩ := h.find _ _ (List.getElem?_eq_getElem hn)
  rw [List.getElem?_eq_none (Nat.le_refl _)] at hl'
  cases hl'

end Continues

/-! ### Windows -/

/-- A window of a slot in which ids stand in order, each with somebody who waits for it. -/
structure Filed (ls : List (Load V)) (s : Slot) (b : List (Int × List Nat)) : Prop where
  ascending : Ascending (b.map Prod.fst)
  ne_nil : ∀ p ∈ b, p.2 ≠ []
  load : ∀ p ∈ b, ∀ n ∈ p.2, ∃ l : Load V, ls[n]? = some l ∧ l.slot = s ∧ l.id = p.1

namespace Filed

variable {ls ls' : List (Load V)} {s : Slot} {b : List (Int × List Nat)}

theorem nil (ls : List (Load V)) (s : Slot) : Filed ls s [] where
  ascending := List.Pairwise.nil
  ne_nil := nofun
  load := nofun

theorem continues (h : Filed ls s b) (hl : Continues ls ls') : Filed ls' s b where
  ascending := h.ascending
  ne_nil := h.ne_nil
  load := by
    intro p hp n hn
    obtain ⟨l, hln, hs, hi⟩ := h.load p hp n hn
    obtain ⟨l', hl', hs', hi', -⟩ := hl.find n l hln
    exact ⟨l', hl', hs'.trans hs, hi'.trans hi⟩

theorem nodup_keys (h : Filed ls s b) : (b.map Prod.fst).Nodup := h.ascending.nodup

theorem load_of_mem_waitersOf (h : Filed ls s b) {id : Int} {n : Nat}
    (hn : n ∈ World.waitersOf b id) : ∃ l : Load V, ls[n]? = some l ∧ l.slot = s ∧ l.id = id := by
  obtain ⟨ws, hws, hn⟩ := World.exists_of_mem_waitersOf hn
  exact h.load _ hws n hn

theorem load_of_mem_flatMap (h : Filed ls s b) {n : Nat} (hn : n ∈ b.flatMap Prod.snd) :
    ∃ l : Load V, ls[n]? = some l ∧ l.slot = s := by
  obtain ⟨p, hp, hn⟩ := List.mem_flatMap.1 hn
  obtain ⟨l, hl, hs, -⟩ := h.load p hp n hn
  exact ⟨l, hl, hs⟩

theorem lt_length (h : Filed ls s b) {n : Nat} (hn : n ∈ b.flatMap Prod.snd) : n < ls.length := by
  obtain ⟨l, hl, -⟩ := h.load_of_mem_flatMap hn
  exact (List.getElem?_eq_some_iff.1 hl).1

/-- An id of a window is one for which somebody waits. -/
theorem mem_keys_iff (h : Filed ls s b) {id : Int} :
    id ∈ b.map Prod.fst ↔ World.waitersOf b id ≠ [] := by
  constructor
  · intro hid
    obtain ⟨⟨id', ws⟩, hp, rfl⟩ := List.mem_map.1 hid
    rw [World.waitersOf_eq h.nodup_keys hp]
    exact h.ne_nil _ hp
  · intro hne
    by_contra hid
    exact hne (World.waitersOf_eq_nil hid)

/-- The window after one more load has joined. -/
theorem enqueue {q : Queue} {id : Int} {n : Nat} {l : Load V} (h : Filed ls s q.pending.toList)
    (hl : ls[n]? = some l) (hs : l.slot = s) (hid : l.id = id) :
    Filed ls s (q.enqueue id n).pending.toList where
  ascending := (q.enqueue id n).pending.ascending
  ne_nil := by
    intro p hp
    rcases Ascending.mem_upsert hp with hp | rfl | ⟨v, -, rfl⟩
    · exact h.ne_nil p hp
    · simp
    · simp
  load := by
    intro p hp m hm
    rcases Ascending.mem_upsert hp with hp | rfl | ⟨v, hv, rfl⟩
    · exact h.load p hp m hm
    · obtain rfl : m = n := by simpa using hm
      exact ⟨l, hl, hs, hid⟩
    · rcases List.mem_append.1 hm with hm | hm
      · exact h.load _ hv m hm
      · obtain rfl : m = n := by simpa using hm
        exact ⟨l, hl, hs, hid⟩

end Filed

namespace World

/-- The loads that wait for an id in the open window of a slot. -/
def waiting (w : World σ V) (s : Slot) (id : Int) : List Nat :=
  waitersOf (w.queue s).pending.toList id

/-! ### The invariant -/

/-- Windows are filed, and a dispatch that fetches has a place for the answer of each chunk. -/
structure Placed (rt : Runtime σ V) (w : World σ V) : Prop where
  slots : (w.queues.map Prod.fst).Nodup
  pending : ∀ s, Filed w.loads s (w.queue s).pending.toList
  batch : ∀ (d : Nat) (dd : Dispatch V), w.dispatches[d]? = some dd → Filed w.loads dd.slot dd.batch
  spawned : ∀ (d : Nat) (dd : Dispatch V), w.dispatches[d]? = some dd → dd.stage = .spawned →
    dd.batch = [] ∧ dd.owned = false
  fetching : ∀ (d : Nat) (dd : Dispatch V) rs, w.dispatches[d]? = some dd →
    dd.stage = .fetching rs → rs.length = (dd.calls rt.maxBatchSize).length

theorem slots_setQueue (w : World σ V) (s : Slot) (q : Queue)
    (h : (w.queues.map Prod.fst).Nodup) : ((w.setQueue s q).queues.map Prod.fst).Nodup := by
  simp only [setQueue, List.map_cons, List.nodup_cons, List.mem_map, not_exists, not_and]
  refine ⟨fun p hp => ?_, h.sublist (List.filter_sublist.map Prod.fst)⟩
  simpa using (List.mem_filter.1 hp).2

variable {rt : Runtime σ V} {w : World σ V}

/-- A world whose dispatches change in no more than an answer and whose windows stay or are
emptied. -/
theorem Placed.of_loads {w' : World σ V} (hw : Placed rt w) (hl : Continues w.loads w'.loads)
    (hslots : (w'.queues.map Prod.fst).Nodup)
    (hq : ∀ s, (w'.queue s).pending = (w.queue s).pending ∨ (w'.queue s).pending = .empty)
    (hd : ∀ (d : Nat) (dd' : Dispatch V), w'.dispatches[d]? = some dd' →
      ∃ dd : Dispatch V, w.dispatches[d]? = some dd ∧
      dd'.slot = dd.slot ∧ dd'.batch = dd.batch ∧ dd'.owned = dd.owned ∧
      (dd'.stage = .spawned → dd.stage = .spawned) ∧
      ∀ rs', dd'.stage = .fetching rs' → ∃ rs, dd.stage = .fetching rs ∧ rs'.length = rs.length) :
    Placed rt w' where
  slots := hslots
  pending s := by
    rcases hq s with h | h
    · rw [h]
      exact (hw.pending s).continues hl
    · rw [h]
      exact .nil _ s
  batch d dd' h := by
    obtain ⟨dd, hdd, hs, hb, -⟩ := hd d dd' h
    rw [hs, hb]
    exact (hw.batch d dd hdd).continues hl
  spawned d dd' h hst := by
    obtain ⟨dd, hdd, -, hb, ho, hsp, -⟩ := hd d dd' h
    rw [hb, ho]
    exact hw.spawned d dd hdd (hsp hst)
  fetching d dd' rs' h hst := by
    obtain ⟨dd, hdd, -, hb, -, -, hf⟩ := hd d dd' h
    obtain ⟨rs, hrs, hlen⟩ := hf rs' hst
    rw [hlen, hw.fetching d dd rs hdd hrs, Dispatch.calls, Dispatch.calls, hb]

theorem continues_setProgress (w : World σ V) (n : Nat) (p : Progress V) :
    Continues w.loads (w.setProgress n p).loads :=
  .modify _ _ fun _ => ⟨rfl, rfl, rfl⟩

/-- Loads keep what they ask for in every move. -/
theorem Move.continues {e : Event V} {as : List Joining} {hs : List (Nat × Outcome V)}
    {w' : World σ V} (h : Move rt w e as hs w') : Continues w.loads w'.loads := by
  cases h with
  | stay => exact .refl _
  | arrive => exact .append _ _
  | join => exact .append _ _
  | wait => exact continues_setProgress ..
  | drainOwned => exact .modify _ _ fun _ => ⟨rfl, rfl, rfl⟩
  | drainSpawned => exact .refl _
  | fetched => exact .refl _
  | complete => exact .receiveAll _ _
  | leave => exact continues_setProgress ..
  | handOver => exact .modify _ _ fun _ => ⟨rfl, rfl, rfl⟩
  | lose => exact (continues_setProgress ..).trans (.receiveAll _ _)
  | giveUp => exact (continues_setProgress ..).trans (.receiveAll _ _)

theorem Placed.setProgress (hw : Placed rt w) (n : Nat) (p : Progress V) :
    Placed rt (w.setProgress n p) :=
  hw.of_loads (continues_setProgress ..) hw.slots (fun _ => .inl rfl)
    fun _ dd h => ⟨dd, h, rfl, rfl, rfl, id, fun rs hrs => ⟨rs, hrs, rfl⟩⟩

theorem Placed.join (hw : Placed rt w) (s : Slot) (id : Int) (expected : String) :
    Placed rt (w.join s id expected) where
  slots := slots_setQueue w s _ hw.slots
  pending t := by
    rw [queue_join]
    split
    · subst t
      have hl : (w.join s id expected).loads[w.loads.length]? = some _ :=
        List.getElem?_concat_length
      exact ((hw.pending s).continues (.append _ _)).enqueue hl rfl rfl
    · exact (hw.pending t).continues (.append _ _)
  batch d dd h := (hw.batch d dd h).continues (.append _ _)
  spawned := hw.spawned
  fetching := hw.fetching

theorem Placed.drainOwned (hw : Placed rt w) (s : Slot) (n : Nat) :
    Placed rt (w.drainOwned rt s n) where
  slots := slots_setQueue w s _ hw.slots
  pending t := by
    have hl : Continues w.loads (w.drainOwned rt s n).loads := .modify _ _ fun _ => ⟨rfl, rfl, rfl⟩
    rw [queue_drainOwned]
    split
    · exact .nil _ t
    · exact (hw.pending t).continues hl
  batch d dd h := by
    have hl : Continues w.loads (w.drainOwned rt s n).loads := .modify _ _ fun _ => ⟨rfl, rfl, rfl⟩
    rcases List.getElem?_concat_cases h with h | ⟨-, rfl⟩
    · exact (hw.batch d dd h).continues hl
    · exact (hw.pending s).continues hl
  spawned d dd h hst := by
    rcases List.getElem?_concat_cases h with h | ⟨-, rfl⟩
    · exact hw.spawned d dd h hst
    · cases hst
  fetching d dd rs h hst := by
    rcases List.getElem?_concat_cases h with h | ⟨-, rfl⟩
    · exact hw.fetching d dd rs h hst
    · obtain rfl := Stage.fetching.inj hst
      simp [Dispatch.calls]

theorem Placed.drainSpawned (hw : Placed rt w) {d : Nat} {dd : Dispatch V}
    (hd : w.dispatches[d]? = some dd) : Placed rt (w.drainSpawned rt dd.slot d) where
  slots := slots_setQueue w dd.slot _ hw.slots
  pending t := by
    rw [queue_drainSpawned]
    split
    · exact .nil _ t
    · exact hw.pending t
  batch i dd' h := by
    obtain ⟨dd₀, h₀, rfl⟩ := List.exists_of_getElem?_modify h
    split
    · subst d
      obtain rfl : dd₀ = dd := Option.some.inj (h₀.symm.trans hd)
      exact hw.pending _
    · exact hw.batch i dd₀ h₀
  spawned i dd' h hst := by
    obtain ⟨dd₀, h₀, rfl⟩ := List.exists_of_getElem?_modify h
    split at hst
    · cases hst
    · rename_i hne
      rw [if_neg hne]
      exact hw.spawned i dd₀ h₀ hst
  fetching i dd' rs h hst := by
    obtain ⟨dd₀, h₀, rfl⟩ := List.exists_of_getElem?_modify h
    split at hst
    · obtain rfl := Stage.fetching.inj hst
      simp [Dispatch.calls, *]
    · rename_i hne
      rw [if_neg hne]
      exact hw.fetching i dd₀ rs h₀ hst

theorem Placed.handOver (hw : Placed rt w) (s : Slot) (n : Nat) : Placed rt (w.handOver s n) where
  slots := hw.slots
  pending t := (hw.pending t).continues (continues_setProgress ..)
  batch d dd h := by
    rcases List.getElem?_concat_cases h with h | ⟨-, rfl⟩
    · exact (hw.batch d dd h).continues (continues_setProgress ..)
    · exact .nil _ s
  spawned d dd h hst := by
    rcases List.getElem?_concat_cases h with h | ⟨-, rfl⟩
    · exact hw.spawned d dd h hst
    · exact ⟨rfl, rfl⟩
  fetching d dd rs h hst := by
    rcases List.getElem?_concat_cases h with h | ⟨-, rfl⟩
    · exact hw.fetching d dd rs h hst
    · cases hst

theorem Placed.finish (hw : Placed rt w) (d : Nat) (s : Slot) {st : Stage V}
    (hst : st = .done ∨ st = .lost) (hs : List (Nat × Outcome V)) :
    Placed rt (w.finish d s st hs) := by
  refine hw.of_loads (.receiveAll _ _) (slots_setQueue w s _ hw.slots) (fun t => ?_) ?_
  · rw [queue_finish]
    split
    · subst t
      exact .inl rfl
    · exact .inl rfl
  · intro i dd' h
    obtain ⟨dd, hdd, rfl⟩ := List.exists_of_getElem?_modify h
    refine ⟨dd, hdd, ?_⟩
    split
    · have hspawned : st ≠ .spawned := by rcases hst with rfl | rfl <;> simp
      have hfetching (rs : List (Option (Batch V))) : st ≠ .fetching rs := by
        rcases hst with rfl | rfl <;> simp
      exact ⟨rfl, rfl, rfl, fun h => absurd h hspawned, fun rs h => absurd h (hfetching rs)⟩
    · exact ⟨rfl, rfl, rfl, fun h => h, fun rs hrs => ⟨rs, hrs, rfl⟩⟩

theorem Placed.move {e : Event V} {as : List Joining} {hs : List (Nat × Outcome V)}
    {w' : World σ V} (hw : Placed rt w) (h : Move rt w e as hs w') : Placed rt w' := by
  cases h with
  | stay => exact hw
  | arrive l =>
    exact hw.of_loads (.append _ _) hw.slots (fun _ => .inl rfl)
      fun _ dd h => ⟨dd, h, rfl, rfl, rfl, fun h => h, fun rs hrs => ⟨rs, hrs, rfl⟩⟩
  | join s id expected => exact hw.join s id expected
  | wait => exact hw.setProgress _ _
  | drainOwned => exact hw.drainOwned _ _
  | drainSpawned hd => exact hw.drainSpawned hd
  | @fetched d dd rs hd hst c r =>
    refine hw.of_loads (.refl _) hw.slots (fun _ => .inl rfl) fun i dd' h => ?_
    obtain ⟨dd₀, h₀, rfl⟩ := List.exists_of_getElem?_modify h
    refine ⟨dd₀, h₀, ?_⟩
    split
    · subst i
      obtain rfl : dd₀ = dd := Option.some.inj (h₀.symm.trans hd)
      refine ⟨rfl, rfl, rfl, nofun, fun rs₁ h₁ => ⟨rs, hst, ?_⟩⟩
      rw [← Stage.fetching.inj h₁, List.length_modify]
    · exact ⟨rfl, rfl, rfl, fun h => h, fun rs hrs => ⟨rs, hrs, rfl⟩⟩
  | complete => exact hw.finish _ _ (.inl rfl) _
  | leave => exact hw.setProgress _ _
  | handOver => exact hw.handOver _ _
  | lose => exact (hw.setProgress _ _).finish _ _ (.inr rfl) _
  | @giveUp n l =>
    refine hw.of_loads ((continues_setProgress ..).trans (.receiveAll _ _))
      (slots_setQueue _ _ _ hw.slots) (fun t => ?_)
      fun _ dd h => ⟨dd, h, rfl, rfl, rfl, fun h => h, fun rs hrs => ⟨rs, hrs, rfl⟩⟩
    rw [queue_giveUp]
    split
    · exact .inr rfl
    · exact .inl rfl

theorem Placed.setCache (hw : Placed rt w) (c : Option σ) (t : Nat) (a : List Nat) :
    Placed rt (w.setCache c t a) where
  slots := hw.slots
  pending := hw.pending
  batch := hw.batch
  spawned := hw.spawned
  fetching := hw.fetching

theorem Placed.step (hw : Placed rt w) (e : Event V) : Placed rt (w.step rt e) := by
  obtain ⟨w', c, t, a, hm, h⟩ := exists_move rt w e
  rw [h]
  exact (hw.move hm).setCache c t a

theorem Placed.run (hw : Placed rt w) (es : List (Event V)) : Placed rt (w.run rt es) := by
  induction es generalizing w with
  | nil => exact hw
  | cons e es ih => exact ih (hw.step e)

/-! ### Runs from the start -/

/-- A runtime that has just been started, with any contents of its cache. -/
def start (cache : Option σ) : World σ V := { cache }

theorem placed_start (rt : Runtime σ V) (cache : Option σ) : Placed rt (start cache) where
  slots := List.nodup_nil
  pending s := .nil _ s
  batch := nofun
  spawned := nofun
  fetching := nofun

/-- A runtime with one loader and without a cache, on which runs can be evaluated. -/
def usersOnly : Runtime Unit Nat where
  loaders := KeySet.ofList ["users"]
  maxBatchSize := 2
  store := .unavailable Nat "no store"

/-- The loader key of `usersOnly` in one session. -/
def users : Slot := ⟨0, "users"⟩

/-- In every run windows are filed under the ids that their waiters ask for. -/
theorem placed_run (rt : Runtime σ V) (cache : Option σ) (es : List (Event V)) :
    Placed rt ((start cache).run rt es) :=
  (placed_start rt cache).run es

end World

end GraphLayer.Batching
