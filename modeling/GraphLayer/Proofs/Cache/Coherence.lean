import GraphLayer.Proofs.Cache.Sizes

/-!
# The two lists of a cache belong together

* `Lru.Coherent`: the entries and the ticks of a cache are in one-to-one correspondence, the ticks
  ascend to the next one, and there are no more entries than there may be;
* `Lru.coherent_iff`: a cache is coherent exactly if it represents a sound list.  Every use keeps
  both sides of this, and so coherence itself (`Lru.Coherent.serve`, `Lru.Coherent.after`);
* `Lru.MakesRoom`: the loop that makes room for an entry, as far as there is a tick in each round;
* `Lru.coherent_after`: every cache that is reached by some uses is coherent, and its loop always
  ends with room.
-/

namespace GraphLayer.Lru

variable {K V : Type} {c c' d : Lru K V} {l : LruList K V} {s : List (Stamped K V)}

/-- The entries and the ticks of a cache belong together. -/
structure Coherent (c : Lru K V) : Prop where
  /-- A key has one entry, -/
  keys : (c.entries.map Prod.fst).Nodup
  /-- no tick belongs to two entries, -/
  uses : (c.entries.map fun p => p.2.tick).Nodup
  /-- and the ticks are listed from the oldest to the newest one, each of them once. -/
  ticks : (c.recency.map Prod.fst).Pairwise (· < ·)
  /-- A tick is listed with a key exactly if it is the tick of this key's entry. -/
  matched : ∀ t k, (t, k) ∈ c.recency ↔ ∃ e, (k, e) ∈ c.entries ∧ e.tick = t
  below : ∀ p ∈ c.recency, p.1 < c.nextTick
  bounded : c.entries.length ≤ c.maxSize

/-! ### Coherent caches and sound lists -/

theorem Represents.coherent (h : c.Represents s) (hs : s.length ≤ c.maxSize) : c.Coherent where
  keys := by
    have hkeys := h.entries.map Prod.fst
    rw [List.map_map] at hkeys
    exact hkeys.nodup_iff.2 h.ordered.keys
  uses := by
    have huses := h.entries.map fun p => p.2.tick
    rw [List.map_map] at huses
    exact huses.nodup_iff.2 (h.ordered.ticks.imp Nat.ne_of_lt)
  ticks := by
    rw [h.recency, List.map_map]
    exact h.ordered.ticks
  matched t k := by
    rw [h.recency]
    constructor
    · intro hq
      obtain ⟨p, hp, heq⟩ := List.mem_map.1 hq
      obtain ⟨rfl, rfl⟩ := Prod.mk.inj heq
      exact ⟨_, h.entries.mem_iff.2 (List.mem_map_of_mem hp), rfl⟩
    · rintro ⟨e, he, rfl⟩
      obtain ⟨p, hp, heq⟩ := List.mem_map.1 (h.entries.mem_iff.1 he)
      obtain ⟨rfl, rfl⟩ := Prod.mk.inj heq
      exact List.mem_map.2 ⟨p, hp, rfl⟩
  below := by
    rw [h.recency]
    intro q hq
    obtain ⟨p, hp, rfl⟩ := List.mem_map.1 hq
    exact h.ordered.below p hp
  bounded := h.length_eq ▸ hs

/-- Each tick of a list stands for the item whose entry it belongs to. -/
theorem exists_stamped {r : List (Nat × K)}
    (h : ∀ q ∈ r, ∃ e, (q.2, e) ∈ c.entries ∧ e.tick = q.1) :
    ∃ s : List (Stamped K V), r = s.map Stamped.use ∧ ∀ p ∈ s, p.entry ∈ c.entries := by
  induction r with
  | nil => exact ⟨[], rfl, nofun⟩
  | cons q r ih =>
    obtain ⟨s, rfl, hs⟩ := ih fun p hp => h p (List.mem_cons_of_mem q hp)
    obtain ⟨e, he, htick⟩ := h q List.mem_cons_self
    refine ⟨(q.1, ⟨q.2, e.value, e.insertedAt⟩) :: s, rfl, ?_⟩
    rintro p (_ | ⟨_, hp⟩)
    · rwa [Stamped.entry, ← htick]
    · exact hs p hp

theorem Coherent.exists_represents (h : c.Coherent) : ∃ s, c.Represents s := by
  obtain ⟨s, hrecency, hs⟩ := exists_stamped fun q hq => (h.matched q.1 q.2).1 hq
  have hticks : (s.map Prod.fst).Pairwise (· < ·) := by
    have hticks := h.ticks
    rwa [hrecency, List.map_map] at hticks
  have hentries : c.entries.Perm (s.map Stamped.entry) := by
    have hnodup : (s.map Stamped.entry).Nodup := by
      refine List.Nodup.of_map (fun p => p.2.tick) ?_
      rw [List.map_map]
      exact hticks.imp Nat.ne_of_lt
    refine (List.perm_ext_iff_of_nodup (.of_map _ h.keys) hnodup).2 fun p => ⟨fun hp => ?_, ?_⟩
    · have huse : (p.2.tick, p.1) ∈ c.recency := (h.matched _ _).2 ⟨p.2, hp, rfl⟩
      rw [hrecency] at huse
      obtain ⟨q, hq, heq⟩ := List.mem_map.1 huse
      have hkey : q.entry.1 = p.1 := congrArg Prod.snd heq
      exact List.mem_map.2 ⟨q, hq, List.inj_on_of_nodup_map h.keys (hs q hq) hp hkey⟩
    · intro hp
      obtain ⟨q, hq, rfl⟩ := List.mem_map.1 hp
      exact hs q hq
  refine ⟨s, hentries, hrecency, ?_, hticks, fun p hp => ?_⟩
  · have hkeys := (hentries.map Prod.fst).nodup_iff.1 h.keys
    rwa [List.map_map] at hkeys
  · exact h.below p.use (hrecency ▸ List.mem_map_of_mem hp)

/-- A cache is coherent exactly if it represents a list with one item of each key and no more items
than it may have. -/
theorem coherent_iff : c.Coherent ↔ ∃ l : LruList K V, c.Refines l ∧ l.Sound := by
  constructor
  · intro h
    obtain ⟨s, hs⟩ := h.exists_represents
    refine ⟨⟨c.maxSize, c.ttl, s.map Prod.snd⟩, ⟨rfl, rfl, s, hs, rfl⟩, ?_, ?_⟩
    · rw [List.map_map]
      exact hs.ordered.keys
    · rw [List.length_map, ← hs.length_eq]
      exact h.bounded
  · rintro ⟨l, h, hsound⟩
    obtain ⟨s, hs, hl⟩ := h.items
    refine hs.coherent ?_
    have hbounded := hsound.bounded
    rwa [hl, List.length_map, ← h.maxSize] at hbounded

/-- A new cache is coherent. -/
theorem Coherent.start (maxSize ttl : Nat) : ({ maxSize, ttl } : Lru K V).Coherent :=
  coherent_iff.2 ⟨_, .start maxSize ttl, .start maxSize ttl⟩

variable [DecidableEq K]

/-- **One use** of a coherent cache leaves a coherent cache. -/
theorem Coherent.serve (h : c.Coherent) (call : CacheCall K V) : (c.serve call).2.Coherent := by
  obtain ⟨l, hl, hsound⟩ := coherent_iff.1 h
  exact coherent_iff.2 ⟨_, (hl.serve call).2, hsound.serve call⟩

theorem Coherent.after (h : c.Coherent) (calls : List (CacheCall K V)) :
    (c.after calls).Coherent := by
  induction calls generalizing c with
  | nil => exact h
  | cons call calls ih => exact ih (h.serve call)

/-! ### Making room -/

/-- The loop that makes room leads from one cache to another: it ends where there is room, and
evicts an entry in each round before.  A round without a tick is no part of it. -/
inductive MakesRoom : Lru K V → Lru K V → Prop
  | done {c : Lru K V} (h : c.entries.length < c.maxSize) : MakesRoom c c
  | round {c c' d : Lru K V} (h : c.maxSize ≤ c.entries.length) (he : c.evict = some c')
      (hrest : MakesRoom c' d) : MakesRoom c d

theorem MakesRoom.room (h : MakesRoom c d) : d.entries.length < d.maxSize := by
  induction h with
  | done h => exact h
  | round _ _ _ ih => exact ih

theorem evict_maxSize (h : c.evict = some c') : c'.maxSize = c.maxSize := by
  unfold Lru.evict at h
  split at h
  · cases h
  · obtain rfl := Option.some.inj h
    rfl

theorem MakesRoom.maxSize_eq (h : MakesRoom c d) : c.maxSize = d.maxSize := by
  induction h with
  | done => rfl
  | round _ he _ ih => rw [← ih, evict_maxSize he]

/-- The loop is run to its end within as many rounds as there are ticks. -/
theorem Represents.makesRoom (h : c.Represents s) (hsize : 0 < c.maxSize) {fuel : Nat}
    (hfuel : s.length ≤ fuel) : MakesRoom c (c.makeRoom fuel) := by
  induction fuel generalizing c s with
  | zero =>
    refine .done ?_
    rwa [h.length_eq, Nat.le_zero.1 hfuel]
  | succ fuel ih =>
    unfold Lru.makeRoom
    split
    · next hroom => exact .done hroom
    · next hfull =>
      cases s with
      | nil =>
        rw [h.length_eq] at hfull
        exact absurd hsize hfull
      | cons p s =>
        obtain ⟨c', hc', hs, hmax, -⟩ := h.evict
        rw [hc']
        exact .round (Nat.not_lt.1 hfull) hc' (ih hs (hmax ▸ hsize) (Nat.le_of_succ_le_succ hfuel))

theorem Coherent.makesRoom (h : c.Coherent) (hsize : 0 < c.maxSize) :
    MakesRoom c (c.makeRoom c.recency.length) := by
  obtain ⟨s, hs⟩ := h.exists_represents
  refine hs.makesRoom hsize (Nat.le_of_eq ?_)
  rw [hs.recency, List.length_map]

/-! ### Caches that are used from the start -/

theorem Refines.maxSize_serve (h : c.Refines l) (call : CacheCall K V) :
    (c.serve call).2.maxSize = c.maxSize := by
  rw [(h.serve call).2.maxSize, h.maxSize]
  cases call with
  | get k now =>
    show (l.get k now).2.maxSize = l.maxSize
    unfold LruList.get
    split
    · rfl
    · split <;> rfl
  | put k v now =>
    show (l.put k v now).maxSize = l.maxSize
    unfold LruList.put
    split <;> rfl
  | invalidate k => rfl
  | clear => rfl
  | size => rfl

theorem Refines.maxSize_after (h : c.Refines l) (calls : List (CacheCall K V)) :
    (c.after calls).maxSize = c.maxSize := by
  induction calls generalizing c l with
  | nil => rfl
  | cons call calls ih => exact (ih (h.serve call).2).trans (h.maxSize_serve call)

theorem remove_maxSize (c : Lru K V) (k : K) : (c.remove k).maxSize = c.maxSize := by
  unfold Lru.remove
  split <;> rfl

/-- **The two lists of a cache belong together**, whatever the uses from the start were and
whatever the clock read: the cache is coherent.  When it then stores something, the loop that makes
room runs to its end, with a tick in each of its rounds, and there is room for one entry. -/
theorem coherent_after (maxSize ttl : Nat) (calls : List (CacheCall K V)) :
    let c := ({ maxSize, ttl } : Lru K V).after calls
    c.Coherent ∧ c.maxSize = maxSize ∧
    ∀ k v now, 0 < maxSize → ∃ d, MakesRoom (c.remove k) d ∧ d.entries.length < maxSize ∧
      c.put k v now =
        { d with
          entries := d.entries ++ [(k, ⟨v, now, d.nextTick⟩)]
          recency := d.recency ++ [(d.nextTick, k)]
          nextTick := d.nextTick + 1 } := by
  intro c
  have hc : c.Coherent := (Coherent.start maxSize ttl).after calls
  have hmax : c.maxSize = maxSize := (Refines.start maxSize ttl).maxSize_after calls
  refine ⟨hc, hmax, fun k v now hsize => ?_⟩
  have hremove : (c.remove k).maxSize = maxSize := (c.remove_maxSize k).trans hmax
  have hloop : MakesRoom (c.remove k) ((c.remove k).makeRoom (c.remove k).recency.length) :=
    (hc.serve (.invalidate k)).makesRoom (hremove ▸ hsize)
  refine ⟨_, hloop, ?_, ?_⟩
  · have hroom := hloop.room
    rwa [← hloop.maxSize_eq, hremove] at hroom
  · rw [Lru.put, if_neg (hmax ▸ Nat.ne_of_gt hsize)]

/-- A cache with two places that is cleared, filled and read: the entry that was not read goes. -/
theorem coherent_after_full :
    let calls : List (CacheCall Nat Nat) :=
      [.put 1 10 0, .clear, .put 1 11 3, .put 2 20 4, .get 1 5]
    let c := ({ maxSize := 2, ttl := 10 } : Lru Nat Nat).after calls
    0 < 2 ∧ c.entries = [(1, ⟨11, 3, 3⟩), (2, ⟨20, 4, 2⟩)] ∧ c.recency = [(2, 2), (3, 1)] ∧
    (c.put 3 30 6).recency = [(3, 1), (4, 3)] ∧
    ∃ d, MakesRoom (c.remove 3) d ∧ d.entries.length < 2 ∧
      c.put 3 30 6 =
        { d with
          entries := d.entries ++ [(3, ⟨30, 6, d.nextTick⟩)]
          recency := d.recency ++ [(d.nextTick, 3)]
          nextTick := d.nextTick + 1 } := by
  intro calls c
  exact ⟨by decide, by decide, by decide, by decide,
    (coherent_after 2 10 calls).2.2 3 30 6 (by decide)⟩

end GraphLayer.Lru
