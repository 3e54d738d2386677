import Mathlib.Data.List.Nodup
import Mathlib.Data.List.Perm.Basic
import GraphLayer.Proofs.Cache.Keeping

/-!
# The cache as one list

* `CacheCall` and `CacheAnswer`, one use of a cache and what comes back; `Lru.answers` and
  `LruList.answers`, what comes back from several uses in a row;
* `Stamped.Ordered`, items in the order of their ticks, and `Lru.Represents`: the entries and the
  ticks of a cache are those of such items;
* `Lru.Refines`: the cache represents the items of a plain list; every operation keeps this and
  answers as the list does (`Lru.Refines.get`, `Lru.Refines.put`, `Lru.Refines.invalidate`,
  `Lru.Refines.clear`);
* `Lru.answers_eq`: whatever the uses and the readings of the clock, the cache and the list cannot
  be told apart.
-/

namespace GraphLayer

variable {K V : Type}

/-! ### Uses of a cache -/

/-- One use of a cache; `now` is a reading of the clock. -/
inductive CacheCall (K V : Type) where
  | get (key : K) (now : Nat)
  | put (key : K) (value : V) (now : Nat)
  | invalidate (key : K)
  | clear
  | size

/-- What comes back from a use of a cache. -/
inductive CacheAnswer (V : Type) where
  | found (value : Option V)
  /-- Whether a key was there. -/
  | removed (present : Bool)
  | size (n : Nat)
  | done
  deriving DecidableEq

section Uses

variable [DecidableEq K]

/-- One use of a cache. -/
def Lru.serve (c : Lru K V) : CacheCall K V → CacheAnswer V × Lru K V
  | .get k now => (.found (c.get k now).1, (c.get k now).2)
  | .put k v now => (.done, c.put k v now)
  | .invalidate k => (.removed (c.invalidate k).1, (c.invalidate k).2)
  | .clear => (.done, c.clear)
  | .size => (.size c.size, c)

/-- One use of a cache that is a list. -/
def LruList.serve (c : LruList K V) : CacheCall K V → CacheAnswer V × LruList K V
  | .get k now => (.found (c.get k now).1, (c.get k now).2)
  | .put k v now => (.done, c.put k v now)
  | .invalidate k => (.removed (c.invalidate k).1, (c.invalidate k).2)
  | .clear => (.done, c.clear)
  | .size => (.size c.size, c)

/-- What comes back from uses in a row. -/
def Lru.answers (c : Lru K V) : List (CacheCall K V) → List (CacheAnswer V)
  | [] => []
  | call :: calls => (c.serve call).1 :: (c.serve call).2.answers calls

/-- What comes back from uses in a row. -/
def LruList.answers (c : LruList K V) : List (CacheCall K V) → List (CacheAnswer V)
  | [] => []
  | call :: calls => (c.serve call).1 :: (c.serve call).2.answers calls

end Uses

/-! ### Items with their ticks -/

/-- An item of the list with the tick of its last use. -/
abbrev Stamped (K V : Type) := Nat × LruList.Item K V

namespace Stamped

/-- The entry of an item. -/
def entry (p : Stamped K V) : K × Lru.Entry V := (p.2.key, ⟨p.2.value, p.2.insertedAt, p.1⟩)

/-- The last use of an item. -/
def use (p : Stamped K V) : Nat × K := (p.1, p.2.key)

/-- Items of different keys in the order of their ticks, all of which are before the next one. -/
structure Ordered (s : List (Stamped K V)) (nextTick : Nat) : Prop where
  keys : (s.map fun p => p.2.key).Nodup
  ticks : (s.map Prod.fst).Pairwise (· < ·)
  below : ∀ p ∈ s, p.1 < nextTick

variable {s s' : List (Stamped K V)} {p q : Stamped K V} {n : Nat}

theorem Ordered.nil (n : Nat) : Ordered ([] : List (Stamped K V)) n := ⟨.nil, .nil, nofun⟩

theorem Ordered.eq_of_key (h : Ordered s n) (hp : p ∈ s) (hq : q ∈ s)
    (hk : p.2.key = q.2.key) : p = q :=
  List.inj_on_of_nodup_map h.keys hp hq hk

theorem Ordered.eq_of_tick (h : Ordered s n) (hp : p ∈ s) (hq : q ∈ s) (ht : p.1 = q.1) : p = q :=
  List.inj_on_of_nodup_map (h.ticks.imp Nat.ne_of_lt) hp hq ht

theorem Ordered.sublist (h : Ordered s n) (hs : s'.Sublist s) : Ordered s' n where
  keys := h.keys.sublist (hs.map _)
  ticks := h.ticks.sublist (hs.map _)
  below p hp := h.below p (hs.subset hp)

/-- A new item comes after all others, under the next tick. -/
theorem Ordered.concat (h : Ordered s n) {i : LruList.Item K V} (hk : ∀ p ∈ s, p.2.key ≠ i.key) :
    Ordered (s ++ [(n, i)]) (n + 1) where
  keys := by
    rw [List.map_append, List.nodup_append]
    refine ⟨h.keys, List.nodup_singleton _, ?_⟩
    intro a ha b hb
    obtain ⟨p, hp, rfl⟩ := List.mem_map.1 ha
    obtain rfl := List.mem_singleton.1 hb
    exact hk p hp
  ticks := by
    rw [List.map_append, List.pairwise_append]
    refine ⟨h.ticks, List.pairwise_singleton _ _, ?_⟩
    intro a ha b hb
    obtain ⟨p, hp, rfl⟩ := List.mem_map.1 ha
    obtain rfl := List.mem_singleton.1 hb
    exact h.below p hp
  below p hp := by
    rcases List.mem_append.1 hp with hp | hp
    · exact Nat.lt_succ_of_lt (h.below p hp)
    · obtain rfl := List.mem_singleton.1 hp
      exact Nat.lt_succ_self _

variable [DecidableEq K]

/-- The items apart from the one of a key. -/
def without (s : List (Stamped K V)) (k : K) : List (Stamped K V) :=
  s.filter fun p => p.2.key ≠ k

theorem without_eq_self {k : K} (h : ∀ p ∈ s, p.2.key ≠ k) : without s k = s :=
  List.filter_eq_self.2 fun p hp => decide_eq_true (h p hp)

theorem without_sublist (s : List (Stamped K V)) (k : K) : (without s k).Sublist s :=
  List.filter_sublist

theorem mem_without {k : K} : p ∈ without s k ↔ p ∈ s ∧ p.2.key ≠ k := by
  simp [without]

/-- The items are one of them and the others. -/
theorem Ordered.perm (h : Ordered s n) (hp : p ∈ s) : s.Perm (without s p.2.key ++ [p]) := by
  have hsplit :=
    (List.filter_append_perm (fun q : Stamped K V => decide (q.2.key ≠ p.2.key)) s).symm
  have hnodup : s.Nodup := List.Nodup.of_map _ h.keys
  have hone : s.filter (fun q => !decide (q.2.key ≠ p.2.key)) = [p] := by
    refine List.perm_singleton.1 ?_
    refine (List.perm_ext_iff_of_nodup (hnodup.filter _) (List.nodup_singleton p)).2 fun q => ?_
    simp only [List.mem_filter, decide_not, Bool.not_not, decide_eq_true_eq, List.mem_singleton]
    constructor
    · rintro ⟨hq, hk⟩
      exact h.eq_of_key hq hp hk
    · rintro rfl
      exact ⟨hp, rfl⟩
  rw [hone] at hsplit
  exact hsplit

end Stamped

/-! ### What a cache represents -/

namespace Lru

/-- The entries and the ticks of a cache are those of some items, from the one that was used least
recently to the one that was used most recently. -/
structure Represents (c : Lru K V) (s : List (Stamped K V)) : Prop where
  entries : c.entries.Perm (s.map Stamped.entry)
  recency : c.recency = s.map Stamped.use
  ordered : Stamped.Ordered s c.nextTick

variable {c c' : Lru K V} {s : List (Stamped K V)} {p : Stamped K V} {k : K}

namespace Represents

theorem nil (he : c.entries = []) (hr : c.recency = []) : c.Represents [] :=
  ⟨he ▸ .nil, hr, .nil _⟩

theorem length_eq (h : c.Represents s) : c.entries.length = s.length := by
  rw [h.entries.length_eq, List.length_map]

variable [DecidableEq K]

theorem ne_of_entry?_eq_none (h : c.Represents s) (he : c.entry? k = none) :
    ∀ p ∈ s, p.2.key ≠ k := by
  intro p hp hk
  have hnone : ∀ q ∈ c.entries, ¬ q.1 = k := by
    simpa using List.find?_eq_none.1 (Option.map_eq_none_iff.1 he)
  exact hnone p.entry (h.entries.mem_iff.2 (List.mem_map_of_mem hp)) hk

theorem exists_of_entry? (h : c.Represents s) {e : Entry V} (he : c.entry? k = some e) :
    ∃ p ∈ s, p.2.key = k ∧ e = ⟨p.2.value, p.2.insertedAt, p.1⟩ := by
  obtain ⟨p, hp, heq⟩ := List.mem_map.1 (h.entries.mem_iff.1 (mem_entries he))
  obtain ⟨rfl, rfl⟩ := Prod.mk.inj heq
  exact ⟨p, hp, rfl, rfl⟩

theorem filter_entries (h : c.Represents s) (k : K) :
    (c.entries.filter fun q => q.1 ≠ k).Perm ((Stamped.without s k).map Stamped.entry) := by
  have hfilter := h.entries.filter fun q => decide (q.1 ≠ k)
  rw [List.filter_map] at hfilter
  exact hfilter

/-- The tick of an item is its own, as its key is. -/
theorem filter_recency (h : c.Represents s) (hp : p ∈ s) :
    (c.recency.filter fun q => q.1 ≠ p.1) = (Stamped.without s p.2.key).map Stamped.use := by
  have hiff : ∀ q ∈ s, decide (q.1 ≠ p.1) = decide (q.2.key ≠ p.2.key) := by
    intro q hq
    refine decide_eq_decide.2 (not_congr ⟨fun ht => ?_, fun hk => ?_⟩)
    · rw [h.ordered.eq_of_tick hq hp ht]
    · rw [h.ordered.eq_of_key hq hp hk]
  rw [h.recency, List.filter_map, Stamped.without]
  exact congrArg _ (List.filter_congr hiff)

theorem remove (h : c.Represents s) (k : K) : (c.remove k).Represents (Stamped.without s k) := by
  unfold Lru.remove
  split
  · rename_i he
    rw [Stamped.without_eq_self (h.ne_of_entry?_eq_none he)]
    exact h
  · rename_i e he
    obtain ⟨p, hp, rfl, rfl⟩ := h.exists_of_entry? he
    exact ⟨h.filter_entries _, h.filter_recency hp,
      h.ordered.sublist (Stamped.without_sublist s _)⟩

theorem touch (h : c.Represents s) (hp : p ∈ s) :
    (c.touch p.2.key).Represents (Stamped.without s p.2.key ++ [(c.nextTick, p.2)]) := by
  have hordered := (h.ordered.sublist (Stamped.without_sublist s p.2.key)).concat
    fun q hq => (Stamped.mem_without.1 hq).2
  cases he : c.entry? p.2.key with
  | none => exact absurd rfl (h.ne_of_entry?_eq_none he p hp)
  | some e =>
    obtain ⟨q, hq, hk, rfl⟩ := h.exists_of_entry? he
    obtain rfl := h.ordered.eq_of_key hq hp hk
    simp only [Lru.touch, he]
    refine ⟨?_, ?_, hordered⟩
    · -- the entry is replaced at its place, while the item goes to the end
      let f : K × Entry V → K × Entry V := fun r =>
        if r.1 = q.2.key then (q.2.key, ⟨q.2.value, q.2.insertedAt, c.nextTick⟩) else r
      have hperm := (h.entries.trans ((h.ordered.perm hq).map Stamped.entry)).map f
      have hkept : ((Stamped.without s q.2.key).map Stamped.entry).map f =
          (Stamped.without s q.2.key).map Stamped.entry := by
        rw [List.map_map]
        exact List.map_congr_left fun r hr => if_neg (Stamped.mem_without.1 hr).2
      have hlast : f q.entry = Stamped.entry (c.nextTick, q.2) := if_pos rfl
      simpa only [List.map_append, hkept, List.map_cons, List.map_nil, hlast] using hperm
    · rw [List.map_append, h.filter_recency hq]
      rfl

theorem evict (h : c.Represents (p :: s)) : ∃ c', c.evict = some c' ∧ c'.Represents s ∧
    c'.maxSize = c.maxSize ∧ c'.ttl = c.ttl := by
  have hrecency : c.recency = p.use :: s.map Stamped.use := h.recency
  have hs : Stamped.without (p :: s) p.2.key = s := by
    have hp := (List.nodup_cons.1 h.ordered.keys).1
    rw [Stamped.without, List.filter_cons_of_neg (by simp)]
    exact Stamped.without_eq_self fun q hq hk => hp (List.mem_map.2 ⟨q, hq, hk⟩)
  have hentries := h.filter_entries p.2.key
  rw [hs] at hentries
  refine ⟨{ c with
    entries := c.entries.filter fun q => q.1 ≠ p.2.key
    recency := s.map Stamped.use }, ?_, ?_, rfl, rfl⟩
  · simp only [Lru.evict, hrecency, Stamped.use]
  · exact ⟨hentries, rfl, h.ordered.sublist (List.sublist_cons_self p s)⟩

/-- The loop that makes room drops the items that were used least recently, and as many as it
must. -/
theorem makeRoom (h : c.Represents s) (hsize : 0 < c.maxSize) {fuel : Nat}
    (hfuel : s.length ≤ fuel) :
    (c.makeRoom fuel).Represents (s.drop (s.length - (c.maxSize - 1))) ∧
      (c.makeRoom fuel).maxSize = c.maxSize ∧ (c.makeRoom fuel).ttl = c.ttl := by
  induction fuel generalizing c s with
  | zero =>
    obtain rfl := List.length_eq_zero_iff.1 (Nat.le_zero.1 hfuel)
    rw [List.drop_nil]
    exact ⟨h, rfl, rfl⟩
  | succ fuel ih =>
    unfold Lru.makeRoom
    split
    · rename_i hroom
      rw [h.length_eq] at hroom
      have hdrop : s.length - (c.maxSize - 1) = 0 := by omega
      rw [hdrop]
      exact ⟨h, rfl, rfl⟩
    · rename_i hfull
      rw [h.length_eq] at hfull
      cases s with
      | nil => exact absurd hsize hfull
      | cons p s =>
        obtain ⟨c', hc', hs, hmax, httl⟩ := h.evict
        have ih := ih hs (hmax ▸ hsize) (Nat.le_of_succ_le_succ hfuel)
        rw [hmax, httl] at ih
        have hdrop : (p :: s).length - (c.maxSize - 1) = (s.length - (c.maxSize - 1)) + 1 := by
          rw [List.length_cons] at hfull ⊢
          omega
        rw [hdrop, List.drop_succ_cons]
        simpa only [hc'] using ih

end Represents

/-! ### The refinement -/

/-- The cache represents the items of a list with the same bounds. -/
structure Refines (c : Lru K V) (l : LruList K V) : Prop where
  maxSize : c.maxSize = l.maxSize
  ttl : c.ttl = l.ttl
  items : ∃ s, c.Represents s ∧ l.items = s.map Prod.snd

namespace Refines

variable {l : LruList K V}

/-- A new cache is an empty list. -/
theorem start (maxSize ttl : Nat) :
    ({ maxSize, ttl } : Lru K V).Refines ({ maxSize, ttl } : LruList K V) :=
  ⟨rfl, rfl, [], .nil rfl rfl, rfl⟩

theorem size (h : c.Refines l) : c.size = l.size := by
  obtain ⟨s, hs, hl⟩ := h.items
  rw [Lru.size, LruList.size, hs.length_eq, hl, List.length_map]

theorem clear (h : c.Refines l) : c.clear.Refines l.clear :=
  ⟨h.maxSize, h.ttl, [], .nil rfl rfl, rfl⟩

variable [DecidableEq K]

/-- A key is found in the cache and in the list alike. -/
theorem find?_eq (h : c.Refines l) (k : K) :
    l.find? k = (c.entry? k).map fun e => ⟨k, e.value, e.insertedAt⟩ := by
  obtain ⟨s, hs, hl⟩ := h.items
  cases he : c.entry? k with
  | none =>
    refine List.find?_eq_none.2 fun i hi => ?_
    rw [hl] at hi
    obtain ⟨p, hp, rfl⟩ := List.mem_map.1 hi
    simpa using hs.ne_of_entry?_eq_none he p hp
  | some e =>
    obtain ⟨p, hp, rfl, rfl⟩ := hs.exists_of_entry? he
    cases hf : l.find? p.2.key with
    | none =>
      have hi : p.2 ∈ l.items := hl ▸ List.mem_map_of_mem hp
      exact absurd (decide_eq_true rfl) (List.find?_eq_none.1 hf p.2 hi)
    | some i =>
      have hi := List.mem_of_find?_eq_some hf
      rw [hl] at hi
      obtain ⟨q, hq, rfl⟩ := List.mem_map.1 hi
      have hk : q.2.key = p.2.key := by simpa using List.find?_some hf
      rw [hs.ordered.eq_of_key hq hp hk]
      rfl

theorem items_without {s : List (Stamped K V)} (hl : l.items = s.map Prod.snd) (k : K) :
    l.without k = (Stamped.without s k).map Prod.snd := by
  rw [LruList.without, hl, List.filter_map]
  rfl

theorem remove (h : c.Refines l) (k : K) :
    (c.remove k).Refines { l with items := l.without k } := by
  obtain ⟨s, hs, hl⟩ := h.items
  refine ⟨?_, ?_, _, hs.remove k, items_without hl k⟩
  · rw [← h.maxSize]
    unfold Lru.remove
    split <;> rfl
  · rw [← h.ttl]
    unfold Lru.remove
    split <;> rfl

theorem invalidate (h : c.Refines l) (k : K) :
    (c.invalidate k).1 = (l.invalidate k).1 ∧
      (c.invalidate k).2.Refines (l.invalidate k).2 := by
  refine ⟨?_, h.remove k⟩
  simp only [Lru.invalidate, LruList.invalidate, h.find?_eq k, Option.isSome_map]

theorem get (h : c.Refines l) (k : K) (now : Nat) :
    (c.get k now).1 = (l.get k now).1 ∧ (c.get k now).2.Refines (l.get k now).2 := by
  have hfind := h.find?_eq k
  unfold Lru.get LruList.get
  cases he : c.entry? k with
  | none =>
    rw [hfind, he]
    exact ⟨rfl, h⟩
  | some e =>
    rw [hfind, he, h.ttl]
    simp only [Option.map_some]
    split
    · exact ⟨rfl, h.remove k⟩
    · obtain ⟨s, hs, hl⟩ := h.items
      obtain ⟨p, hp, rfl, rfl⟩ := hs.exists_of_entry? he
      refine ⟨rfl, ?_, ?_, _, hs.touch hp, ?_⟩
      · simp only [Lru.touch, he, h.maxSize]
      · simp only [Lru.touch, he, h.ttl]
      · rw [items_without hl, List.map_append]
        rfl

theorem put (h : c.Refines l) (k : K) (v : V) (now : Nat) :
    (c.put k v now).Refines (l.put k v now) := by
  unfold Lru.put LruList.put
  rw [h.maxSize]
  split
  · exact h
  · rename_i hsize
    have hrest := h.remove k
    obtain ⟨s, hs, hl⟩ := h.items
    have hs := hs.remove k
    have hl := items_without hl k
    have hpos : 0 < (c.remove k).maxSize := by
      rw [hrest.maxSize]
      exact Nat.pos_of_ne_zero hsize
    have hticks : (c.remove k).recency.length = (Stamped.without s k).length := by
      rw [hs.recency, List.length_map]
    obtain ⟨hroom, hmax, httl⟩ := hs.makeRoom hpos (Nat.le_of_eq hticks.symm)
    have hordered := hroom.ordered.concat (i := ⟨k, v, now⟩) fun p hp =>
      (Stamped.mem_without.1 (List.mem_of_mem_drop hp)).2
    refine ⟨hmax.trans hrest.maxSize, httl.trans hrest.ttl, _, ⟨?_, ?_, hordered⟩, ?_⟩
    · rw [List.map_append]
      exact hroom.entries.append_right _
    · rw [List.map_append, ← hroom.recency]
      rfl
    · rw [List.map_append, List.map_drop, ← hl, hrest.maxSize, ← List.length_map (f := Prod.snd),
        ← hl]
      rfl

/-- **One use of a cache** keeps the refinement, and answers as the list does. -/
theorem serve (h : c.Refines l) (call : CacheCall K V) :
    (c.serve call).1 = (l.serve call).1 ∧ (c.serve call).2.Refines (l.serve call).2 := by
  cases call with
  | get k now => exact ⟨congrArg _ (h.get k now).1, (h.get k now).2⟩
  | put k v now => exact ⟨rfl, h.put k v now⟩
  | invalidate k => exact ⟨congrArg _ (h.invalidate k).1, (h.invalidate k).2⟩
  | clear => exact ⟨rfl, h.clear⟩
  | size => exact ⟨congrArg _ h.size, h⟩

theorem answers (h : c.Refines l) (calls : List (CacheCall K V)) :
    c.answers calls = l.answers calls := by
  induction calls generalizing c l with
  | nil => rfl
  | cons call calls ih =>
    obtain ⟨hanswer, hrest⟩ := h.serve call
    rw [Lru.answers, LruList.answers, hanswer, ih hrest]

end Refines

/-- **The cache is the list** of its entries from least to most recently used: no uses in a row,
whatever the clock reads, tell the two apart. -/
theorem answers_eq [DecidableEq K] (maxSize ttl : Nat) (calls : List (CacheCall K V)) :
    ({ maxSize, ttl } : Lru K V).answers calls = ({ maxSize, ttl } : LruList K V).answers calls :=
  (Refines.start maxSize ttl).answers calls

end Lru

end GraphLayer
