import GraphLayer.Cache.Store

/-!
# Stores that give back only what was put into them

* `CacheStore.Keeps`: the contents of a store stay within a property of keys and values, as long as
  only such values are put;
* `Lru.Holds` and `CacheStore.lru_keeps`: a store kept in an `Lru` cache does so, whatever its size
  and its time to live.
-/

namespace GraphLayer

/-- A store whose values have a property of their keys, where `Held` is what this says of its
contents.  No operation may bring in a value but `put`. -/
structure CacheStore.Keeps {σ V : Type} (store : CacheStore σ V) (P : CacheKey → V → Prop)
    (Held : σ → Prop) : Prop where
  get : ∀ c k now, Held c → Held (store.get c k now).2
  value : ∀ c k now v, Held c → (store.get c k now).1 = .ok (some v) → P k v
  put : ∀ c k v now, Held c → P k v → Held (store.put c k v now).2
  invalidate : ∀ c k, Held c → Held (store.invalidate c k).2
  clear : ∀ c, Held c → Held (store.clear c).2

namespace Lru

variable {K V : Type}

/-- Every entry has a property of its key and its value. -/
def Holds (P : K → V → Prop) (c : Lru K V) : Prop := ∀ p ∈ c.entries, P p.1 p.2.value

variable {P : K → V → Prop} {c c' : Lru K V}

theorem holds_of_empty (h : c.entries = []) : c.Holds P := by
  intro p hp
  rw [h] at hp
  cases hp

theorem Holds.of_subset (h : c.Holds P) (hsub : c'.entries ⊆ c.entries) : c'.Holds P :=
  fun p hp => h p (hsub hp)

variable [DecidableEq K]

theorem mem_entries {k : K} {e : Entry V} (h : c.entry? k = some e) : (k, e) ∈ c.entries := by
  unfold entry? at h
  obtain ⟨⟨k', e'⟩, hp, rfl⟩ := Option.map_eq_some_iff.1 h
  obtain rfl : k' = k := by simpa using List.find?_some hp
  exact List.mem_of_find?_eq_some hp

theorem Holds.remove (h : c.Holds P) (k : K) : (c.remove k).Holds P := by
  unfold Lru.remove
  split
  · exact h
  · exact h.of_subset List.filter_sublist.subset

theorem Holds.touch (h : c.Holds P) (k : K) : (c.touch k).Holds P := by
  unfold Lru.touch
  split
  · exact h
  · rename_i e he
    intro p hp
    obtain ⟨q, hq, rfl⟩ := List.mem_map.1 hp
    -- the entry that is touched keeps its value
    split
    · exact h (k, e) (mem_entries he)
    · exact h q hq

theorem Holds.evict (h : c.Holds P) (hc : c.evict = some c') : c'.Holds P := by
  unfold Lru.evict at hc
  split at hc
  · cases hc
  · obtain rfl := Option.some.inj hc
    exact h.of_subset List.filter_sublist.subset

theorem Holds.makeRoom (h : c.Holds P) (fuel : Nat) : (c.makeRoom fuel).Holds P := by
  induction fuel generalizing c with
  | zero => exact h
  | succ fuel ih =>
    unfold Lru.makeRoom
    split
    · exact h
    · split
      · exact h
      · rename_i c₁ hc₁
        exact ih (h.evict hc₁)

theorem Holds.get (h : c.Holds P) (k : K) (now : Nat) : (c.get k now).2.Holds P := by
  unfold Lru.get
  split
  · exact h
  · split
    · exact h.remove k
    · exact h.touch k

/-- A value that is found was held. -/
theorem Holds.value (h : c.Holds P) {k : K} {now : Nat} {v : V} (hv : (c.get k now).1 = some v) :
    P k v := by
  unfold Lru.get at hv
  split at hv
  · cases hv
  · rename_i e he
    split at hv
    · cases hv
    · obtain rfl := Option.some.inj hv
      exact h (k, e) (mem_entries he)

theorem Holds.put (h : c.Holds P) {k : K} {v : V} (hv : P k v) (now : Nat) :
    (c.put k v now).Holds P := by
  unfold Lru.put
  split
  · exact h
  · intro p hp
    rcases List.mem_append.1 hp with hp | hp
    · exact (h.remove k).makeRoom _ p hp
    · obtain rfl := List.mem_singleton.1 hp
      exact hv

end Lru

/-- **An `Lru` cache gives back only what was put into it.** -/
theorem CacheStore.lru_keeps {V : Type} (P : CacheKey → V → Prop) :
    (CacheStore.lru V).Keeps P (Lru.Holds P) where
  get _ k now h := h.get k now
  value _ _ _ _ h hv := h.value (Except.ok.inj hv)
  put _ _ _ now h hv := h.put hv now
  invalidate _ k h := h.remove k
  clear _ _ := Lru.holds_of_empty rfl

end GraphLayer
