import GraphLayer.Proofs.Cache.Refinement

/-!
# Caches of different sizes

Two caches with the same time to live are used in the same way, at the same readings of the clock,
and one of them may hold more than the other.

* `Lru.after`: a cache after several uses in a row;
* `LruList.Sound`: a list with one item of each key and no more items than it may have;
* `LruList.Within`: one list is a part of another, in the same order of use, and has no more free
  places than that one.  The second half carries the first: the larger list drops an item only
  when the smaller one is full as well, and then both drop what was used least recently;
* `LruList.Within.serve`: one use keeps this, and what the smaller list finds the larger one finds;
* `Lru.larger_keeps`: a larger cache holds and finds all that a smaller one holds and finds.
-/

namespace GraphLayer

variable {K V : Type}

section After

variable [DecidableEq K]

/-- A cache after uses in a row. -/
def Lru.after (c : Lru K V) (calls : List (CacheCall K V)) : Lru K V :=
  calls.foldl (fun c call => (c.serve call).2) c

/-- A cache that is a list after uses in a row. -/
def LruList.after (l : LruList K V) (calls : List (CacheCall K V)) : LruList K V :=
  calls.foldl (fun l call => (l.serve call).2) l

end After

/-- An answer that finds a value is matched by an answer that finds the same one. -/
def CacheAnswer.Finds (a b : CacheAnswer V) : Prop := ∀ v, a = found (some v) → b = found (some v)

namespace LruList

variable {l l' : LruList K V} {i : Item K V} {k : K}

/-! ### Sound lists, and lists within each other -/

/-- One item of each key, and no more items than there may be. -/
structure Sound (l : LruList K V) : Prop where
  keys : (l.items.map Item.key).Nodup
  bounded : l.items.length ≤ l.maxSize

/-- One list is a part of another and has no more free places. -/
structure Within (l l' : LruList K V) : Prop where
  ttl : l.ttl = l'.ttl
  maxSize : l.maxSize ≤ l'.maxSize
  items : l.items.Sublist l'.items
  /-- The free places of the larger list are as many as those of the smaller one, or more. -/
  free : l.maxSize + l'.items.length ≤ l'.maxSize + l.items.length

/-- A new list is sound. -/
theorem Sound.start (maxSize ttl : Nat) : ({ maxSize, ttl } : LruList K V).Sound :=
  ⟨.nil, Nat.zero_le _⟩

theorem Sound.sublist (h : l.Sound) {items : List (Item K V)} (hs : items.Sublist l.items) :
    ({ l with items } : LruList K V).Sound :=
  ⟨h.keys.sublist (hs.map _), Nat.le_trans hs.length_le h.bounded⟩

/-- An item of another key finds its place at the end, if there is one. -/
theorem Sound.concat (h : l.Sound) (hk : ∀ j ∈ l.items, j.key ≠ i.key)
    (hroom : l.items.length < l.maxSize) :
    ({ l with items := l.items ++ [i] } : LruList K V).Sound := by
  constructor
  · rw [List.map_append, List.nodup_append]
    refine ⟨h.keys, List.nodup_singleton _, ?_⟩
    intro a ha b hb
    obtain ⟨j, hj, rfl⟩ := List.mem_map.1 ha
    obtain rfl := List.mem_singleton.1 hb
    exact hk j hj
  · rw [List.length_append]
    exact hroom

/-- Of two new lists one is within the other. -/
theorem Within.start {m n : Nat} (h : m ≤ n) (ttl : Nat) :
    ({ maxSize := m, ttl } : LruList K V).Within { maxSize := n, ttl } :=
  ⟨rfl, h, .slnil, h⟩

theorem Within.concat (h : l.Within l') (i : Item K V) :
    ({ l with items := l.items ++ [i] } : LruList K V).Within
      { l' with items := l'.items ++ [i] } where
  ttl := h.ttl
  maxSize := h.maxSize
  items := h.items.append_right [i]
  free := by
    have hfree := h.free
    simp only [List.length_append]
    omega

/-- Where both lists make room for one item more, the smaller one drops no less. -/
theorem Within.drop (h : l.Within l') (hpos : 0 < l.maxSize) :
    ({ l with items := l.items.drop (l.items.length - (l.maxSize - 1)) } : LruList K V).Within
      { l' with items := l'.items.drop (l'.items.length - (l'.maxSize - 1)) } where
  ttl := h.ttl
  maxSize := h.maxSize
  items := by
    have hfree := h.free
    have hless : l'.items.length - (l'.maxSize - 1) ≤ l.items.length - (l.maxSize - 1) := by omega
    exact (List.drop_sublist_drop_left _ hless).trans (h.items.drop _)
  free := by
    have hfree := h.free
    have hsize := h.maxSize
    simp only [List.length_drop]
    omega

/-! ### Keys -/

variable [DecidableEq K]

theorem without_sublist (l : LruList K V) (k : K) : (l.without k).Sublist l.items :=
  List.filter_sublist

theorem key_ne_of_mem_without (h : i ∈ l.without k) : i.key ≠ k := by
  simpa using (List.mem_filter.1 h).2

theorem mem_of_find? (h : l.find? k = some i) : i ∈ l.items ∧ i.key = k :=
  ⟨List.mem_of_find?_eq_some h, by simpa using List.find?_some h⟩

theorem without_of_find?_eq_none (h : l.find? k = none) : l.without k = l.items := by
  refine List.filter_eq_self.2 fun i hi => ?_
  simpa using List.find?_eq_none.1 h i hi

/-- The items are those of a key and the others. -/
theorem length_without (l : LruList K V) (k : K) :
    (l.without k).length + (l.items.countP fun i => i.key = k) = l.items.length := by
  have hsplit := List.length_eq_countP_add_countP (fun i : Item K V => decide (i.key = k))
    (l := l.items)
  simp only [decide_eq_true_eq] at hsplit
  simp only [without, ← List.countP_eq_length_filter, ne_eq]
  omega

/-- Something is taken out with a key that is found. -/
theorem length_without_lt (h : l.find? k = some i) : (l.without k).length < l.items.length := by
  obtain ⟨hi, hk⟩ := mem_of_find? h
  have hpos : 0 < l.items.countP fun i => i.key = k := List.countP_pos_iff.2 ⟨i, hi, by simpa⟩
  have hsplit := l.length_without k
  omega

/-! ### Uses of a sound list -/

namespace Sound

theorem find?_eq (h : l.Sound) (hi : i ∈ l.items) (hk : i.key = k) : l.find? k = some i := by
  cases hf : l.find? k with
  | none => exact absurd (by simpa using hk) (List.find?_eq_none.1 hf i hi)
  | some j =>
    obtain ⟨hj, hkey⟩ := mem_of_find? hf
    rw [List.inj_on_of_nodup_map h.keys hj hi (hkey.trans hk.symm)]

theorem get (h : l.Sound) (k : K) (now : Nat) : (l.get k now).2.Sound := by
  have hrest := h.sublist (l.without_sublist k)
  unfold LruList.get
  split
  · exact h
  · next i hi =>
    split
    · exact hrest
    · have hroom := Nat.lt_of_lt_of_le (length_without_lt hi) h.bounded
      refine hrest.concat (fun j hj => ?_) hroom
      rw [(mem_of_find? hi).2]
      exact key_ne_of_mem_without hj

theorem put (h : l.Sound) (k : K) (v : V) (now : Nat) : (l.put k v now).Sound := by
  unfold LruList.put
  split
  · exact h
  · next hsize =>
    have hrest := h.sublist ((List.drop_sublist ((l.without k).length - (l.maxSize - 1)) _).trans
      (l.without_sublist k))
    refine hrest.concat (fun j hj => key_ne_of_mem_without (List.mem_of_mem_drop hj)) ?_
    simp only [List.length_drop]
    omega

/-- **One use** of a sound list leaves a sound list. -/
theorem serve (h : l.Sound) (call : CacheCall K V) : (l.serve call).2.Sound := by
  cases call with
  | get k now => exact h.get k now
  | put k v now => exact h.put k v now
  | invalidate k => exact h.sublist (l.without_sublist k)
  | clear => exact h.sublist (List.nil_sublist _)
  | size => exact h

end Sound

/-! ### Uses of two lists -/

namespace Within

/-- A key that is taken out of both lists leaves no fewer places in the larger one. -/
theorem without (h : l.Within l') (k : K) :
    ({ l with items := l.without k } : LruList K V).Within
      { l' with items := l'.without k } where
  ttl := h.ttl
  maxSize := h.maxSize
  items := h.items.filter _
  free := by
    have hfree := h.free
    have hsplit := l.length_without k
    have hsplit' := l'.length_without k
    have hcount := h.items.countP_le (p := fun i => decide (i.key = k))
    dsimp only
    omega

theorem find?_eq (h : l.Within l') (hsound : l'.Sound) (hi : l.find? k = some i) :
    l'.find? k = some i :=
  have hmem := mem_of_find? hi
  hsound.find?_eq (h.items.subset hmem.1) hmem.2

/-- What the smaller list finds, the larger one finds.  An item that only the larger list has may
move or expire there; neither takes places away. -/
theorem get (h : l.Within l') (hsound : l'.Sound) (k : K) (now : Nat) :
    (∀ v, (l.get k now).1 = some v → (l'.get k now).1 = some v) ∧
      (l.get k now).2.Within (l'.get k now).2 := by
  have hrest := h.without k
  cases hi : l.find? k with
  | some i =>
    have hi' := h.find?_eq hsound hi
    simp only [LruList.get, hi, hi', h.ttl]
    split
    · exact ⟨nofun, h.ttl ▸ hrest⟩
    · exact ⟨fun v hv => hv, h.ttl ▸ hrest.concat i⟩
  | none =>
    rw [without_of_find?_eq_none hi] at hrest
    have hmiss : l.get k now = (none, l) := by simp only [LruList.get, hi]
    rw [hmiss]
    refine ⟨nofun, ?_⟩
    cases hi' : l'.find? k with
    | none => simpa only [LruList.get, hi'] using h
    | some i =>
      simp only [LruList.get, hi']
      split
      · exact hrest
      · refine ⟨h.ttl, h.maxSize, hrest.items.trans (List.sublist_append_left _ _), ?_⟩
        have hfree := h.free
        have hmoved := length_without_lt hi'
        simp only [List.length_append, List.length_singleton]
        omega

theorem put (h : l.Within l') (hl : l.Sound) (hl' : l'.Sound) (k : K) (v : V) (now : Nat) :
    (l.put k v now).Within (l'.put k v now) := by
  by_cases hsize : l.maxSize = 0
  · -- a list without room stays empty, whatever the other one takes in
    have hempty : l.items = [] := by
      have hbounded := hl.bounded
      rw [hsize] at hbounded
      exact List.eq_nil_of_length_eq_zero (Nat.le_zero.1 hbounded)
    have hsame : l.put k v now = l := if_pos hsize
    have hbounded' := (hl'.put k v now).bounded
    have hkept : (l'.put k v now).maxSize = l'.maxSize ∧ (l'.put k v now).ttl = l'.ttl := by
      unfold LruList.put
      split <;> exact ⟨rfl, rfl⟩
    rw [hsame]
    refine ⟨h.ttl.trans hkept.2.symm, hkept.1 ▸ h.maxSize, ?_, ?_⟩
    · rw [hempty]
      exact List.nil_sublist _
    · rw [hsize, hempty]
      simpa using hbounded'
  · have hsize' : l'.maxSize ≠ 0 := by
      have hle := h.maxSize
      omega
    simp only [LruList.put, if_neg hsize, if_neg hsize']
    exact ((h.without k).drop (Nat.pos_of_ne_zero hsize)).concat _

/-- **One use of both lists** keeps one within the other, and finds in the larger list what it
finds in the smaller one. -/
theorem serve (h : l.Within l') (hl : l.Sound) (hl' : l'.Sound) (call : CacheCall K V) :
    CacheAnswer.Finds (l.serve call).1 (l'.serve call).1 ∧
      (l.serve call).2.Within (l'.serve call).2 := by
  cases call with
  | get k now =>
    obtain ⟨hfinds, hrest⟩ := h.get hl' k now
    refine ⟨fun v hv => ?_, hrest⟩
    exact congrArg CacheAnswer.found (hfinds v (CacheAnswer.found.inj hv))
  | put k v now => exact ⟨nofun, h.put hl hl' k v now⟩
  | invalidate k => exact ⟨nofun, h.without k⟩
  | clear => exact ⟨nofun, h.ttl, h.maxSize, .slnil, h.maxSize⟩
  | size => exact ⟨nofun, h⟩

/-- **Uses in a row** keep one list within the other, and find in the larger list whatever they
find in the smaller one. -/
theorem run (h : l.Within l') (hl : l.Sound) (hl' : l'.Sound) (calls : List (CacheCall K V)) :
    List.Forall₂ CacheAnswer.Finds (l.answers calls) (l'.answers calls) ∧
      (l.after calls).Within (l'.after calls) := by
  induction calls generalizing l l' with
  | nil => exact ⟨.nil, h⟩
  | cons call calls ih =>
    obtain ⟨hfinds, hnext⟩ := h.serve hl hl' call
    obtain ⟨hrest, hend⟩ := ih hnext (hl.serve call) (hl'.serve call)
    exact ⟨.cons hfinds hrest, hend⟩

end Within

end LruList

/-! ### Caches -/

namespace Lru

variable {c : Lru K V} {l : LruList K V}

/-- The items of the list are the entries of the cache, apart from their ticks. -/
theorem Refines.mem_items_iff (h : c.Refines l) {k : K} {v : V} {t : Nat} :
    ⟨k, v, t⟩ ∈ l.items ↔ ∃ tick, (k, ⟨v, t, tick⟩) ∈ c.entries := by
  obtain ⟨s, hs, hl⟩ := h.items
  rw [hl]
  constructor
  · intro hi
    obtain ⟨p, hp, heq⟩ := List.mem_map.1 hi
    have hentry := hs.entries.mem_iff.2 (List.mem_map_of_mem hp)
    rw [Stamped.entry, heq] at hentry
    exact ⟨p.1, hentry⟩
  · rintro ⟨tick, he⟩
    obtain ⟨p, hp, heq⟩ := List.mem_map.1 (hs.entries.mem_iff.1 he)
    obtain ⟨rfl, hvalue⟩ := Prod.mk.inj heq
    obtain ⟨rfl, rfl, -⟩ := Lru.Entry.mk.inj hvalue
    exact List.mem_map_of_mem hp

variable [DecidableEq K]

theorem Refines.after (h : c.Refines l) (calls : List (CacheCall K V)) :
    (c.after calls).Refines (l.after calls) := by
  induction calls generalizing c l with
  | nil => exact h
  | cons call calls ih => exact ih (h.serve call).2

/-- **A larger cache never loses a hit.**  Two caches are used in the same way, from the start and
at the same readings of the clock, and the second one may hold more.

* Whatever the uses were, each entry of the smaller cache is in the larger one, with the same value
  and the same time of insertion.
* Answer by answer, what is found in the smaller cache is found in the larger one. -/
theorem larger_keeps {m n : Nat} (h : m ≤ n) (ttl : Nat) (calls : List (CacheCall K V)) :
    let small : Lru K V := { maxSize := m, ttl }
    let large : Lru K V := { maxSize := n, ttl }
    (∀ k v t tick, (k, ⟨v, t, tick⟩) ∈ (small.after calls).entries →
      ∃ tick, (k, ⟨v, t, tick⟩) ∈ (large.after calls).entries) ∧
    List.Forall₂ CacheAnswer.Finds (small.answers calls) (large.answers calls) := by
  intro small large
  have hsmall : small.Refines { maxSize := m, ttl } := .start m ttl
  have hlarge : large.Refines { maxSize := n, ttl } := .start n ttl
  obtain ⟨hfinds, hend⟩ := (LruList.Within.start h ttl).run (.start m ttl) (.start n ttl)
    calls
  constructor
  · intro k v t tick he
    have hitem := (hsmall.after calls).mem_items_iff.2 ⟨tick, he⟩
    exact (hlarge.after calls).mem_items_iff.1 (hend.items.subset hitem)
  · rw [hsmall.answers calls, hlarge.answers calls]
    exact hfinds

/-- Three places instead of two: the first key is found in the larger cache only, where it becomes
the most recent one, and the third key is taken out of both. -/
theorem larger_keeps_of_two :
    let calls : List (CacheCall Nat Nat) := [.put 1 10 0, .put 2 20 4, .put 3 30 2, .get 1 5,
      .invalidate 3, .put 4 40 6, .put 5 50 7, .get 4 1, .get 2 9, .get 1 8, .get 1 10]
    let small : Lru Nat Nat := { maxSize := 2, ttl := 10 }
    let large : Lru Nat Nat := { maxSize := 3, ttl := 10 }
    2 ≤ 3 ∧ (small.answers calls)[3]? = some (.found none) ∧
    (large.answers calls)[3]? = some (.found (some 10)) ∧
    (small.after calls).entries = [(4, ⟨40, 6, 5⟩), (5, ⟨50, 7, 4⟩)] ∧
    (∀ k v t tick, (k, ⟨v, t, tick⟩) ∈ (small.after calls).entries →
      ∃ tick, (k, ⟨v, t, tick⟩) ∈ (large.after calls).entries) ∧
    List.Forall₂ CacheAnswer.Finds (small.answers calls) (large.answers calls) := by
  intro calls small large
  exact ⟨by decide, by decide, by decide, by decide, larger_keeps (by decide) 10 calls⟩

end Lru

end GraphLayer
