import Mathlib.Data.List.Basic
import GraphLayer.Batching.Session
import GraphLayer.Proofs.Data.Ascending

/-!
# Chunks, their answers and those who wait for them

* `flatten_chunks`: the chunks of a list give the list back;
* `CutInto` and `cutInto_chunks`: how many chunks there are, and how long they are;
* `allResults?_eq_some_iff`: when every chunk has its answer;
* `mem_outcomes_iff` and `map_fst_outcomes`: the outcomes of the ids, chunk by chunk;
* `waitersOf`, the loads that wait for an id, against the pairs of a window.
-/

namespace GraphLayer.Batching

variable {V : Type}

/-! ### Chunks -/

/-- A list is cut, in order, into pieces of `b` elements, of which only the last one may have
fewer. -/
structure CutInto {α : Type} (b : Nat) (xs : List α) (pieces : List (List α)) : Prop where
  flatten : pieces.flatten = xs
  length : pieces.length = (xs.length + b - 1) / b
  ne_nil : ∀ p ∈ pieces, p ≠ []
  length_le : ∀ p ∈ pieces, p.length ≤ b
  full : ∀ p ∈ pieces.dropLast, p.length = b

theorem cutInto_nil {α : Type} {b : Nat} (hb : 0 < b) : CutInto b ([] : List α) [] where
  flatten := rfl
  length := by
    rw [List.length_nil, List.length_nil, Nat.zero_add, Nat.div_eq_of_lt (by omega)]
  ne_nil := nofun
  length_le := nofun
  full := nofun

/-- A piece from the front of a list that is not empty, and the pieces of the rest. -/
theorem CutInto.cons {α : Type} {b : Nat} (hb : 0 < b) {xs : List α} (hxs : xs ≠ [])
    {pieces : List (List α)} (h : CutInto b (xs.drop b) pieces) :
    CutInto b xs (xs.take b :: pieces) where
  flatten := by rw [List.flatten_cons, h.flatten, List.take_append_drop]
  length := by
    have hpos : 0 < xs.length := List.length_pos_iff.2 hxs
    have hsplit : xs.length + b - 1 = xs.length - 1 + b := by omega
    rw [List.length_cons, h.length, List.length_drop, hsplit, Nat.add_div_right _ hb]
    -- a list that fits into one piece leaves nothing to cut
    by_cases hle : xs.length ≤ b
    · rw [Nat.div_eq_of_lt (by omega), Nat.div_eq_of_lt (by omega)]
    · congr 2
      omega
  ne_nil := by
    intro p hp
    rcases List.mem_cons.1 hp with rfl | hp
    · rw [Ne, List.take_eq_nil_iff, not_or]
      exact ⟨by omega, hxs⟩
    · exact h.ne_nil p hp
  length_le := by
    intro p hp
    rcases List.mem_cons.1 hp with rfl | hp
    · exact List.length_take_le b xs
    · exact h.length_le p hp
  full := by
    intro p hp
    cases pieces with
    | nil => cases hp
    | cons q rest =>
      rw [List.dropLast_cons_of_ne_nil (List.cons_ne_nil q rest)] at hp
      rcases List.mem_cons.1 hp with rfl | hp
      · -- where more pieces follow, the first one has left something over
        have hdrop : xs.drop b ≠ [] := by
          intro hnil
          have hq := h.ne_nil q List.mem_cons_self
          have hflat := h.flatten
          rw [hnil, List.flatten_cons, List.append_eq_nil_iff] at hflat
          exact hq hflat.1
        have hlt : b < xs.length := by
          by_contra hle
          exact hdrop (List.drop_eq_nil_of_le (by omega))
        rw [List.length_take, Nat.min_eq_left (Nat.le_of_lt hlt)]
      · exact h.full p hp

theorem cutInto_chunksFrom {α : Type} {b : Nat} (hb : 0 < b) (fuel : Nat) (xs : List α)
    (h : xs.length ≤ fuel) : CutInto b xs (chunksFrom b fuel xs) := by
  induction fuel generalizing xs with
  | zero =>
    obtain rfl : xs = [] := List.length_eq_zero_iff.1 (by omega)
    exact cutInto_nil hb
  | succ fuel ih =>
    cases xs with
    | nil => exact cutInto_nil hb
    | cons x xs =>
      have hlen : ((x :: xs).drop b).length ≤ fuel := by
        simp only [List.length_drop, List.length_cons] at h ⊢
        omega
      exact (ih _ hlen).cons hb (List.cons_ne_nil x xs)

/-- The chunks of a list: as many as it takes, all of them full but the last one. -/
theorem cutInto_chunks {α : Type} (n : Nat) (xs : List α) :
    CutInto (max 1 n) xs (chunks n xs) :=
  cutInto_chunksFrom (by omega) _ _ (Nat.le_refl _)

/-- The chunks of a list, put together again, are the list. -/
theorem flatten_chunks {α : Type} (n : Nat) (xs : List α) : (chunks n xs).flatten = xs :=
  (cutInto_chunks n xs).flatten

/-! ### Answers -/

theorem allResults?_eq_some_iff {rs : List (Option (Batch V))} {results : List (Batch V)} :
    allResults? rs = some results ↔ rs = results.map some := by
  induction rs generalizing results with
  | nil => cases results <;> simp [allResults?]
  | cons r rs ih =>
    cases r with
    | none => cases results <;> simp [allResults?]
    | some r =>
      rw [allResults?, Option.map_eq_some_iff]
      constructor
      · rintro ⟨results, h, rfl⟩
        rw [ih.1 h, List.map_cons]
      · intro h
        cases results with
        | nil => simp at h
        | cons r' results =>
          obtain ⟨hr, hrs⟩ := List.cons.inj h
          exact ⟨results, ih.2 hrs, by rw [Option.some.inj hr]⟩

theorem mem_outcomes_iff {calls : List (List Int)} {results : List (Batch V)} {id : Int}
    {o : Outcome V} :
    (id, o) ∈ outcomes calls results ↔
      ∃ ids r, (ids, r) ∈ calls.zip results ∧ id ∈ ids ∧ o = outcomeOf r id := by
  simp only [outcomes, List.mem_flatMap, Prod.exists, List.mem_map, Prod.mk.injEq]
  constructor
  · rintro ⟨ids, r, hz, id', hid, rfl, rfl⟩
    exact ⟨ids, r, hz, hid, rfl⟩
  · rintro ⟨ids, r, hz, hid, rfl⟩
    exact ⟨ids, r, hz, id, hid, rfl, rfl⟩

/-- Where every chunk has an answer, every id has an outcome, in the order of the chunks. -/
theorem map_fst_outcomes {calls : List (List Int)} {results : List (Batch V)}
    (h : results.length = calls.length) :
    (outcomes calls results).map Prod.fst = calls.flatten := by
  induction calls generalizing results with
  | nil => rfl
  | cons ids calls ih =>
    cases results with
    | nil => simp at h
    | cons r results =>
      have ih := ih (by simpa using h)
      simp only [outcomes, List.zip_cons_cons, List.flatMap_cons, List.map_append, List.map_map,
        List.flatten_cons] at ih ⊢
      rw [ih]
      congr 1
      exact List.map_id' ids

/-! ### Waiters -/

namespace World

@[simp] theorem waitersOf_nil (id : Int) : waitersOf [] id = [] := rfl

theorem waitersOf_cons (p : Int × List Nat) (b : List (Int × List Nat)) (id : Int) :
    waitersOf (p :: b) id = if p.1 = id then p.2 else waitersOf b id := by
  by_cases h : p.1 = id <;> simp [waitersOf, h]

theorem exists_of_mem_waitersOf {b : List (Int × List Nat)} {id : Int} {n : Nat}
    (h : n ∈ waitersOf b id) : ∃ ws, (id, ws) ∈ b ∧ n ∈ ws := by
  induction b with
  | nil => cases h
  | cons p b ih =>
    rw [waitersOf_cons] at h
    split at h
    · rename_i hp
      exact ⟨p.2, hp ▸ List.mem_cons_self, h⟩
    · obtain ⟨ws, hws, hn⟩ := ih h
      exact ⟨ws, List.mem_cons_of_mem _ hws, hn⟩

theorem mem_flatMap_of_mem_waitersOf {b : List (Int × List Nat)} {id : Int} {n : Nat}
    (h : n ∈ waitersOf b id) : n ∈ b.flatMap Prod.snd := by
  obtain ⟨ws, hws, hn⟩ := exists_of_mem_waitersOf h
  exact List.mem_flatMap.2 ⟨(id, ws), hws, hn⟩

theorem waitersOf_eq {b : List (Int × List Nat)} (hb : (b.map Prod.fst).Nodup) {id : Int}
    {ws : List Nat} (h : (id, ws) ∈ b) : waitersOf b id = ws := by
  induction b with
  | nil => cases h
  | cons p b ih =>
    obtain ⟨hp, hb⟩ := List.nodup_cons.1 hb
    rw [waitersOf_cons]
    rcases List.mem_cons.1 h with rfl | h
    · simp
    · have hne : p.1 ≠ id := fun he => hp (he ▸ List.mem_map_of_mem h)
      rw [if_neg hne, ih hb h]

/-- A load waits somewhere in a window exactly when it waits for one of its ids. -/
theorem mem_flatMap_snd_iff {b : List (Int × List Nat)} (hb : (b.map Prod.fst).Nodup) {n : Nat} :
    n ∈ b.flatMap Prod.snd ↔ ∃ id, n ∈ waitersOf b id := by
  rw [List.mem_flatMap]
  constructor
  · rintro ⟨⟨id, ws⟩, hp, hn⟩
    exact ⟨id, by rwa [waitersOf_eq hb hp]⟩
  · rintro ⟨id, hn⟩
    exact List.mem_flatMap.1 (mem_flatMap_of_mem_waitersOf hn)

/-- The waiters of all ids of a window, one id after the other. -/
theorem flatMap_waitersOf {b : List (Int × List Nat)} (hb : (b.map Prod.fst).Nodup) :
    (b.map Prod.fst).flatMap (waitersOf b) = b.flatMap Prod.snd := by
  have h : ∀ p ∈ b, waitersOf b p.1 = p.2 := fun p hp => waitersOf_eq hb hp
  rw [List.flatMap_map]
  exact List.flatMap_congr h

theorem waitersOf_eq_nil {b : List (Int × List Nat)} {id : Int} (h : id ∉ b.map Prod.fst) :
    waitersOf b id = [] := by
  refine List.eq_nil_iff_forall_not_mem.2 fun n hn => ?_
  obtain ⟨ws, hws, -⟩ := exists_of_mem_waitersOf hn
  exact h (List.mem_map_of_mem hws)

/-- The waiters of a window that one more load has joined. -/
theorem waitersOf_upsert {l : List (Int × List Nat)} (hl : Ascending (l.map Prod.fst))
    (id id' : Int) (n : Nat) :
    waitersOf (Ascending.upsert id (fun ws => ws.getD [] ++ [n]) l) id' =
      if id = id' then waitersOf l id' ++ [n] else waitersOf l id' := by
  induction l with
  | nil => simp [Ascending.upsert, waitersOf_cons]
  | cons p r ih =>
    obtain ⟨hp, hr⟩ := List.pairwise_cons.1 hl
    unfold Ascending.upsert
    split
    · -- the new key stands before all others, so nobody waits for it yet
      rename_i hlt
      have hnew : id ∉ (p :: r).map Prod.fst := by
        intro hmem
        rcases List.mem_cons.1 hmem with rfl | hmem
        · simp at hlt
        · have := Std.TransCmp.lt_trans hlt (hp id hmem)
          simp at this
      rw [waitersOf_cons]
      by_cases h : id = id'
      · subst h
        rw [if_pos rfl, if_pos rfl, waitersOf_eq_nil hnew]
        rfl
      · rw [if_neg h, if_neg h]
    · rename_i heq
      obtain rfl := Std.LawfulEqCmp.eq_of_compare heq
      simp only [waitersOf_cons, Option.getD_some]
      split <;> rfl
    · rename_i hgt
      have hne : id ≠ p.1 := by
        rintro rfl
        simp at hgt
      rw [waitersOf_cons, waitersOf_cons, ih hr]
      by_cases h : p.1 = id'
      · rw [if_pos h, if_pos h, if_neg fun he => hne (he.trans h.symm)]
      · rw [if_neg h, if_neg h]

theorem waitersOf_enqueue (q : Queue) (id id' : Int) (n : Nat) :
    waitersOf (q.enqueue id n).pending.toList id' =
      if id = id' then waitersOf q.pending.toList id' ++ [n] else waitersOf q.pending.toList id' :=
  waitersOf_upsert q.pending.ascending id id' n

end World

end GraphLayer.Batching
