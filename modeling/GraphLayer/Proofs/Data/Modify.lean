import Mathlib.Data.List.Basic

/-!
# Lists in which one element is replaced or added at the end

* `List.exists_of_getElem?_modify` and `List.getElem?_concat_cases`, where an element comes from;
* `List.flatMap_modify`: what is gained and lost in a concatenation over the elements;
* `List.flatMap_zipIdx_of_unique`: a concatenation to which one element alone adds;
* `List.countP_modify`: what is gained and lost in a count;
* `List.eq_of_count_flatMap_le_one`: what stands once in a concatenation comes from one place.
-/

namespace List

variable {α β : Type}

/-- An element after a replacement is an old one, replaced at its place. -/
theorem exists_of_getElem?_modify {l : List α} {i j : ℕ} {g : α → α} {a : α}
    (h : (l.modify i g)[j]? = some a) : ∃ b, l[j]? = some b ∧ a = if i = j then g b else b := by
  rw [getElem?_modify] at h
  obtain ⟨b, hb, rfl⟩ := Option.map_eq_some_iff.1 h
  exact ⟨b, hb, by split <;> rfl⟩

/-- An element after an addition is an old one or the new one. -/
theorem getElem?_concat_cases {l : List α} {a b : α} {i : ℕ} (h : (l ++ [a])[i]? = some b) :
    l[i]? = some b ∨ i = l.length ∧ b = a := by
  by_cases hi : i < l.length
  · rw [getElem?_append_left hi] at h
    exact .inl h
  · obtain ⟨hlen, -⟩ := getElem?_eq_some_iff.1 h
    have hi : i = l.length := by
      simp only [length_append, length_singleton] at hlen
      omega
    subst hi
    rw [getElem?_concat_length] at h
    exact .inr ⟨rfl, (Option.some.inj h).symm⟩

theorem modify_append_left {l m : List α} {i : ℕ} (g : α → α) (h : i < l.length) :
    (l ++ m).modify i g = l.modify i g ++ m := by
  induction l generalizing i with
  | nil => exact absurd h (Nat.not_lt_zero i)
  | cons a l ih =>
    cases i with
    | zero => rfl
    | succ i =>
      have ih := ih (Nat.lt_of_succ_lt_succ h)
      simp only [cons_append, modify_succ_cons, ih]

/-- A concatenation over a list changes by the part of the element that is replaced. -/
theorem flatMap_modify (f : α → List β) (g : α → α) {l : List α} {i : ℕ} {a : α}
    (h : l[i]? = some a) : ((l.modify i g).flatMap f ++ f a).Perm (l.flatMap f ++ f (g a)) := by
  induction l generalizing i with
  | nil => simp at h
  | cons b l ih =>
    cases i with
    | zero =>
      obtain rfl : b = a := by simpa using h
      simp only [modify_zero_cons, flatMap_cons]
      calc f (g b) ++ l.flatMap f ++ f b ~ f b ++ (f (g b) ++ l.flatMap f) := perm_append_comm
        _ ~ f b ++ (l.flatMap f ++ f (g b)) := perm_append_comm.append_left _
        _ = f b ++ l.flatMap f ++ f (g b) := (append_assoc ..).symm
    | succ i =>
      have ih := ih (by simpa using h)
      simp only [modify_succ_cons, flatMap_cons, append_assoc]
      exact ih.append_left _

theorem flatMap_modify_of_eq (f : α → List β) {g : α → α} (hg : ∀ a, f (g a) = f a) (l : List α)
    (i : ℕ) : (l.modify i g).flatMap f = l.flatMap f := by
  induction l generalizing i with
  | nil => simp
  | cons a l ih => cases i <;> simp [hg, ih]

/-- A concatenation over the elements and their places to which only one of them adds. -/
theorem flatMap_zipIdx_of_unique {f : α × ℕ → List β} {l : List α} {i : ℕ} {a : α}
    (h : l[i]? = some a) (hf : ∀ (j : ℕ) (b : α), j ≠ i → f (b, j) = []) :
    l.zipIdx.flatMap f = f (a, i) := by
  obtain ⟨hi, rfl⟩ := getElem?_eq_some_iff.1 h
  have hpart (l : List α) (k : ℕ) (hk : ∀ j, k ≤ j → j < k + l.length → j ≠ i) :
      (l.zipIdx k).flatMap f = [] := by
    refine flatMap_eq_nil_iff.2 fun p hp => ?_
    obtain ⟨hle, hlt, -⟩ := mem_zipIdx hp
    exact hf p.2 p.1 (hk p.2 hle hlt)
  have hsplit : l = l.take i ++ l[i] :: l.drop (i + 1) := by simp
  have htake : (l.take i).length = i := length_take_of_le (Nat.le_of_lt hi)
  conv_lhs => rw [hsplit, zipIdx_append, zipIdx_cons, flatMap_append, flatMap_cons, htake]
  rw [hpart _ 0 (by omega), hpart _ (0 + i + 1) (by omega), nil_append, append_nil, Nat.zero_add]

/-- A count over a list changes by the element that is replaced. -/
theorem countP_modify (p : α → Bool) (g : α → α) {l : List α} {i : ℕ} {a : α}
    (h : l[i]? = some a) :
    (l.modify i g).countP p + (if p a then 1 else 0) = l.countP p + if p (g a) then 1 else 0 := by
  induction l generalizing i with
  | nil => simp at h
  | cons b l ih =>
    cases i with
    | zero =>
      obtain rfl : b = a := by simpa using h
      simp only [modify_zero_cons, countP_cons]
      omega
    | succ i =>
      have ih := ih (by simpa using h)
      simp only [modify_succ_cons, countP_cons]
      omega

theorem countP_pos_of_getElem? {p : α → Bool} {l : List α} {i : ℕ} {a : α} (h : l[i]? = some a)
    (hp : p a = true) : 0 < l.countP p :=
  countP_pos_iff.2 ⟨a, mem_of_getElem? h, hp⟩

/-- Two places of a list that pass a test count for two. -/
theorem two_le_countP {p : α → Bool} {l : List α} {i j : ℕ} {a b : α} (hij : i ≠ j)
    (hi : l[i]? = some a) (hj : l[j]? = some b) (ha : p a = true) (hb : p b = true) :
    2 ≤ l.countP p := by
  induction l generalizing i j with
  | nil => simp at hi
  | cons c l ih =>
    cases i with
    | zero =>
      cases j with
      | zero => exact absurd rfl hij
      | succ j =>
        obtain rfl : c = a := by simpa using hi
        have hpos := countP_pos_of_getElem? (by simpa using hj : l[j]? = some b) hb
        rw [countP_cons_of_pos ha]
        omega
    | succ i =>
      cases j with
      | zero =>
        obtain rfl : c = b := by simpa using hj
        have hpos := countP_pos_of_getElem? (by simpa using hi : l[i]? = some a) ha
        rw [countP_cons_of_pos hb]
        omega
      | succ j =>
        have ih := ih (fun he => hij (congrArg _ he)) (by simpa using hi) (by simpa using hj)
        rw [countP_cons]
        omega

theorem countP_mem_le_count_flatMap [DecidableEq β] (f : α → List β) (l : List α) (b : β) :
    l.countP (fun a => decide (b ∈ f a)) ≤ (l.flatMap f).count b := by
  induction l with
  | nil => simp
  | cons a l ih =>
    rw [countP_cons, flatMap_cons, count_append]
    by_cases hb : b ∈ f a
    · have hpos := count_pos_iff.2 hb
      simp only [hb, decide_true, if_true]
      omega
    · simp only [hb, decide_false, Bool.false_eq_true, if_false]
      omega

/-- What stands once in a concatenation comes from one place. -/
theorem eq_of_count_flatMap_le_one [DecidableEq β] {f : α → List β} {l : List α} {b : β}
    (h : (l.flatMap f).count b ≤ 1) {i j : ℕ} {a a' : α} (hi : l[i]? = some a)
    (hj : l[j]? = some a') (ha : b ∈ f a) (ha' : b ∈ f a') : i = j := by
  by_contra hij
  have htwo : 2 ≤ l.countP fun a => decide (b ∈ f a) :=
    two_le_countP hij hi hj (decide_eq_true ha) (decide_eq_true ha')
  have hle := countP_mem_le_count_flatMap f l b
  omega

end List
