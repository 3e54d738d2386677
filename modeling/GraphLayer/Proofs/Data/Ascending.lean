import GraphLayer.Data.Dict

/-!
# Laws of ordered dictionaries

* `Ascending.nodup`: an ascending list repeats nothing, and `Ascending.le_of_append`: what comes
  later in it is no less;
* `Ascending.mem_upsert` and `Ascending.mem_keys_upsert_iff`, the pairs and the keys after an
  update;
* `Ascending.flatMap_upsert_append`: a dictionary of lists, one of which grows by an element;
* `Dict.find?_eq_some_iff` and `Dict.find?_upsert`: what is found, and what is found after an
  update;
* `KeySet.mem_keys_ofList` and `KeySet.contains_ofList`: the set of a list has its members;
* `Dict.ofList_toList` and `KeySet.ofList_keys`: dictionaries and sets are those of their lists.
-/

namespace GraphLayer

namespace Ascending

variable {K V : Type} [Ord K]

/-- A strictly ascending list has no repetitions. -/
theorem nodup [Std.ReflOrd K] {l : List K} (h : Ascending l) : l.Nodup := by
  refine List.Pairwise.imp (fun {a b} hab heq => ?_) h
  subst heq
  have hself : compare a a = .eq := Std.ReflCmp.compare_self
  rw [hself] at hab
  cases hab

theorem pairwise_lt {l : List Int} (h : Ascending l) : l.Pairwise (· < ·) :=
  List.Pairwise.imp Int.compare_eq_lt.1 h

/-- In an ascending list of names what stands behind a name is no less. -/
theorem le_of_append {l before after : List String} {a b : String} (h : Ascending l)
    (hl : l = before ++ a :: after) (hb : b ∈ l) (hbefore : b ∉ before) : a ≤ b := by
  rw [hl] at h hb
  rcases List.mem_append.1 hb with hb | hb
  · exact absurd hb hbefore
  · rcases List.mem_cons.1 hb with rfl | hb
    · exact String.le_refl b
    · have hafter := (List.pairwise_cons.1 (List.pairwise_append.1 h).2.1).1 b hb
      exact String.not_lt.1 (String.lt_asymm (compareOfLessAndEq_eq_lt.1 hafter))

/-- Where the values are lists, an update that adds one element to the list of a key adds that
element to all of them together. -/
theorem flatMap_upsert_append {A : Type} (k : K) (a : A) (l : List (K × List A)) :
    ((upsert k (fun as => as.getD [] ++ [a]) l).flatMap Prod.snd).Perm
      (l.flatMap Prod.snd ++ [a]) := by
  induction l with
  | nil => simp [upsert]
  | cons p r ih =>
    unfold upsert
    split
    · have hcomm : ([a] ++ (p.2 ++ r.flatMap Prod.snd)).Perm (p.2 ++ r.flatMap Prod.snd ++ [a]) :=
        List.perm_append_comm
      simpa using hcomm
    · simp only [List.flatMap_cons, Option.getD_some, List.append_assoc]
      have hcomm : ([a] ++ r.flatMap Prod.snd).Perm (r.flatMap Prod.snd ++ [a]) :=
        List.perm_append_comm
      exact hcomm.append_left _
    · simp only [List.flatMap_cons, List.append_assoc]
      exact ih.append_left _

/-- A key above all others is put at the end. -/
theorem upsert_of_forall_lt [Std.TransOrd K] {k : K} {l : List (K × V)} (f : Option V → V)
    (h : ∀ p ∈ l, compare p.1 k = .lt) : upsert k f l = l ++ [(k, f none)] := by
  induction l with
  | nil => rfl
  | cons p l ih =>
    obtain ⟨hp, hl⟩ := List.forall_mem_cons.1 h
    rw [upsert, Std.OrientedCmp.gt_iff_lt.2 hp]
    exact congrArg (p :: ·) (ih hl)

variable [Std.LawfulEqOrd K]

/-- A pair of an updated dictionary is an old one, or the new value under the key. -/
theorem mem_upsert {k : K} {f : Option V → V} {l : List (K × V)} {p : K × V}
    (h : p ∈ upsert k f l) : p ∈ l ∨ p = (k, f none) ∨ ∃ v, (k, v) ∈ l ∧ p = (k, f (some v)) := by
  induction l with
  | nil => exact .inr (.inl (by simpa [upsert] using h))
  | cons q r ih =>
    unfold upsert at h
    split at h
    · rcases List.mem_cons.1 h with rfl | h
      · exact .inr (.inl rfl)
      · exact .inl h
    · rename_i heq
      obtain rfl := Std.LawfulEqCmp.eq_of_compare heq
      rcases List.mem_cons.1 h with rfl | h
      · exact .inr (.inr ⟨q.2, List.mem_cons_self, rfl⟩)
      · exact .inl (List.mem_cons_of_mem _ h)
    · rcases List.mem_cons.1 h with rfl | h
      · exact .inl List.mem_cons_self
      · rcases ih h with h | h | ⟨v, hv, rfl⟩
        · exact .inl (List.mem_cons_of_mem _ h)
        · exact .inr (.inl h)
        · exact .inr (.inr ⟨v, List.mem_cons_of_mem _ hv, rfl⟩)

/-- An update adds its key and takes none away. -/
theorem mem_keys_upsert_iff {k a : K} {f : Option V → V} {l : List (K × V)} :
    a ∈ (upsert k f l).map Prod.fst ↔ a = k ∨ a ∈ l.map Prod.fst := by
  refine ⟨mem_keys_upsert, fun h => ?_⟩
  induction l with
  | nil => simpa [upsert] using h
  | cons p r ih =>
    rw [List.map_cons, List.mem_cons] at h
    unfold upsert
    split
    · simpa using h
    · rename_i heq
      obtain rfl := Std.LawfulEqCmp.eq_of_compare heq
      rw [List.map_cons, List.mem_cons]
      exact h.elim .inl id
    · rw [List.map_cons, List.mem_cons]
      rcases h with h | h | h
      · exact .inr (ih (.inl h))
      · exact .inl h
      · exact .inr (ih (.inr h))

theorem find?_cons [DecidableEq K] (a : K) (p : K × V) (l : List (K × V)) :
    find? a (p :: l) = if a = p.1 then some p.2 else find? a l := by
  have hcompare : compare a p.1 = .eq ↔ a = p.1 :=
    ⟨Std.LawfulEqCmp.eq_of_compare, fun h => h ▸ Std.ReflCmp.compare_self⟩
  simp only [find?, hcompare]

theorem find?_eq_none_iff [DecidableEq K] {a : K} {l : List (K × V)} :
    find? a l = none ↔ a ∉ l.map Prod.fst := by
  induction l with
  | nil => simp [find?]
  | cons p l ih =>
    rw [find?_cons, List.map_cons, List.mem_cons, not_or]
    split
    · next h => simp [h]
    · next h => rw [ih, and_iff_right h]

/-- What is found under a key is the value of its pair. -/
theorem find?_eq_some_iff [DecidableEq K] {a : K} {v : V} {l : List (K × V)}
    (h : Ascending (l.map Prod.fst)) : find? a l = some v ↔ (a, v) ∈ l := by
  have hnodup := nodup h
  clear h
  induction l with
  | nil => simp [find?]
  | cons p l ih =>
    obtain ⟨hp, hl⟩ := List.nodup_cons.1 hnodup
    rw [find?_cons, List.mem_cons]
    split
    · next ha =>
      subst ha
      have hnot : (p.1, v) ∉ l := fun hmem => hp (List.mem_map.2 ⟨_, hmem, rfl⟩)
      rw [or_iff_left hnot, Option.some.injEq]
      exact ⟨fun hv => hv ▸ rfl, fun hv => (congrArg Prod.snd hv).symm⟩
    · next ha =>
      have hne : (a, v) ≠ p := fun heq => ha (congrArg Prod.fst heq)
      exact (ih hl).trans (or_iff_right hne).symm

/-- What is found after an update. -/
theorem find?_upsert [Std.TransOrd K] [DecidableEq K] {k a : K} (f : Option V → V)
    {l : List (K × V)} (h : Ascending (l.map Prod.fst)) :
    find? a (upsert k f l) = if a = k then some (f (find? k l)) else find? a l := by
  induction l with
  | nil => simp [upsert, find?_cons, find?]
  | cons p l ih =>
    have hp := List.pairwise_cons.1 h
    unfold upsert
    split
    · next hlt =>
      -- a key before the first one is not there yet
      have hnew : find? k (p :: l) = none := by
        refine find?_eq_none_iff.2 fun hmem => ?_
        have hself : compare k k = .lt := by
          rcases List.mem_cons.1 hmem with hk | hk
          · rw [← hk] at hlt
            exact hlt
          · exact Std.TransCmp.lt_trans hlt (hp.1 k hk)
        have heq : compare k k = .eq := Std.ReflCmp.compare_self
        rw [heq] at hself
        cases hself
      rw [hnew, find?_cons]
    · next heq =>
      obtain rfl := Std.LawfulEqCmp.eq_of_compare heq
      simp only [find?_cons, if_true]
      split <;> rfl
    · next hgt =>
      have hne : k ≠ p.1 := by
        rintro rfl
        have heq : compare p.1 p.1 = .eq := Std.ReflCmp.compare_self
        rw [heq] at hgt
        cases hgt
      simp only [find?_cons, ih hp.2, if_neg hne]
      by_cases hap : a = p.1
      · rw [if_pos hap, if_neg fun h => hne (h.symm.trans hap), if_pos hap]
      · rw [if_neg hap, if_neg hap]

end Ascending

namespace Dict

variable {K V : Type} [Ord K] [Std.LawfulEqOrd K] [DecidableEq K]

/-- What is found under a key is the value of its pair. -/
theorem find?_eq_some_iff {d : Dict K V} {k : K} {v : V} :
    d.find? k = some v ↔ (k, v) ∈ d.toList :=
  Ascending.find?_eq_some_iff d.ascending

variable [Std.TransOrd K]

/-- What is found after an update. -/
theorem find?_upsert (d : Dict K V) (k a : K) (f : Option V → V) :
    (d.upsert k f).find? a = if a = k then some (f (d.find? k)) else d.find? a :=
  Ascending.find?_upsert f d.ascending

/-- What is found after a value has been put under a key. -/
theorem find?_insert (d : Dict K V) (k a : K) (v : V) :
    (d.insert k v).find? a = if a = k then some v else d.find? a :=
  d.find?_upsert k a fun _ => v

end Dict

namespace Dict

variable {K V : Type} [Ord K] [Std.TransOrd K]

/-- A dictionary is the one of its pairs. -/
theorem ofList_toList (d : Dict K V) : ofList d.toList = d := by
  -- pairs are put in at the end, as their keys ascend
  have hfoldl (l : List (K × V)) (e : Dict K V) (h : Ascending ((e.toList ++ l).map Prod.fst)) :
      (l.foldl (fun d p => d.insert p.1 p.2) e).toList = e.toList ++ l := by
    induction l generalizing e with
    | nil => rw [List.foldl_nil, List.append_nil]
    | cons p l ih =>
      have hlast : ∀ q ∈ e.toList, compare q.1 p.1 = .lt := by
        intro q hq
        rw [List.map_append] at h
        exact (List.pairwise_append.1 h).2.2 _ (List.mem_map_of_mem hq) _ List.mem_cons_self
      have hinsert : (e.insert p.1 p.2).toList = e.toList ++ [p] :=
        Ascending.upsert_of_forall_lt _ hlast
      rw [List.foldl_cons, ih, hinsert, List.append_assoc, List.singleton_append]
      rwa [hinsert, List.append_assoc, List.singleton_append]
  exact Dict.ext (hfoldl d.toList empty d.ascending)

end Dict

namespace KeySet

variable {K : Type} [Ord K] [Std.TransOrd K]

/-- A set is the one of its members. -/
theorem ofList_keys (s : KeySet K) : ofList s.keys = s := by
  have hpairs : (s.keys.map fun k => (k, ())) = s.toList := by
    rw [Dict.keys, List.map_map]
    exact List.map_id _
  rw [ofList, hpairs, Dict.ofList_toList]

/-- The set of a list that grows by an element. -/
theorem ofList_concat (l : List K) (k : K) : ofList (l ++ [k]) = (ofList l).insert k () := by
  simp only [ofList, Dict.ofList, List.map_append, List.foldl_append, List.map_cons, List.map_nil,
    List.foldl_cons, List.foldl_nil]

variable [Std.LawfulEqOrd K]

/-- The set of a list has its members. -/
theorem mem_keys_ofList {l : List K} {k : K} : k ∈ (ofList l).keys ↔ k ∈ l := by
  have hfoldl (d : KeySet K) : k ∈ ((l.map fun k => (k, ())).foldl
      (fun d p => d.insert p.1 p.2) d).keys ↔ k ∈ d.keys ∨ k ∈ l := by
    induction l generalizing d with
    | nil => simp
    | cons a l ih =>
      have hinsert : k ∈ (d.insert a ()).keys ↔ k = a ∨ k ∈ d.keys :=
        Ascending.mem_keys_upsert_iff
      rw [List.map_cons, List.foldl_cons, ih, hinsert, List.mem_cons, or_comm (a := k = a),
        or_assoc]
  have hempty : k ∉ (Dict.empty : KeySet K).keys := List.not_mem_nil
  rw [ofList, Dict.ofList, hfoldl, or_iff_right hempty]

theorem contains_ofList [DecidableEq K] {l : List K} {k : K} :
    (ofList l).contains k = true ↔ k ∈ l := by
  have hfind : (ofList l).find? k = none ↔ k ∉ (ofList l).keys := Ascending.find?_eq_none_iff
  rw [mem_keys_ofList] at hfind
  cases hvalue : (ofList l).find? k with
  | none => simp [Dict.contains, hvalue, hfind.1 hvalue]
  | some v => simpa [Dict.contains, hvalue] using hfind

end KeySet

end GraphLayer
