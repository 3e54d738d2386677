import GraphLayer.Proofs.Schema.Names
import GraphLayer.Text.Words

/-!
# Names in snake case

* `flatten_clusters`: the clusters of a text give the text back, and `clusters_eq_map`: those of a
  name of letters, digits and underscores are its characters;
* `lowerChars_eq_map`: within ASCII a lower case is one character for each;
* `flatten_words`: put together, the words of a text are its clusters without the separators;
* `mem_snakeChars` and `continuesName_of_mem_snakeCase`: a name of letters, digits and underscores
  stays one in snake case; `head?_snakeCase`: it begins there as it does without the underscores
  before it; `head?_snakeCase_ne` and `getLast?_snakeCase_ne`: there is no underscore at its ends;
* `mem_of_mem_snakeCase` and `isUpper_of_mem_snakeCase`: snake case has no capitals of ASCII, and
  adds nothing before the small letters but underscores;
* `snakeCase_of_upper`: names are told apart in upper snake case.
-/

namespace GraphLayer.Text

open Schema (continuesName toNat_lt_of_continuesName)

/-! ### Clusters and words -/

theorem flatten_clustersFrom (s : BreakState) (current cs : List Char) :
    (clustersFrom s current cs).flatten = current.reverse ++ cs := by
  induction cs generalizing s current with
  | nil => simp [clustersFrom]
  | cons c cs ih =>
    unfold clustersFrom
    split
    · simp [ih]
    · simp [ih]

/-- The clusters of a text give the text back. -/
theorem flatten_clusters (cs : List Char) : (clusters cs).flatten = cs := by
  cases cs with
  | nil => rfl
  | cons c cs => exact flatten_clustersFrom _ [c] cs

/-- Put together, the words are the open word and the clusters that are no separators. -/
theorem flatten_wordsFrom (current gs : List (List Char)) :
    (wordsFrom current gs).flatten = current.reverse ++ gs.filter fun g => !isSeparator g := by
  induction gs generalizing current with
  | nil => simp [wordsFrom]
  | cons g gs ih =>
    unfold wordsFrom
    split
    · next hseparator => simp [ih, hseparator]
    · next hseparator =>
      split
      · simp [ih, hseparator]
      · simp [ih, hseparator]

theorem flatten_words (s : List Char) :
    (words s).flatten = (clusters s).filter fun g => !isSeparator g := by
  rw [words, List.flatten_filter_not_isEmpty, flatten_wordsFrom, List.reverse_nil, List.nil_append]

theorem mem_clusters_of_mem_words {s : List Char} {w : List (List Char)} {g : List Char}
    (hw : w ∈ words s) (hg : g ∈ w) : g ∈ clusters s ∧ isSeparator g = false := by
  have hmem : g ∈ (words s).flatten := List.mem_flatten.2 ⟨w, hw, hg⟩
  rw [flatten_words, List.mem_filter, Bool.not_eq_true'] at hmem
  exact hmem

/-- The words of a name consist of its characters. -/
theorem mem_of_mem_words {s : List Char} {w : List (List Char)} {c : Char} (hw : w ∈ words s)
    (hc : c ∈ w.flatten) : c ∈ s := by
  obtain ⟨g, hg, hc⟩ := List.mem_flatten.1 hc
  rw [← flatten_clusters s]
  exact List.mem_flatten.2 ⟨g, (mem_clusters_of_mem_words hw hg).1, hc⟩

/-! ### Clusters of names -/

/-- After such a state no character of a name goes on with a cluster. -/
structure BreakState.IsPlain (s : BreakState) : Prop where
  last : s.last = .other
  joined : s.joined = false
  linked : s.linked = false

theorem printable_of_continuesName {c : Char} (h : continuesName c = true) :
    32 ≤ c.toNat ∧ c.toNat < 127 :=
  Schema.forall_continuesName (P := fun c => 32 ≤ c.toNat ∧ c.toNat < 127) (by decide) h

theorem breakClass_of_continuesName {c : Char} (h : continuesName c = true) :
    breakClass c = .other := by
  have hprintable := printable_of_continuesName h
  unfold breakClass
  dsimp only
  rw [if_neg (by omega), if_neg (by omega), if_neg (by omega), if_pos (by omega)]

theorem BreakState.isPlain_next (before : Option BreakState) {c : Char}
    (h : continuesName c = true) : (BreakState.next before c).IsPlain := by
  have hclass := breakClass_of_continuesName h
  have hascii : decide (127 < c.toNat) = false := by
    have hprintable := printable_of_continuesName h
    simp only [decide_eq_false_iff_not]
    omega
  constructor
  · exact hclass
  · simp [BreakState.next, hclass]
  · simp [BreakState.next, hascii]

theorem BreakState.IsPlain.joins_eq_false {s : BreakState} (hs : s.IsPlain) {c : Char}
    (h : continuesName c = true) : s.joins c = false := by
  simp [BreakState.joins, breakClass_of_continuesName h, hs.last, hs.joined, hs.linked]

theorem clustersFrom_eq_map {s : BreakState} (hs : s.IsPlain) (current : List Char) {cs : List Char}
    (h : ∀ c ∈ cs, continuesName c = true) :
    clustersFrom s current cs = current.reverse :: cs.map fun c => [c] := by
  induction cs generalizing s current with
  | nil => rfl
  | cons c cs ih =>
    obtain ⟨hc, hcs⟩ := List.forall_mem_cons.1 h
    rw [clustersFrom, hs.joins_eq_false hc, if_neg Bool.false_ne_true,
      ih (BreakState.isPlain_next _ hc) _ hcs]
    rfl

/-- Every character of a name is a cluster of its own. -/
theorem clusters_eq_map {s : List Char} (h : ∀ c ∈ s, continuesName c = true) :
    clusters s = s.map fun c => [c] := by
  cases s with
  | nil => rfl
  | cons c cs =>
    obtain ⟨hc, hcs⟩ := List.forall_mem_cons.1 h
    exact clustersFrom_eq_map (BreakState.isPlain_next _ hc) [c] hcs

/-- Put together, the words of a name are its characters besides the underscores. -/
theorem flatten_flatten_words {s : List Char} (h : ∀ c ∈ s, continuesName c = true) :
    (words s).flatten.flatten = s.filter (· != '_') := by
  have hseparator : ∀ c ∈ s, (!isSeparator [c]) = (c != '_') := fun c hc =>
    Schema.forall_continuesName (P := fun c => (!isSeparator [c]) = (c != '_')) (by decide) (h c hc)
  rw [flatten_words, clusters_eq_map h, List.filter_map, ← List.flatMap_def, List.flatMap_singleton']
  exact List.filter_congr hseparator

/-- The words of a name have no underscores. -/
theorem ne_underscore_of_mem_words {s : List Char} (h : ∀ c ∈ s, continuesName c = true)
    {w : List (List Char)} {c : Char} (hw : w ∈ words s) (hc : c ∈ w.flatten) : c ≠ '_' := by
  obtain ⟨g, hg, hc⟩ := List.mem_flatten.1 hc
  have hmem : c ∈ (words s).flatten.flatten :=
    List.mem_flatten.2 ⟨g, List.mem_flatten.2 ⟨w, hw, hg⟩, hc⟩
  rw [flatten_flatten_words h] at hmem
  simpa using (List.mem_filter.1 hmem).2

/-- No word of a name is empty. -/
theorem flatten_ne_nil_of_mem_words {s : List Char} (h : ∀ c ∈ s, continuesName c = true)
    {w : List (List Char)} (hw : w ∈ words s) : w.flatten ≠ [] := by
  have hsome : w ≠ [] := by simpa using (List.mem_filter.1 hw).2
  obtain ⟨g, hg⟩ := List.exists_mem_of_ne_nil w hsome
  have hcluster := (mem_clusters_of_mem_words hw hg).1
  rw [clusters_eq_map h] at hcluster
  obtain ⟨a, -, rfl⟩ := List.mem_map.1 hcluster
  exact List.ne_nil_of_mem (List.mem_flatten.2 ⟨[a], hg, List.mem_singleton_self a⟩)

/-! ### Lower case -/

theorem lowerAfter_eq_map {before cs : List Char} (h : ∀ c ∈ cs, c.toNat < 128) :
    lowerAfter before cs = cs.map Char.toLower := by
  induction cs generalizing before with
  | nil => rfl
  | cons c cs ih =>
    have hc : c.toNat < 128 := h c List.mem_cons_self
    have hsigma : c.toNat ≠ 0x3A3 := by omega
    rw [lowerAfter, if_neg hsigma, lowerOf, if_pos hc,
      ih fun a ha => h a (List.mem_cons_of_mem _ ha)]
    rfl

/-- Within ASCII a lower case is one character for each. -/
theorem lowerChars_eq_map {cs : List Char} (h : ∀ c ∈ cs, c.toNat < 128) :
    lowerChars cs = cs.map Char.toLower :=
  lowerAfter_eq_map h

/-! ### Snake case -/

theorem mem_flatten_intersperse {A : Type} {sep : List A} {l : List (List A)} {a : A}
    (h : a ∈ (l.intersperse sep).flatten) : a ∈ sep ∨ a ∈ l.flatten := by
  induction l with
  | nil => cases h
  | cons x l ih =>
    cases l with
    | nil => exact .inr h
    | cons y l =>
      rw [List.intersperse_cons_cons, List.flatten_cons, List.flatten_cons] at h
      rcases List.mem_append.1 h with h | h
      · exact .inr (List.mem_append_left _ h)
      · rcases List.mem_append.1 h with h | h
        · exact .inl h
        · exact (ih h).imp_right (List.mem_append_right _)

/-- A name within ASCII consists in snake case of underscores and of its own characters in lower
case. -/
theorem mem_snakeChars {s : List Char} (hs : ∀ c ∈ s, c.toNat < 128) {c : Char}
    (hc : c ∈ snakeChars s) : c = '_' ∨ ∃ a ∈ s, c = a.toLower := by
  rcases mem_flatten_intersperse hc with hc | hc
  · exact .inl (List.mem_singleton.1 hc)
  · obtain ⟨l, hl, hc⟩ := List.mem_flatten.1 hc
    obtain ⟨w, hw, rfl⟩ := List.mem_map.1 hl
    rw [lowerChars_eq_map fun a ha => hs a (mem_of_mem_words hw ha)] at hc
    obtain ⟨a, ha, rfl⟩ := List.mem_map.1 hc
    exact .inr ⟨a, mem_of_mem_words hw ha, rfl⟩

theorem continuesName_toLower {c : Char} (h : continuesName c = true) :
    continuesName c.toLower = true :=
  Schema.forall_continuesName (P := fun c => continuesName c.toLower = true) (by decide) h

/-- A name of letters, digits and underscores stays one in snake case. -/
theorem continuesName_of_mem_snakeCase {s : String}
    (hs : ∀ c ∈ s.toList, continuesName c = true) {c : Char} (hc : c ∈ (snakeCase s).toList) :
    continuesName c = true := by
  rw [snakeCase, String.toList_ofList] at hc
  rcases mem_snakeChars (fun a ha => toNat_lt_of_continuesName (hs a ha)) hc with rfl | ⟨a, ha, rfl⟩
  · decide
  · exact continuesName_toLower (hs a ha)

theorem head?_flatten_intersperse {A : Type} (sep : List A) {x : List A} (l : List (List A))
    (hx : x ≠ []) : ((x :: l).intersperse sep).flatten.head? = x.head? := by
  obtain ⟨a, x, rfl⟩ := List.exists_cons_of_ne_nil hx
  cases l with
  | nil => rfl
  | cons y l => rfl

theorem getLast?_flatten_intersperse {A : Type} (sep : List A) (l : List (List A)) {x : List A}
    (hx : x ≠ []) : ((l ++ [x]).intersperse sep).flatten.getLast? = x.getLast? := by
  induction l with
  | nil => simp
  | cons y l ih =>
    obtain ⟨z, zs, hz⟩ := List.exists_cons_of_ne_nil (List.append_ne_nil_of_right_ne_nil l
      (List.cons_ne_nil x []))
    rw [hz] at ih
    rw [List.cons_append, hz, List.intersperse_cons_cons, List.flatten_cons, List.flatten_cons,
      ← List.append_assoc, List.getLast?_append, ih,
      List.getLast?_eq_some_getLast hx, Option.some_or]

theorem eq_underscore_of_toLower {c : Char} (h : continuesName c = true) :
    c.toLower = '_' → c = '_' :=
  Schema.forall_continuesName (P := fun c => c.toLower = '_' → c = '_') (by decide) h

/-- A word of a name in lower case has characters, and none of them is an underscore. -/
theorem lowerChars_word {s : List Char} (h : ∀ c ∈ s, continuesName c = true)
    {w : List (List Char)} (hw : w ∈ words s) :
    lowerChars w.flatten ≠ [] ∧ '_' ∉ lowerChars w.flatten := by
  have hname : ∀ c ∈ w.flatten, continuesName c = true := fun c hc => h c (mem_of_mem_words hw hc)
  rw [lowerChars_eq_map fun c hc => toNat_lt_of_continuesName (hname c hc)]
  constructor
  · rw [ne_eq, List.map_eq_nil_iff]
    exact flatten_ne_nil_of_mem_words h hw
  · intro hmem
    obtain ⟨c, hc, hlower⟩ := List.mem_map.1 hmem
    exact ne_underscore_of_mem_words h hw hc (eq_underscore_of_toLower (hname c hc) hlower)

/-- A name in snake case begins with its first character that is no underscore. -/
theorem head?_snakeCase {s : String} (h : ∀ c ∈ s.toList, continuesName c = true) :
    (snakeCase s).toList.head? = (s.toList.find? (· != '_')).map Char.toLower := by
  rw [← List.head?_filter, ← flatten_flatten_words h, snakeCase, String.toList_ofList, snakeChars]
  cases hwords : words s.toList with
  | nil => rfl
  | cons w ws =>
    have hw : w ∈ words s.toList := by simp [hwords]
    obtain ⟨c, cs, hword⟩ := List.exists_cons_of_ne_nil (flatten_ne_nil_of_mem_words h hw)
    have hascii : ∀ c ∈ w.flatten, c.toNat < 128 := fun c hc =>
      toNat_lt_of_continuesName (h c (mem_of_mem_words hw hc))
    rw [List.map_cons, head?_flatten_intersperse _ _ (lowerChars_word h hw).1,
      lowerChars_eq_map hascii, List.flatten_cons, List.flatten_append, hword]
    rfl

/-- A name in snake case does not begin with an underscore. -/
theorem head?_snakeCase_ne {s : String} (h : ∀ c ∈ s.toList, continuesName c = true) :
    (snakeCase s).toList.head? ≠ some '_' := by
  rw [head?_snakeCase h]
  intro hhead
  obtain ⟨c, hfirst, hlower⟩ := Option.map_eq_some_iff.1 hhead
  have hname := h c (List.mem_of_find?_eq_some hfirst)
  obtain rfl := eq_underscore_of_toLower hname hlower
  cases List.find?_some hfirst

/-- A name in snake case does not end with an underscore. -/
theorem getLast?_snakeCase_ne {s : String} (h : ∀ c ∈ s.toList, continuesName c = true) :
    (snakeCase s).toList.getLast? ≠ some '_' := by
  rw [snakeCase, String.toList_ofList, snakeChars]
  rcases List.eq_nil_or_concat (words s.toList) with hwords | ⟨ws, w, hwords⟩
  · simp [hwords]
  · obtain ⟨hsome, hunderscore⟩ := lowerChars_word h (w := w) (by simp [hwords])
    rw [hwords, List.concat_eq_append, List.map_append, List.map_singleton,
      getLast?_flatten_intersperse _ _ hsome]
    intro hlast
    exact hunderscore (List.mem_of_mem_getLast? hlast)

/-! ### Characters before the small letters -/

/-- The images of the table of lower cases are no ASCII characters before the small letters. -/
theorem ninetySeven_le_image {n k : Nat} (h : CaseRun.image? lowerRuns n = some k) : 97 ≤ k := by
  have hruns : ∀ r ∈ lowerRuns, 97 ≤ (r.first : Int) + r.shift := by decide +kernel
  obtain ⟨r, hr, rfl⟩ := Option.map_eq_some_iff.1 h
  have hfirst : r.first ≤ n := by
    have hfound := List.find?_some hr
    simp only [Bool.and_eq_true, decide_eq_true_eq] at hfound
    exact hfound.1.1
  have hshift := hruns r (List.mem_of_find?_eq_some hr)
  omega

/-- A number is that of a character, or stands for the character of the number zero. -/
theorem toNat_ofNat_eq_or (k : Nat) : (Char.ofNat k).toNat = k ∨ (Char.ofNat k).toNat = 0 := by
  by_cases hk : k.isValidChar
  · have hchar : Char.ofNat k = Char.ofNatAux k hk := dif_pos hk
    exact .inl (congrArg Char.toNat hchar)
  · have hchar : Char.ofNat k = '\x00' := dif_neg hk
    exact .inr (congrArg Char.toNat hchar)

/-- A lower case that comes before the small letters is that of the character itself, which is no
capital. -/
theorem eq_of_mem_lowerOf {a c : Char} (h : c ∈ lowerOf a) (hc : c.toNat < 97) (h0 : c.toNat ≠ 0) :
    c = a ∧ c.isUpper = false := by
  unfold lowerOf at h
  split at h
  · next ha =>
    have hall : ∀ n < 128, (Char.ofNat n).toLower.toNat < 97 →
        (Char.ofNat n).toLower = Char.ofNat n ∧ (Char.ofNat n).toLower.isUpper = false := by
      decide
    have hlower := hall a.toNat ha
    rw [Char.ofNat_toNat] at hlower
    obtain rfl := List.mem_singleton.1 h
    exact hlower hc
  · next ha =>
    split at h
    · rcases List.mem_cons.1 h with rfl | h
      · exact absurd hc (by decide)
      · obtain rfl := List.mem_singleton.1 h
        exact absurd hc (by decide)
    · obtain rfl := List.mem_singleton.1 h
      cases himage : CaseRun.image? lowerRuns a.toNat with
      | none =>
        rw [himage] at hc
        exact absurd (Nat.lt_trans hc (by decide)) ha
      | some k =>
        rw [himage] at hc h0
        have hk := ninetySeven_le_image himage
        simp only [Option.map_some, Option.getD_some] at hc h0
        rcases toNat_ofNat_eq_or k with hnat | hnat
        · exact absurd hk (Nat.not_le_of_lt (hnat ▸ hc))
        · exact absurd hnat h0

theorem mem_lowerAfter {before cs : List Char} {c : Char} (h : c ∈ lowerAfter before cs)
    (hc : c.toNat < 97) : ∃ a ∈ cs, c ∈ lowerOf a := by
  induction cs generalizing before with
  | nil => cases h
  | cons a cs ih =>
    rw [lowerAfter] at h
    rcases List.mem_append.1 h with h | h
    · split at h
      · obtain rfl := List.mem_singleton.1 h
        split at hc
        · exact absurd hc (by decide)
        · exact absurd hc (by decide)
      · exact ⟨a, List.mem_cons_self, h⟩
    · obtain ⟨b, hb, hmem⟩ := ih h
      exact ⟨b, List.mem_cons_of_mem _ hb, hmem⟩

/-- Of the ASCII characters before the small letters a text in snake case has underscores and
those of the text itself that are no capitals. -/
theorem mem_of_mem_snakeCase {s : String} {c : Char} (h : c ∈ (snakeCase s).toList)
    (hc : c.toNat < 97) (h0 : c.toNat ≠ 0) : c = '_' ∨ c ∈ s.toList ∧ c.isUpper = false := by
  rw [snakeCase, String.toList_ofList] at h
  rcases mem_flatten_intersperse h with h | h
  · exact .inl (List.mem_singleton.1 h)
  · obtain ⟨l, hl, h⟩ := List.mem_flatten.1 h
    obtain ⟨w, hw, rfl⟩ := List.mem_map.1 hl
    obtain ⟨a, ha, h⟩ := mem_lowerAfter h hc
    obtain ⟨rfl, hupper⟩ := eq_of_mem_lowerOf h hc h0
    exact .inr ⟨mem_of_mem_words hw ha, hupper⟩

/-- A text in snake case has no capitals of ASCII. -/
theorem isUpper_of_mem_snakeCase {s : String} {c : Char} (h : c ∈ (snakeCase s).toList) :
    c.isUpper = false := by
  cases hupper : c.isUpper with
  | false => rfl
  | true =>
    have hrange : 65 ≤ c.toNat ∧ c.toNat ≤ 90 := by
      unfold Char.isUpper at hupper
      simp only [decide_eq_true_eq] at hupper
      exact ⟨UInt32.le_iff_toNat_le.1 hupper.1, UInt32.le_iff_toNat_le.1 hupper.2⟩
    rcases mem_of_mem_snakeCase h (by omega) (by omega) with rfl | ⟨-, hlower⟩
    · cases hupper
    · rw [hupper] at hlower
      cases hlower

/-! ### Upper case -/

/-- The characters of a name that are no capitals are told from their upper case. -/
theorem map_toLower_upperChars {cs : List Char}
    (h : ∀ c ∈ cs, continuesName c = true ∧ c.isUpper = false) :
    (upperChars cs).map Char.toLower = cs := by
  induction cs with
  | nil => rfl
  | cons c cs ih =>
    obtain ⟨hc, hcs⟩ := List.forall_mem_cons.1 h
    have hupper : upperOf c = [c.toUpper] := if_pos (toNat_lt_of_continuesName hc.1)
    have hback : c.isUpper = false → c.toUpper.toLower = c :=
      Schema.forall_continuesName (P := fun c => c.isUpper = false → c.toUpper.toLower = c)
        (by decide) hc.1
    rw [upperChars, List.flatMap_cons, hupper, List.singleton_append, List.map_cons,
      hback hc.2, ← upperChars, ih hcs]

/-- A text of letters, digits and underscores stays one in upper case. -/
theorem continuesName_of_mem_upper {s : String} (hs : ∀ c ∈ s.toList, continuesName c = true)
    {c : Char} (hc : c ∈ (upper s).toList) : continuesName c = true := by
  rw [upper, String.toList_ofList] at hc
  obtain ⟨a, ha, hc⟩ := List.mem_flatMap.1 hc
  have hupper : upperOf a = [a.toUpper] := if_pos (toNat_lt_of_continuesName (hs a ha))
  rw [hupper] at hc
  obtain rfl := List.mem_singleton.1 hc
  exact Schema.forall_continuesName (P := fun a => continuesName a.toUpper = true) (by decide)
    (hs a ha)

/-- Names that are the same in upper snake case are the same in snake case. -/
theorem snakeCase_of_upper {s t : String} (hs : ∀ c ∈ s.toList, continuesName c = true)
    (ht : ∀ c ∈ t.toList, continuesName c = true)
    (h : upper (snakeCase s) = upper (snakeCase t)) : snakeCase s = snakeCase t := by
  have hback {r : String} (hr : ∀ c ∈ r.toList, continuesName c = true) :
      (upper (snakeCase r)).toList.map Char.toLower = (snakeCase r).toList := by
    rw [upper, String.toList_ofList]
    exact map_toLower_upperChars fun c hc =>
      ⟨continuesName_of_mem_snakeCase hr hc, isUpper_of_mem_snakeCase hc⟩
  exact String.ext (by rw [← hback hs, h, hback ht])

end GraphLayer.Text
