import GraphLayer.Path

/-!
# The components of a joined path

* `Path.IsFileName`, the names that stand for one component;
* `Path.components_join` and `Path.components_join_eq`: a file name that is joined to a path is one
  component more.
-/

namespace GraphLayer.Path

/-! ### Pieces -/

theorem pieces_ne_nil (cs : List Char) : pieces cs ≠ [] := by
  cases cs with
  | nil => nofun
  | cons c cs =>
    unfold pieces
    split
    · nofun
    · split <;> nofun

theorem pieces_cons_of_ne {c : Char} (hc : c ≠ '/') {cs p : List Char} {ps : List (List Char)}
    (h : pieces cs = p :: ps) : pieces (c :: cs) = (c :: p) :: ps := by
  rw [pieces, h]
  exact if_neg hc

/-- Without a separator there is one piece. -/
theorem pieces_of_not_mem {f : List Char} (h : '/' ∉ f) : pieces f = [f] := by
  induction f with
  | nil => rfl
  | cons c f ih =>
    obtain ⟨hc, hf⟩ := List.ne_and_not_mem_of_not_mem_cons h
    exact pieces_cons_of_ne (Ne.symm hc) (ih hf)

/-- The pieces before and after a separator. -/
theorem pieces_append_separator (cs ds : List Char) :
    pieces (cs ++ '/' :: ds) = pieces cs ++ pieces ds := by
  induction cs with
  | nil =>
    obtain ⟨p, ps, hps⟩ := List.exists_cons_of_ne_nil (pieces_ne_nil ds)
    simp [pieces, hps]
  | cons c cs ih =>
    obtain ⟨p, ps, hps⟩ := List.exists_cons_of_ne_nil (pieces_ne_nil cs)
    rw [hps] at ih
    rw [List.cons_append, pieces, ih, pieces, hps]
    by_cases hc : c = '/'
    · simp [hc]
    · simp [hc]

/-- What follows the last separator is the last piece. -/
theorem pieces_append {f : List Char} (h : '/' ∉ f) (cs : List Char) :
    pieces (cs ++ '/' :: f) = pieces cs ++ [f] := by
  rw [pieces_append_separator, pieces_of_not_mem h]

/-! ### Components -/

/-- The components of a path from its pieces. -/
def meaning (absolute : Bool) (ps : List (List Char)) : List Component :=
  if absolute then .root :: ps.filterMap inner?
  else
    match ps with
    | ['.'] :: rest => .here :: rest.filterMap inner?
    | ps => ps.filterMap inner?

theorem components_eq (p : Path) : p.components = meaning p.isAbsolute (pieces p.text.toList) := rfl

/-- A piece that follows others means what it does inside a path. -/
theorem meaning_concat (absolute : Bool) {ps : List (List Char)} (h : ps ≠ []) (f : List Char) :
    meaning absolute (ps ++ [f]) = meaning absolute ps ++ (inner? f).toList := by
  have hinner : [f].filterMap inner? = (inner? f).toList := by
    cases hf : inner? f <;> simp [hf]
  cases absolute with
  | true => simp only [meaning, if_true, List.filterMap_append, hinner, List.cons_append]
  | false =>
    obtain ⟨p, ps, rfl⟩ := List.exists_cons_of_ne_nil h
    by_cases hp : p = ['.']
    · subst hp
      simp only [meaning, Bool.false_eq_true, if_false, List.cons_append, List.filterMap_append,
        hinner]
    · have hmeaning (qs : List (List Char)) :
          meaning false (p :: qs) = (p :: qs).filterMap inner? := by
        simp only [meaning, Bool.false_eq_true, if_false]
        split
        · rename_i heq
          exact absurd (List.cons.inj heq).1 hp
        · rfl
      rw [List.cons_append, hmeaning, hmeaning, ← List.cons_append, List.filterMap_append, hinner]

/-! ### File names -/

/-- A name that stands for one component of a path. -/
structure IsFileName (s : String) : Prop where
  separator : '/' ∉ s.toList
  inner : inner? s.toList = some (.name s)

theorem IsFileName.of_ne {s : String} (hsep : '/' ∉ s.toList) (hnil : s ≠ "") (hhere : s ≠ ".")
    (hup : s ≠ "..") : IsFileName s where
  separator := hsep
  inner := by
    have hne {t : String} (h : s ≠ t) : s.toList ≠ t.toList := fun he => h (String.ext he)
    have h₁ : s.toList ≠ [] := hne hnil
    have h₂ : s.toList ≠ ['.'] := hne hhere
    have h₃ : s.toList ≠ ['.', '.'] := hne hup
    simp [inner?, h₁, h₂, h₃]

theorem not_isAbsolute {s : String} (h : '/' ∉ s.toList) : (Path.mk s).isAbsolute = false := by
  unfold isAbsolute
  cases hs : s.toList with
  | nil => rfl
  | cons c cs =>
    rw [hs] at h
    have hc : c ≠ '/' := fun he => h (he ▸ List.mem_cons_self)
    simpa using hc

/-- The spelling of a path with a file in it: a separator stands before the file. -/
theorem exists_text_join {p : Path} (hp : p.text ≠ "") {s : String} (hs : '/' ∉ s.toList) :
    ∃ cs, (p.join ⟨s⟩).text.toList = cs ++ '/' :: s.toList ∧
      (p.text.toList = cs ∨ p.text.toList = cs ++ ['/']) := by
  have hne : ¬ p.text.isEmpty = true := fun h => hp (by simpa using h)
  unfold join
  rw [not_isAbsolute hs]
  by_cases hlast : p.text.toList.getLast? = some '/'
  · obtain ⟨cs, hcs⟩ := List.getLast?_eq_some_iff.1 hlast
    refine ⟨cs, ?_, .inr hcs⟩
    simp [hcs]
  · refine ⟨p.text.toList, ?_, .inl rfl⟩
    simp [hlast, hne]

/-- **A file in a directory** is one component more than the directory. -/
theorem components_join {p : Path} (hp : p.text ≠ "") {s : String} (hs : IsFileName s) :
    (p.join ⟨s⟩).components = p.components ++ [.name s] := by
  obtain ⟨cs, hjoin, hcs⟩ := exists_text_join hp hs.separator
  have habs : (p.join ⟨s⟩).isAbsolute = p.isAbsolute := by
    unfold isAbsolute
    rw [hjoin]
    cases cs with
    | nil =>
      have hpne : p.text.toList ≠ [] := fun h => hp (String.ext h)
      rw [hcs.resolve_left hpne]
      rfl
    | cons c cs => rcases hcs with hcs | hcs <;> rw [hcs] <;> rfl
  rw [components_eq, components_eq, habs, hjoin, pieces_append hs.separator,
    meaning_concat _ (pieces_ne_nil cs), hs.inner]
  rcases hcs with hcs | hcs
  · rw [hcs]
    rfl
  · -- nothing follows the separator at the end of the directory
    rw [hcs, pieces_append List.not_mem_nil, meaning_concat _ (pieces_ne_nil cs)]
    simp [inner?]

/-- A file in a directory, which may be spelled by the empty text. -/
theorem components_join_eq (p : Path) {s : String} (hs : IsFileName s) :
    (p.join ⟨s⟩).components = p.components ++ [.name s] := by
  by_cases hp : p.text = ""
  · have habs := not_isAbsolute hs.separator
    have hjoin : p.join ⟨s⟩ = ⟨s⟩ := by simp [join, habs, hp]
    have hempty : p.components = [] := by
      rw [show p = ⟨""⟩ from congrArg Path.mk hp]
      rfl
    have hfile : meaning false [s.toList] = [.name s] := by
      unfold meaning
      rw [if_neg Bool.false_ne_true]
      split
      · next rest heq =>
        have hinner := hs.inner
        rw [(List.cons.inj heq).1] at hinner
        cases hinner
      · simp [hs.inner]
    rw [hjoin, hempty, components_eq, habs, pieces_of_not_mem hs.separator, hfile, List.nil_append]
  · exact components_join hp hs

end GraphLayer.Path
