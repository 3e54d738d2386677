import GraphLayer.Text.Blank

/-!
# Lines of a text

* `lines_append`: the first line of a text, and those after it;
* `unlines`, the text of some lines, and `splitLines_append_unlines`: it is cut into these lines;
* `withoutReturns`, a text without the carriage returns that belong to the ends of its lines;
* `stripStart?_eq_some_iff` and `stripEnd?_eq_some_iff`: a text with a start or an end.
-/

namespace GraphLayer.Text

theorem splitLines_ne_nil (cs : List Char) : splitLines cs ≠ [] := by
  cases cs with
  | nil => nofun
  | cons c cs =>
    unfold splitLines
    split
    · nofun
    · split <;> nofun

/-- What stands before the first line feed is the first piece. -/
theorem splitLines_append {l : List Char} (h : '\n' ∉ l) (cs : List Char) :
    splitLines (l ++ '\n' :: cs) = l :: splitLines cs := by
  induction l with
  | nil =>
    obtain ⟨m, ms, hms⟩ := List.exists_cons_of_ne_nil (splitLines_ne_nil cs)
    simp [splitLines, hms]
  | cons c l ih =>
    obtain ⟨hc, hl⟩ := List.ne_and_not_mem_of_not_mem_cons h
    rw [List.cons_append, splitLines, ih hl]
    exact if_neg (Ne.symm hc)

/-- The first line of a text, and those after it. -/
theorem lines_append {l : List Char} (h : '\n' ∉ l) (cs : List Char) :
    lines (l ++ '\n' :: cs) = dropReturn l :: lines cs := by
  obtain ⟨last, before, hsplit⟩ := List.exists_cons_of_ne_nil
    (mt List.reverse_eq_nil_iff.1 (splitLines_ne_nil cs))
  have hfirst : (splitLines (l ++ '\n' :: cs)).reverse = last :: (before ++ [l]) := by
    rw [splitLines_append h, List.reverse_cons, hsplit, List.cons_append]
  rw [lines, hfirst, lines, hsplit]
  simp

/-- A text without a line feed is one line, if it is not empty. -/
theorem lines_of_not_mem {l : List Char} (h : '\n' ∉ l) :
    lines l = if l.isEmpty then [] else [l] := by
  have hsplit : splitLines l = [l] := by
    induction l with
    | nil => rfl
    | cons c l ih =>
      obtain ⟨hc, hl⟩ := List.ne_and_not_mem_of_not_mem_cons h
      rw [splitLines, ih hl]
      exact if_neg (Ne.symm hc)
  rw [lines, hsplit]
  rfl

theorem lines_ne_nil {cs : List Char} (h : cs ≠ []) : lines cs ≠ [] := by
  by_cases hmem : '\n' ∈ cs
  · obtain ⟨l, rest, rfl, hl⟩ := List.eq_append_cons_of_mem hmem
    rw [lines_append hl]
    exact List.cons_ne_nil _ _
  · rw [lines_of_not_mem hmem, if_neg (mt List.isEmpty_iff.1 h)]
    exact List.cons_ne_nil _ _

/-- A line that does not end in a carriage return is kept. -/
theorem dropReturn_append (l : List Char) {c : Char} (hc : c ≠ '\r') :
    dropReturn (l ++ [c]) = l ++ [c] := by
  unfold dropReturn
  split
  · next r h =>
    rw [List.reverse_append] at h
    exact absurd (List.cons.inj h).1 hc
  · rfl

/-- A text that does not end its line. -/
def OneLine (cs : List Char) : Prop := '\n' ∉ cs ∧ '\r' ∉ cs

instance decidableOneLine (cs : List Char) : Decidable (OneLine cs) :=
  inferInstanceAs (Decidable (_ ∧ _))

theorem oneLine_nil : OneLine [] := by decide

@[simp] theorem oneLine_append {cs ds : List Char} :
    OneLine (cs ++ ds) ↔ OneLine cs ∧ OneLine ds := by
  simp only [OneLine, List.mem_append, not_or]
  exact and_and_and_comm

/-! ### Texts of lines -/

/-- The text of some lines, each with its end. -/
def unlines (ls : List (List Char)) : List Char := ls.flatMap (· ++ ['\n'])

@[simp] theorem unlines_nil : unlines [] = [] := rfl

@[simp] theorem unlines_cons (l : List Char) (ls : List (List Char)) :
    unlines (l :: ls) = l ++ '\n' :: unlines ls := by
  simp [unlines]

@[simp] theorem unlines_append (ls ms : List (List Char)) :
    unlines (ls ++ ms) = unlines ls ++ unlines ms :=
  List.flatMap_append

theorem getLast?_unlines {ls : List (List Char)} (h : ls ≠ []) :
    (unlines ls).getLast? = some '\n' := by
  obtain ⟨ms, l, rfl⟩ : ∃ ms l, ls = ms ++ [l] := ⟨_, _, (List.dropLast_concat_getLast h).symm⟩
  simp

/-- A text is cut at any of its line feeds. -/
theorem splitLines_append_cons (cs ds : List Char) :
    splitLines (cs ++ '\n' :: ds) = splitLines cs ++ splitLines ds := by
  induction cs with
  | nil => exact splitLines_append (l := []) (by decide) ds
  | cons c cs ih =>
    obtain ⟨l, ls, hsplit⟩ := List.exists_cons_of_ne_nil (splitLines_ne_nil cs)
    rw [List.cons_append, splitLines, splitLines, ih, hsplit]
    dsimp only [List.cons_append]
    split <;> rfl

/-- The text of some lines is cut into these lines, whatever is before it. -/
theorem splitLines_append_unlines (cs : List Char) {ls : List (List Char)}
    (h : ∀ l ∈ ls, '\n' ∉ l) :
    splitLines (cs ++ '\n' :: unlines ls) = splitLines cs ++ ls ++ [[]] := by
  rw [splitLines_append_cons, List.append_assoc]
  congr 1
  induction ls with
  | nil => rfl
  | cons l ls ih =>
    rw [unlines_cons, splitLines_append (h l List.mem_cons_self),
      ih fun m hm => h m (List.mem_cons_of_mem l hm), List.cons_append]

/-! ### The ends of lines -/

/-- A text without the carriage returns that belong to the ends of its lines. -/
def withoutReturns : List Char → List Char
  | [] => []
  | c :: cs =>
    if c = '\r' ∧ cs.head? = some '\n' then withoutReturns cs else c :: withoutReturns cs

theorem withoutReturns_eq_self {cs : List Char} (h : '\r' ∉ cs) : withoutReturns cs = cs := by
  induction cs with
  | nil => rfl
  | cons c cs ih =>
    obtain ⟨hc, hcs⟩ := List.ne_and_not_mem_of_not_mem_cons h
    rw [withoutReturns, if_neg fun hreturn => hc hreturn.1.symm, ih hcs]

theorem not_mem_dropReturn {l : List Char} {c : Char} (h : c ∉ l) : c ∉ dropReturn l := by
  unfold dropReturn
  split
  · next r hr =>
    have hsub : ∀ d ∈ r.reverse, d ∈ l := by
      intro d hd
      rw [← List.mem_reverse, hr]
      exact List.mem_cons_of_mem _ (List.mem_reverse.1 hd)
    exact fun hmem => h (hsub c hmem)
  · exact h

/-- Only the last character of a line can be dropped. -/
theorem dropReturn_cons (c : Char) {l : List Char} (h : l ≠ []) :
    dropReturn (c :: l) = c :: dropReturn l := by
  obtain ⟨m, d, rfl⟩ : ∃ m d, l = m ++ [d] := ⟨_, _, (List.dropLast_concat_getLast h).symm⟩
  by_cases hd : d = '\r'
  · simp [dropReturn, hd]
  · rw [← List.cons_append, dropReturn_append _ hd, dropReturn_append _ hd, List.cons_append]

/-- A line before its end. -/
theorem withoutReturns_append_cons {l : List Char} (h : '\n' ∉ l) (cs : List Char) :
    withoutReturns (l ++ '\n' :: cs) = dropReturn l ++ '\n' :: withoutReturns cs := by
  induction l with
  | nil => simp [withoutReturns, dropReturn]
  | cons c l ih =>
    obtain ⟨-, hl⟩ := List.ne_and_not_mem_of_not_mem_cons h
    rw [List.cons_append, withoutReturns, ih hl]
    cases l with
    | nil =>
      by_cases hc : c = '\r'
      · simp [dropReturn, hc]
      · rw [if_neg fun hreturn => hc hreturn.1, ← List.nil_append [c], dropReturn_append _ hc]
        rfl
    | cons d l =>
      have hd : '\n' ≠ d := (List.ne_and_not_mem_of_not_mem_cons hl).1
      rw [dropReturn_cons c (List.cons_ne_nil d l), List.cons_append, List.cons_append]
      exact if_neg fun hreturn => hd (Option.some.inj hreturn.2).symm

/-- A text that does not end its line is kept. -/
theorem withoutReturns_of_not_mem {l : List Char} (h : '\n' ∉ l) : withoutReturns l = l := by
  induction l with
  | nil => rfl
  | cons c l ih =>
    obtain ⟨-, hl⟩ := List.ne_and_not_mem_of_not_mem_cons h
    have hhead : l.head? ≠ some '\n' := fun hhead => hl (List.mem_of_head? hhead)
    rw [withoutReturns, if_neg fun hreturn => hhead hreturn.2, ih hl]

/-- A text has a start if it is this start before its rest. -/
theorem stripStart?_eq_some_iff {start cs rest : List Char} :
    stripStart? start cs = some rest ↔ cs = start ++ rest := by
  induction start generalizing cs with
  | nil => simp [stripStart?]
  | cons a start ih =>
    cases cs with
    | nil => simp [stripStart?]
    | cons c cs =>
      by_cases h : a = c
      · simp [stripStart?, h, ih]
      · simp [stripStart?, h, Ne.symm h]

theorem stripStart?_append (start cs : List Char) : stripStart? start (start ++ cs) = some cs :=
  stripStart?_eq_some_iff.2 rfl

/-- A text has an end if it is what is before it and this end. -/
theorem stripEnd?_eq_some_iff {ending cs rest : List Char} :
    stripEnd? ending cs = some rest ↔ cs = rest ++ ending := by
  rw [stripEnd?, Option.map_eq_some_iff]
  constructor
  · rintro ⟨r, hr, rfl⟩
    rw [← List.reverse_reverse cs, stripStart?_eq_some_iff.1 hr, List.reverse_append,
      List.reverse_reverse]
  · rintro rfl
    exact ⟨rest.reverse, by rw [List.reverse_append, stripStart?_append], List.reverse_reverse _⟩

theorem stripEnd?_append (ending cs : List Char) : stripEnd? ending (cs ++ ending) = some cs :=
  stripEnd?_eq_some_iff.2 rfl

end GraphLayer.Text
