import Mathlib.Data.List.TakeWhile
import GraphLayer.Text.Blank

/-!
# Texts without the blanks around them

* `trimChars_blanks`: blanks around a text do not count, and `exists_trimChars`: nothing else is
  dropped;
* `trimChars_concat` and `trimChars_eq_self`: what stays before a character that is no blank.
-/

namespace GraphLayer.Text

variable {cs left right : List Char} {c : Char}

theorem trimRight_blanks (hright : right.all isBlank = true) (cs : List Char) :
    trimRight (cs ++ right) = trimRight cs := by
  have hreverse : ∀ c ∈ right.reverse, isBlank c = true := by
    intro c hc
    exact List.all_eq_true.1 hright c (List.mem_reverse.1 hc)
  rw [trimRight, List.reverse_append, List.dropWhile_append_of_pos hreverse, trimRight]

/-- Blanks around a text do not count. -/
theorem trimChars_blanks (hleft : left.all isBlank = true) (hright : right.all isBlank = true)
    (cs : List Char) : trimChars (left ++ cs ++ right) = trimChars cs := by
  rw [trimChars, trimChars, List.append_assoc,
    List.dropWhile_append_of_pos (List.all_eq_true.1 hleft), List.dropWhile_append]
  by_cases hblank : (cs.dropWhile isBlank).isEmpty = true
  · rw [if_pos hblank, List.dropWhile_eq_nil_iff.2 (List.all_eq_true.1 hright),
      List.isEmpty_iff.1 hblank]
  · rw [if_neg hblank]
    exact trimRight_blanks hright _

/-- A text is what is left of it between blanks. -/
theorem exists_trimChars (cs : List Char) : ∃ left right, left.all isBlank = true ∧
    right.all isBlank = true ∧ cs = left ++ trimChars cs ++ right := by
  refine ⟨cs.takeWhile isBlank, ((cs.dropWhile isBlank).reverse.takeWhile isBlank).reverse,
    List.all_takeWhile, ?_, ?_⟩
  · rw [List.all_reverse]
    exact List.all_takeWhile
  · rw [trimChars, trimRight, List.append_assoc, ← List.reverse_append,
      List.takeWhile_append_dropWhile, List.reverse_reverse, List.takeWhile_append_dropWhile]

theorem trimChars_dropWhile (cs : List Char) : trimChars (cs.dropWhile isBlank) = trimChars cs := by
  have h : trimChars (cs.takeWhile isBlank ++ cs.dropWhile isBlank ++ []) =
      trimChars (cs.dropWhile isBlank) := trimChars_blanks List.all_takeWhile rfl _
  rwa [List.append_nil, List.takeWhile_append_dropWhile, eq_comm] at h

/-- The blanks before a character stay apart from what follows it. -/
theorem dropWhile_append_cons (hc : isBlank c = false) (cs rest : List Char) :
    (cs ++ c :: rest).dropWhile isBlank = cs.dropWhile isBlank ++ c :: rest := by
  have hstop : ¬ isBlank c = true := by simp [hc]
  rw [List.dropWhile_append]
  by_cases hblank : (cs.dropWhile isBlank).isEmpty = true
  · rw [if_pos hblank, List.dropWhile_cons_of_neg hstop, List.isEmpty_iff.1 hblank,
      List.nil_append]
  · rw [if_neg hblank]

/-- Before a last character only the blanks at the start are dropped. -/
theorem trimChars_concat (hc : isBlank c = false) (cs : List Char) :
    trimChars (cs ++ [c]) = cs.dropWhile isBlank ++ [c] := by
  have hstop : ¬ isBlank c = true := by simp [hc]
  rw [trimChars, dropWhile_append_cons hc, trimRight, List.reverse_append, List.reverse_singleton,
    List.singleton_append, List.dropWhile_cons_of_neg hstop, List.reverse_cons,
    List.reverse_reverse]

theorem trimChars_eq_self (h : ∀ c ∈ cs, isBlank c = false) : trimChars cs = cs := by
  have hdrop {l : List Char} (h : ∀ c ∈ l, isBlank c = false) : l.dropWhile isBlank = l := by
    cases l with
    | nil => rfl
    | cons c l => exact List.dropWhile_cons_of_neg (by simp [h c List.mem_cons_self])
  have hreverse : ∀ c ∈ cs.reverse, isBlank c = false := fun c hc => h c (List.mem_reverse.1 hc)
  rw [trimChars, hdrop h, trimRight, hdrop hreverse, List.reverse_reverse]

end GraphLayer.Text
