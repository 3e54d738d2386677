import Mathlib.Data.List.Infix
import GraphLayer.Proofs.Text.Lines

/-!
# The first occurrence of a separator

* `FirstOccurrence`: a separator stands between two parts of a text, and nowhere before;
* `splitOnce?_eq_some_iff` and `splitOnce?_eq_none_iff`: what is found, and when nothing is;
* `splitOnce?_of_not_mem`: a separator behind a text without its first character is found there;
* `splitOnce?_append`: a text that goes on does not move what was found before;
* `splitOnce?_pair_append`: a text without a pair of one character, which does not end with this
  character either, only moves what is found after it.
-/

namespace GraphLayer.Text

variable {sep cs before after : List Char} {c : Char}

/-- The first occurrence of a separator in a text has these parts around it. -/
structure FirstOccurrence (sep cs before after : List Char) : Prop where
  eq_append : cs = before ++ sep ++ after
  /-- Wherever else the separator stands, it stands no earlier. -/
  first : ∀ b a, cs = b ++ sep ++ a → before.length ≤ b.length

theorem FirstOccurrence.isInfix (h : FirstOccurrence sep cs before after) : sep <:+: cs :=
  ⟨before, after, h.eq_append.symm⟩

/-- There is only one first occurrence. -/
theorem FirstOccurrence.unique {before' after' : List Char}
    (h : FirstOccurrence sep cs before after) (h' : FirstOccurrence sep cs before' after') :
    before = before' ∧ after = after' := by
  have hlength : before.length = before'.length :=
    Nat.le_antisymm (h.first _ _ h'.eq_append) (h'.first _ _ h.eq_append)
  have heq : before ++ (sep ++ after) = before' ++ (sep ++ after') := by
    rw [← List.append_assoc, ← List.append_assoc, ← h.eq_append, h'.eq_append]
  obtain ⟨hbefore, hrest⟩ := List.append_inj heq hlength
  exact ⟨hbefore, List.append_cancel_left hrest⟩

/-- What is not at the start of a text is in the rest of it. -/
theorem isInfix_of_stripStart?_eq_none (h : stripStart? sep (c :: cs) = none)
    (hsep : sep <:+: c :: cs) : sep <:+: cs := by
  rcases List.infix_cons_iff.1 hsep with ⟨rest, hrest⟩ | hrest
  · rw [← hrest, stripStart?_append] at h
    cases h
  · exact hrest

theorem firstOccurrence_of_splitOnce? (h : splitOnce? sep cs = some (before, after)) :
    FirstOccurrence sep cs before after := by
  induction cs generalizing before with
  | nil =>
    unfold splitOnce? at h
    split at h
    · next hsep =>
      cases h
      exact ⟨by simpa using hsep, fun _ _ _ => Nat.zero_le _⟩
    · cases h
  | cons c cs ih =>
    unfold splitOnce? at h
    split at h
    · next rest hrest =>
      cases h
      exact ⟨stripStart?_eq_some_iff.1 hrest, fun _ _ _ => Nat.zero_le _⟩
    · next hrest =>
      obtain ⟨⟨b, a⟩, hsplit, heq⟩ := Option.map_eq_some_iff.1 h
      cases heq
      obtain ⟨hcs, hfirst⟩ := ih hsplit
      refine ⟨congrArg (List.cons c) hcs, fun b' a' h' => ?_⟩
      cases b' with
      | nil =>
        rw [h', List.nil_append, stripStart?_append] at hrest
        cases hrest
      | cons d b' => exact Nat.succ_le_succ (hfirst b' a' (List.cons.inj h').2)

/-- Nothing is found exactly if the separator is not in the text. -/
theorem splitOnce?_eq_none_iff : splitOnce? sep cs = none ↔ ¬ sep <:+: cs := by
  induction cs with
  | nil => simp [splitOnce?]
  | cons c cs ih =>
    unfold splitOnce?
    split
    · next rest hrest =>
      have hbefore : sep <+: c :: cs := ⟨rest, (stripStart?_eq_some_iff.1 hrest).symm⟩
      simp [hbefore.isInfix]
    · next hrest =>
      rw [Option.map_eq_none_iff, ih]
      exact not_congr ⟨fun h => h.trans (List.suffix_cons c cs).isInfix,
        isInfix_of_stripStart?_eq_none hrest⟩

/-- What is found is the first occurrence. -/
theorem splitOnce?_eq_some_iff :
    splitOnce? sep cs = some (before, after) ↔ FirstOccurrence sep cs before after := by
  refine ⟨firstOccurrence_of_splitOnce?, fun h => ?_⟩
  cases hsplit : splitOnce? sep cs with
  | none => exact absurd h.isInfix (splitOnce?_eq_none_iff.1 hsplit)
  | some p =>
    obtain ⟨rfl, rfl⟩ := (firstOccurrence_of_splitOnce? hsplit).unique h
    rfl

/-- A separator is found behind a text without its first character. -/
theorem splitOnce?_of_not_mem (h : c ∉ before) (sep after : List Char) :
    splitOnce? (c :: sep) (before ++ (c :: sep) ++ after) = some (before, after) := by
  induction before with
  | nil =>
    rw [List.nil_append, List.cons_append, splitOnce?, ← List.cons_append, stripStart?_append]
  | cons d before ih =>
    obtain ⟨hd, hbefore⟩ := List.ne_and_not_mem_of_not_mem_cons h
    have hstart : stripStart? (c :: sep) (d :: (before ++ (c :: sep) ++ after)) = none := by
      rw [stripStart?, if_neg hd]
    rw [List.cons_append, List.cons_append, splitOnce?, hstart, ih hbefore]
    rfl

/-! ### Texts that go on -/

/-- A text that goes on does not move what was found before. -/
theorem splitOnce?_append (h : splitOnce? sep cs = some (before, after)) (rest : List Char) :
    splitOnce? sep (cs ++ rest) = some (before, after ++ rest) := by
  obtain ⟨hcs, hfirst⟩ := firstOccurrence_of_splitOnce? h
  refine splitOnce?_eq_some_iff.2 ⟨?_, fun b a heq => ?_⟩
  · rw [hcs, List.append_assoc]
  · by_contra hlt
    -- an earlier occurrence would end before the text goes on
    have hbefore : b ++ sep <+: cs := by
      refine List.prefix_of_prefix_length_le ⟨a, heq.symm⟩ (List.prefix_append cs rest) ?_
      rw [hcs]
      simp only [List.length_append]
      omega
    obtain ⟨a', ha'⟩ := hbefore
    exact hlt (hfirst b a' ha'.symm)

/-- A text without a pair of one character, which does not end with this character either, only
moves what is found after it. -/
theorem splitOnce?_pair_append (h : ¬ [c, c] <:+: cs) (hlast : cs.getLast? ≠ some c)
    (rest : List Char) :
    splitOnce? [c, c] (cs ++ rest) =
      (splitOnce? [c, c] rest).map fun p => (cs ++ p.1, p.2) := by
  induction cs with
  | nil => simp
  | cons d cs ih =>
    have hcs : ¬ [c, c] <:+: cs := fun hcs => h (hcs.trans (List.suffix_cons d cs).isInfix)
    have hstart : stripStart? [c, c] (d :: (cs ++ rest)) = none := by
      cases cs with
      | nil =>
        have hd : ¬ c = d := fun hd => hlast (hd ▸ rfl)
        simp [stripStart?, hd]
      | cons e cs =>
        by_cases hd : c = d
        · have he : ¬ c = e := by
            rintro rfl
            exact h ⟨[], cs, by rw [hd]; rfl⟩
          simp [stripStart?, hd, hd ▸ he]
        · simp [stripStart?, hd]
    have hrest : cs.getLast? ≠ some c := by
      cases cs with
      | nil => simp
      | cons e cs => rwa [List.getLast?_cons_cons] at hlast
    rw [List.cons_append, splitOnce?, hstart, ih hcs hrest, Option.map_map]
    rfl

end GraphLayer.Text
