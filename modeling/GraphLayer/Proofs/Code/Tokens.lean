import GraphLayer.Code.Syntax

/-!
# Tokens of lines of code

* `Code.tokens`, a line cut into its words, raw identifiers among them, and the single characters
  between these;
* `tokens_append`: a line may be cut beside any character that belongs to no word;
* `eq_of_mem_tokens` and `eq_of_mem_tokens_raw`: an identifier is one token;
* `mem_tokens_intercalate`: the tokens of a list of identifiers;
* `Awaits`, a line that waits for a result.
-/

namespace GraphLayer.Code

/-- Words are made of letters, digits and underscores. -/
def isWordChar (c : Char) : Bool := c.isAlphanum || c == '_'

/-- Whether a character goes on with an open word, which is given in reverse. The mark of a raw
identifier is part of it. -/
def continuesWord (current : List Char) (c : Char) : Bool :=
  isWordChar c || (c == '#' && current == ['r'])

/-- An open word as a token, if there is one. -/
def openToken (current : List Char) : List (List Char) :=
  if current.isEmpty then [] else [current.reverse]

/-- The tokens of a text after an open word, which is given in reverse. -/
def tokensFrom (current : List Char) : List Char → List (List Char)
  | [] => openToken current
  | c :: cs =>
    if continuesWord current c then tokensFrom (c :: current) cs
    else openToken current ++ [c] :: tokensFrom [] cs

/-- The tokens of a line: words, and single characters that belong to no word. -/
def tokens (line : String) : List String := (tokensFrom [] line.toList).map String.ofList

/-- The line waits for a result. -/
def Awaits (line : String) : Prop := [".", "await"] <:+: tokens line

/-- A character that never belongs to a word. -/
def isCut (c : Char) : Bool := !isWordChar c && c != '#'

/-- The text begins with a character that never belongs to a word. -/
def startsCut (s : String) : Bool := s.toList.head?.any isCut

/-- The text ends in a character that never belongs to a word. -/
def endsCut (s : String) : Bool := s.toList.getLast?.any isCut

theorem endsCut_append {a b : String} (h : endsCut b = true) : endsCut (a ++ b) = true := by
  obtain ⟨c, hlast, hc⟩ := (Option.any_eq_true _ _).1 h
  have happend : (a ++ b).toList.getLast? = some c := by
    rw [String.toList_append, List.getLast?_append, hlast, Option.some_or]
  rw [endsCut, happend]
  exact hc

theorem tokensFrom_append_cons (current s : List Char) {c : Char} (hc : isCut c = true)
    (t : List Char) :
    tokensFrom current (s ++ c :: t) = tokensFrom current s ++ [c] :: tokensFrom [] t := by
  induction s generalizing current with
  | nil =>
    have hends : continuesWord current c = false := by
      obtain ⟨hword, hmark⟩ : isWordChar c = false ∧ c ≠ '#' := by simpa [isCut] using hc
      simp [continuesWord, hword, hmark]
    simp [tokensFrom, hends]
  | cons a s ih =>
    rw [List.cons_append, tokensFrom, tokensFrom, ih, ih]
    by_cases ha : continuesWord current a = true
    · rw [if_pos ha, if_pos ha]
    · rw [if_neg ha, if_neg ha, List.append_assoc, List.cons_append]

/-- A text may be cut after a character that belongs to no word, and before one. -/
theorem tokens_append {a b : String}
    (h : endsCut a = true ∨ startsCut b = true) :
    tokens (a ++ b) = tokens a ++ tokens b := by
  unfold tokens
  rw [String.toList_append, ← List.map_append]
  congr 1
  rcases h with h | h
  -- on either side the character is cut off first
  · obtain ⟨c, hlast, hc⟩ := (Option.any_eq_true _ _).1 h
    obtain ⟨s, hs⟩ := List.getLast?_eq_some_iff.1 hlast
    rw [hs, List.append_assoc, List.singleton_append, tokensFrom_append_cons _ _ hc,
      tokensFrom_append_cons _ _ hc]
    simp [tokensFrom, openToken]
  · obtain ⟨c, hhead, hc⟩ := (Option.any_eq_true _ _).1 h
    obtain ⟨t, ht⟩ := List.head?_eq_some_iff.1 hhead
    have hfirst := tokensFrom_append_cons [] [] hc t
    rw [List.nil_append] at hfirst
    rw [ht, tokensFrom_append_cons _ _ hc, hfirst]
    simp [tokensFrom, openToken]

/-! ### Words -/

theorem tokensFrom_word (current : List Char) {s : List Char}
    (h : ∀ c ∈ s, isWordChar c = true) :
    tokensFrom current s = openToken (s.reverse ++ current) := by
  induction s generalizing current with
  | nil => rfl
  | cons c s ih =>
    obtain ⟨hc, hs⟩ := List.forall_mem_cons.1 h
    rw [tokensFrom, if_pos (by simp [continuesWord, hc]), ih _ hs]
    simp

theorem eq_of_mem_openToken {current t : List Char} (h : t ∈ openToken current) :
    t = current.reverse := by
  unfold openToken at h
  split at h
  · cases h
  · exact List.mem_singleton.1 h

/-- A word is one token. -/
theorem eq_of_mem_tokens {s t : String} (h : ∀ c ∈ s.toList, isWordChar c = true)
    (ht : t ∈ tokens s) : t = s := by
  obtain ⟨cs, hcs, rfl⟩ := List.mem_map.1 ht
  rw [tokensFrom_word [] h, List.append_nil] at hcs
  obtain rfl := eq_of_mem_openToken hcs
  rw [List.reverse_reverse, String.ofList_toList]

/-- A raw identifier is one token. -/
theorem eq_of_mem_tokens_raw {s t : String} (h : ∀ c ∈ s.toList, isWordChar c = true)
    (ht : t ∈ tokens ("r#" ++ s)) : t = "r#" ++ s := by
  obtain ⟨cs, hcs, rfl⟩ := List.mem_map.1 ht
  have htokens : tokensFrom [] ("r#" ++ s).toList = tokensFrom ['#', 'r'] s.toList := by
    rw [String.toList_append]
    rfl
  rw [htokens, tokensFrom_word _ h] at hcs
  obtain rfl := eq_of_mem_openToken hcs
  apply String.ext
  simp

example : tokens "Ok(self.r#await)" = ["Ok", "(", "self", ".", "r#await", ")"] := by decide

/-- The tokens of a list are those of its entries, and what stands between them. -/
theorem mem_tokens_intercalate {names : List String} {t : String}
    (h : t ∈ tokens (String.intercalate ", " names)) :
    t = "," ∨ t = " " ∨ ∃ name ∈ names, t ∈ tokens name := by
  induction names with
  | nil => cases h
  | cons name names ih =>
    cases names with
    | nil => exact .inr (.inr ⟨name, List.mem_singleton_self name, by simpa using h⟩)
    | cons other names =>
      rw [String.intercalate_cons_cons, tokens_append (.inl (endsCut_append (by decide))),
        tokens_append (.inr (by decide))] at h
      rcases List.mem_append.1 h with h | h
      · rcases List.mem_append.1 h with h | h
        · exact .inr (.inr ⟨name, List.mem_cons_self, h⟩)
        · have hseparator : tokens ", " = [",", " "] := by decide
          rw [hseparator] at h
          rcases List.mem_cons.1 h with rfl | h
          · exact .inl rfl
          · exact .inr (.inl (List.mem_singleton.1 h))
      · refine (ih h).imp_right (Or.imp_right ?_)
        rintro ⟨entry, hentry, ht⟩
        exact ⟨entry, List.mem_cons_of_mem _ hentry, ht⟩

/-! ### Waiting -/

theorem mem_tokens_of_awaits {line : String} (h : Awaits line) : "await" ∈ tokens line := by
  apply h.subset
  simp

/-- A line waits for a result if some end of it does. -/
theorem awaits_append {a b : String} (hb : startsCut b = true) (h : Awaits b) :
    Awaits (a ++ b) := by
  unfold Awaits
  rw [tokens_append (.inr hb)]
  exact h.trans (List.suffix_append _ _).isInfix

end GraphLayer.Code
