import GraphLayer.Proofs.Text.Trim

/-!
# Numbers in decimal digits

* `Numeral`: a text is a number, which is written with one or more decimal digits behind an optional
  sign;
* `foldl_digits`: digits that are added up one after the other give the number that they write;
* `Numeral.trimChars_eq`: there are no blanks in a number.
-/

namespace GraphLayer.Text

variable {cs ds : List Char} {c : Char} {n : Int}

/-- A text is a number: decimal digits, at least one, behind an optional sign. -/
inductive Numeral : List Char → Int → Prop
  | plain {ds : List Char} (h : ds ≠ []) (hd : ∀ c ∈ ds, c.isDigit = true) :
      Numeral ds (Nat.ofDigitChars 10 ds 0)
  | plus {ds : List Char} (h : ds ≠ []) (hd : ∀ c ∈ ds, c.isDigit = true) :
      Numeral ('+' :: ds) (Nat.ofDigitChars 10 ds 0)
  | minus {ds : List Char} (h : ds ≠ []) (hd : ∀ c ∈ ds, c.isDigit = true) :
      Numeral ('-' :: ds) (-Nat.ofDigitChars 10 ds 0)

theorem foldl_digits (ds : List Char) :
    ds.foldl (fun n c => n * 10 + (c.toNat - '0'.toNat)) 0 = Nat.ofDigitChars 10 ds 0 := by
  rw [Nat.ofDigitChars_eq_foldl]
  simp only [Nat.mul_comm]

theorem isDigit_bounds (h : c.isDigit = true) : 48 ≤ c.toNat ∧ c.toNat ≤ 57 := by
  simpa [Char.isDigit, UInt32.le_iff_toNat_le] using h

theorem isBlank_of_isDigit (h : c.isDigit = true) : isBlank c = false := by
  have hbounds := isDigit_bounds h
  simp only [isBlank, Bool.or_eq_false_iff, Bool.and_eq_false_iff, decide_eq_false_iff_not,
    beq_eq_false_iff_ne]
  omega

theorem Numeral.isBlank_of_mem (h : Numeral cs n) (hc : c ∈ cs) : isBlank c = false := by
  cases h with
  | plain _ hd => exact isBlank_of_isDigit (hd c hc)
  | plus _ hd =>
    rcases List.mem_cons.1 hc with rfl | hc
    · decide
    · exact isBlank_of_isDigit (hd c hc)
  | minus _ hd =>
    rcases List.mem_cons.1 hc with rfl | hc
    · decide
    · exact isBlank_of_isDigit (hd c hc)

theorem Numeral.trimChars_eq (h : Numeral cs n) : trimChars cs = cs :=
  trimChars_eq_self fun _ => h.isBlank_of_mem

end GraphLayer.Text
