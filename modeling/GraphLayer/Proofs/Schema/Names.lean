import GraphLayer.Schema.Token

/-!
# Characters of names

* `toNat_lt_of_continuesName`: names are within ASCII, so that what is said of all characters of
  names can be checked one by one (`forall_continuesName`);
* `continuesName_of_isName`: all characters of a name are characters of names.
-/

namespace GraphLayer.Schema

theorem toNat_lt_of_continuesName {c : Char} (h : continuesName c = true) : c.toNat < 128 := by
  unfold continuesName Char.isAlphanum Char.isAlpha Char.isUpper Char.isLower Char.isDigit at h
  simp only [Bool.or_eq_true, Bool.and_eq_true, decide_eq_true_eq, beq_iff_eq] at h
  rcases h with ((⟨-, h⟩ | ⟨-, h⟩) | ⟨-, h⟩) | rfl
  · exact Nat.lt_of_le_of_lt (UInt32.le_iff_toNat_le.1 h) (by decide)
  · exact Nat.lt_of_le_of_lt (UInt32.le_iff_toNat_le.1 h) (by decide)
  · exact Nat.lt_of_le_of_lt (UInt32.le_iff_toNat_le.1 h) (by decide)
  · decide

/-- What holds of the ASCII characters of names holds of all of them. -/
theorem forall_continuesName {P : Char → Prop}
    (h : ∀ n < 128, continuesName (Char.ofNat n) = true → P (Char.ofNat n)) {c : Char}
    (hc : continuesName c = true) : P c := by
  have hn := h c.toNat (toNat_lt_of_continuesName hc)
  rw [Char.ofNat_toNat] at hn
  exact hn hc

theorem continuesName_of_startsName {c : Char} (h : startsName c = true) :
    continuesName c = true := by
  simp only [startsName, continuesName, Char.isAlphanum, Bool.or_eq_true] at h ⊢
  exact h.imp_left .inl

/-- All characters of a name are characters of names. -/
theorem continuesName_of_isName {s : List Char} (h : isName s = true) :
    ∀ c ∈ s, continuesName c = true := by
  cases s with
  | nil => nofun
  | cons c cs =>
    simp only [isName, Bool.and_eq_true, List.all_eq_true] at h
    intro a ha
    rcases List.mem_cons.1 ha with rfl | ha
    · exact continuesName_of_startsName h.1
    · exact h.2 a ha

end GraphLayer.Schema
