import Mathlib.Data.Option.Basic
import GraphLayer.Proofs.Json.Text
import GraphLayer.Proofs.Text.Numerals

/-!
# Numbers in JSON texts

* `IsNumber`: a value is a number;
* `Spelled`: a text between blanks is an integer, without a fraction and an exponent; minus zero is
  no integer;
* `read?_integer_iff`: a text that is read as a number is an integer of at most 64 bits exactly if it
  is spelled as one.
-/

namespace GraphLayer.Json

open Text (Numeral)

variable {cs ds rest : List Char} {n : Int} {j : Json} {s : String}

/-- A value is a number. -/
def IsNumber : Json → Prop
  | .integer _ | .real _ => True
  | _ => False

/-- An integer, which has neither a fraction nor an exponent, with blanks around it. -/
def Spelled (s : String) (n : Int) : Prop :=
  ∃ left t right, s.toList = left ++ t ++ right ∧ left.all isBlank = true ∧
    right.all isBlank = true ∧ Numeral t n ∧ t ≠ ['-', '0']

/-! ### Where a number is read -/

theorem not_isNumber_of_map {α : Type} {f : α → Json × List Char} {x : Option α} {r : List Char}
    (h : x.map f = some (j, r)) (hf : ∀ a, ¬ (f a).1.IsNumber) : ¬ j.IsNumber := by
  obtain ⟨a, -, ha⟩ := Option.map_eq_some_iff.1 h
  have hj := hf a
  rwa [ha] at hj

/-- No other way of reading a value ends with a number. -/
theorem number?_of_value? {fuel depth : Nat} {r : List Char}
    (h : value? fuel depth cs = some (j, r)) (hj : j.IsNumber) : number? cs = some (j, r) := by
  cases fuel with
  | zero => cases h
  | succ fuel =>
    unfold value? at h
    split at h
    · exact absurd hj (not_isNumber_of_map h fun _ => id)
    · exact absurd hj (not_isNumber_of_map h fun _ => id)
    · exact absurd hj (not_isNumber_of_map h fun _ => id)
    · exact absurd hj (not_isNumber_of_map h fun _ => id)
    · split at h
      · cases h
      · split at h
        · obtain ⟨rfl, -⟩ := Prod.mk.inj (Option.some.inj h)
          exact hj.elim
        · exact absurd hj (not_isNumber_of_map h fun _ => id)
    · split at h
      · cases h
      · split at h
        · obtain ⟨rfl, -⟩ := Prod.mk.inj (Option.some.inj h)
          exact hj.elim
        · exact absurd hj (not_isNumber_of_map h fun _ => id)
    · exact h

/-- A text is read as a number where its first character that is no blank stands. -/
theorem number?_of_read? (h : read? s = some j) (hj : j.IsNumber) :
    ∃ r, number? (skipBlanks s.toList) = some (j, r) ∧ r.all isBlank = true := by
  unfold read? at h
  obtain ⟨⟨x, r⟩, hvalue, h⟩ := Option.bind_eq_some_iff.1 h
  obtain ⟨_, hend, h⟩ := Option.bind_eq_some_iff.1 h
  obtain rfl := Option.some.inj h
  have hblanks : (skipBlanks r).isEmpty = true := by
    exact (Option.guard_eq_some' _).1 hend
  rw [List.isEmpty_iff, skipBlanks, List.dropWhile_eq_nil_iff] at hblanks
  exact ⟨r, number?_of_value? hvalue hj, List.all_eq_true.2 hblanks⟩

/-! ### Numbers with nothing but digits -/

theorem eq_append_of_digits {r : List Char} (h : digits cs = (ds, r)) :
    cs = ds ++ r ∧ ∀ c ∈ ds, c.isDigit = true := by
  obtain ⟨rfl, rfl⟩ := Prod.mk.inj h
  exact ⟨List.takeWhile_append_dropWhile.symm, fun _ hc => List.mem_takeWhile_imp hc⟩

theorem exists_real_of_real? {negative : Bool} {whole fraction : List Char} {e : Int}
    (h : real? negative whole fraction e = some j) : ∃ x, j = .real x := by
  unfold real? at h
  dsimp only at h
  split at h
  · cases h
  · split at h
    · exact ⟨_, (Option.some.inj h).symm⟩
    · obtain ⟨f, -, h⟩ := Option.bind_eq_some_iff.1 h
      exact ⟨_, (Option.some.inj h).symm⟩

theorem fraction?_eq_false {ds r : List Char} (h : fraction? cs = some (ds, r, false)) : r = cs := by
  unfold fraction? at h
  split at h
  · split at h <;> cases h
  · cases h
    rfl

theorem power?_eq_false {isReal : Bool} {e : Int} {r : List Char}
    (h : power? isReal cs = some (e, r, false)) : isReal = false ∧ r = cs := by
  unfold power? at h
  split at h
  · obtain ⟨_, -, h⟩ := Option.map_eq_some_iff.1 h
    cases h
  · obtain ⟨_, -, h⟩ := Option.map_eq_some_iff.1 h
    cases h
  · cases h
    exact ⟨rfl, rfl⟩

/-- A number without a fraction and an exponent is the integer that its digits say, if it is an
integer at all. -/
theorem number?_cases {negative : Bool} {body whole after r : List Char}
    (hsign : sign cs = (negative, body)) (hdigits : digits body = (whole, after))
    (h : number? cs = some (j, r)) :
    (whole ≠ [] ∧ (whole.head? = some '0' → whole.length = 1)) ∧
    ((r = after ∧ (negative = true → Nat.ofDigitChars 10 whole 0 ≠ 0) ∧
        j = .integer (if negative then -(Nat.ofDigitChars 10 whole 0 : Int)
          else Nat.ofDigitChars 10 whole 0)) ∨ ∃ x, j = .real x) := by
  have hvalue : whole.foldl (fun n c => n * 10 + digit c) 0 = Nat.ofDigitChars 10 whole 0 :=
    Text.foldl_digits whole
  rw [number?, hsign] at h
  dsimp only at h
  rw [hdigits] at h
  dsimp only at h
  rw [hvalue] at h
  obtain ⟨_, hguard, h⟩ := Option.bind_eq_some_iff.1 h
  obtain ⟨⟨fraction, r₁, isReal⟩, hfraction, h⟩ := Option.bind_eq_some_iff.1 h
  obtain ⟨⟨exponent, r₂, isReal'⟩, hpower, h⟩ := Option.bind_eq_some_iff.1 h
  refine ⟨(Option.guard_eq_some' _).1 hguard, ?_⟩
  rcases ite_eq_iff.1 h with ⟨hfits, h⟩ | ⟨-, h⟩
  · obtain ⟨rfl, rfl⟩ := Prod.mk.inj (Option.some.inj h)
    obtain ⟨hreal, hfits⟩ := Bool.and_eq_true_iff.1 hfits
    obtain rfl : isReal' = false := by simpa using hreal
    obtain ⟨rfl, rfl⟩ := power?_eq_false hpower
    refine .inl ⟨fraction?_eq_false hfraction, fun hneg => ?_, rfl⟩
    rw [if_pos hneg] at hfits
    exact (of_decide_eq_true hfits).1
  · obtain ⟨x, hx, h⟩ := Option.bind_eq_some_iff.1 h
    obtain ⟨rfl, -⟩ := Prod.mk.inj (Option.some.inj h)
    exact .inr (exists_real_of_real? hx)

theorem sign_cases (cs : List Char) :
    (∃ r, cs = '-' :: r ∧ sign cs = (true, r)) ∨ sign cs = (false, cs) := by
  unfold sign
  split
  · next r => exact .inl ⟨r, rfl, rfl⟩
  · exact .inr rfl

/-- What is read as an integer is spelled as one. -/
theorem numeral_of_number? {r : List Char} (h : number? cs = some (.integer n, r)) :
    ∃ t, cs = t ++ r ∧ Numeral t n ∧ t ≠ ['-', '0'] := by
  rcases sign_cases cs with ⟨body, rfl, hsign⟩ | hsign
  · obtain ⟨ds, after, hdigits⟩ : ∃ ds after, digits body = (ds, after) := ⟨_, _, rfl⟩
    obtain ⟨rfl, hd⟩ := eq_append_of_digits hdigits
    obtain ⟨⟨hne, -⟩, ⟨rfl, hzero, hj⟩ | ⟨x, hx⟩⟩ := number?_cases hsign hdigits h
    · rw [Json.integer.injEq, if_pos rfl] at hj
      refine ⟨'-' :: ds, rfl, hj ▸ .minus hne hd, ?_⟩
      rintro heq
      obtain rfl := (List.cons.inj heq).2
      exact hzero rfl rfl
    · cases hx
  · obtain ⟨ds, after, hdigits⟩ : ∃ ds after, digits cs = (ds, after) := ⟨_, _, rfl⟩
    obtain ⟨rfl, hd⟩ := eq_append_of_digits hdigits
    obtain ⟨⟨hne, -⟩, ⟨rfl, -, hj⟩ | ⟨x, hx⟩⟩ := number?_cases hsign hdigits h
    · rw [Json.integer.injEq, if_neg (by decide)] at hj
      refine ⟨ds, rfl, hj ▸ .plain hne hd, ?_⟩
      rintro rfl
      exact absurd (hd '-' List.mem_cons_self) (by decide)
    · cases hx

/-- The number zero is a single digit, where no other number begins with a zero. -/
theorem eq_zero_of_ofDigitChars (hd : ∀ c ∈ ds, c.isDigit = true)
    (hzero : ds ≠ [] ∧ (ds.head? = some '0' → ds.length = 1))
    (h : Nat.ofDigitChars 10 ds 0 = 0) : ds = ['0'] := by
  cases ds with
  | nil => exact absurd rfl hzero.1
  | cons c r =>
    have hc := Text.isDigit_bounds (hd c List.mem_cons_self)
    rw [Nat.ofDigitChars_cons, Nat.ofDigitChars_eq_ofDigitChars_zero] at h
    have hpos : 0 < 10 ^ r.length := Nat.pow_pos (by decide)
    have hfirst : c.toNat - '0'.toNat = 0 := by
      rcases Nat.mul_eq_zero.1 (Nat.add_eq_zero_iff.1 h).1 with hpow | hfirst
      · exact absurd hpow (Nat.ne_of_gt hpos)
      · simpa using hfirst
    have hchar : c.toNat = '0'.toNat := Nat.le_antisymm (Nat.le_of_sub_eq_zero hfirst) hc.1
    obtain rfl : c = '0' := Char.toNat_inj.1 hchar
    have hlength : r = [] := by simpa using hzero.2 rfl
    rw [hlength]

theorem sign_of_isDigit (hne : ds ≠ []) (hd : ∀ c ∈ ds, c.isDigit = true) (rest : List Char) :
    sign (ds ++ rest) = (false, ds ++ rest) := by
  rcases sign_cases (ds ++ rest) with ⟨r, heq, -⟩ | h
  · obtain ⟨c, ds, rfl⟩ := List.exists_cons_of_ne_nil hne
    obtain ⟨rfl, -⟩ := List.cons.inj heq
    exact absurd (hd '-' List.mem_cons_self) (by decide)
  · exact h

/-- What is spelled as an integer of at most 64 bits, and read as a number, is this integer. -/
theorem number?_of_numeral {t r : List Char} (ht : Numeral t n) (hne : t ≠ ['-', '0'])
    (hends : Ends rest) (hn : -0x8000000000000000 ≤ n ∧ n < 0x10000000000000000)
    (h : number? (t ++ rest) = some (j, r)) : j = .integer n := by
  cases ht with
  | plain hds hd =>
    have hsign := sign_of_isDigit hds hd rest
    have hzero := (number?_cases hsign (digits_append hd hends) h).1
    have hfits : Nat.ofDigitChars 10 t 0 < 0x10000000000000000 := by omega
    have hread := number?_digits hsign hd hzero (Text.foldl_digits t) hfits hends
    rw [hread] at h
    exact (Prod.mk.inj (Option.some.inj h)).1.symm
  | @plus ds hds hd =>
    -- a plus sign is no digit
    have hsign : sign ('+' :: (ds ++ rest)) = (false, '+' :: (ds ++ rest)) := rfl
    have hdigits : digits ('+' :: (ds ++ rest)) = ([], '+' :: (ds ++ rest)) := rfl
    exact absurd rfl (number?_cases hsign hdigits h).1.1
  | @minus ds hds hd =>
    have hsign : sign ('-' :: (ds ++ rest)) = (true, ds ++ rest) := rfl
    have hzero := (number?_cases hsign (digits_append hd hends) h).1
    have hnonzero : Nat.ofDigitChars 10 ds 0 ≠ 0 := by
      intro hv
      exact hne (congrArg (List.cons '-') (eq_zero_of_ofDigitChars hd hzero hv))
    have hfits : Nat.ofDigitChars 10 ds 0 ≤ 0x8000000000000000 := by omega
    have hread := number?_digits hsign hd hzero (Text.foldl_digits ds) ⟨hnonzero, hfits⟩ hends
    rw [List.cons_append, hread] at h
    exact (Prod.mk.inj (Option.some.inj h)).1.symm

/-! ### Texts -/

theorem ends_of_blanks (h : rest.all isBlank = true) : Ends rest := by
  intro c hc
  have hblank := List.all_eq_true.1 h c (List.mem_of_head? hc)
  simp only [isBlank, Bool.or_eq_true, beq_iff_eq] at hblank
  rcases hblank with ((rfl | rfl) | rfl) | rfl <;> decide

theorem isBlank_of_numeral {t : List Char} {c : Char} (h : Numeral t n) (hc : c ∈ t) :
    ¬ isBlank c = true := by
  intro hblank
  have hno := h.isBlank_of_mem hc
  simp only [isBlank, Bool.or_eq_true, beq_iff_eq] at hblank
  rcases hblank with ((rfl | rfl) | rfl) | rfl <;> cases hno

theorem skipBlanks_of_numeral {left t right : List Char} (hleft : left.all isBlank = true)
    (h : Numeral t n) : skipBlanks (left ++ t ++ right) = t ++ right := by
  rw [skipBlanks, List.append_assoc, List.dropWhile_append_of_pos (List.all_eq_true.1 hleft)]
  cases t with
  | nil => cases h; contradiction
  | cons c t =>
    exact List.dropWhile_cons_of_neg (isBlank_of_numeral h List.mem_cons_self)

/-- A text that is read as a number is an integer of at most 64 bits exactly if it is spelled as
one. -/
theorem read?_integer_iff (h : read? s = some j) (hj : j.IsNumber)
    (hn : -0x8000000000000000 ≤ n ∧ n < 0x10000000000000000) : j = .integer n ↔ Spelled s n := by
  obtain ⟨r, hnumber, hr⟩ := number?_of_read? h hj
  constructor
  · rintro rfl
    obtain ⟨t, ht, hnumeral, hne⟩ := numeral_of_number? hnumber
    refine ⟨s.toList.takeWhile isBlank, t, r, ?_, List.all_takeWhile, hr, hnumeral, hne⟩
    rw [List.append_assoc, ← ht]
    exact List.takeWhile_append_dropWhile.symm
  · rintro ⟨left, t, right, hs, hleft, hright, hnumeral, hne⟩
    rw [hs, skipBlanks_of_numeral hleft hnumeral] at hnumber
    exact number?_of_numeral hnumeral hne (ends_of_blanks hright) hn hnumber

end GraphLayer.Json
