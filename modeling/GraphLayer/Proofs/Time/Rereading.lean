import GraphLayer.Proofs.Text.Numerals
import GraphLayer.Proofs.Time.Calendar
import GraphLayer.Time.Instant

/-!
# Written instants are read again

* `digits?_padded`: a number is read from its digits, with zeros in front;
* `date?_written`, `fraction?_written` and `time?_written`: so are the parts of a form;
* `Instant.Proper`: a leap second comes after the last second of a minute; `read?_proper`: only such
  instants are read;
* `read?_write`: an instant of a year of four digits is read from its form;
* `ofMillis?_eq_some_iff`: the instants of numbers of milliseconds.
-/

namespace GraphLayer.Time.Instant

variable {n w : Nat} {ds rest : List Char}

/-! ### Digits -/

theorem digits?_append (hd : ∀ c ∈ ds, c.isDigit = true) (rest : List Char) :
    digits? ds.length (ds ++ rest) = some (Nat.ofDigitChars 10 ds 0, rest) := by
  have htake : (ds ++ rest).take ds.length = ds := List.take_left
  have hdrop : (ds ++ rest).drop ds.length = rest := List.drop_left
  rw [digits?, htake, hdrop, if_pos ⟨rfl, List.all_eq_true.2 hd⟩, Text.foldl_digits]

theorem toList_padded (w n : Nat) : (padded w n).toList =
    List.replicate (w - (Nat.toDigits 10 n).length) '0' ++ Nat.toDigits 10 n := by
  rw [padded, String.toList_ofList]

theorem isDigit_of_mem_padded {c : Char} (hc : c ∈ (padded w n).toList) : c.isDigit = true := by
  rw [toList_padded] at hc
  rcases List.mem_append.1 hc with hc | hc
  · rw [List.eq_of_mem_replicate hc]
    decide
  · exact Nat.isDigit_of_mem_toDigits (by decide) (by decide) hc

theorem length_padded (hw : 0 < w) (h : n < 10 ^ w) : (padded w n).toList.length = w := by
  have hlength := (Nat.length_toDigits_le_iff (by decide) hw).2 h
  rw [toList_padded, List.length_append, List.length_replicate]
  omega

theorem ofDigitChars_padded (w n : Nat) : Nat.ofDigitChars 10 (padded w n).toList 0 = n := by
  rw [toList_padded, Nat.ofDigitChars_append, Nat.ofDigitChars_replicate_zero, Nat.mul_zero,
    Nat.ofDigitChars_ten_toDigits]

/-- A number is read from its digits, with zeros in front. -/
theorem digits?_padded (hw : 0 < w) (h : n < 10 ^ w) (rest : List Char) :
    digits? w ((padded w n).toList ++ rest) = some (n, rest) := by
  have hread := digits?_append (fun _ => isDigit_of_mem_padded (w := w) (n := n)) rest
  rwa [length_padded hw h, ofDigitChars_padded] at hread

theorem after?_cons (c : Char) (rest : List Char) : after? c (c :: rest) = some rest := if_pos rfl

/-! ### Dates -/

theorem date?_written {d : Date} (hd : d.Valid) (hyear : 0 ≤ d.year ∧ d.year ≤ 9999)
    (rest : List Char) :
    date? ((yearText d.year).toList ++ '-' :: ((padded 2 d.month.toNat).toList ++
      '-' :: ((padded 2 d.day.toNat).toList ++ rest))) = some (d, rest) := by
  have hday : d.day ≤ 31 := by
    have hlength := hd.2.2.2
    unfold Date.monthLength at hlength
    split at hlength
    · split at hlength <;> omega
    · split at hlength <;> omega
  obtain ⟨hmonth, hmonth', hday', -⟩ := id hd
  obtain ⟨year, hy⟩ := Int.eq_ofNat_of_zero_le hyear.1
  obtain ⟨month, hm⟩ := Int.eq_ofNat_of_zero_le (Int.le_trans (by decide) hmonth)
  obtain ⟨day, hd'⟩ := Int.eq_ofNat_of_zero_le (Int.le_trans (by decide) hday')
  have hdate : (⟨year, month, day⟩ : Date) = d := by rw [← hy, ← hm, ← hd']
  rw [yearText, if_pos hyear, hy, hm, hd']
  simp only [date?, Int.toNat_natCast, digits?_padded (w := 4) (n := year) (by decide) (by omega),
    digits?_padded (w := 2) (n := month) (by decide) (by omega),
    digits?_padded (w := 2) (n := day) (by decide) (by omega), after?_cons, Option.bind_eq_bind,
    Option.bind_some, hdate, if_pos hd]
  rfl

/-! ### Times -/

/-- Up to nine digits of a fraction are read as if zeros came after them. -/
theorem fraction?_padded (hw : 0 < w) (hw' : w ≤ 9) (h : n < 10 ^ w) (rest : List Char) :
    fraction? ('.' :: ((padded w n).toList ++ 'Z' :: rest)) =
      some (10 ^ (9 - w) * n, 'Z' :: rest) := by
  have hd : ∀ c ∈ (padded w n).toList, c.isDigit = true := fun _ => isDigit_of_mem_padded
  have hlength := length_padded hw h
  have hstop : ¬ 'Z'.isDigit = true := by decide
  have htake : ((padded w n).toList ++ 'Z' :: rest).takeWhile Char.isDigit =
      (padded w n).toList := by
    rw [List.takeWhile_append_of_pos hd, List.takeWhile_cons_of_neg hstop, List.append_nil]
  have hdrop : ((padded w n).toList ++ 'Z' :: rest).dropWhile Char.isDigit = 'Z' :: rest := by
    rw [List.dropWhile_append_of_pos hd, List.dropWhile_cons_of_neg hstop]
  have hempty : ¬ (padded w n).toList.isEmpty = true := by
    rw [List.isEmpty_iff_length_eq_zero, hlength]
    omega
  have hnine : ((padded w n).toList ++ List.replicate 9 '0').take 9 =
      (padded w n).toList ++ List.replicate (9 - w) '0' := by
    rw [List.take_append, List.take_of_length_le (by omega), hlength, List.take_replicate,
      Nat.min_eq_left (Nat.sub_le 9 w)]
  rw [fraction?]
  dsimp only
  rw [htake, hdrop, if_neg hempty, hnine, Text.foldl_digits, Nat.ofDigitChars_append,
    ofDigitChars_padded, Nat.ofDigitChars_replicate_zero]

theorem fraction?_fractionText (h : n < 1000000000) (rest : List Char) :
    fraction? ((fractionText n).toList ++ 'Z' :: rest) = some (n, 'Z' :: rest) := by
  have hgroups {w m : Nat} (hw : 0 < w) (hw' : w ≤ 9) (hm : m < 10 ^ w)
      (hn : 10 ^ (9 - w) * m = n) :
      fraction? (("." ++ padded w m).toList ++ 'Z' :: rest) = some (n, 'Z' :: rest) := by
    rw [String.toList_append]
    exact hn ▸ fraction?_padded hw hw' hm rest
  unfold fractionText
  split
  · next hzero =>
    rw [hzero]
    rfl
  split
  · next hmillis => exact hgroups (w := 3) (by decide) (by decide) (by omega) (by omega)
  split
  · next hmicros => exact hgroups (w := 6) (by decide) (by decide) (by omega) (by omega)
  · exact hgroups (w := 9) (by decide) (by decide) h (by omega)

theorem time?_written {hour minute second nanos : Nat} (hhour : hour < 24) (hminute : minute < 60)
    (hsecond : second ≤ 60) (hnanos : nanos < 1000000000) (rest : List Char) :
    time? ((padded 2 hour).toList ++ ':' :: ((padded 2 minute).toList ++
      ':' :: ((padded 2 second).toList ++ ((fractionText nanos).toList ++ 'Z' :: rest)))) =
      if second = 60 then
        some (((hour * 3600 + minute * 60 : Nat) : Int) + 59, nanos + 1000000000, 'Z' :: rest)
      else some (((hour * 3600 + minute * 60 : Nat) : Int) + second, nanos, 'Z' :: rest) := by
  simp only [time?, digits?_padded (w := 2) (n := hour) (by decide) (by omega),
    digits?_padded (w := 2) (n := minute) (by decide) (by omega),
    digits?_padded (w := 2) (n := second) (by decide) (by omega), after?_cons,
    fraction?_fractionText hnanos, Option.bind_eq_bind, Option.bind_some]
  rw [if_pos ⟨hhour, hminute, hsecond⟩]
  rfl

/-! ### Instants -/

/-- The year in which an instant lies. -/
def year (i : Instant) : Int := (Date.ofDays (i.seconds / 86400)).year

/-- The year of an instant has four digits. -/
def FourDigits (i : Instant) : Prop := 0 ≤ i.year ∧ i.year ≤ 9999

instance (i : Instant) : Decidable i.FourDigits := inferInstanceAs (Decidable (_ ∧ _))

/-- A leap second comes after the last second of a minute. -/
structure Proper (i : Instant) : Prop where
  nanos_lt : i.nanos < 2000000000
  last : 1000000000 ≤ i.nanos → i.seconds % 60 = 59

/-- The parts of a form, one after the other. -/
def form (d : Date) (hour minute second nanos : Nat) : List Char :=
  (yearText d.year).toList ++ '-' :: ((padded 2 d.month.toNat).toList ++
    '-' :: ((padded 2 d.day.toNat).toList ++ 'T' :: ((padded 2 hour).toList ++
    ':' :: ((padded 2 minute).toList ++ ':' :: ((padded 2 second).toList ++
    ((fractionText nanos).toList ++ ['Z']))))))

theorem toList_write (i : Instant) : i.write.toList =
    let inDay := (i.seconds % 86400).toNat
    let leap := 1000000000 ≤ i.nanos
    form (Date.ofDays (i.seconds / 86400)) (inDay / 3600) (inDay / 60 % 60)
      (inDay % 60 + (if leap then 1 else 0)) (if leap then i.nanos - 1000000000 else i.nanos) := by
  simp [write, form]

theorem read?_form {s : String} {d : Date} (hd : d.Valid) (hyear : 0 ≤ d.year ∧ d.year ≤ 9999)
    {hour minute second nanos : Nat} (hhour : hour < 24) (hminute : minute < 60)
    (hsecond : second ≤ 60) (hnanos : nanos < 1000000000)
    (hs : s.toList = form d hour minute second nanos) :
    read? s = some (if second = 60 then
        ⟨d.toDays * 86400 + (((hour * 3600 + minute * 60 : Nat) : Int) + 59), nanos + 1000000000⟩
      else ⟨d.toDays * 86400 + (((hour * 3600 + minute * 60 : Nat) : Int) + second), nanos⟩) := by
  have hoffset : offset? ['Z'] = some (0, []) := rfl
  have hmark (r : List Char) : afterMark? ('T' :: r) = some r := rfl
  rw [read?, hs, form, date?_written hd hyear]
  simp only [hmark, time?_written hhour hminute hsecond hnanos, Option.bind_eq_bind,
    Option.bind_some]
  split
  · simp only [hoffset, Option.bind_some, Int.sub_zero]
    rfl
  · simp only [hoffset, Option.bind_some, Int.sub_zero]
    rfl

/-- **An instant of a year of four digits is read from its form.** -/
theorem read?_write {i : Instant} (h : i.Proper) (hyear : i.FourDigits) :
    read? i.write = some i := by
  have hvalid := Date.valid_ofDays (i.seconds / 86400)
  have hdays := Date.toDays_ofDays (i.seconds / 86400)
  obtain ⟨inDay, hinDay⟩ : ∃ inDay, inDay = (i.seconds % 86400).toNat := ⟨_, rfl⟩
  have hs := toList_write i
  obtain ⟨hnanos, hlast⟩ := h
  by_cases hleap : 1000000000 ≤ i.nanos
  · have hsecond : inDay % 60 + 1 = 60 := by
      have hlast := hlast hleap
      omega
    simp only [← hinDay, if_pos hleap, hsecond] at hs
    rw [read?_form hvalid hyear (by omega) (by omega) (by omega) (by omega) hs, if_pos rfl, hdays]
    have hseconds : i.seconds / 86400 * 86400 +
        (((inDay / 3600 * 3600 + inDay / 60 % 60 * 60 : Nat) : Int) + 59) = i.seconds := by
      omega
    rw [hseconds, Nat.sub_add_cancel hleap]
  · have hsecond : inDay % 60 ≠ 60 := by omega
    simp only [← hinDay, if_neg hleap, Nat.add_zero] at hs
    rw [read?_form hvalid hyear (by omega) (by omega) (by omega) (by omega) hs, if_neg hsecond,
      hdays]
    have hseconds : i.seconds / 86400 * 86400 +
        (((inDay / 3600 * 3600 + inDay / 60 % 60 * 60 : Nat) : Int) + (inDay % 60 : Nat)) =
          i.seconds := by
      omega
    rw [hseconds]

/-! ### What is read -/

theorem ofDigitChars_lt (hd : ∀ c ∈ ds, c.isDigit = true) :
    Nat.ofDigitChars 10 ds 0 < 10 ^ ds.length := by
  induction ds with
  | nil => exact Nat.one_pos
  | cons c ds ih =>
    have hc := Text.isDigit_bounds (hd c List.mem_cons_self)
    have hrest := ih fun d hd' => hd d (List.mem_cons_of_mem c hd')
    have hdigit : c.toNat - '0'.toNat ≤ 9 := Nat.sub_le_of_le_add hc.2
    have hfirst : 10 ^ ds.length * (c.toNat - '0'.toNat) ≤ 10 ^ ds.length * 9 :=
      Nat.mul_le_mul_left _ hdigit
    rw [Nat.ofDigitChars_cons, Nat.mul_zero, Nat.zero_add, Nat.ofDigitChars_eq_ofDigitChars_zero,
      List.length_cons, Nat.pow_succ]
    omega

theorem fraction?_lt {cs r : List Char} (h : fraction? cs = some (n, r)) : n < 1000000000 := by
  unfold fraction? at h
  split at h
  · next r =>
    dsimp only at h
    split at h
    · cases h
    · obtain ⟨rfl, -⟩ := Prod.mk.inj (Option.some.inj h)
      have hd : ∀ c ∈ (r.takeWhile Char.isDigit ++ List.replicate 9 '0').take 9,
          c.isDigit = true := by
        intro c hc
        rcases List.mem_append.1 (List.mem_of_mem_take hc) with hc | hc
        · exact List.mem_takeWhile_imp hc
        · rw [List.eq_of_mem_replicate hc]
          decide
      have hlength : ((r.takeWhile Char.isDigit ++ List.replicate 9 '0').take 9).length = 9 := by
        simp
      have hlt := ofDigitChars_lt hd
      rw [hlength] at hlt
      rwa [Text.foldl_digits]
  · obtain ⟨rfl, -⟩ := Prod.mk.inj (Option.some.inj h)
    decide

theorem time?_proper {cs r : List Char} {seconds : Int} (h : time? cs = some (seconds, n, r)) :
    n < 2000000000 ∧ (1000000000 ≤ n → seconds % 60 = 59) := by
  unfold time? at h
  obtain ⟨⟨hour, r₁⟩, -, h⟩ := Option.bind_eq_some_iff.1 h
  obtain ⟨r₂, -, h⟩ := Option.bind_eq_some_iff.1 h
  obtain ⟨⟨minute, r₃⟩, -, h⟩ := Option.bind_eq_some_iff.1 h
  obtain ⟨r₄, -, h⟩ := Option.bind_eq_some_iff.1 h
  obtain ⟨⟨second, r₅⟩, -, h⟩ := Option.bind_eq_some_iff.1 h
  obtain ⟨⟨nanos, r₆⟩, hfraction, h⟩ := Option.bind_eq_some_iff.1 h
  have hnanos := fraction?_lt hfraction
  dsimp only at h
  split at h
  · split at h
    · cases h
      omega
    · cases h
      omega
  · cases h

theorem distance?_emod {cs r : List Char} {m : Int} (h : distance? cs = some (m, r)) :
    m % 60 = 0 := by
  unfold distance? at h
  obtain ⟨⟨hours, r₁⟩, -, h⟩ := Option.bind_eq_some_iff.1 h
  obtain ⟨r₂, -, h⟩ := Option.bind_eq_some_iff.1 h
  obtain ⟨⟨minutes, r₃⟩, -, h⟩ := Option.bind_eq_some_iff.1 h
  dsimp only at h
  split at h
  · cases h
    omega
  · cases h

/-- Offsets have no seconds, and so leave a minute its place. -/
theorem offset?_emod {cs r : List Char} {m : Int} (h : offset? cs = some (m, r)) : m % 60 = 0 := by
  unfold offset? at h
  split at h
  · cases h
  · split at h
    · cases h
      rfl
    split at h
    · exact distance?_emod h
    split at h
    · obtain ⟨⟨k, r₁⟩, hk, h⟩ := Option.map_eq_some_iff.1 h
      have hk := distance?_emod hk
      cases h
      omega
    · cases h

/-- Only proper instants are read. -/
theorem read?_proper {s : String} {i : Instant} (h : read? s = some i) : i.Proper := by
  unfold read? at h
  obtain ⟨⟨date, r₁⟩, -, h⟩ := Option.bind_eq_some_iff.1 h
  obtain ⟨r₂, -, h⟩ := Option.bind_eq_some_iff.1 h
  obtain ⟨⟨seconds, nanos, r₃⟩, htime, h⟩ := Option.bind_eq_some_iff.1 h
  obtain ⟨⟨offset, r₄⟩, hoffset, h⟩ := Option.bind_eq_some_iff.1 h
  obtain ⟨hnanos, hlast⟩ := time?_proper htime
  have hoffset := offset?_emod hoffset
  dsimp only at h
  split at h
  · cases h
    refine ⟨hnanos, fun hleap => ?_⟩
    have hlast := hlast hleap
    show (date.toDays * 86400 + seconds - offset) % 60 = 59
    omega
  · cases h

/-! ### Milliseconds -/

/-- The instants of these numbers of milliseconds are in the years from -262143 to 262142. -/
def InSpan (n : Int) : Prop :=
  Date.newYear (-262143) * 86400000 ≤ n ∧ n < Date.newYear 262143 * 86400000

theorem inSpan_iff {n : Int} : InSpan n ↔ -8334601228800000 ≤ n ∧ n < 8210266876800000 := Iff.rfl

/-- An instant is a number of milliseconds after 1970-01-01T00:00:00Z, and no leap second. -/
structure AtMillis (i : Instant) (n : Int) : Prop where
  nanos_lt : i.nanos < 1000000000
  total : i.seconds * 1000000000 + i.nanos = n * 1000000

theorem atMillis_iff {i : Instant} {n : Int} :
    i.AtMillis n ↔ i = ⟨n / 1000, (n % 1000).toNat * 1000000⟩ := by
  constructor
  · rintro ⟨hnanos, htotal⟩
    obtain ⟨seconds, nanos⟩ := i
    dsimp only at hnanos htotal
    rw [mk.injEq]
    omega
  · rintro rfl
    refine ⟨?_, ?_⟩
    · show (n % 1000).toNat * 1000000 < 1000000000
      omega
    · show n / 1000 * 1000000000 + ((n % 1000).toNat * 1000000 : Nat) = n * 1000000
      omega

/-- A number of milliseconds is an instant exactly if this lies in a year that dates may lie in. -/
theorem ofMillis?_eq_some_iff {n : Int} {i : Instant} :
    ofMillis? n = some i ↔ InSpan n ∧ i.AtMillis n := by
  have hfirst : yearRange.1 ≤ (Date.ofDays (n / 1000 / 86400)).year ↔
      Date.newYear (-262143) * 86400000 ≤ n := by
    rw [Date.le_year_iff]
    show Date.newYear (-262143) ≤ n / 1000 / 86400 ↔ _
    omega
  have hlast : (Date.ofDays (n / 1000 / 86400)).year ≤ yearRange.2 ↔
      n < Date.newYear 262143 * 86400000 := by
    have hnext := Date.le_year_iff (y := 262143) (n := n / 1000 / 86400)
    show (Date.ofDays (n / 1000 / 86400)).year ≤ 262142 ↔ _
    omega
  rw [atMillis_iff]
  unfold ofMillis?
  dsimp only
  constructor
  · intro h
    split at h
    · next hin => exact ⟨⟨hfirst.1 hin.1, hlast.1 hin.2⟩, (Option.some.inj h).symm⟩
    · cases h
  · rintro ⟨⟨hlow, hhigh⟩, rfl⟩
    exact if_pos ⟨hfirst.2 hlow, hlast.2 hhigh⟩

theorem AtMillis.proper {i : Instant} {n : Int} (h : i.AtMillis n) : i.Proper := by
  have hnanos := h.nanos_lt
  refine ⟨by omega, fun hleap => ?_⟩
  omega

/-! ### Blanks -/

theorem isBlank_of_mem_padded {c : Char} (hc : c ∈ (padded w n).toList) :
    Text.isBlank c = false := Text.isBlank_of_isDigit (isDigit_of_mem_padded hc)

theorem isBlank_of_mem_yearText {y : Int} : ∀ c ∈ (yearText y).toList, Text.isBlank c = false := by
  unfold yearText
  split
  · exact fun _ => isBlank_of_mem_padded
  · rw [String.toList_append, List.forall_mem_append]
    refine ⟨?_, fun _ => isBlank_of_mem_padded⟩
    split
    · exact List.forall_mem_singleton.2 (by decide)
    · exact List.forall_mem_singleton.2 (by decide)

theorem isBlank_of_mem_fractionText : ∀ c ∈ (fractionText n).toList, Text.isBlank c = false := by
  have hgroups (w m : Nat) : ∀ c ∈ ("." ++ padded w m).toList, Text.isBlank c = false := by
    rw [String.toList_append, List.forall_mem_append]
    exact ⟨List.forall_mem_singleton.2 (by decide), fun _ => isBlank_of_mem_padded⟩
  unfold fractionText
  split
  · exact fun _ hc => absurd hc List.not_mem_nil
  split
  · exact hgroups _ _
  split
  · exact hgroups _ _
  · exact hgroups _ _

/-- There are no blanks in a form. -/
theorem trim_write (i : Instant) : Text.trim i.write = i.write := by
  have hform (d : Date) (hour minute second nanos : Nat) :
      ∀ c ∈ form d hour minute second nanos, Text.isBlank c = false := by
    simp only [form, List.forall_mem_append, List.forall_mem_cons]
    exact ⟨isBlank_of_mem_yearText, by decide, fun _ => isBlank_of_mem_padded, by decide,
      fun _ => isBlank_of_mem_padded, by decide, fun _ => isBlank_of_mem_padded, by decide,
      fun _ => isBlank_of_mem_padded, by decide, fun _ => isBlank_of_mem_padded,
      isBlank_of_mem_fractionText, by decide, fun _ hc => absurd hc List.not_mem_nil⟩
  rw [Text.trim, Text.trimChars_eq_self, String.ofList_toList]
  rw [toList_write]
  exact hform _ _ _ _ _

end GraphLayer.Time.Instant
