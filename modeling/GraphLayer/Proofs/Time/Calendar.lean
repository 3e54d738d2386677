import Mathlib.Data.Int.SuccPred
import GraphLayer.Time.Calendar

/-!
# The calendar and the number of a day

* `Date.Place`: a day in a period of 400 years is found by the centuries, the cycles of four years,
  the years and the days that have passed before it;
* `Date.yearOfPeriod_ofPlace` and `Date.ofDays_ofPlace`: the year of such a day, and its date;
* `Date.valid_ofDays` and `Date.toDays_ofDays`: the date of a day is one of the calendar, and has the
  number of this day;
* `Date.le_year_iff`: a day is in a year or later exactly if it is not before the first day of this
  year.

The years of a period begin in March.
-/

namespace GraphLayer.Time.Date

variable {c q r t : Int}

/-! ### Places in a period -/

/-- Centuries, cycles of four years, years and days that have passed before a day of a period.  A
year has a 366th day if it is the last one of its cycle; the last cycle of a century has no such
year, except for the last one of the period. -/
structure Place (c q r t : Int) : Prop where
  century : 0 ≤ c ∧ c ≤ 3
  cycle : 0 ≤ q ∧ q ≤ 24
  year : 0 ≤ r ∧ r ≤ 3
  day : 0 ≤ t ∧ t ≤ 365
  leap : t = 365 → r = 3 ∧ (q ≤ 23 ∨ c = 3)

/-- The number of a day in a period. -/
def ofPlace (c q r t : Int) : Int := 36524 * c + 1461 * q + 365 * r + t

theorem Place.bounds (h : Place c q r t) : 0 ≤ ofPlace c q r t ∧ ofPlace c q r t < 146097 := by
  obtain ⟨hc, hq, hr, ht, hleap⟩ := h
  unfold ofPlace
  omega

/-- Each day of a period has its place. -/
theorem exists_place {p : Int} (h : 0 ≤ p ∧ p < 146097) :
    ∃ c q r t, Place c q r t ∧ p = ofPlace c q r t := by
  have hparts : ∃ c q r t : Int, (0 ≤ c ∧ c ≤ 3) ∧ (0 ≤ q ∧ q ≤ 24) ∧ (0 ≤ r ∧ r ≤ 3) ∧
      (0 ≤ t ∧ t ≤ 365) ∧ (t = 365 → r = 3 ∧ (q ≤ 23 ∨ c = 3)) ∧ p = ofPlace c q r t := by
    let c := min (p / 36524) 3
    let m := p - 36524 * c
    let r := min (m % 1461 / 365) 3
    refine ⟨c, m / 1461, r, m % 1461 - 365 * r, ?_⟩
    simp only [ofPlace]
    omega
  obtain ⟨c, q, r, t, hc, hq, hr, ht, hleap, hp⟩ := hparts
  exact ⟨c, q, r, t, ⟨hc, hq, hr, ht, hleap⟩, hp⟩

theorem exists_ofPlace (n : Int) :
    ∃ k c q r t, Place c q r t ∧ n = 146097 * k + ofPlace c q r t - 719468 := by
  obtain ⟨c, q, r, t, h, hp⟩ := exists_place (p := (n + 719468) % 146097) (by omega)
  exact ⟨(n + 719468) / 146097, c, q, r, t, h, by omega⟩

/-- The days that are more than 365 in each of the years before are left out of account. -/
theorem yearOfPeriod_ofPlace (h : Place c q r t) :
    yearOfPeriod (ofPlace c q r t) = 100 * c + 4 * q + r := by
  obtain ⟨hc, hq, hr, ht, hleap⟩ := h
  have hcycles : ofPlace c q r t / 1460 = 25 * c + q ∧ 24 * c + q + 365 * r + t < 1460 ∨
      ofPlace c q r t / 1460 = 25 * c + q + 1 ∧ 1460 ≤ 24 * c + q + 365 * r + t := by
    unfold ofPlace
    omega
  -- only the last day of the period belongs to a fifth century
  have hcenturies : ofPlace c q r t / 36524 = c ∧ ofPlace c q r t / 146096 = 0 ∨
      ofPlace c q r t / 36524 = c + 1 ∧ ofPlace c q r t / 146096 = 1 ∧ t = 365 := by
    unfold ofPlace
    omega
  unfold yearOfPeriod
  unfold ofPlace at *
  omega

/-! ### Dates -/

/-- The date of a day, by its place in the `k`th period. -/
theorem ofDays_ofPlace (h : Place c q r t) (k : Int) :
    ofDays (146097 * k + ofPlace c q r t - 719468) =
      let m := (5 * t + 2) / 153
      let month := if m < 10 then m + 3 else m - 9
      { year := 100 * c + 4 * q + r + k * 400 + (if month ≤ 2 then 1 else 0)
        month
        day := t - (153 * m + 2) / 5 + 1 } := by
  have hbounds := h.bounds
  have hperiod : (146097 * k + ofPlace c q r t - 719468 + 719468) / 146097 = k := by omega
  have hday : (146097 * k + ofPlace c q r t - 719468 + 719468) % 146097 = ofPlace c q r t := by
    omega
  have hinYear : ofPlace c q r t - (365 * (100 * c + 4 * q + r) + (100 * c + 4 * q + r) / 4 -
      (100 * c + 4 * q + r) / 100) = t := by
    obtain ⟨hc, hq, hr, -⟩ := h
    unfold ofPlace
    omega
  simp only [ofDays, hperiod, hday, yearOfPeriod_ofPlace h, hinYear]

theorem isLeap_iff {y : Int} : isLeap y = true ↔ y % 4 = 0 ∧ (y % 100 ≠ 0 ∨ y % 400 = 0) := by
  simp [isLeap]

/-- The date of a day is one of the calendar. -/
theorem valid_ofDays (n : Int) : (ofDays n).Valid := by
  obtain ⟨k, c, q, r, t, h, rfl⟩ := exists_ofPlace n
  rw [ofDays_ofPlace h]
  obtain ⟨hc, hq, hr, ht, hleap⟩ := h
  obtain ⟨m, hm⟩ : ∃ m, m = (5 * t + 2) / 153 := ⟨_, rfl⟩
  have hrange : 0 ≤ m ∧ m ≤ 11 := by omega
  simp only [← hm, Valid]
  refine ⟨by omega, by omega, by omega, ?_⟩
  by_cases hlate : m < 10
  · -- from March on a month has 30 or 31 days
    have hmonth : ¬ m + 3 = 2 := by omega
    rw [if_pos hlate, monthLength, if_neg hmonth]
    split <;> omega
  · have hnext : m - 9 ≤ 2 := by omega
    rw [if_neg hlate, if_pos hnext, monthLength]
    split
    · -- a 29th of February is the 366th day of its year
      split
      · omega
      · next hyear =>
        rw [isLeap_iff] at hyear
        omega
    · split <;> omega

/-- The date of a day has the number of this day. -/
theorem toDays_ofDays (n : Int) : (ofDays n).toDays = n := by
  obtain ⟨k, c, q, r, t, h, rfl⟩ := exists_ofPlace n
  rw [ofDays_ofPlace h]
  obtain ⟨hc, hq, hr, ht, hleap⟩ := h
  simp only [toDays, dayOfPeriod, ofPlace]
  omega

/-! ### Years -/

/-- The number of the first day of a year. -/
def newYear (y : Int) : Int := toDays ⟨y, 1, 1⟩

theorem newYear_lt_succ (y : Int) : newYear y < newYear (y + 1) := by
  simp only [newYear, toDays, dayOfPeriod]
  omega

theorem newYear_mono {x y : Int} (h : x ≤ y) : newYear x ≤ newYear y :=
  monotone_int_of_le_succ (fun y => (newYear_lt_succ y).le) h

theorem newYear_bounds (n : Int) :
    newYear (ofDays n).year ≤ n ∧ n < newYear ((ofDays n).year + 1) := by
  obtain ⟨k, c, q, r, t, h, rfl⟩ := exists_ofPlace n
  rw [ofDays_ofPlace h]
  obtain ⟨hc, hq, hr, ht, hleap⟩ := h
  simp only [newYear, toDays, dayOfPeriod, ofPlace]
  omega

/-- A day is in a year or later exactly if it is not before the first day of this year. -/
theorem le_year_iff {y n : Int} : y ≤ (ofDays n).year ↔ newYear y ≤ n := by
  obtain ⟨hlow, hhigh⟩ := newYear_bounds n
  constructor
  · intro h
    exact (newYear_mono h).trans hlow
  · intro h
    by_contra hlt
    have hnext : newYear ((ofDays n).year + 1) ≤ newYear y := newYear_mono (by omega)
    omega

end GraphLayer.Time.Date
