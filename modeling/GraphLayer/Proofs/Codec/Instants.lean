import GraphLayer.Codec.DateTime
import GraphLayer.Proofs.Json.Numbers
import GraphLayer.Proofs.Time.Rereading

/-!
# Instants on the wire

* `DateTime.proper_of_ofJson`: a leap second comes after the last second of a minute in each instant
  that is accepted;
* `DateTime.ofText_write`: such an instant is accepted in the form that it is written in;
* `DateTime.ofJson_eq_ok_iff`: a number is accepted exactly if it is an integer in the span of all
  instants;
* `DateTime.codec_canonical`: an instant of a year of four digits comes back from its form, and has
  no other form.
-/

namespace GraphLayer.DateTime

open Time (Instant)
open Time.Instant (InSpan)

variable {i : Instant} {j : Json} {n : Int} {s : String} {e : CodecError}

/-! ### Texts -/

theorem ofText_eq_ok_iff : ofText s = .ok i ↔ Instant.read? (Text.trim s) = some i := by
  unfold ofText
  split
  · next i' h => rw [h, Except.ok.injEq, Option.some.injEq]
  · next h =>
    rw [h]
    exact iff_of_false nofun nofun

/-- An instant of a year of four digits is accepted in its form. -/
theorem ofText_write (h : i.Proper) (hyear : i.FourDigits) : ofText i.write = .ok i := by
  rw [ofText_eq_ok_iff, Instant.trim_write]
  exact Instant.read?_write h hyear

/-! ### Numbers -/

theorem ofInteger_eq_ok_iff : ofInteger n = .ok i ↔ InSpan n ∧ i.AtMillis n := by
  rw [← Instant.ofMillis?_eq_some_iff]
  unfold ofInteger
  split
  · next i' h => rw [h, Except.ok.injEq, Option.some.injEq]
  · next h =>
    rw [h]
    exact iff_of_false nofun nofun

/-- A number is accepted exactly if it is an integer in the span of all instants. -/
theorem ofJson_eq_ok_iff (hj : j.IsNumber) :
    ofJson j = .ok i ↔ ∃ n, j = .integer n ∧ InSpan n ∧ i.AtMillis n := by
  cases j with
  | integer n =>
    rw [ofJson, ofInteger_eq_ok_iff]
    constructor
    · exact fun h => ⟨n, rfl, h⟩
    · rintro ⟨m, hm, h⟩
      obtain rfl := Json.integer.inj hm
      exact h
  | real x => exact iff_of_false nofun nofun
  | null | bool _ | text _ | list _ | record _ => exact hj.elim

/-- Every other number is out of range. -/
theorem ofJson_error (hj : j.IsNumber) (h : ofJson j = .error e) :
    e = .outOfRange "DateTime" j.render := by
  cases j with
  | integer n =>
    rw [ofJson, ofInteger] at h
    split at h
    · cases h
    · exact (Except.error.inj h).symm
  | real x => exact (Except.error.inj h).symm
  | null | bool _ | text _ | list _ | record _ => exact hj.elim

/-- No other number than a spelled one is accepted. -/
theorem ofJson_eq_ok_iff_spelled (hread : Json.read? s = some j) (hj : j.IsNumber) :
    ofJson j = .ok i ↔ ∃ n, Json.Spelled s n ∧ InSpan n ∧ i.AtMillis n := by
  rw [ofJson_eq_ok_iff hj]
  refine exists_congr fun n => and_congr_left fun ⟨hspan, _⟩ => ?_
  obtain ⟨hlow, hhigh⟩ := Instant.inSpan_iff.1 hspan
  exact Json.read?_integer_iff hread hj (by omega)

/-! ### The codec -/

/-- In each instant that is accepted, a leap second comes after the last second of a minute. -/
theorem proper_of_ofJson (h : ofJson j = .ok i) : i.Proper := by
  cases j with
  | text s =>
    rw [ofJson, ofText_eq_ok_iff] at h
    exact Instant.read?_proper h
  | integer n =>
    rw [ofJson, ofInteger_eq_ok_iff] at h
    exact h.2.proper
  | null | bool _ | real _ | list _ | record _ => cases h

/-- **An instant of a year of four digits comes back from its form, and has no other form.**

* Each such instant that is accepted, as a text or as a number, is accepted in its form as the same
  instant, with the same nanoseconds and, in a leap second, as a leap second.
* Two of them are written as one text exactly if they are the same.
* A text is accepted as a literal as it is as a value.
* A number is accepted exactly if it is an integer, and the instant after so many milliseconds is in
  a year from -262143 to 262142; it is this instant.  Every other number is out of range.
* A number in a JSON text is such an integer exactly if it is spelled without a fraction and an
  exponent, and is not minus zero. -/
theorem codec_canonical :
    (∀ j i, Codec.dateTime.parseValue j = .ok i → i.FourDigits →
      Codec.dateTime.parseValue (Codec.dateTime.serialize i) = .ok i) ∧
    (∀ j i, Codec.dateTime.parseValue j = .ok i → i.FourDigits →
      ∀ j' i', Codec.dateTime.parseValue j' = .ok i' → i'.FourDigits →
        (Codec.dateTime.serialize i = Codec.dateTime.serialize i' ↔ i = i')) ∧
    (∀ s, Codec.dateTime.parseLiteral (.string s) = Codec.dateTime.parseValue (.text s)) ∧
    (∀ j, j.IsNumber →
      (∀ i, Codec.dateTime.parseValue j = .ok i ↔
        ∃ n, j = .integer n ∧ InSpan n ∧ i.AtMillis n) ∧
      ∀ e, Codec.dateTime.parseValue j = .error e → e = .outOfRange "DateTime" j.render) ∧
    ∀ s j, Json.read? s = some j → j.IsNumber →
      ∀ i, Codec.dateTime.parseValue j = .ok i ↔
        ∃ n, Json.Spelled s n ∧ InSpan n ∧ i.AtMillis n := by
  have hback {j i} (h : ofJson j = .ok i) (hyear : i.FourDigits) :
      ofJson (.text i.write) = .ok i := by
    rw [ofJson]
    exact ofText_write (proper_of_ofJson h) hyear
  have hliteral (s : String) : ofLiteral (.string s) = ofJson (.text s) := by rw [ofLiteral, ofJson]
  simp only [Codec.dateTime]
  refine ⟨fun j i => hback, ?_, hliteral, ?_, ?_⟩
  · intro j i h hyear j' i' h' hyear'
    constructor
    · intro hsame
      have hread := hback h hyear
      rw [hsame, hback h' hyear'] at hread
      exact (Except.ok.inj hread).symm
    · rintro rfl
      rfl
  · exact fun j hj => ⟨fun i => ofJson_eq_ok_iff hj, fun e => ofJson_error hj⟩
  · exact fun s j hread hj i => ofJson_eq_ok_iff_spelled hread hj

/-- A leap second with an offset is written in UTC; half a second before midnight is another
instant; the last millisecond of all. -/
theorem codec_canonical_leap_second :
    let leap := "2017-01-01t01:59:60.5+02:00"
    let last : Instant := ⟨1483228799, 1500000000⟩
    Codec.dateTime.parseValue (.text leap) = .ok last ∧ last.FourDigits ∧
    Codec.dateTime.parseValue (Codec.dateTime.serialize last) = .ok last ∧
    Codec.dateTime.parseValue (.integer 1483228799500) = .ok ⟨1483228799, 500000000⟩ ∧
    Codec.dateTime.serialize last ≠ Codec.dateTime.serialize ⟨1483228799, 500000000⟩ ∧
    Codec.dateTime.parseValue (.integer 8210266876800000) =
      .error (.outOfRange "DateTime" (Json.integer 8210266876800000).render) ∧
    Json.read? " 1483228799500\n" = some (.integer 1483228799500) ∧
    ∃ n, Json.Spelled " 1483228799500\n" n ∧ InSpan n ∧
      Instant.AtMillis ⟨1483228799, 500000000⟩ n := by
  intro leap last
  obtain ⟨hback, hcanonical, -, hnumbers, hspelled⟩ := codec_canonical
  have hleap : Codec.dateTime.parseValue (.text leap) = .ok last := by decide +kernel
  have hlast : last.FourDigits := by decide
  have hbefore : Codec.dateTime.parseValue (.integer 1483228799500) =
      .ok ⟨1483228799, 500000000⟩ := by decide +kernel
  have hyear : Instant.FourDigits ⟨1483228799, 500000000⟩ := by decide
  have hafter : ∃ e, Codec.dateTime.parseValue (.integer 8210266876800000) = .error e :=
    ⟨_, rfl⟩
  have hread : Json.read? " 1483228799500\n" = some (.integer 1483228799500) := rfl
  obtain ⟨e, he⟩ := hafter
  obtain rfl := (hnumbers (.integer 8210266876800000) trivial).2 e he
  refine ⟨hleap, hlast, hback _ _ hleap hlast, hbefore, ?_, he, hread,
    (hspelled _ _ hread trivial _).1 hbefore⟩
  intro hsame
  have hsame := (hcanonical _ _ hleap hlast _ _ hbefore hyear).1 hsame
  exact absurd hsame (by decide)

end GraphLayer.DateTime
