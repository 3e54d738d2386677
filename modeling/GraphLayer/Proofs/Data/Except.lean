/-!
# Steps that may fail

* `bind_eq_ok_iff` and `bind_eq_error_iff`: two steps after each other succeed if both do;
* `map_eq_ok_iff`: what is made of a result;
* `mapError_eq_ok_iff` and `mapError_eq_error_iff`: what is made of a failure;
* `eq_ok_of_toOption`: a result without regard to failures.
-/

namespace GraphLayer

/-- What comes out of two steps after each other. -/
theorem bind_eq_ok_iff {E A B : Type} {x : Except E A} {f : A → Except E B} {b : B} :
    (x >>= f) = .ok b ↔ ∃ a, x = .ok a ∧ f a = .ok b := by
  cases x with
  | error e => simp [bind, Except.bind]
  | ok a => simp [bind, Except.bind]

theorem bind_eq_error_iff {E A B : Type} {x : Except E A} {f : A → Except E B} {e : E} :
    (x >>= f) = .error e ↔ x = .error e ∨ ∃ a, x = .ok a ∧ f a = .error e := by
  cases x with
  | error e => simp [bind, Except.bind]
  | ok a => simp [bind, Except.bind]

theorem map_eq_ok_iff {E A B : Type} {x : Except E A} {f : A → B} {b : B} :
    x.map f = .ok b ↔ ∃ a, x = .ok a ∧ f a = b := by
  cases x with
  | error e => simp [Except.map]
  | ok a => simp [Except.map]

theorem mapError_eq_ok_iff {E F A : Type} {x : Except E A} {f : E → F} {a : A} :
    x.mapError f = .ok a ↔ x = .ok a := by
  cases x with
  | error e => exact iff_of_false nofun nofun
  | ok b =>
    have hmap : (Except.ok b : Except E A).mapError f = .ok b := rfl
    rw [hmap, Except.ok.injEq, Except.ok.injEq]

theorem mapError_eq_error_iff {E F A : Type} {x : Except E A} {f : E → F} {e : F} :
    x.mapError f = .error e ↔ ∃ d, x = .error d ∧ f d = e := by
  cases x with
  | error d =>
    constructor
    · intro h
      exact ⟨d, rfl, Except.error.inj h⟩
    · rintro ⟨d', hd, rfl⟩
      obtain rfl := Except.error.inj hd
      rfl
  | ok a =>
    refine iff_of_false nofun ?_
    rintro ⟨d, hd, -⟩
    cases hd

theorem eq_ok_of_toOption {E A : Type} {x : Except E A} {a : A} (h : x.toOption = some a) :
    x = .ok a := by
  cases x with
  | error e => cases h
  | ok b => exact congrArg Except.ok (Option.some.inj h)

end GraphLayer
