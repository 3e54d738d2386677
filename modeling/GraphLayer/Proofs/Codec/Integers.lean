import GraphLayer.Codec.Long
import GraphLayer.Proofs.Json.Numbers

/-!
# Integers on the wire

* `Long.integer?_eq_some_iff`: a number is read exactly if it is written in decimal digits behind an
  optional sign;
* `Long.ofText_eq_ok_iff`: a text is an integer of 64 bits exactly if there is such a number in it,
  apart from blanks at its ends, and this number is in the range;
* `Long.codec_exact`: texts, JSON numbers and literals are accepted exactly if they are integers of
  64 bits, and every such integer comes back from what it is written as.
-/

namespace GraphLayer.Long

open Text (Numeral)

variable {cs : List Char} {n : Int} {s : String}

/-! ### Texts -/

theorem natural?_eq_some_iff {v : Nat} : natural? cs = some v ↔
    cs ≠ [] ∧ (∀ c ∈ cs, c.isDigit = true) ∧ v = Nat.ofDigitChars 10 cs 0 := by
  unfold natural?
  rw [Text.foldl_digits]
  constructor
  · intro h
    split at h
    · cases h
    · next hcs =>
      obtain ⟨hne, hd⟩ := not_or.1 hcs
      refine ⟨fun hnil => hne (List.isEmpty_iff.2 hnil), ?_, (Option.some.inj h).symm⟩
      simpa using hd
  · rintro ⟨hne, hd, rfl⟩
    refine if_neg (not_or.2 ⟨fun hempty => hne (List.isEmpty_iff.1 hempty), ?_⟩)
    simpa using hd

/-- A number is read exactly if it is written in decimal digits behind an optional sign. -/
theorem integer?_eq_some_iff : integer? cs = some n ↔ Numeral cs n := by
  constructor
  · intro h
    unfold integer? at h
    split at h
    · obtain ⟨v, hv, rfl⟩ := Option.map_eq_some_iff.1 h
      obtain ⟨hne, hd, rfl⟩ := natural?_eq_some_iff.1 hv
      exact .plus hne hd
    · obtain ⟨_, hm, rfl⟩ := Option.map_eq_some_iff.1 h
      obtain ⟨v, hv, heq⟩ := Option.bind_eq_some_iff.1 hm
      obtain rfl := Option.some.inj heq
      obtain ⟨hne, hd, rfl⟩ := natural?_eq_some_iff.1 hv
      exact .minus hne hd
    · obtain ⟨v, hv, rfl⟩ := Option.map_eq_some_iff.1 h
      obtain ⟨hne, hd, rfl⟩ := natural?_eq_some_iff.1 hv
      exact .plain hne hd
  · intro h
    cases h with
    | plain hne hd =>
      have hnatural := natural?_eq_some_iff.2 ⟨hne, hd, rfl⟩
      unfold integer?
      -- a digit is no sign
      split
      · exact absurd (hd '+' List.mem_cons_self) (by decide)
      · exact absurd (hd '-' List.mem_cons_self) (by decide)
      · exact Option.map_eq_some_iff.2 ⟨_, hnatural, rfl⟩
    | plus hne hd =>
      exact Option.map_eq_some_iff.2 ⟨_, natural?_eq_some_iff.2 ⟨hne, hd, rfl⟩, rfl⟩
    | minus hne hd =>
      have hnatural := natural?_eq_some_iff.2 ⟨hne, hd, rfl⟩
      exact Option.map_eq_some_iff.2 ⟨_, Option.bind_eq_some_iff.2 ⟨_, hnatural, rfl⟩, rfl⟩

theorem ofText_eq_ok_iff : ofText s = .ok n ↔ Numeral (Text.trim s).toList n ∧ InRange n := by
  rw [Text.trim, String.toList_ofList, ← integer?_eq_some_iff]
  have hfilter : (integer? (Text.trimChars s.toList)).filter (fun n => InRange n) = some n ↔
      integer? (Text.trimChars s.toList) = some n ∧ InRange n := by
    simp [Option.filter_eq_some_iff]
  rw [← hfilter, ofText]
  split
  · next heq => rw [heq, Except.ok.injEq, Option.some.injEq]
  · next heq => exact iff_of_false nofun (by rw [heq]; nofun)

theorem ofText_error {e : CodecError} (h : ofText s = .error e) :
    e = .invalid "Long" (Codec.quoted s) := by
  unfold ofText at h
  split at h
  · cases h
  · exact (Except.error.inj h).symm

theorem numeral_toString (n : Int) : Numeral (toString n).toList n := by
  have hd : ∀ c ∈ Nat.toDigits 10 n.natAbs, c.isDigit = true :=
    fun _ => Json.isDigit_of_mem_toDigits
  have hvalue : Nat.ofDigitChars 10 (Nat.toDigits 10 n.natAbs) 0 = n.natAbs :=
    Nat.ofDigitChars_ten_toDigits
  rw [Json.toList_toString]
  by_cases hneg : n < 0
  · have hn : n = -(n.natAbs : Int) := by omega
    have hminus := Numeral.minus Nat.toDigits_ne_nil hd
    rw [hvalue, ← hn] at hminus
    rwa [decide_eq_true hneg]
  · have hn : n = (n.natAbs : Int) := by omega
    have hplain := Numeral.plain Nat.toDigits_ne_nil hd
    rw [hvalue, ← hn] at hplain
    rwa [decide_eq_false hneg]

/-- The decimal text of an integer of 64 bits is read as this integer. -/
theorem ofText_toString (h : InRange n) : ofText (toString n) = .ok n := by
  have hnumeral := numeral_toString n
  refine ofText_eq_ok_iff.2 ⟨?_, h⟩
  rwa [Text.trim, String.toList_ofList, hnumeral.trimChars_eq]

/-! ### JSON numbers -/

theorem ofJson_eq_ok_iff {j : Json} (hj : j.IsNumber) :
    ofJson j = .ok n ↔ j = .integer n ∧ InRange n := by
  cases j with
  | integer m =>
    by_cases hm : InRange m
    · rw [ofJson, if_pos hm, Except.ok.injEq, Json.integer.injEq]
      exact ⟨fun h => ⟨h, h ▸ hm⟩, And.left⟩
    · rw [ofJson, if_neg hm, Json.integer.injEq]
      exact iff_of_false nofun fun ⟨heq, hn⟩ => hm (heq ▸ hn)
  | real x => exact iff_of_false nofun fun h => nomatch h.1
  | _ => exact hj.elim

theorem ofJson_error {j : Json} (hj : j.IsNumber) {e : CodecError} (h : ofJson j = .error e) :
    e = .outOfRange "Long" j.render := by
  cases j with
  | integer m =>
    by_cases hm : InRange m
    · rw [ofJson, if_pos hm] at h
      cases h
    · rw [ofJson, if_neg hm] at h
      exact (Except.error.inj h).symm
  | real x => exact (Except.error.inj h).symm
  | _ => exact hj.elim

/-- **Integers of 64 bits on the wire.**

* A text is accepted exactly if, without the blanks around it, it is a number in decimal digits with
  an optional sign, and in the range; this number is its value.  Every other text is invalid.
* A text in a request is accepted as the same text in JSON is.
* A JSON number is accepted exactly if it is spelled without a fraction and an exponent, is not minus
  zero, and lies in the range.  Every other number is out of range.
* Every integer in the range comes back from the JSON number it is written as, as a value and as a
  text, from its decimal text, and from the literal. -/
theorem codec_exact :
    (∀ s n, Codec.long.parseValue (.text s) = .ok n ↔
      Numeral (Text.trim s).toList n ∧ InRange n) ∧
    (∀ s e, Codec.long.parseValue (.text s) = .error e → e = .invalid "Long" (Codec.quoted s)) ∧
    (∀ s, Codec.long.parseLiteral (.string s) = Codec.long.parseValue (.text s)) ∧
    (∀ s j, Json.read? s = some j → j.IsNumber →
      (∀ n, Codec.long.parseValue j = .ok n ↔ Json.Spelled s n ∧ InRange n) ∧
      ∀ e, Codec.long.parseValue j = .error e → e = .outOfRange "Long" j.render) ∧
    ∀ n, InRange n →
      Codec.long.parseValue (Codec.long.serialize n) = .ok n ∧
      Json.read? (Codec.long.serialize n).render = some (Codec.long.serialize n) ∧
      Codec.long.parseValue (.text (toString n)) = .ok n ∧
      Codec.long.parseLiteral (.string (toString n)) = .ok n ∧
      Codec.long.parseLiteral (.int n) = .ok n := by
  refine ⟨fun s n => ofText_eq_ok_iff, fun s e => ofText_error, fun s => rfl, ?_, ?_⟩
  · intro s j hread hj
    refine ⟨fun n => ?_, fun e => ofJson_error hj⟩
    rw [Codec.long, ofJson_eq_ok_iff hj]
    refine and_congr_left fun hn => Json.read?_integer_iff hread hj ?_
    exact ⟨hn.1, Int.lt_trans hn.2 (by decide)⟩
  · intro n hn
    have hexact : Json.Exact 127 (.integer n) := .integer ⟨hn.1, Int.lt_trans hn.2 (by decide)⟩
    have hnumber : (Json.integer n).IsNumber := trivial
    have hvalue : ofJson (.integer n) = .ok n := (ofJson_eq_ok_iff hnumber).2 ⟨rfl, hn⟩
    exact ⟨hvalue, Json.read?_render hexact, ofText_toString hn, ofText_toString hn, rfl⟩

/-- The least integer of 64 bits, and one that is too large. -/
theorem codec_exact_at_bounds :
    let low := "\n-9223372036854775808 "
    let high := "9223372036854775808"
    let least : Int := -0x8000000000000000
    let large : Int := 0x8000000000000000
    Codec.long.parseValue (.text high) = .error (.invalid "Long" (Codec.quoted high)) ∧
    Json.read? low = some (.integer least) ∧ (Json.integer least).IsNumber ∧ InRange least ∧
    (Codec.long.parseValue (.integer least) = .ok least ↔
      Json.Spelled low least ∧ InRange least) ∧
    Json.read? high = some (.integer large) ∧ (Json.integer large).IsNumber ∧
    Codec.long.parseValue (.integer large) =
      .error (.outOfRange "Long" (Json.integer large).render) ∧
    Json.read? (Codec.long.serialize least).render = some (Codec.long.serialize least) ∧
    Codec.long.parseLiteral (.string (toString least)) = .ok least := by
  have hlow : Json.read? "\n-9223372036854775808 " = some (.integer (-0x8000000000000000)) := rfl
  have hhigh : Json.read? "9223372036854775808" = some (.integer 0x8000000000000000) := rfl
  intro low high least large
  obtain ⟨-, hinvalid, -, hnumbers, hback⟩ := codec_exact
  have hleast : InRange least := by decide
  have hnumber : ∀ n, (Json.integer n).IsNumber := fun _ => trivial
  have htext : ∃ e, Codec.long.parseValue (.text high) = .error e :=
    ⟨.invalid "Long" (Codec.quoted high), by decide +kernel⟩
  have hlarge : ∃ e, Codec.long.parseValue (.integer large) = .error e := ⟨_, rfl⟩
  obtain ⟨e, he⟩ := htext
  obtain ⟨e', he'⟩ := hlarge
  obtain rfl := hinvalid high e he
  obtain rfl := (hnumbers high _ hhigh (hnumber _)).2 e' he'
  exact ⟨he, hlow, hnumber _, hleast, (hnumbers low _ hlow (hnumber _)).1 least, hhigh, hnumber _,
    he', (hback least hleast).2.1, (hback least hleast).2.2.2.1⟩

end GraphLayer.Long
