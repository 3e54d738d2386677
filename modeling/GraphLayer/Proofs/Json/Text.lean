import Mathlib.Data.List.TakeWhile
import GraphLayer.Json.Reader

/-!
# Written values are read again

A text is written without blanks, and a reader given any text after it leaves that text over.

* `string?_quoted`: a string in quotes is read as what it was, whatever its characters are;
* `number?_toString`: so is an integer of at most 64 bits, before what does not continue a number;
* `Exact`: a value without other numbers, and how deep its lists and records lie in one another;
* `read?_render`: a value at most 127 deep is read from its text as what it is.
-/

namespace GraphLayer.Json

variable {c : Char} {cs rest acc : List Char} {fuel depth n : Nat}

/-! ### Strings -/

theorem hexValue?_digitChar : ∀ d < 16, hexValue? (Nat.digitChar d) = some d := by decide

theorem hexUnit?_hex4 (h : n < 0x10000) (rest : List Char) :
    hexUnit? (hex4 n ++ rest) = some (n, rest) := by
  have hdigit (m : Nat) : hexValue? (Nat.digitChar (m % 16)) = some (m % 16) :=
    hexValue?_digitChar _ (Nat.mod_lt _ (by decide))
  have hvalue : ((n / 4096 % 16 * 16 + n / 256 % 16) * 16 + n / 16 % 16) * 16 + n % 16 = n := by
    omega
  simp only [hex4, List.map_cons, List.map_nil, List.cons_append, List.nil_append, hexUnit?, hdigit,
    Option.bind_eq_bind, Option.bind_some, Option.pure_def, hvalue]

/-- A control character is read from its number. -/
theorem escape?_hex4 (h : c.toNat < 32) (rest : List Char) :
    escape? ('u' :: (hex4 c.toNat ++ rest)) = some (c, rest) := by
  have hunit := hexUnit?_hex4 (Nat.lt_trans h (by decide)) rest
  have hhigh : ¬ (0xD800 ≤ c.toNat ∧ c.toNat < 0xDC00) := by omega
  have hlow : ¬ (0xDC00 ≤ c.toNat ∧ c.toNat < 0xE000) := by omega
  simp only [escape?, hunit, Option.bind_eq_bind, Option.bind_some, if_neg hhigh, if_neg hlow,
    Char.ofNat_toNat, Option.pure_def]

/-- One written character is one step of the reader. -/
theorem stringBody?_escapeChar (c : Char) (fuel : Nat) (acc rest : List Char) :
    stringBody? (fuel + 1) acc (escapeChar c ++ rest) = stringBody? fuel (c :: acc) rest := by
  unfold escapeChar
  split
  · rfl
  · rfl
  · rfl
  · rfl
  · rfl
  · next hquote hslash _ _ _ =>
    split
    · next h =>
      obtain rfl : c = '\x08' := by rw [← Char.ofNat_toNat c, h]
      rfl
    split
    · next h =>
      obtain rfl : c = '\x0c' := by rw [← Char.ofNat_toNat c, h]
      rfl
    split
    · next h =>
      rw [List.cons_append, List.cons_append, stringBody?, escape?_hex4 h]
      rfl
    · next h =>
      rw [List.singleton_append, stringBody?]
      · rw [if_neg h]
      · exact hquote
      · exact hslash

theorem stringBody?_quoted (cs : List Char) (acc rest : List Char) (h : cs.length < fuel) :
    stringBody? fuel acc (cs.flatMap escapeChar ++ '"' :: rest) =
      some (acc.reverse ++ cs, rest) := by
  induction cs generalizing fuel acc with
  | nil =>
    obtain ⟨fuel, rfl⟩ := Nat.exists_eq_add_of_lt h
    simp [stringBody?]
  | cons c cs ih =>
    obtain ⟨fuel, rfl⟩ : ∃ k, fuel = k + 1 := ⟨fuel - 1, by omega⟩
    rw [List.flatMap_cons, List.append_assoc, stringBody?_escapeChar,
      ih (c :: acc) (by simpa using h), List.reverse_cons, List.append_assoc]
    rfl

theorem length_le_flatMap_escapeChar (cs : List Char) :
    cs.length ≤ (cs.flatMap escapeChar).length := by
  have hpos (c : Char) : 0 < (escapeChar c).length := by
    unfold escapeChar
    repeat' split
    all_goals exact Nat.succ_pos _
  induction cs with
  | nil => exact Nat.le_refl 0
  | cons c cs ih =>
    have hc := hpos c
    rw [List.flatMap_cons, List.length_append, List.length_cons]
    omega

/-- A string in quotes is read as what it was. -/
theorem string?_quoted (s : String) (rest : List Char) :
    string? (s.toList.flatMap escapeChar ++ '"' :: rest) = some (s, rest) := by
  have hlength : s.toList.length <
      (s.toList.flatMap escapeChar ++ '"' :: rest).length + 1 := by
    have hle := length_le_flatMap_escapeChar s.toList
    rw [List.length_append]
    omega
  rw [string?, stringBody?_quoted _ _ _ hlength]
  simp

theorem toList_quote (s : String) :
    (quote s).toList = '"' :: (s.toList.flatMap escapeChar ++ ['"']) := by
  rw [quote, String.toList_ofList, List.cons_append]

/-! ### Integers -/

/-- What follows does not continue a number. -/
def Ends (cs : List Char) : Prop :=
  ∀ c, cs.head? = some c → c.isDigit = false ∧ c ≠ '.' ∧ c ≠ 'e' ∧ c ≠ 'E'

theorem Ends.nil : Ends [] := nofun

theorem Ends.cons (hc : c.isDigit = false ∧ c ≠ '.' ∧ c ≠ 'e' ∧ c ≠ 'E') (cs : List Char) :
    Ends (c :: cs) := by
  rintro d hd
  obtain rfl := Option.some.inj hd
  exact hc

theorem digits_append (hcs : ∀ c ∈ cs, c.isDigit = true) (h : Ends rest) :
    digits (cs ++ rest) = (cs, rest) := by
  have hrest : rest.takeWhile Char.isDigit = [] ∧ rest.dropWhile Char.isDigit = rest := by
    cases rest with
    | nil => exact ⟨rfl, rfl⟩
    | cons c rest =>
      have hc : ¬ c.isDigit = true := by simp [(h c rfl).1]
      exact ⟨List.takeWhile_cons_of_neg hc, List.dropWhile_cons_of_neg hc⟩
  rw [digits, List.takeWhile_append_of_pos hcs, List.dropWhile_append_of_pos hcs, hrest.1, hrest.2,
    List.append_nil]

theorem head?_toDigits (h : 0 < n) : (Nat.toDigits 10 n).head? ≠ some '0' := by
  induction n using Nat.strongRecOn with
  | ind n ih =>
    by_cases hn : n < 10
    · have hdigit : ∀ m < 10, 0 < m → some (Nat.digitChar m) ≠ some '0' := by decide
      rw [Nat.toDigits_of_lt_base hn]
      exact hdigit n hn h
    · rw [Nat.toDigits_of_base_le (by decide) (Nat.not_lt.1 hn), List.head?_append,
        List.head?_eq_some_head Nat.toDigits_ne_nil, Option.some_or,
        ← List.head?_eq_some_head Nat.toDigits_ne_nil]
      exact ih (n / 10) (by omega) (by omega)

theorem foldl_toDigits (n : Nat) :
    (Nat.toDigits 10 n).foldl (fun n c => n * 10 + digit c) 0 = n := by
  have hvalue : Nat.ofDigitChars 10 (Nat.toDigits 10 n) 0 = n := Nat.ofDigitChars_ten_toDigits
  rw [Nat.ofDigitChars_eq_foldl] at hvalue
  simpa only [digit, Nat.mul_comm 10] using hvalue

theorem isDigit_of_mem_toDigits (hc : c ∈ Nat.toDigits 10 n) : c.isDigit = true :=
  Nat.isDigit_of_mem_toDigits (by decide) (by decide) hc

theorem exists_toDigits (n : Nat) :
    ∃ c r, Nat.toDigits 10 n = c :: r ∧ c.isDigit = true := by
  obtain ⟨c, r, hcs⟩ := List.exists_cons_of_ne_nil (Nat.toDigits_ne_nil (n := n) (b := 10))
  have hc : c ∈ Nat.toDigits 10 n := hcs ▸ List.mem_cons_self
  exact ⟨c, r, hcs, isDigit_of_mem_toDigits hc⟩

/-- Only zero is written with a leading zero, which is its single digit. -/
theorem length_toDigits_of_head? (h : (Nat.toDigits 10 n).head? = some '0') :
    (Nat.toDigits 10 n).length = 1 := by
  cases n with
  | zero => rfl
  | succ n => exact absurd h (head?_toDigits (Nat.succ_pos n))

theorem fraction?_of_ends (h : Ends rest) : fraction? rest = some ([], rest, false) := by
  unfold fraction?
  split
  · exact absurd rfl (h _ rfl).2.1
  · rfl

theorem power?_of_ends (h : Ends rest) (isReal : Bool) :
    power? isReal rest = some (0, rest, isReal) := by
  unfold power?
  split
  · exact absurd rfl (h _ rfl).2.2.1
  · exact absurd rfl (h _ rfl).2.2.2
  · rfl

/-- The digits of a number as they are written, after a minus sign if it is negative. -/
def signed (negative : Bool) (n : Nat) : List Char :=
  if negative then '-' :: Nat.toDigits 10 n else Nat.toDigits 10 n

theorem sign_signed (negative : Bool) (n : Nat) (rest : List Char) :
    sign (signed negative n ++ rest) = (negative, Nat.toDigits 10 n ++ rest) := by
  cases negative with
  | true => rfl
  | false =>
    obtain ⟨c, r, hcs, hc⟩ := exists_toDigits n
    rw [signed, if_neg (by decide), hcs, List.cons_append, sign]
    intro tail heq
    obtain ⟨rfl, -⟩ := List.cons.inj heq
    cases hc

theorem exists_signed (negative : Bool) (n : Nat) :
    ∃ c r, signed negative n = c :: r ∧ (c.isDigit = true ∨ c = '-') := by
  cases negative with
  | true => exact ⟨'-', _, rfl, .inr rfl⟩
  | false =>
    obtain ⟨c, r, hcs, hc⟩ := exists_toDigits n
    exact ⟨c, r, hcs, .inl hc⟩

/-- An integer of at most 64 bits is read from its digits; zero has no sign. -/
theorem number?_digits {negative : Bool} {whole : List Char}
    (hsign : sign cs = (negative, whole ++ rest)) (hwhole : ∀ c ∈ whole, c.isDigit = true)
    (hzero : whole ≠ [] ∧ (whole.head? = some '0' → whole.length = 1))
    (hvalue : whole.foldl (fun n c => n * 10 + digit c) 0 = n)
    (hn : if negative then n ≠ 0 ∧ n ≤ 0x8000000000000000 else n < 0x10000000000000000)
    (h : Ends rest) : number? cs = some (.integer (if negative then -(n : Int) else n), rest) := by
  have hguard : (guard (whole ≠ [] ∧ (whole.head? = some '0' → whole.length = 1)) :
      Option Unit) = some () := if_pos hzero
  have hfits : (!false && (if negative then decide (n ≠ 0 ∧ n ≤ 0x8000000000000000)
      else decide (n < 0x10000000000000000))) = true := by
    cases negative with
    | true => simpa using hn
    | false => simpa using hn
  rw [number?, hsign]
  dsimp only
  rw [digits_append hwhole h]
  dsimp only
  rw [hguard, Option.bind_eq_bind, Option.bind_some]
  simp only [fraction?_of_ends h, power?_of_ends h, hvalue, Option.bind_eq_bind, Option.bind_some]
  exact if_pos hfits

/-- A number of at most 64 bits is read as it is written. -/
theorem number?_signed {negative : Bool}
    (hn : if negative then n ≠ 0 ∧ n ≤ 0x8000000000000000 else n < 0x10000000000000000)
    (h : Ends rest) :
    number? (signed negative n ++ rest) =
      some (.integer (if negative then -(n : Int) else n), rest) :=
  number?_digits (sign_signed negative n rest) (fun _ => isDigit_of_mem_toDigits)
    ⟨Nat.toDigits_ne_nil, length_toDigits_of_head?⟩ (foldl_toDigits n) hn h

theorem toList_toString (i : Int) : (toString i).toList = signed (i < 0) i.natAbs := by
  cases i with
  | ofNat n =>
    have hsign : ¬ Int.ofNat n < 0 := by simp
    rw [decide_eq_false hsign]
    exact congrArg String.toList Nat.repr_eq_ofList_toDigits |>.trans String.toList_ofList
  | negSucc n =>
    have hsign : Int.negSucc n < 0 := Int.negSucc_lt_zero n
    rw [decide_eq_true hsign]
    have htext : toString (Int.negSucc n) = "-" ++ Nat.repr (n + 1) := rfl
    simp only [htext, String.toList_append, Nat.repr_eq_ofList_toDigits, String.toList_ofList]
    rfl

theorem number?_toString {i : Int} (hi : -0x8000000000000000 ≤ i ∧ i < 0x10000000000000000)
    (h : Ends rest) : number? ((toString i).toList ++ rest) = some (.integer i, rest) := by
  have hfits : if decide (i < 0) = true then i.natAbs ≠ 0 ∧ i.natAbs ≤ 0x8000000000000000
      else i.natAbs < 0x10000000000000000 := by
    split
    · next hneg =>
      have hneg := of_decide_eq_true hneg
      omega
    · omega
  rw [toList_toString, number?_signed hfits h]
  congr
  by_cases hneg : i < 0
  · rw [if_pos (decide_eq_true hneg)]
    omega
  · rw [if_neg (by simpa using hneg)]
    omega

/-! ### Values -/

/-- A value without other numbers than integers of at most 64 bits, of at most the given number of
lists and records in one another. -/
inductive Exact : Nat → Json → Prop
  | null {depth : Nat} : Exact depth .null
  | bool {depth : Nat} (b : Bool) : Exact depth (.bool b)
  | integer {depth : Nat} {i : Int} (h : -0x8000000000000000 ≤ i ∧ i < 0x10000000000000000) :
      Exact depth (.integer i)
  | text {depth : Nat} (s : String) : Exact depth (.text s)
  | list {depth : Nat} {xs : List Json} (h : ∀ x ∈ xs, Exact depth x) :
      Exact (depth + 1) (.list xs)
  | record {depth : Nat} {fs : List (String × Json)} (h : ∀ p ∈ fs, Exact depth p.2) :
      Exact (depth + 1) (.record fs)

theorem Exact.mono {x : Json} {deeper : Nat} (h : Exact depth x) (hle : depth ≤ deeper) :
    Exact deeper x := by
  induction h generalizing deeper with
  | null => exact .null
  | bool b => exact .bool b
  | integer hi => exact .integer hi
  | text s => exact .text s
  | list _ ih =>
    obtain ⟨deeper, rfl⟩ : ∃ k, deeper = k + 1 := ⟨deeper - 1, by omega⟩
    exact .list fun x hx => ih x hx (by omega)
  | record _ ih =>
    obtain ⟨deeper, rfl⟩ : ∃ k, deeper = k + 1 := ⟨deeper - 1, by omega⟩
    exact .record fun p hp => ih p hp (by omega)

/-- The characters of a value. -/
def chars (x : Json) : List Char := (render x).toList

/-- The characters of a field. -/
def fieldChars (p : String × Json) : List Char := (quote p.1).toList ++ ':' :: chars p.2

theorem renderItems_eq (xs : List Json) : renderItems xs = xs.map render := by
  induction xs with
  | nil => rfl
  | cons x xs ih => rw [renderItems, ih, List.map_cons]

theorem renderFields_eq (fs : List (String × Json)) :
    renderFields fs = fs.map fun p => quote p.1 ++ ":" ++ render p.2 := by
  induction fs with
  | nil => rfl
  | cons p fs ih => rw [renderFields, ih, List.map_cons]

theorem chars_list (xs : List Json) :
    chars (.list xs) = '[' :: ([','].intercalate (xs.map chars) ++ [']']) := by
  rw [chars, render, renderItems_eq, String.toList_append, String.toList_append,
    String.toList_intercalate, List.map_map]
  rfl

theorem chars_record (fs : List (String × Json)) :
    chars (.record fs) = '\x7b' :: ([','].intercalate (fs.map fieldChars) ++ ['\x7d']) := by
  have hfields : (fs.map fun p => quote p.1 ++ ":" ++ render p.2).map String.toList =
      fs.map fieldChars := by
    rw [List.map_map]
    refine List.map_congr_left fun p _ => ?_
    simp [fieldChars, chars]
  rw [chars, render, renderFields_eq, String.toList_append, String.toList_append,
    String.toList_intercalate, hfields]
  rfl

/-- A text that begins with neither a blank nor the end of a list or record. -/
def Starts (cs : List Char) : Prop :=
  ∃ c r, cs = c :: r ∧ isBlank c = false ∧ c ≠ ']' ∧ c ≠ '\x7d'

theorem Starts.append (h : Starts cs) (rest : List Char) : Starts (cs ++ rest) := by
  obtain ⟨c, r, rfl, hc⟩ := h
  exact ⟨c, r ++ rest, rfl, hc⟩

theorem Starts.skipBlanks_eq (h : Starts cs) : skipBlanks cs = cs := by
  obtain ⟨c, r, rfl, hblank, -⟩ := h
  exact List.dropWhile_cons_of_neg (by simp [hblank])

theorem starts_cons (hc : isBlank c = false ∧ c ≠ ']' ∧ c ≠ '\x7d') (cs : List Char) :
    Starts (c :: cs) :=
  ⟨c, cs, rfl, hc⟩

theorem starts_of_isDigit (hc : c.isDigit = true ∨ c = '-') (cs : List Char) :
    Starts (c :: cs) := by
  have hne : c ≠ ' ' ∧ c ≠ '\n' ∧ c ≠ '\t' ∧ c ≠ '\r' ∧ c ≠ ']' ∧ c ≠ '\x7d' := by
    refine ⟨?_, ?_, ?_, ?_, ?_, ?_⟩
    all_goals
      rintro rfl
      revert hc
      decide
  exact starts_cons (by simp [isBlank, hne]) cs

theorem Exact.starts {x : Json} (h : Exact depth x) : Starts (chars x) := by
  cases h with
  | null => exact starts_cons (by decide) _
  | bool b => cases b <;> exact starts_cons (by decide) _
  | @integer _ i hi =>
    obtain ⟨c, r, hcs, hc⟩ := exists_signed (decide (i < 0)) i.natAbs
    rw [chars, render, toList_toString, hcs]
    exact starts_of_isDigit hc r
  | text s =>
    rw [chars, render, toList_quote]
    exact starts_cons (by decide) _
  | list h =>
    rw [chars_list]
    exact starts_cons (by decide) _
  | record h =>
    rw [chars_record]
    exact starts_cons (by decide) _

/-- A value is read from its text, if what follows does not continue a number. -/
def Reads (depth : Nat) (x : Json) : Prop :=
  ∀ fuel rest, (chars x).length ≤ fuel → Ends rest →
    value? fuel depth (chars x ++ rest) = some (x, rest)

theorem reads_of_succ {x : Json} (hx : Starts (chars x))
    (h : ∀ fuel rest, (chars x).length ≤ fuel + 1 → Ends rest →
      value? (fuel + 1) depth (chars x ++ rest) = some (x, rest)) : Reads depth x := by
  intro fuel rest hfuel hends
  obtain ⟨c, r, hcs, -⟩ := hx
  obtain ⟨fuel, rfl⟩ : ∃ k, fuel = k + 1 := by
    rw [hcs, List.length_cons] at hfuel
    exact ⟨fuel - 1, by omega⟩
  exact h fuel rest hfuel hends

theorem value?_of_isDigit (hc : c.isDigit = true ∨ c = '-') (fuel depth : Nat) (cs : List Char) :
    value? (fuel + 1) depth (c :: cs) = number? (c :: cs) := by
  rw [value?]
  all_goals
    intro tail heq
    obtain ⟨rfl, -⟩ := List.cons.inj heq
    revert hc
    decide

theorem value?_list (fuel depth : Nat) {cs : List Char} (h : Starts cs) :
    value? (fuel + 1) (depth + 1) ('[' :: cs) =
      (items? fuel depth [] cs).map fun (xs, r) => (.list xs, r) := by
  rw [value?]
  dsimp only
  rw [h.skipBlanks_eq]
  obtain ⟨c, r, rfl, -, hc, -⟩ := h
  split
  · next heq => exact absurd (List.cons.inj heq).1 hc
  · rfl

theorem value?_record (fuel depth : Nat) {cs : List Char} (h : Starts cs) :
    value? (fuel + 1) (depth + 1) ('\x7b' :: cs) =
      (fields? fuel depth [] cs).map fun (fs, r) => (.record fs, r) := by
  rw [value?]
  dsimp only
  rw [h.skipBlanks_eq]
  obtain ⟨c, r, rfl, -, -, hc⟩ := h
  split
  · next heq => exact absurd (List.cons.inj heq).1 hc
  · rfl

theorem Starts.intercalate (h : Starts cs) (l : List (List Char)) :
    Starts ([','].intercalate (cs :: l)) := by
  cases l with
  | nil => rwa [List.intercalate_singleton]
  | cons d l =>
    rw [List.intercalate_cons_cons, List.append_assoc]
    exact h.append _

/-- The items of a list are read one after the other. -/
theorem items?_chars {x : Json} {xs : List Json}
    (h : ∀ y ∈ x :: xs, Reads depth y ∧ Starts (chars y)) (acc : List Json) (rest : List Char)
    (hfuel : ([','].intercalate ((x :: xs).map chars)).length < fuel) :
    items? fuel depth acc ([','].intercalate ((x :: xs).map chars) ++ ']' :: rest) =
      some (acc.reverse ++ x :: xs, rest) := by
  obtain ⟨fuel, rfl⟩ : ∃ k, fuel = k + 1 := ⟨fuel - 1, by omega⟩
  induction xs generalizing x fuel acc with
  | nil =>
    rw [List.map_cons, List.map_nil, List.intercalate_singleton] at hfuel ⊢
    have hread := (h x List.mem_cons_self).1 fuel (']' :: rest) (by omega) (.cons (by decide) rest)
    rw [items?, hread]
    simp [skipBlanks, isBlank]
  | cons y ys ih =>
    have hlater : ∀ z ∈ y :: ys, Reads depth z ∧ Starts (chars z) :=
      fun z hz => h z (List.mem_cons_of_mem _ hz)
    have hstarts : Starts ([','].intercalate ((y :: ys).map chars) ++ ']' :: rest) :=
      ((hlater y List.mem_cons_self).2.intercalate _).append _
    rw [List.map_cons, List.map_cons, List.intercalate_cons_cons, ← List.map_cons,
      List.append_assoc, List.length_append, List.singleton_append, List.length_cons] at hfuel
    have hread := (h x List.mem_cons_self).1 fuel
      (',' :: ([','].intercalate ((y :: ys).map chars) ++ ']' :: rest)) (by omega)
      (.cons (by decide) _)
    obtain ⟨fuel, rfl⟩ : ∃ k, fuel = k + 1 := ⟨fuel - 1, by omega⟩
    have hitems := ih hlater (x :: acc) fuel (by omega)
    rw [List.map_cons, List.map_cons, List.intercalate_cons_cons, ← List.map_cons,
      List.append_assoc, List.append_assoc, List.singleton_append, items?, hread]
    show items? (fuel + 1) depth (x :: acc) (skipBlanks _) = _
    rw [hstarts.skipBlanks_eq, hitems, List.reverse_cons, List.append_assoc]
    rfl

/-- A field is read from its text, and then what follows says whether it is the last one. -/
theorem fields?_fieldChars {p : String × Json} (h : Reads depth p.2 ∧ Starts (chars p.2))
    (hc : c = ',' ∨ c = '\x7d') (acc : List (String × Json)) (rest : List Char)
    (hfuel : (fieldChars p).length ≤ fuel) :
    fields? (fuel + 1) depth acc (fieldChars p ++ c :: rest) =
      if c = '\x7d' then some ((p :: acc).reverse, rest)
      else fields? fuel depth (p :: acc) (skipBlanks rest) := by
  have hends : Ends (c :: rest) := by
    rcases hc with rfl | rfl
    · exact .cons (by decide) rest
    · exact .cons (by decide) rest
  rw [fieldChars, List.length_append, List.length_cons] at hfuel
  have hread := h.1 fuel (c :: rest) (by omega) hends
  have htext : fieldChars p ++ c :: rest =
      '"' :: (p.1.toList.flatMap escapeChar ++ '"' :: ':' :: (chars p.2 ++ c :: rest)) := by
    simp [fieldChars, toList_quote]
  have hstarts : Starts (chars p.2 ++ c :: rest) := h.2.append _
  rw [htext, fields?]
  dsimp only
  rw [string?_quoted]
  show (value? fuel depth (skipBlanks _)).bind _ = _
  rw [hstarts.skipBlanks_eq, hread]
  rcases hc with rfl | rfl
  · rfl
  · rfl

theorem starts_fieldChars (p : String × Json) : Starts (fieldChars p) := by
  rw [fieldChars, toList_quote]
  exact starts_cons (by decide) _

/-- The fields of a record are read one after the other. -/
theorem fields?_chars {p : String × Json} {ps : List (String × Json)}
    (h : ∀ q ∈ p :: ps, Reads depth q.2 ∧ Starts (chars q.2)) (acc : List (String × Json))
    (rest : List Char) (hfuel : ([','].intercalate ((p :: ps).map fieldChars)).length < fuel) :
    fields? fuel depth acc ([','].intercalate ((p :: ps).map fieldChars) ++ '\x7d' :: rest) =
      some (acc.reverse ++ p :: ps, rest) := by
  obtain ⟨fuel, rfl⟩ : ∃ k, fuel = k + 1 := ⟨fuel - 1, by omega⟩
  induction ps generalizing p fuel acc with
  | nil =>
    rw [List.map_cons, List.map_nil, List.intercalate_singleton] at hfuel ⊢
    rw [fields?_fieldChars (h p List.mem_cons_self) (.inr rfl) acc rest (by omega), if_pos rfl,
      List.reverse_cons]
  | cons q qs ih =>
    have hlater : ∀ r ∈ q :: qs, Reads depth r.2 ∧ Starts (chars r.2) :=
      fun r hr => h r (List.mem_cons_of_mem _ hr)
    have hstarts : Starts ([','].intercalate ((q :: qs).map fieldChars) ++ '\x7d' :: rest) :=
      ((starts_fieldChars q).intercalate _).append _
    rw [List.map_cons, List.map_cons, List.intercalate_cons_cons, ← List.map_cons,
      List.append_assoc, List.length_append, List.singleton_append, List.length_cons] at hfuel
    have hlength : (fieldChars p).length ≤ fuel := by omega
    have hstep := fields?_fieldChars (h p List.mem_cons_self) (.inl rfl) acc
      ([','].intercalate ((q :: qs).map fieldChars) ++ '\x7d' :: rest) hlength
    obtain ⟨fuel, rfl⟩ : ∃ k, fuel = k + 1 := ⟨fuel - 1, by omega⟩
    have hfields := ih hlater (p :: acc) fuel (by omega)
    rw [List.map_cons, List.map_cons, List.intercalate_cons_cons, ← List.map_cons,
      List.append_assoc, List.append_assoc, List.singleton_append, hstep, if_neg (by decide),
      hstarts.skipBlanks_eq, hfields, List.reverse_cons, List.append_assoc]
    rfl

/-- A word is taken off the front of a text. -/
theorem word?_append (w : String) (rest : List Char) : word? w (w.toList ++ rest) = some rest := by
  have hprefix : w.toList.isPrefixOf (w.toList ++ rest) = true :=
    List.isPrefixOf_iff_prefix.2 (List.prefix_append _ _)
  rw [word?, if_pos hprefix, ← String.length_toList, List.drop_left]

/-- A value is read from its text. -/
theorem Exact.reads {x : Json} (h : Exact depth x) : Reads depth x := by
  induction h with
  | @null depth =>
    refine reads_of_succ (Exact.null : Exact depth .null).starts fun fuel rest _ _ => ?_
    show (word? "null" (chars .null ++ rest)).map _ = _
    rw [chars, render, word?_append]
    rfl
  | @bool depth b =>
    refine reads_of_succ (Exact.bool b : Exact depth _).starts fun fuel rest _ _ => ?_
    cases b with
    | true =>
      show (word? "true" (chars (.bool true) ++ rest)).map _ = _
      rw [chars, render, if_pos rfl, word?_append]
      rfl
    | false =>
      show (word? "false" (chars (.bool false) ++ rest)).map _ = _
      rw [chars, render, if_neg (by decide), word?_append]
      rfl
  | @integer depth i hi =>
    refine reads_of_succ (Exact.integer hi : Exact depth _).starts fun fuel rest _ hends => ?_
    obtain ⟨c, r, hcs, hc⟩ := exists_signed (decide (i < 0)) i.natAbs
    have hchars : (toString i).toList = c :: r := by rw [toList_toString, hcs]
    have hnumber := number?_toString hi hends
    rw [chars, render, hchars, List.cons_append, value?_of_isDigit hc]
    rwa [hchars, List.cons_append] at hnumber
  | @text depth s =>
    refine reads_of_succ (Exact.text s : Exact depth _).starts fun fuel rest _ _ => ?_
    have hchars : chars (.text s) ++ rest =
        '"' :: (s.toList.flatMap escapeChar ++ '"' :: rest) := by
      simp [chars, render, toList_quote]
    rw [hchars, value?]
    dsimp only
    rw [string?_quoted]
    rfl
  | @list depth xs hxs ih =>
    refine reads_of_succ (Exact.list hxs).starts fun fuel rest hfuel hends => ?_
    rw [chars_list] at hfuel ⊢
    cases xs with
    | nil => rfl
    | cons x xs =>
      have hitems : ∀ y ∈ x :: xs, Reads depth y ∧ Starts (chars y) :=
        fun y hy => ⟨ih y hy, (hxs y hy).starts⟩
      have hstarts : Starts ([','].intercalate ((x :: xs).map chars) ++ ']' :: rest) :=
        ((hitems x List.mem_cons_self).2.intercalate _).append _
      rw [List.length_cons, List.length_append, List.length_singleton] at hfuel
      rw [List.cons_append, List.append_assoc, List.singleton_append, value?_list _ _ hstarts,
        items?_chars hitems [] rest (by omega)]
      rfl
  | @record depth fs hfs ih =>
    refine reads_of_succ (Exact.record hfs).starts fun fuel rest hfuel hends => ?_
    rw [chars_record] at hfuel ⊢
    cases fs with
    | nil => rfl
    | cons p ps =>
      have hfields : ∀ q ∈ p :: ps, Reads depth q.2 ∧ Starts (chars q.2) :=
        fun q hq => ⟨ih q hq, (hfs q hq).starts⟩
      have hstarts : Starts ([','].intercalate ((p :: ps).map fieldChars) ++ '\x7d' :: rest) :=
        ((starts_fieldChars p).intercalate _).append _
      rw [List.length_cons, List.length_append, List.length_singleton] at hfuel
      rw [List.cons_append, List.append_assoc, List.singleton_append, value?_record _ _ hstarts,
        fields?_chars hfields [] rest (by omega)]
      rfl

/-- **A value is read from its text as what it is**, if all its numbers are integers of at most 64
bits and no more than 127 lists and records lie in one another. -/
theorem read?_render {x : Json} (h : Exact 127 x) : read? (render x) = some x := by
  have hread := h.reads ((chars x).length + 1) [] (by omega) .nil
  rw [List.append_nil] at hread
  show (value? ((chars x).length + 1) 127 (skipBlanks (chars x))).bind _ = _
  rw [h.starts.skipBlanks_eq, hread]
  rfl

end GraphLayer.Json
