/-!
# White space and lines

* `isBlank`, the white space of the Unicode standard;
* `trim`, a text without blanks at either end;
* `splitOnce?` and `splitLast?`, the two sides of the first and of the last occurrence of a
  separator;
* `lines`, the lines of a text, whose ends are a line feed with or without a carriage return.
-/

namespace GraphLayer.Text

/-- The characters with the property `White_Space`. -/
def isBlank (c : Char) : Bool :=
  let n := c.toNat
  (9 ≤ n && n ≤ 13) || n == 0x20 || n == 0x85 || n == 0xA0 || n == 0x1680 ||
    (0x2000 ≤ n && n ≤ 0x200A) || n == 0x2028 || n == 0x2029 || n == 0x202F || n == 0x205F ||
    n == 0x3000

/-- Drop blanks at the end. -/
def trimRight (cs : List Char) : List Char := (cs.reverse.dropWhile isBlank).reverse

/-- Drop blanks at both ends. -/
def trimChars (cs : List Char) : List Char := trimRight (cs.dropWhile isBlank)

/-- Drop blanks at both ends. -/
def trim (s : String) : String := String.ofList (trimChars s.toList)

/-- The rest of a text after a start. -/
def stripStart? (start cs : List Char) : Option (List Char) :=
  match start, cs with
  | [], cs => some cs
  | _ :: _, [] => none
  | a :: start, c :: cs => if a = c then stripStart? start cs else none

/-- The rest of a text before an end. -/
def stripEnd? (ending cs : List Char) : Option (List Char) :=
  (stripStart? ending.reverse cs.reverse).map List.reverse

/-- What stands before and after the first occurrence of a separator. -/
def splitOnce? (separator : List Char) : List Char → Option (List Char × List Char)
  | [] => if separator.isEmpty then some ([], []) else none
  | c :: cs =>
    match stripStart? separator (c :: cs) with
    | some rest => some ([], rest)
    | none => (splitOnce? separator cs).map fun (before, after) => (c :: before, after)

/-- What stands before and after the last occurrence of a separator. -/
def splitLast? (separator cs : List Char) : Option (List Char × List Char) :=
  (splitOnce? separator.reverse cs.reverse).map fun (after, before) =>
    (before.reverse, after.reverse)

/-- Cut a text at every line feed. -/
def splitLines : List Char → List (List Char)
  | [] => [[]]
  | c :: cs =>
    match splitLines cs with
    | [] => [[c]]
    | l :: ls => if c = '\n' then [] :: l :: ls else (c :: l) :: ls

/-- A line that a line feed ends, without the carriage return before it. -/
def dropReturn (l : List Char) : List Char :=
  match l.reverse with
  | '\r' :: r => r.reverse
  | _ => l

/-- The lines of a text; the last one may lack its end, and an empty last line does not
count. -/
def lines (cs : List Char) : List (List Char) :=
  match (splitLines cs).reverse with
  | [] => []
  | last :: before =>
    (before.map dropReturn).reverse ++ (if last.isEmpty then [] else [last])

/-! ### Lengths -/

theorem length_trimChars_le (cs : List Char) : (trimChars cs).length ≤ cs.length := by
  unfold trimChars trimRight
  rw [List.length_reverse]
  refine Nat.le_trans (List.dropWhile_suffix _).length_le ?_
  rw [List.length_reverse]
  exact (List.dropWhile_suffix _).length_le

theorem length_of_stripStart? {start cs rest : List Char}
    (h : stripStart? start cs = some rest) : cs.length = start.length + rest.length := by
  induction start generalizing cs with
  | nil => simp [stripStart?] at h; simp [h]
  | cons a start ih =>
    cases cs with
    | nil => simp [stripStart?] at h
    | cons c cs =>
      simp only [stripStart?] at h
      split at h
      · simp [ih h]; omega
      · simp at h

theorem length_of_stripEnd? {ending cs rest : List Char}
    (h : stripEnd? ending cs = some rest) : cs.length = ending.length + rest.length := by
  unfold stripEnd? at h
  obtain ⟨r, hr, rfl⟩ := Option.map_eq_some_iff.1 h
  have := length_of_stripStart? hr
  simpa using this

theorem length_of_splitOnce? {separator cs before after : List Char}
    (h : splitOnce? separator cs = some (before, after)) :
    cs.length = before.length + separator.length + after.length := by
  induction cs generalizing before with
  | nil =>
    unfold splitOnce? at h
    split at h
    · simp_all
    · simp at h
  | cons c cs ih =>
    unfold splitOnce? at h
    split at h
    · rename_i rest hr
      obtain ⟨rfl, rfl⟩ := Prod.mk.inj (Option.some.inj h)
      simpa using length_of_stripStart? hr
    · obtain ⟨⟨b, a⟩, hs, he⟩ := Option.map_eq_some_iff.1 h
      obtain ⟨rfl, rfl⟩ := Prod.mk.inj he
      simp [ih hs]; omega

end GraphLayer.Text
