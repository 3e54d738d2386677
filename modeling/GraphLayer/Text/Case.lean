import GraphLayer.Text.CaseTable

/-!
# Upper and lower case

* `upperChars` and `lowerChars`, the full case mappings of the Unicode standard, which may
  change the number of characters;
* a sigma at the end of a word has a lower case of its own.

ASCII letters are mapped by arithmetic, all others by the tables of `CaseTable`.
-/

namespace GraphLayer.Text

/-- Whether a number lies in one of some ranges. -/
def inRanges (ranges : List (Nat × Nat)) (n : Nat) : Bool :=
  ranges.any fun (first, last) => first ≤ n && n ≤ last

/-- The image of a number under the runs of a table. -/
def CaseRun.image? (runs : List CaseRun) (n : Nat) : Option Nat :=
  (runs.find? fun r => r.first ≤ n && n ≤ r.last && (n - r.first) % r.step == 0).map fun r =>
    ((n : Int) + r.shift).toNat

/-- The upper case of a character. -/
def upperOf (c : Char) : List Char :=
  if c.toNat < 128 then [c.toUpper]
  else
    match upperSpecial.find? fun p => p.1 == c.toNat with
    | some (_, image) => image.map Char.ofNat
    | none => [((CaseRun.image? upperRuns c.toNat).map Char.ofNat).getD c]

/-- The lower case of a character that is not at the end of a word. -/
def lowerOf (c : Char) : List Char :=
  if c.toNat < 128 then [c.toLower]
  else if c.toNat = 0x130 then ['i', Char.ofNat 0x307]
  else [((CaseRun.image? lowerRuns c.toNat).map Char.ofNat).getD c]

/-- Letters with a case. -/
def isCased (c : Char) : Bool :=
  if c.toNat < 128 then c.isAlpha else inRanges casedRanges c.toNat

/-- Characters that are skipped in the search for a neighbouring letter. -/
def isCaseIgnorable (c : Char) : Bool :=
  if c.toNat < 128 then ['\'', '.', ':', '^', '\x60'].contains c
  else inRanges caseIgnorableRanges c.toNat

/-- Whether the first character that counts is a letter with a case. -/
def meetsCased (cs : List Char) : Bool :=
  match cs.dropWhile isCaseIgnorable with
  | [] => false
  | c :: _ => isCased c

/-- The lower case of a text whose characters before it are given in reverse. -/
def lowerAfter (before : List Char) : List Char → List Char
  | [] => []
  | c :: cs =>
    (if c.toNat = 0x3A3 then
      [Char.ofNat (if meetsCased before && !meetsCased cs then 0x3C2 else 0x3C3)]
     else lowerOf c) ++ lowerAfter (c :: before) cs

/-- The upper case of a text. -/
def upperChars (cs : List Char) : List Char := cs.flatMap upperOf

/-- The lower case of a text. -/
def lowerChars (cs : List Char) : List Char := lowerAfter [] cs

/-- The upper case of a text. -/
def upper (s : String) : String := String.ofList (upperChars s.toList)

end GraphLayer.Text
