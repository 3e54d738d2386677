import GraphLayer.Text.Case
import GraphLayer.Text.ClusterTable

/-!
# User-perceived characters

* `clusters`, a text cut into extended grapheme clusters by the rules of the Unicode standard.
-/

namespace GraphLayer.Text

/-- The classes of characters on which the rules rest. -/
inductive BreakClass where
  | other
  | carriageReturn
  | lineFeed
  | control
  | extend
  | joiner
  | regional
  | prepend
  | spacingMark
  | leading
  | vowel
  | trailing
  /-- A syllable that ends with its vowel. -/
  | openSyllable
  /-- A syllable that ends with a consonant. -/
  | closedSyllable
  deriving DecidableEq, Repr

/-- The class of a character. -/
def breakClass (c : Char) : BreakClass :=
  let n := c.toNat
  if n = 13 then .carriageReturn
  else if n = 10 then .lineFeed
  else if n < 32 ∨ n = 127 then .control
  else if n < 127 then .other
  else if 0xAC00 ≤ n ∧ n ≤ 0xD7A3 then
    if (n - 0xAC00) % 28 = 0 then .openSyllable else .closedSyllable
  else if n = 0x200D then .joiner
  else if 0x1F1E6 ≤ n ∧ n ≤ 0x1F1FF then .regional
  else if inRanges controlRanges n then .control
  else if inRanges extendRanges n then .extend
  else if inRanges prependRanges n then .prepend
  else if inRanges spacingMarkRanges n then .spacingMark
  else if inRanges leadingJamoRanges n then .leading
  else if inRanges vowelJamoRanges n then .vowel
  else if inRanges trailingJamoRanges n then .trailing
  else .other

/-- Characters that begin an emoji sequence. -/
def isPictographic (c : Char) : Bool := 127 < c.toNat && inRanges pictographicRanges c.toNat

/-- What the characters so far say about the place before the next one. -/
structure BreakState where
  last : BreakClass
  /-- The characters so far end with an odd number of regional indicators. -/
  oddRegional : Bool
  /-- They end with a pictograph and extending characters. -/
  pictograph : Bool
  /-- They end with a pictograph, extending characters and a joiner. -/
  joined : Bool
  /-- They end with a consonant and signs that may stand inside a conjunct. -/
  consonant : Bool
  /-- One of these signs is a linker. -/
  linked : Bool

/-- The state after a character that follows a state. -/
def BreakState.next (before : Option BreakState) (c : Char) : BreakState :=
  let cls := breakClass c
  let n := c.toNat
  let consonant := 127 < n && inRanges conjunctConsonantRanges n
  let linker := 127 < n && inRanges conjunctLinkerRanges n
  let inside := linker || (127 < n && inRanges conjunctExtendRanges n)
  let was (f : BreakState → Bool) : Bool := (before.map f).getD false
  { last := cls
    oddRegional := cls == .regional && !was (·.oddRegional)
    pictograph := isPictographic c || (cls == .extend && was (·.pictograph))
    joined := cls == .joiner && was (·.pictograph)
    consonant := consonant || (inside && was (·.consonant))
    linked := !consonant && inside && was (·.consonant) && (linker || was (·.linked)) }

/-- Whether a character belongs to the cluster of those before it. -/
def BreakState.joins (s : BreakState) (c : Char) : Bool :=
  let cls := breakClass c
  match s.last, cls with
  | .carriageReturn, .lineFeed => true
  | .carriageReturn, _ => false
  | .lineFeed, _ => false
  | .control, _ => false
  | _, .carriageReturn => false
  | _, .lineFeed => false
  | _, .control => false
  | .leading, .leading => true
  | .leading, .vowel => true
  | .leading, .openSyllable => true
  | .leading, .closedSyllable => true
  | .openSyllable, .vowel => true
  | .openSyllable, .trailing => true
  | .vowel, .vowel => true
  | .vowel, .trailing => true
  | .closedSyllable, .trailing => true
  | .trailing, .trailing => true
  | _, .extend => true
  | _, .joiner => true
  | _, .spacingMark => true
  | .prepend, _ => true
  | .regional, .regional => s.oddRegional
  | _, _ =>
    (s.joined && isPictographic c) ||
      (s.linked && 127 < c.toNat && inRanges conjunctConsonantRanges c.toNat)

/-- The clusters of a text whose open cluster is given in reverse. -/
def clustersFrom (s : BreakState) (current : List Char) : List Char → List (List Char)
  | [] => [current.reverse]
  | c :: cs =>
    if s.joins c then clustersFrom (.next (some s) c) (c :: current) cs
    else current.reverse :: clustersFrom (.next (some s) c) [c] cs

/-- A text cut into clusters. -/
def clusters : List Char → List (List Char)
  | [] => []
  | c :: cs => clustersFrom (.next none c) [c] cs

end GraphLayer.Text
