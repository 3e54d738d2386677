import GraphLayer.Text.Cluster

/-!
# Words of a name

* `words`, a name cut at separators and at changes of case and between letters and digits;
* `snakeCase`, `pascalCase` and `camelCase`, the words of a name joined in the three styles.
-/

namespace GraphLayer.Text

/-- A cluster in upper case that has a lower case. -/
def isUpper (g : List Char) : Bool := upperChars g != lowerChars g && g == upperChars g

/-- A cluster in lower case that has an upper case. -/
def isLower (g : List Char) : Bool := upperChars g != lowerChars g && g == lowerChars g

/-- A decimal digit. -/
def isDigit (g : List Char) : Bool := g.all Char.isDigit

/-- Underscores, hyphens and spaces stand between words. -/
def isSeparator (g : List Char) : Bool := g == ['_'] || g == ['-'] || g == [' ']

/-- Whether a word ends between a cluster and those after it: at a step up in case, at a step
between a letter and a digit, and before the last capital of a run that a small letter
follows. -/
def endsWord (g : List Char) : List (List Char) → Bool
  | [] => false
  | h :: rest =>
    (isLower g && isUpper h) || (isLower g && isDigit h) || (isUpper g && isDigit h) ||
      (isDigit g && isLower h) || (isDigit g && isUpper h) ||
      (isUpper g && isUpper h && (match rest with | [] => false | i :: _ => isLower i))

/-- The words of some clusters after an open word, which is given in reverse. -/
def wordsFrom (current : List (List Char)) : List (List Char) → List (List (List Char))
  | [] => [current.reverse]
  | g :: rest =>
    if isSeparator g then current.reverse :: wordsFrom [] rest
    else if endsWord g rest then (g :: current).reverse :: wordsFrom [] rest
    else wordsFrom (g :: current) rest

/-- The words of a name as lists of clusters; none of them is empty. -/
def words (s : List Char) : List (List (List Char)) :=
  (wordsFrom [] (clusters s)).filter fun w => !w.isEmpty

/-- A word with its first cluster in upper case and the rest in lower case. -/
def capitalized (w : List (List Char)) : List Char :=
  match w with
  | [] => []
  | g :: rest => upperChars g ++ lowerChars rest.flatten

/-- Lower-case words joined by underscores. -/
def snakeChars (s : List Char) : List Char :=
  ((words s).map fun w => lowerChars w.flatten).intersperse ['_'] |>.flatten

/-- Lower-case words joined by underscores. -/
def snakeCase (s : String) : String := String.ofList (snakeChars s.toList)

/-- Capitalized words without a separator. -/
def pascalCase (s : String) : String := String.ofList ((words s.toList).flatMap capitalized)

/-- As `pascalCase`, but with the first word in lower case. -/
def camelCase (s : String) : String :=
  match words s.toList with
  | [] => ""
  | w :: ws => String.ofList (lowerChars w.flatten ++ ws.flatMap capitalized)

end GraphLayer.Text
