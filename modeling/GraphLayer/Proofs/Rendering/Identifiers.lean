import GraphLayer.Proofs.Code.Tokens
import GraphLayer.Proofs.Text.Snake
import GraphLayer.Rendering.Names

/-!
# Identifiers for names

* `Code.IsIdentifier`, the words that may be names in code: words that are no keywords, and keywords
  that are marked as raw;
* `identifier_cases`, what becomes of a name, and `identifier_ne_ctx`: never the name of the context;
* `isIdentifier_iff_isPlainWord`: escaping takes care of the keywords, so that only the snake case
  of a name has to be a word;
* `isIdentifier_identifier_iff`: the names for which it is one.
-/

namespace GraphLayer

/-! ### Words of code -/

namespace Code

/-- Words within ASCII that begin with a letter, or with an underscore and something after it. -/
def isPlainWord : List Char → Bool
  | [] => false
  | c :: cs => (c.isAlpha || (c == '_' && !cs.isEmpty)) && cs.all isWordChar

/-- Words that have a use everywhere in code. -/
def strictKeywords : List String :=
  ["Self", "as", "async", "await", "break", "const", "continue", "crate", "dyn", "else", "enum",
   "extern", "false", "fn", "for", "if", "impl", "in", "let", "loop", "match", "mod", "move",
   "mut", "pub", "ref", "return", "self", "static", "struct", "super", "trait", "true", "type",
   "unsafe", "use", "where", "while"]

/-- Words that are kept for a use in time to come. -/
def futureKeywords : List String :=
  ["abstract", "become", "box", "do", "final", "gen", "macro", "override", "priv", "try",
   "typeof", "unsized", "virtual", "yield"]

/-- Words that have a use in some places and are names in all others. -/
def weakKeywords : List String := ["macro_rules", "raw", "safe", "union"]

/-- Keywords that keep their use whatever mark they bear. -/
def unmarkable : List String := ["Self", "crate", "self", "super"]

/-- A text that may be a name in code: a word that is not a keyword, or the mark of raw words with
a keyword that may bear it. -/
def IsIdentifier (s : String) : Prop :=
  (isPlainWord s.toList = true ∧ s ∉ strictKeywords ++ futureKeywords) ∨
    ∃ word, s = "r#" ++ word ∧ word ∈ strictKeywords ++ futureKeywords ++ weakKeywords ∧
      word ∉ unmarkable

end Code

namespace Rendering

open Code
open Schema (isName continuesName continuesName_of_isName)

variable {name : String}

/-! ### Escaping -/

/-- What the identifier for a name is. -/
theorem identifier_cases (name : String) :
    (Text.snakeCase name ∈ reserved ∧ identifier name = Text.snakeCase name ++ "_") ∨
    (Text.snakeCase name ∈ keywords ∧ identifier name = "r#" ++ Text.snakeCase name) ∨
    ((Text.snakeCase name ∉ reserved ∧ Text.snakeCase name ∉ keywords) ∧
      identifier name = Text.snakeCase name) := by
  unfold identifier
  dsimp only
  by_cases hreserved : Text.snakeCase name ∈ reserved
  · rw [if_pos hreserved]
    exact .inl ⟨hreserved, rfl⟩
  · by_cases hkeyword : Text.snakeCase name ∈ keywords
    · rw [if_neg hreserved, if_pos hkeyword]
      exact .inr (.inl ⟨hkeyword, rfl⟩)
    · rw [if_neg hreserved, if_neg hkeyword]
      exact .inr (.inr ⟨⟨hreserved, hkeyword⟩, rfl⟩)

theorem identifier_of_not_mem (hreserved : Text.snakeCase name ∉ reserved)
    (hkeywords : Text.snakeCase name ∉ keywords) : identifier name = Text.snakeCase name := by
  rw [identifier, if_neg hreserved, if_neg hkeywords]

/-- A raw word begins with its mark. -/
theorem raw_ne {word other : String} (h : other.toList.head? ≠ some 'r') :
    "r#" ++ word ≠ other := by
  rintro rfl
  simp at h

/-- No identifier is the name of the context. -/
theorem identifier_ne_ctx (name : String) : identifier name ≠ "ctx" := by
  rcases identifier_cases name with ⟨hword, heq⟩ | ⟨-, heq⟩ | ⟨⟨hreserved, -⟩, heq⟩
  · have hall : ∀ w ∈ reserved, w ++ "_" ≠ "ctx" := by decide
    rw [heq]
    exact hall _ hword
  · rw [heq]
    exact raw_ne (by decide)
  · -- a word that is this name is reserved
    intro h
    rw [← heq, h] at hreserved
    exact hreserved (by decide)

section Names

variable (hname : isName name.toList = true)

include hname

/-- A name in snake case is not marked as raw. -/
theorem snakeCase_ne_raw (word : String) : Text.snakeCase name ≠ "r#" ++ word := by
  intro h
  have hmark := Text.continuesName_of_mem_snakeCase (continuesName_of_isName hname) (c := '#')
    (by simp [h])
  exact absurd hmark (by decide)

/-- A name in snake case is a word exactly if the name begins with a letter after its
underscores. -/
theorem isPlainWord_snakeCase_iff :
    isPlainWord (Text.snakeCase name).toList = true ↔
      ∃ c, name.toList.find? (· != '_') = some c ∧ c.isAlpha = true := by
  have hcontinues := continuesName_of_isName hname
  have hhead := Text.head?_snakeCase hcontinues
  cases hword : (Text.snakeCase name).toList with
  | nil =>
    rw [hword] at hhead
    constructor
    · nofun
    · rintro ⟨c, hfirst, -⟩
      rw [hfirst] at hhead
      cases hhead
  | cons c cs =>
    rw [hword] at hhead
    obtain ⟨a, hfirst, rfl⟩ := Option.map_eq_some_iff.1 hhead.symm
    have hrest : cs.all isWordChar = true := by
      rw [List.all_eq_true]
      intro b hb
      exact Text.continuesName_of_mem_snakeCase hcontinues (hword ▸ List.mem_cons_of_mem _ hb)
    -- of the first character only a letter counts, as underscores do not begin the snake case
    have hletter : ((a.toLower.isAlpha || (a.toLower == '_' && !cs.isEmpty)) = true) ↔
        a.isAlpha = true := by
      have hname := hcontinues a (List.mem_of_find?_eq_some hfirst)
      have halpha : a.toLower.isAlpha = a.isAlpha :=
        Schema.forall_continuesName (P := fun c => c.toLower.isAlpha = c.isAlpha) (by decide) hname
      have hunderscore : a.toLower ≠ '_' := by
        intro hlower
        obtain rfl := Text.eq_underscore_of_toLower hname hlower
        cases List.find?_some hfirst
      simp [halpha, hunderscore]
    rw [isPlainWord, hrest, Bool.and_true, hletter]
    constructor
    · intro h
      exact ⟨a, hfirst, h⟩
    · rintro ⟨b, hb, h⟩
      rwa [Option.some.inj (hfirst.symm.trans hb)]

/-- Keywords are reserved or marked as raw, so that the identifier for a name is one exactly if its
snake case is a word. -/
theorem isIdentifier_iff_isPlainWord :
    IsIdentifier (identifier name) ↔ isPlainWord (Text.snakeCase name).toList = true := by
  rcases identifier_cases name with ⟨hword, heq⟩ | ⟨hword, heq⟩ | ⟨⟨hreserved, hkeywords⟩, heq⟩
  · have hall : ∀ w ∈ reserved, isPlainWord w.toList = true ∧
        isPlainWord (w ++ "_").toList = true ∧ w ++ "_" ∉ strictKeywords ++ futureKeywords := by
      decide
    rw [heq]
    exact iff_of_true (.inl (hall _ hword).2) (hall _ hword).1
  · have hall : ∀ w ∈ keywords, isPlainWord w.toList = true ∧
        w ∈ strictKeywords ++ futureKeywords ++ weakKeywords ∧ w ∉ unmarkable := by
      decide +kernel
    rw [heq]
    exact iff_of_true (.inr ⟨_, rfl, (hall _ hword).2⟩) (hall _ hword).1
  · rw [heq]
    constructor
    · rintro (⟨hplain, -⟩ | ⟨word, hraw, -⟩)
      · exact hplain
      · exact absurd hraw (snakeCase_ne_raw hname word)
    · intro hplain
      refine .inl ⟨hplain, fun hmem => ?_⟩
      have hall : ∀ w ∈ strictKeywords ++ futureKeywords,
          'S' ∈ w.toList ∨ w ∈ reserved ∨ w ∈ keywords := by
        decide +kernel
      rcases hall _ hmem with hcapital | h | h
      · exact absurd (Text.isUpper_of_mem_snakeCase hcapital) (by decide)
      · exact hreserved h
      · exact hkeywords h

end Names

/-! ### The main theorem -/

/-- **Which names have identifiers.**  What stands for a name in code is an identifier exactly if
the name begins with a letter after its underscores.  These get lost in snake case, so that a digit
after them comes first, and that nothing is left of a name without anything after them.  Whatever
the name, it is not the name of the context. -/
theorem isIdentifier_identifier_iff (hname : isName name.toList = true) :
    (IsIdentifier (identifier name) ↔
      ∃ c, name.toList.find? (· != '_') = some c ∧ c.isAlpha = true) ∧
    identifier name ≠ "ctx" :=
  ⟨(isIdentifier_iff_isPlainWord hname).trans (isPlainWord_snakeCase_iff hname),
    identifier_ne_ctx name⟩

/-- A keyword with underscores before it is marked as raw. -/
theorem isIdentifier_identifier_type :
    isName "__Type".toList = true ∧ IsIdentifier (identifier "__Type") ∧
      identifier "__Type" = "r#type" ∧ identifier "__Type" ≠ "ctx" := by
  have hname : isName "__Type".toList = true := by decide
  obtain ⟨hiff, hcontext⟩ := isIdentifier_identifier_iff hname
  exact ⟨hname, hiff.2 ⟨'T', by decide, by decide⟩, by decide +kernel, hcontext⟩

/-- Names of a digit or of nothing after their underscores are names of schemas, but have no
identifiers. -/
theorem not_isIdentifier_identifier :
    (isName "_1".toList = true ∧ identifier "_1" = "1" ∧ ¬ IsIdentifier (identifier "_1")) ∧
    isName "_".toList = true ∧ identifier "_" = "" ∧ ¬ IsIdentifier (identifier "_") := by
  have hdigit : isName "_1".toList = true := by decide
  have hnothing : isName "_".toList = true := by decide
  rw [isIdentifier_iff_isPlainWord hdigit, isIdentifier_iff_isPlainWord hnothing]
  exact ⟨⟨hdigit, by decide +kernel, by decide +kernel⟩, hnothing, by decide +kernel,
    by decide +kernel⟩

end Rendering

end GraphLayer
