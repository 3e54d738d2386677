import GraphLayer.Proofs.Schema.Names
import GraphLayer.Schema.Document

/-!
# The tokens of a schema

* `TypeRef.tokens` to `Document.tokens`, the tokens of types, arguments, fields, definitions and
  schemas;
* `Scans`, a text that is cut into tokens in front of another one, with its rules for blanks, marks,
  names, comments and texts after each other;
* `Document.Named`: all names of a schema are names of the schema language;
* `Document.Named.scan_append_text`: the text of a schema is cut into its tokens.
-/

namespace GraphLayer.Schema

/-! ### Tokens -/

/-- The tokens of a type. -/
def TypeRef.tokens : TypeRef → List Token
  | named name => [.name name]
  | list item => .mark '[' :: item.tokens ++ [.mark ']']
  | nonNull inner => inner.tokens ++ [.mark '!']

/-- The tokens of an argument. -/
def Argument.tokens (a : Argument) : List Token := .name a.name :: .mark ':' :: a.type.tokens

/-- The tokens of some parts between two marks, which are left out if there is none. -/
def enclosedTokens {A : Type} (first last : Char) (tokens : A → List Token) (xs : List A) :
    List Token :=
  if xs.isEmpty then [] else .mark first :: xs.flatMap tokens ++ [.mark last]

/-- The tokens of arguments in parentheses. -/
def argumentsTokens (as : List Argument) : List Token := enclosedTokens '(' ')' Argument.tokens as

/-- The tokens of a field. -/
def FieldDef.tokens (f : FieldDef) : List Token :=
  .name f.name :: argumentsTokens f.arguments ++ .mark ':' :: f.type.tokens

/-- The tokens of the fields of an object. -/
def fieldsTokens (fs : List FieldDef) : List Token :=
  enclosedTokens '\x7b' '\x7d' FieldDef.tokens fs

/-- The tokens of a definition. -/
def Definition.tokens : Definition → List Token
  | scalar name => [.name "scalar", .name name]
  | object name fields => .name "type" :: .name name :: fieldsTokens fields
  | extension name fields => .name "extend" :: .name "type" :: .name name :: fieldsTokens fields
  | other => []

/-- The tokens of a schema. -/
def Document.tokens (d : Document) : List Token := d.flatMap Definition.tokens

/-! ### Names -/

/-- The name at the leaf is one of the schema language. -/
def TypeRef.Named : TypeRef → Prop
  | named name => isName name.toList = true
  | list item => item.Named
  | nonNull inner => inner.Named

/-- The names of an argument are names of the schema language. -/
structure Argument.Named (a : Argument) : Prop where
  name : isName a.name.toList = true
  type : a.type.Named

/-- The names of a field are names of the schema language. -/
structure FieldDef.Named (f : FieldDef) : Prop where
  name : isName f.name.toList = true
  arguments : ∀ a ∈ f.arguments, a.Named
  type : f.type.Named

/-- The names of a definition are names of the schema language. -/
def Definition.Named : Definition → Prop
  | scalar name => isName name.toList = true
  | object name fields => isName name.toList = true ∧ ∀ f ∈ fields, f.Named
  | extension name fields => isName name.toList = true ∧ ∀ f ∈ fields, f.Named
  | other => True

/-- The names of a schema are names of the schema language. -/
def Document.Named (d : Document) : Prop := ∀ x ∈ d, Definition.Named x

/-! ### Scanning -/

/-- A text in front of another one is cut into some tokens, to which the rest adds its own. -/
def Scans (cs : List Char) (ts : List Token) (rest : List Char) : Prop :=
  scanFrom .between (cs ++ rest) = (scanFrom .between rest).map (ts ++ ·)

/-- What comes next does not go on with a name. -/
def Stops (cs : List Char) : Prop := ∀ c, cs.head? = some c → continuesName c = false

theorem Stops.cons {c : Char} (h : continuesName c = false) (cs : List Char) : Stops (c :: cs) := by
  intro c' hc
  obtain rfl := Option.some.inj hc
  exact h

namespace Scans

variable {a b rest : List Char} {s t : List Token}

theorem nil (rest : List Char) : Scans [] [] rest := by
  simp [Scans]

/-- One text after the other gives the tokens of both. -/
theorem append (ha : Scans a s (b ++ rest)) (hb : Scans b t rest) :
    Scans (a ++ b) (s ++ t) rest := by
  unfold Scans at ha hb ⊢
  rw [List.append_assoc, ha, hb, Option.map_map]
  exact congrFun (congrArg Option.map (funext fun ts => (List.append_assoc s t ts).symm)) _

theorem of_step {c : Char} {ts : List Token} (h : step .between c = some (ts, .between)) :
    Scans [c] ts rest := by
  show scanFrom .between (c :: rest) = _
  rw [scanFrom, h]

theorem blank {c : Char} (h : isBlank c = true) : Scans [c] [] rest :=
  of_step (by simp [step, start, h])

theorem mark {c : Char} (hb : isBlank c = false) (hc : c ≠ '#') (h : isMark c = true) :
    Scans [c] [.mark c] rest :=
  of_step (by simp [step, start, h, hb, hc])

/-- A name is cut off where it does not go on. -/
theorem name {n : String} (hn : isName n.toList = true) (hr : Stops rest) :
    Scans n.toList [.name n] rest := by
  -- the characters of the name pile up, and what comes next ends it
  have hread (read cs : List Char) (hcs : ∀ c ∈ cs, continuesName c = true) :
      scanFrom (.name read) (cs ++ rest) = scanFrom (.name (cs.reverse ++ read)) rest := by
    induction cs generalizing read with
    | nil => rfl
    | cons c cs ih =>
      have hc : continuesName c = true := hcs c List.mem_cons_self
      rw [List.cons_append, scanFrom]
      simp [step, hc, ih (c :: read) fun a ha => hcs a (List.mem_cons_of_mem _ ha)]
  have hend (read : List Char) : scanFrom (.name read) rest =
      (scanFrom .between rest).map ([.name (String.ofList read.reverse)] ++ ·) := by
    cases rest with
    | nil => simp [scanFrom, finish]
    | cons c cs =>
      have hc : continuesName c = false := hr c rfl
      simp only [scanFrom, step, hc, Bool.false_eq_true, if_false, resume]
      cases start c with
      | none => rfl
      | some p => simp [Option.map_map, Function.comp_def]
  have hall := continuesName_of_isName hn
  unfold Scans
  cases hcs : n.toList with
  | nil =>
    rw [hcs] at hn
    cases hn
  | cons c cs =>
    rw [hcs] at hn hall
    have hstart : startsName c = true := by
      simp only [isName, Bool.and_eq_true] at hn
      exact hn.1
    have hother : isBlank c = false ∧ c ≠ '#' ∧ isMark c = false :=
      forall_continuesName (P := fun c => isBlank c = false ∧ c ≠ '#' ∧ isMark c = false)
        (by decide) (hall c List.mem_cons_self)
    have hfirst : step .between c = some ([], .name [c]) := by
      simp [step, start, hother.1, hother.2.1, hother.2.2, hstart]
    have hname : String.ofList (cs.reverse ++ [c]).reverse = n := by
      rw [List.reverse_append, List.reverse_reverse, List.reverse_singleton, List.singleton_append,
        ← hcs, String.ofList_toList]
    rw [List.cons_append, scanFrom, hfirst]
    simp only [hread [c] cs fun a ha => hall a (List.mem_cons_of_mem _ ha), hend, hname]
    rw [Option.map_map]
    rfl

/-- A comment up to the end of its line gives no tokens. -/
theorem comment {cs : List Char} (hn : '\n' ∉ cs) (hr : '\r' ∉ cs) :
    Scans ('#' :: cs ++ ['\n']) [] rest := by
  have hread : scanFrom .comment (cs ++ '\n' :: rest) = scanFrom .between rest := by
    induction cs with
    | nil => simp [scanFrom, step]
    | cons c cs ih =>
      rw [List.mem_cons, not_or] at hn hr
      rw [List.cons_append, scanFrom]
      simp [step, Ne.symm hn.1, Ne.symm hr.1, ih hn.2 hr.2]
  have hfirst : step .between '#' = some ([], .comment) := by decide
  unfold Scans
  rw [List.append_assoc, List.singleton_append, List.cons_append, scanFrom, hfirst]
  simp only [hread]

section Lists

variable {A : Type} {f : A → List Char} {g : A → List Token} {xs : List A}

theorem flatMap (h : ∀ x ∈ xs, ∀ rest, Scans (f x) (g x) rest) :
    Scans (xs.flatMap f) (xs.flatMap g) rest := by
  induction xs with
  | nil => exact .nil rest
  | cons x xs ih =>
    rw [List.flatMap_cons, List.flatMap_cons]
    exact .append (h x List.mem_cons_self _) (ih fun y hy => h y (List.mem_cons_of_mem _ hy))

/-- A separator without tokens stands between texts that it does not go on with. -/
theorem intercalate {sep : List Char} (hsep : ∀ rest, Scans sep [] rest)
    (hstops : ∀ rest, Stops (sep ++ rest))
    (h : ∀ x ∈ xs, ∀ rest, Stops rest → Scans (f x) (g x) rest) (hr : Stops rest) :
    Scans (sep.intercalate (xs.map f)) (xs.flatMap g) rest := by
  induction xs with
  | nil => exact .nil rest
  | cons x xs ih =>
    have hx := h x List.mem_cons_self
    have ih := ih fun y hy => h y (List.mem_cons_of_mem _ hy)
    cases xs with
    | nil =>
      simpa [List.intercalate] using hx rest hr
    | cons y ys =>
      rw [List.map_cons, List.map_cons, List.intercalate_cons_cons, List.flatMap_cons,
        List.append_assoc]
      refine .append (hx _ ?_) (.append (s := []) (hsep _) ih)
      rw [List.append_assoc]
      exact hstops _

end Lists

end Scans

/-! ### Types, arguments and fields -/

variable {rest : List Char}

theorem TypeRef.Named.scans {t : TypeRef} (h : t.Named) (hr : Stops rest) :
    Scans t.text.toList t.tokens rest := by
  induction t generalizing rest with
  | named name => exact .name h hr
  | list item ih =>
    rw [TypeRef.text, String.toList_append, String.toList_append]
    exact .append (.append (.mark (by decide) (by decide) (by decide))
      (ih h (.cons (by decide) rest))) (.mark (by decide) (by decide) (by decide))
  | nonNull inner ih =>
    rw [TypeRef.text, String.toList_append]
    exact .append (ih h (.cons (by decide) rest)) (.mark (by decide) (by decide) (by decide))

theorem scans_colon (rest : List Char) : Scans [':', ' '] [.mark ':'] rest :=
  .append (a := [':']) (.mark (by decide) (by decide) (by decide)) (.blank (by decide))

theorem Argument.Named.scans {a : Argument} (h : a.Named) (hr : Stops rest) :
    Scans a.text.toList a.tokens rest := by
  rw [Argument.text, String.toList_append, String.toList_append]
  exact .append (.append (.name h.name (.cons (by decide) _)) (scans_colon _)) (h.type.scans hr)

theorem scans_arguments {as : List Argument} (h : ∀ a ∈ as, a.Named) (rest : List Char) :
    Scans (argumentsText as).toList (argumentsTokens as) rest := by
  unfold argumentsText argumentsTokens enclosedTokens
  split
  · exact .nil rest
  · rw [String.toList_append, String.toList_append, String.toList_intercalate, List.map_map]
    refine .append (.append (.mark (by decide) (by decide) (by decide)) ?_)
      (.mark (by decide) (by decide) (by decide))
    exact .intercalate (fun rest => .append (a := [',']) (.blank (by decide)) (.blank (by decide)))
      (fun rest => .cons (by decide) _) (fun a ha rest hr => (h a ha).scans hr)
      (.cons (by decide) rest)

theorem stops_argumentsText (as : List Argument) {cs : List Char} (h : Stops cs) :
    Stops ((argumentsText as).toList ++ cs) := by
  unfold argumentsText
  split
  · exact h
  · rw [String.toList_append, String.toList_append]
    exact .cons (by decide) _

theorem FieldDef.Named.scans {f : FieldDef} (h : f.Named) (hr : Stops rest) :
    Scans f.text.toList f.tokens rest := by
  have htokens : f.tokens =
      [.name f.name] ++ argumentsTokens f.arguments ++ [.mark ':'] ++ f.type.tokens := by
    simp [FieldDef.tokens]
  rw [FieldDef.text, String.toList_append, String.toList_append, String.toList_append, htokens]
  exact .append (.append (.append (.name h.name (stops_argumentsText _ (.cons (by decide) _)))
    (scans_arguments h.arguments _)) (scans_colon _)) (h.type.scans hr)

/-! ### Definitions and schemas -/

theorem scans_newline (rest : List Char) : Scans ['\n'] [] rest := .blank (by decide)

theorem scans_fields {fs : List FieldDef} (h : ∀ f ∈ fs, f.Named) (rest : List Char) :
    Scans (fieldsText fs).toList (fieldsTokens fs) rest := by
  unfold fieldsText fieldsTokens enclosedTokens
  split
  · exact scans_newline rest
  · have hopen (rest : List Char) : Scans [' ', '\x7b', '\n'] [.mark '\x7b'] rest :=
      .append (s := []) (a := [' ']) (.blank (by decide))
        (.append (a := ['\x7b']) (.mark (by decide) (by decide) (by decide)) (scans_newline rest))
    have hclose (rest : List Char) : Scans ['\x7d', '\n'] [.mark '\x7d'] rest :=
      .append (a := ['\x7d']) (.mark (by decide) (by decide) (by decide)) (scans_newline rest)
    have hindent (rest : List Char) : Scans [' ', ' '] [] rest :=
      .append (a := [' ']) (.blank (by decide)) (.blank (by decide))
    have hfield : ∀ f ∈ fs, ∀ rest, Scans ("  " ++ f.text ++ "\n").toList f.tokens rest := by
      intro f hf rest
      have htokens : f.tokens = [] ++ f.tokens ++ [] := by simp
      rw [String.toList_append, String.toList_append, htokens]
      exact .append (.append (hindent _) ((h f hf).scans (.cons (by decide) rest)))
        (scans_newline rest)
    rw [String.toList_append, String.toList_append, String.toList_join, List.flatMap_map]
    exact .append (.append (hopen _) (.flatMap hfield)) (hclose rest)

theorem stops_fieldsText (fs : List FieldDef) (cs : List Char) :
    Stops ((fieldsText fs).toList ++ cs) := by
  unfold fieldsText
  split
  · exact .cons (by decide) _
  · rw [String.toList_append, String.toList_append]
    exact .cons (by decide) _

/-- A word and the blank after it. -/
theorem scans_word {w : String} (hw : isName w.toList = true) (rest : List Char) :
    Scans (w.toList ++ [' ']) [.name w] rest :=
  .append (t := []) (.name hw (.cons (by decide) rest)) (.blank (by decide))

/-- An object after its keyword. -/
theorem scans_object {name : String} {fields : List FieldDef} (hname : isName name.toList = true)
    (hfields : ∀ f ∈ fields, f.Named) (rest : List Char) :
    Scans ("type " ++ name ++ fieldsText fields).toList
      (.name "type" :: .name name :: fieldsTokens fields) rest := by
  rw [String.toList_append, String.toList_append]
  exact .append (s := [.name "type", .name name])
    (.append (s := [.name "type"]) (scans_word (w := "type") (by decide) _)
      (.name hname (stops_fieldsText _ _)))
    (scans_fields hfields rest)

theorem Definition.Named.scans {x : Definition} (h : x.Named) (rest : List Char) :
    Scans x.text.toList x.tokens rest := by
  cases x with
  | scalar name =>
    rw [Definition.text, String.toList_append, String.toList_append]
    exact .append (s := [.name "scalar", .name name]) (t := [])
      (.append (s := [.name "scalar"]) (scans_word (w := "scalar") (by decide) _)
        (.name h (.cons (by decide) rest)))
      (scans_newline rest)
  | object name fields => exact scans_object h.1 h.2 rest
  | extension name fields =>
    have hsplit : "extend type " ++ name ++ fieldsText fields =
        "extend " ++ ("type " ++ name ++ fieldsText fields) := by
      rw [← String.append_assoc, ← String.append_assoc]
      rfl
    rw [Definition.text, hsplit, String.toList_append]
    exact .append (s := [.name "extend"]) (scans_word (w := "extend") (by decide) _)
      (scans_object h.1 h.2 rest)
  | other => exact .nil rest

/-- **The text of a schema is cut into its tokens**, also after a text that has none. -/
theorem Document.Named.scan_append_text {d : Document} (h : d.Named) {header : String}
    (hheader : ∀ rest, Scans header.toList [] rest) :
    scan (header ++ Document.text d).toList = some d.tokens := by
  have hnewline : ∀ rest, Stops ("\n".toList ++ rest) := fun rest => .cons (by decide) rest
  have htext : Scans (Document.text d).toList d.tokens [] := by
    rw [Document.text, String.toList_intercalate, List.map_map]
    exact .intercalate scans_newline hnewline (fun x hx rest _ => (h x hx).scans rest) nofun
  have hall : Scans (header ++ Document.text d).toList d.tokens [] := by
    rw [String.toList_append]
    exact .append (s := []) (hheader _) htext
  unfold Scans at hall
  rw [List.append_nil] at hall
  rw [scan, hall]
  simp [scanFrom, finish]

end GraphLayer.Schema
