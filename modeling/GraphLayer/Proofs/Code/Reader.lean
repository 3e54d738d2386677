import GraphLayer.Proofs.Code.Lines
import GraphLayer.Proofs.Text.Separators

/-!
# Reading code back

The last braces of a file, read line by line from their end.

* `readHead`, the line of a function without its end: `readHead_head`;
* `readLine` and `readLines`, the lines of functions, read onto those that come after them:
  `readLines_lines`;
* `lastBraces`, the last braces of a text with what is above them: `lastBraces_bracedLines`, and
  `exists_lastBraces_file` for those of an item behind its mark;
* `readType` and `readTypes`, named types before functions: `readTypes_body`;
* `readInterface` and `readBlock`: an interface and a block at the end of a file are read back,
  `readInterface_file` and `readBlock_file`.
-/

namespace GraphLayer.Code

open Text (stripStart? stripEnd? splitOnce? splitLines stripStart?_append stripEnd?_append
  splitOnce?_of_not_mem OneLine unlines)

/-! ### The line of a function -/

/-- Read a name with its type. -/
def readBinding (cs : List Char) : Option Binding :=
  (splitOnce? ": ".toList cs).map fun (name, type) => ⟨String.ofList name, String.ofList type⟩

/-- Cut a text at every comma that a blank follows. -/
def cutCommas : List Char → List (List Char)
  | [] => [[]]
  | ',' :: ' ' :: cs => [] :: cutCommas cs
  | c :: cs =>
    match cutCommas cs with
    | [] => [[c]]
    | p :: ps => (c :: p) :: ps

/-- Read some parameters; the first one may be the object. -/
def readParams (cs : List Char) : Option (Bool × List Binding) :=
  match if cs.isEmpty then [] else cutCommas cs with
  | [] => some (false, [])
  | p :: ps =>
    if p = "&self".toList then (ps.mapM readBinding).map (true, ·)
    else ((p :: ps).mapM readBinding).map (false, ·)

/-- Whether a text starts with a word, and what comes after it. -/
def readWord (word cs : List Char) : Bool × List Char :=
  match stripStart? word cs with
  | some rest => (true, rest)
  | none => (false, cs)

/-- Read the name of a function with its parameters and its result. -/
def readSignature (isPublic isAsync : Bool) (cs : List Char) : Option Function := do
  let (name, cs) ← splitOnce? "(".toList cs
  let (params, result) ← splitOnce? ") -> ".toList cs
  let (onSelf, params) ← readParams params
  some { isPublic, isAsync, name := String.ofList name, onSelf, params,
         result := String.ofList result }

/-- Read the line of a function without its end. -/
def readHead (cs : List Char) : Option Function :=
  let (isPublic, cs) := readWord "pub ".toList cs
  let (isAsync, cs) := readWord "async ".toList cs
  (stripStart? "fn ".toList cs).bind (readSignature isPublic isAsync)

variable {f : Function}

theorem readBinding_chars {b : Binding} (h : ':' ∉ b.name.toList) :
    readBinding b.chars = some b := by
  have hsplit : splitOnce? ": ".toList b.chars = some (b.name.toList, b.type.toList) :=
    splitOnce?_of_not_mem h [' '] b.type.toList
  rw [readBinding, hsplit, Option.map_some]
  dsimp only
  rw [String.ofList_toList, String.ofList_toList]

theorem mapM_readBinding {bs : List Binding} (h : ∀ b ∈ bs, ':' ∉ b.name.toList) :
    (bs.map Binding.chars).mapM readBinding = some bs := by
  induction bs with
  | nil => rfl
  | cons b bs ih =>
    rw [List.map_cons, List.mapM_cons, readBinding_chars (h b List.mem_cons_self),
      ih fun c hc => h c (List.mem_cons_of_mem b hc)]
    rfl

theorem cutCommas_append {p : List Char} (h : ',' ∉ p) (cs : List Char) :
    cutCommas (p ++ ", ".toList ++ cs) = p :: cutCommas cs := by
  induction p with
  | nil => rfl
  | cons c p ih =>
    obtain ⟨hc, hp⟩ := List.ne_and_not_mem_of_not_mem_cons h
    have hcons : cutCommas (c :: (p ++ ", ".toList ++ cs)) =
        match cutCommas (p ++ ", ".toList ++ cs) with
        | [] => [[c]]
        | q :: qs => (c :: q) :: qs := by
      rw [cutCommas]
      intro rest hcomma
      exact absurd hcomma.symm hc
    rw [List.cons_append, List.cons_append, hcons, ih hp]

theorem cutCommas_of_not_mem {p : List Char} (h : ',' ∉ p) : cutCommas p = [p] := by
  induction p with
  | nil => rfl
  | cons c p ih =>
    obtain ⟨hc, hp⟩ := List.ne_and_not_mem_of_not_mem_cons h
    rw [cutCommas, ih hp]
    intro rest hcomma
    exact absurd hcomma.symm hc

/-- Parts without commas are found again. -/
theorem cutCommas_intercalate {ps : List (List Char)} (hps : ps ≠ []) (h : ∀ p ∈ ps, ',' ∉ p) :
    cutCommas (", ".toList.intercalate ps) = ps := by
  induction ps with
  | nil => exact absurd rfl hps
  | cons p ps ih =>
    have hp := h p List.mem_cons_self
    cases ps with
    | nil => rw [List.intercalate_singleton, cutCommas_of_not_mem hp]
    | cons q ps =>
      rw [List.intercalate_cons_cons, cutCommas_append hp,
        ih (List.cons_ne_nil q ps) fun r hr => h r (List.mem_cons_of_mem p hr)]

/-- The parameters have none of the characters that are between them and after them. -/
theorem not_mem_paramChars (h : f.Readable) {c : Char} (hc : c ∈ [',', ')']) :
    ∀ cs ∈ f.paramChars, c ∉ cs := by
  obtain ⟨hself, hcolon, hcname, hctype⟩ : c ∉ "&self".toList ∧ c ∉ ": ".toList ∧
      c ∈ "\n\r,:)".toList ∧ c ∈ "\n\r,)".toList := by
    simp only [List.mem_cons, List.not_mem_nil, or_false] at hc
    rcases hc with rfl | rfl <;> decide
  intro cs hcs
  rcases List.mem_append.1 hcs with hcs | hcs
  · split at hcs
    · obtain rfl := List.mem_singleton.1 hcs
      exact hself
    · cases hcs
  · obtain ⟨b, hb, rfl⟩ := List.mem_map.1 hcs
    obtain ⟨hname, htype⟩ := h.params b hb
    simp only [Binding.chars, List.mem_append, not_or]
    exact ⟨⟨hname c hcname, hcolon⟩, htype c hctype⟩

theorem nil_not_mem_paramChars (f : Function) : [] ∉ f.paramChars := by
  intro hnil
  rcases List.mem_append.1 hnil with hnil | hnil
  · split at hnil
    · cases List.mem_singleton.1 hnil
    · cases hnil
  · obtain ⟨b, -, hb⟩ := List.mem_map.1 hnil
    simp [Binding.chars] at hb

/-- The text between the parentheses is cut into the parameters. -/
theorem cut_paramChars (h : f.Readable) :
    (if (", ".toList.intercalate f.paramChars).isEmpty then []
      else cutCommas (", ".toList.intercalate f.paramChars)) = f.paramChars := by
  by_cases hnone : f.paramChars = []
  · rw [hnone]
    rfl
  · have hcut := cutCommas_intercalate hnone (not_mem_paramChars h (by decide))
    rw [if_neg, hcut]
    intro hempty
    rw [List.isEmpty_iff.1 hempty] at hcut
    exact nil_not_mem_paramChars f (hcut ▸ List.mem_singleton_self [])

/-- The parameters of a function are read back. -/
theorem readParams_paramChars (h : f.Readable) :
    readParams (", ".toList.intercalate f.paramChars) = some (f.onSelf, f.params) := by
  have hcolons : ∀ b ∈ f.params, ':' ∉ b.name.toList := fun b hb =>
    (h.params b hb).1 ':' (by decide)
  have hbindings := mapM_readBinding hcolons
  rw [readParams, cut_paramChars h, Function.paramChars]
  cases f.onSelf with
  | true =>
    show (if "&self".toList = "&self".toList then
      ((f.params.map Binding.chars).mapM readBinding).map (true, ·) else _) = _
    rw [if_pos rfl, hbindings]
    rfl
  | false =>
    cases hparams : f.params with
    | nil => rfl
    | cons b bs =>
      have hself : b.chars ≠ "&self".toList := by
        intro hself
        have hcolon : ':' ∈ b.chars := by simp [Binding.chars]
        rw [hself] at hcolon
        exact absurd hcolon (by decide)
      rw [hparams] at hbindings
      show (if b.chars = "&self".toList then _ else
        (((b :: bs).map Binding.chars).mapM readBinding).map (false, ·)) = _
      rw [if_neg hself, hbindings]
      rfl

theorem readWord_append (word cs : List Char) : readWord word (word ++ cs) = (true, cs) := by
  rw [readWord, stripStart?_append]

/-- A function without description and body. -/
def Function.bare (f : Function) : Function := { f with doc := "", body := none }

theorem readSignature_signature (h : f.Readable) :
    readSignature f.isPublic f.isAsync f.signature = some f.bare := by
  have hname : '(' ∉ f.name.toList := h.name '(' (by decide)
  have hparams : ')' ∉ ", ".toList.intercalate f.paramChars :=
    not_mem_intercalate (by decide) (not_mem_paramChars h (by decide))
  have hopen : splitOnce? "(".toList f.signature = some (f.name.toList,
      ", ".toList.intercalate f.paramChars ++ ") -> ".toList ++ f.result.toList) :=
    splitOnce?_of_not_mem hname [] _
  have hclose : splitOnce? ") -> ".toList
      (", ".toList.intercalate f.paramChars ++ ") -> ".toList ++ f.result.toList) =
        some (", ".toList.intercalate f.paramChars, f.result.toList) :=
    splitOnce?_of_not_mem hparams _ _
  unfold readSignature
  rw [hopen]
  dsimp only [bind, Option.bind]
  rw [hclose]
  dsimp only
  rw [readParams_paramChars h]
  dsimp only
  rw [String.ofList_toList, String.ofList_toList]
  rfl

/-- **The line of a function is read back.** -/
theorem readHead_head (h : f.Readable) : readHead f.head = some f.bare := by
  have hasync : readWord "async ".toList
      ((if f.isAsync then "async ".toList else []) ++ ("fn ".toList ++ f.signature)) =
        (f.isAsync, "fn ".toList ++ f.signature) := by
    cases f.isAsync with
    | true => exact readWord_append _ _
    | false => rfl
  have hpublic : readWord "pub ".toList f.head = (f.isPublic,
      (if f.isAsync then "async ".toList else []) ++ ("fn ".toList ++ f.signature)) := by
    unfold Function.head
    cases f.isPublic with
    | true => exact readWord_append _ _
    | false => cases f.isAsync <;> rfl
  unfold readHead
  rw [hpublic]
  dsimp only
  rw [hasync]
  dsimp only
  rw [stripStart?_append, Option.bind_some, readSignature_signature h]

/-! ### The lines of functions -/

/-- A line without its indentation; an empty line has none. -/
def unindented (l : List Char) : Option (List Char) :=
  if l.isEmpty then some [] else stripStart? "    ".toList l

/-- What has been read of some lines: the lines of a body whose function is still to come, if there
is one, and the functions after it. -/
structure Reading where
  body : Option (List String)
  functions : List Function

/-- Read a line of a body, or the line that the body belongs to. -/
def readInBody (body : List String) (fs : List Function) (l : List Char) : Option Reading :=
  match unindented l with
  | some line => some ⟨some (String.ofList line :: body), fs⟩
  | none => ((stripEnd? " \x7b".toList l).bind readHead).map fun f =>
    ⟨none, { f with body := some body } :: fs⟩

/-- Read a line between functions: an empty line, the end of a body, the description of the function
that comes next or a function without a body. -/
def readBetween (fs : List Function) (l : List Char) : Option Reading :=
  if l.isEmpty then some ⟨none, fs⟩
  else if l = ['\x7d'] then some ⟨some [], fs⟩
  else
    match stripStart? "/// ".toList l, fs with
    | some doc, f :: fs => some ⟨none, { f with doc := String.ofList doc } :: fs⟩
    | some _, [] => none
    | none, fs => ((stripEnd? ";".toList l).bind readHead).map fun f => ⟨none, f :: fs⟩

/-- Read a line before what has been read. -/
def readLine (l : List Char) (r : Reading) : Option Reading :=
  match r.body with
  | some body => readInBody body r.functions l
  | none => readBetween r.functions l

/-- Read some lines, the last one first. -/
def readLines (ls : List (List Char)) (r : Option Reading) : Option Reading :=
  ls.foldr (fun l r => r.bind (readLine l)) r

/-- Read the functions of some lines. -/
def readFunctions (ls : List (List Char)) : Option (List Function) :=
  match readLines ls (some ⟨none, []⟩) with
  | some ⟨none, fs⟩ => some fs
  | _ => none

variable {fs : List Function} {ls ms : List (List Char)} {l : List Char}

@[simp] theorem readLines_nil (r : Option Reading) : readLines [] r = r := rfl

@[simp] theorem readLines_cons (l : List Char) (ls : List (List Char)) (r : Option Reading) :
    readLines (l :: ls) r = (readLines ls r).bind (readLine l) := rfl

@[simp] theorem readLines_append (ls ms : List (List Char)) (r : Option Reading) :
    readLines (ls ++ ms) r = readLines ls (readLines ms r) :=
  List.foldr_append

theorem unindented_indented (l : List Char) : unindented (indented 4 l) = some l := by
  cases l with
  | nil => rfl
  | cons c l =>
    have hblanks : indented 4 (c :: l) = "    ".toList ++ c :: l := rfl
    rw [hblanks]
    exact stripStart?_append "    ".toList (c :: l)

/-- The lines of a body. -/
theorem readLines_body (lines body : List String) (fs : List Function) :
    readLines (lines.map fun l => indented 4 l.toList) (some ⟨some body, fs⟩) =
      some ⟨some (lines ++ body), fs⟩ := by
  induction lines with
  | nil => rfl
  | cons l lines ih =>
    rw [List.map_cons, readLines_cons, ih, Option.bind_some]
    show readInBody (lines ++ body) fs (indented 4 l.toList) = _
    rw [readInBody, unindented_indented]
    dsimp only
    rw [String.ofList_toList]
    rfl

/-- The line of a function begins with one of three words. -/
theorem exists_head_eq (f : Function) :
    ∃ word ∈ ["pub ", "async ", "fn "], ∃ rest, f.head = word.toList ++ rest := by
  unfold Function.head
  cases f.isPublic with
  | true => exact ⟨"pub ", by decide, _, rfl⟩
  | false =>
    cases f.isAsync with
    | true => exact ⟨"async ", by decide, _, rfl⟩
    | false => exact ⟨"fn ", by decide, _, rfl⟩

/-- The line of a function is neither empty nor indented nor a description nor a type, whatever its
end. -/
theorem head_append (f : Function) (ending : List Char) :
    (f.head ++ ending).isEmpty = false ∧ f.head ++ ending ≠ ['\x7d'] ∧
      unindented (f.head ++ ending) = none ∧
      stripStart? "/// ".toList (f.head ++ ending) = none ∧
      stripStart? "type ".toList (f.head ++ ending) = none := by
  obtain ⟨word, hword, rest, hhead⟩ := exists_head_eq f
  rw [hhead, List.append_assoc]
  simp only [List.mem_cons, List.not_mem_nil, or_false] at hword
  rcases hword with rfl | rfl | rfl
  all_goals exact ⟨rfl, nofun, rfl, rfl, rfl⟩

/-- A description is read onto the function that comes next. -/
theorem readLines_docLines (hf : f.doc = "") (doc : String) (fs : List Function) :
    readLines (docLines doc) (some ⟨none, f :: fs⟩) = some ⟨none, { f with doc } :: fs⟩ := by
  unfold docLines
  split
  · next hempty =>
    obtain rfl : doc = "" := String.toList_eq_nil_iff.1 (List.isEmpty_iff.1 hempty)
    rw [readLines_nil, ← hf]
  · rw [readLines_cons, readLines_nil, Option.bind_some]
    show readBetween (f :: fs) ("/// ".toList ++ doc.toList) = _
    unfold readBetween
    rw [if_neg (by simp), if_neg (by simp), stripStart?_append]
    dsimp only
    rw [String.ofList_toList]

/-- A function that is only declared. -/
theorem readLines_declared (h : f.Readable) (fs : List Function) :
    readLines [f.head ++ ";".toList] (some ⟨none, fs⟩) = some ⟨none, f.bare :: fs⟩ := by
  obtain ⟨hempty, hclose, -, hdoc, -⟩ := head_append f ";".toList
  rw [readLines_cons, readLines_nil, Option.bind_some]
  show readBetween fs (f.head ++ ";".toList) = _
  unfold readBetween
  rw [hempty, if_neg Bool.false_ne_true, if_neg hclose, hdoc]
  dsimp only
  rw [stripEnd?_append, Option.bind_some, readHead_head h]
  rfl

/-- A function with its body. -/
theorem readLines_defined (h : f.Readable) (body : List String) (fs : List Function) :
    readLines (bracedLines f.head (body.map String.toList)) (some ⟨none, fs⟩) =
      some ⟨none, { f.bare with body := some body } :: fs⟩ := by
  obtain ⟨-, -, hindent, -⟩ := head_append f " \x7b".toList
  have hclose : readLines [['\x7d']] (some ⟨none, fs⟩) = some ⟨some [], fs⟩ := rfl
  rw [bracedLines, readLines_cons, readLines_append, hclose, List.map_map]
  show (readLines (body.map fun l => indented 4 l.toList) _).bind _ = _
  rw [readLines_body, List.append_nil, Option.bind_some]
  show readInBody body fs (f.head ++ " \x7b".toList) = _
  rw [readInBody, hindent]
  dsimp only
  rw [stripEnd?_append, Option.bind_some, readHead_head h]
  rfl

/-- **The lines of a function are read back** onto the functions after them. -/
theorem readLines_lines (h : f.Readable) (fs : List Function) :
    readLines f.lines (some ⟨none, fs⟩) = some ⟨none, f :: fs⟩ := by
  unfold Function.lines
  rw [readLines_append]
  cases hbody : f.body with
  | none =>
    have hf : { f.bare with doc := f.doc } = f := by rw [Function.bare, ← hbody]
    dsimp only
    rw [readLines_declared h, readLines_docLines rfl, hf]
  | some body =>
    have hf : { f.bare with body := some body, doc := f.doc } = f := by rw [Function.bare, ← hbody]
    dsimp only
    rw [readLines_defined h, readLines_docLines rfl, hf]

theorem readLines_functionsLines (h : ∀ f ∈ fs, f.Readable) :
    readLines (functionsLines fs) (some ⟨none, []⟩) = some ⟨none, fs⟩ := by
  unfold functionsLines
  induction fs with
  | nil => rfl
  | cons f fs ih =>
    have hf := readLines_lines (h f List.mem_cons_self)
    have hfs := ih fun g hg => h g (List.mem_cons_of_mem f hg)
    cases fs with
    | nil => rw [List.map_singleton, List.intercalate_singleton, hf]
    | cons g fs =>
      have hempty : readLines [[]] (some ⟨none, g :: fs⟩) = some ⟨none, g :: fs⟩ := rfl
      simp only [List.map_cons] at hfs ⊢
      rw [List.intercalate_cons_cons, readLines_append, readLines_append, hfs, hempty, hf]

/-- **Functions are read back.** -/
theorem readFunctions_functionsLines (h : ∀ f ∈ fs, f.Readable) :
    readFunctions (functionsLines fs) = some fs := by
  rw [readFunctions, readLines_functionsLines h]

/-! ### Named types -/

/-- Read a named type. -/
def readType (l : List Char) : Option Binding := do
  let l ← stripStart? "type ".toList l
  let l ← stripEnd? ";".toList l
  let (name, type) ← splitOnce? " = ".toList l
  some ⟨String.ofList name, String.ofList type⟩

/-- Read the named types at the start of a body, with the lines after them. -/
def readTypes : List (List Char) → List Binding × List (List Char)
  | [] => ([], [])
  | l :: ls =>
    match readType l with
    | some t => (t :: (readTypes ls).1, (readTypes ls).2)
    | none => ([], l :: ls)

theorem readType_typeLine {t : Binding} (h : ' ' ∉ t.name.toList) :
    readType t.typeLine = some t := by
  have hsplit : splitOnce? " = ".toList (t.name.toList ++ " = ".toList ++ t.type.toList) =
      some (t.name.toList, t.type.toList) :=
    splitOnce?_of_not_mem h _ _
  unfold readType Binding.typeLine
  rw [stripStart?_append]
  dsimp only [bind, Option.bind]
  rw [stripEnd?_append]
  dsimp only
  rw [hsplit]
  dsimp only
  rw [String.ofList_toList, String.ofList_toList]

/-- Types are read up to the first line that is none. -/
theorem readTypes_append {ts : List Binding} (h : ∀ t ∈ ts, ' ' ∉ t.name.toList)
    (hls : ∀ l ∈ ls.head?, readType l = none) :
    readTypes (ts.map Binding.typeLine ++ ls) = (ts, ls) := by
  induction ts with
  | nil =>
    cases ls with
    | nil => rfl
    | cons l ls =>
      show readTypes (l :: ls) = _
      rw [readTypes, hls l rfl]
  | cons t ts ih =>
    rw [List.map_cons, List.cons_append, readTypes, readType_typeLine (h t List.mem_cons_self),
      ih fun u hu => h u (List.mem_cons_of_mem t hu)]

/-- The first line of a function is no type. -/
theorem exists_lines_eq (f : Function) : ∃ l ls, f.lines = l :: ls ∧ readType l = none := by
  have hnone {l : List Char} (h : stripStart? "type ".toList l = none) : readType l = none := by
    unfold readType
    rw [h]
    rfl
  have hhead (ending : List Char) : readType (f.head ++ ending) = none :=
    hnone (head_append f ending).2.2.2.2
  unfold Function.lines docLines
  split
  · cases f.body with
    | none => exact ⟨_, _, rfl, hhead _⟩
    | some body => exact ⟨_, _, rfl, hhead _⟩
  · exact ⟨_, _, rfl, hnone rfl⟩

theorem readType_of_head?_functionsLines {l : List Char} (hl : l ∈ (functionsLines fs).head?) :
    readType l = none := by
  unfold functionsLines at hl
  cases fs with
  | nil => cases hl
  | cons f fs =>
    obtain ⟨m, ms, hlines, hm⟩ := exists_lines_eq f
    rw [List.map_cons, hlines] at hl
    cases fs with
    | nil =>
      obtain rfl := Option.some.inj hl
      exact hm
    | cons g fs =>
      rw [List.map_cons, List.intercalate_cons_cons] at hl
      obtain rfl := Option.some.inj hl
      exact hm

/-- The types of a block are read, and its functions in the lines after them. -/
theorem readTypes_body {b : Block} (h : b.Readable) :
    ∃ ls, readTypes b.body = (b.types, ls) ∧ readFunctions ls = some b.functions := by
  have hnames (t : Binding) (ht : t ∈ b.types) : ' ' ∉ t.name.toList :=
    (h.types t ht).1 ' ' (by decide)
  unfold Block.body
  split
  · rw [List.nil_append]
    exact ⟨_, readTypes_append hnames fun l hl => readType_of_head?_functionsLines hl,
      readFunctions_functionsLines h.functions⟩
  · refine ⟨_, readTypes_append hnames fun l hl => ?_, ?_⟩
    · obtain rfl := Option.some.inj hl
      rfl
    · rw [List.singleton_append, readFunctions, readLines_cons,
        readLines_functionsLines h.functions]
      rfl

/-! ### The last braces of a text -/

/-- A body between braces with the line that it belongs to, and the lines above, the nearest one
first. -/
structure Braces where
  above : List (List Char)
  head : List Char
  body : List (List Char)

/-- Whether a line is inside a body. -/
def isInner (l : List Char) : Bool := (unindented l).isSome

/-- Read a body, which is given from its last line on. -/
def readBraces (ls : List (List Char)) : Option Braces :=
  match ls.dropWhile isInner with
  | head :: above => (stripEnd? " \x7b".toList head).map fun head =>
    ⟨above, head, (ls.takeWhile isInner).reverse.filterMap unindented⟩
  | [] => none

/-- Read the braces that a text ends in. -/
def lastBraces (cs : List Char) : Option Braces :=
  match (splitLines cs).reverse with
  | last :: close :: ls => if last = [] ∧ close = ['\x7d'] then readBraces ls else none
  | _ => none

theorem readBraces_body {head : List Char} (hhead : unindented (head ++ " \x7b".toList) = none)
    (body above : List (List Char)) :
    readBraces ((body.map (indented 4)).reverse ++ (head ++ " \x7b".toList) :: above) =
      some ⟨above, head, body⟩ := by
  have hall : ∀ l ∈ (body.map (indented 4)).reverse, isInner l = true := by
    intro l hl
    obtain ⟨m, -, rfl⟩ := List.mem_map.1 (List.mem_reverse.1 hl)
    rw [isInner, unindented_indented]
    rfl
  have hread : (body.map (indented 4)).filterMap unindented = body := by
    rw [List.filterMap_map]
    exact (List.filterMap_congr fun l _ => unindented_indented l).trans List.filterMap_some
  have hstop : ¬ isInner (head ++ " \x7b".toList) = true := by
    rw [isInner, hhead]
    exact Bool.false_ne_true
  unfold readBraces
  rw [List.dropWhile_append_of_pos hall, List.takeWhile_append_of_pos hall,
    List.dropWhile_cons_of_neg hstop, List.takeWhile_cons_of_neg hstop]
  dsimp only
  rw [stripEnd?_append, Option.map_some, List.append_nil, List.reverse_reverse, hread]

/-- **A body at the end of a text is found.** -/
theorem lastBraces_bracedLines {head : List Char} {body : List (List Char)} (start : List Char)
    (above : List (List Char)) (habove : ∀ l ∈ above, '\n' ∉ l)
    (hbody : ∀ l ∈ bracedLines head body, '\n' ∉ l)
    (hhead : unindented (head ++ " \x7b".toList) = none) :
    lastBraces (start ++ '\n' :: unlines (above ++ bracedLines head body)) =
      some ⟨above.reverse ++ (splitLines start).reverse, head, body⟩ := by
  have hlines : ∀ l ∈ above ++ bracedLines head body, '\n' ∉ l := by
    intro l hl
    exact (List.mem_append.1 hl).elim (habove l) (hbody l)
  have hreverse : (splitLines (start ++ '\n' :: unlines (above ++ bracedLines head body))).reverse =
      [] :: ['\x7d'] :: ((body.map (indented 4)).reverse ++
        (head ++ " \x7b".toList) :: (above.reverse ++ (splitLines start).reverse)) := by
    rw [Text.splitLines_append_unlines start hlines]
    simp [bracedLines]
  rw [lastBraces, hreverse]
  dsimp only
  rw [if_pos ⟨rfl, rfl⟩, readBraces_body hhead]

/-- The body of an item at the end of a file, behind its mark and what is above its line. -/
theorem exists_lastBraces_file {i : Item} {above body : List (List Char)} {head : List Char}
    (h : Laid i.pieces (above ++ bracedLines head body))
    (hhead : unindented (head ++ " \x7b".toList) = none) {mark : String}
    (hmark : OneLine mark.toList) (heading : List String) (imports : List (String × String))
    (before : List Item) :
    ∃ rest, lastBraces (file heading ⟨imports, before ++ [marked mark i]⟩).toList =
      some ⟨above.reverse ++ mark.toList :: rest, head, body⟩ := by
  have hne : above ++ bracedLines head body ≠ [] :=
    List.append_ne_nil_of_right_ne_nil _ (List.cons_ne_nil _ _)
  obtain ⟨start, hstart⟩ := exists_file_marked h hne hmark heading imports before
  have habove : ∀ l ∈ mark.toList :: above, '\n' ∉ l := by
    intro l hl
    rcases List.mem_cons.1 hl with rfl | hl
    · exact hmark.1
    · exact (h.oneLine l (List.mem_append_left _ hl)).1
  have hbody (l : List Char) (hl : l ∈ bracedLines head body) : '\n' ∉ l :=
    (h.oneLine l (List.mem_append_right _ hl)).1
  have hbraces := lastBraces_bracedLines start (mark.toList :: above) habove hbody hhead
  rw [List.reverse_cons, List.append_assoc, List.singleton_append] at hbraces
  exact ⟨_, by rw [hstart]; exact hbraces⟩

/-! ### Interfaces and blocks -/

/-- The description on a line, if it is one. -/
def description : List (List Char) → String
  | [] => ""
  | l :: _ => ((stripStart? "/// ".toList l).map String.ofList).getD ""

/-- Read the interface at the end of a file. -/
def readInterface (contents : String) : Option Interface := do
  let braces ← lastBraces contents.toList
  let head ← stripStart? "pub trait ".toList braces.head
  let (name, parent) ← splitOnce? ": ".toList head
  let functions ← readFunctions braces.body
  some { doc := description braces.above, name := String.ofList name,
         parents := [String.ofList parent], functions }

/-- Read the block at the end of a file. -/
def readBlock (contents : String) : Option Block := do
  let braces ← lastBraces contents.toList
  let head ← stripStart? "impl ".toList braces.head
  let (interface, target) ← splitOnce? " for ".toList head
  let (types, ls) := readTypes braces.body
  let functions ← readFunctions ls
  some { interface := some (String.ofList interface), target := String.ofList target, types,
         functions }

/-- The description above the line of an interface, if there is another line above. -/
theorem description_docLines {mark : List Char} (h : stripStart? "/// ".toList mark = none)
    (doc : String) (above : List (List Char)) :
    description ((docLines doc).reverse ++ mark :: above) = doc := by
  unfold docLines
  split
  · next hempty =>
    obtain rfl : doc = "" := String.toList_eq_nil_iff.1 (List.isEmpty_iff.1 hempty)
    show ((stripStart? "/// ".toList mark).map String.ofList).getD "" = ""
    rw [h]
    rfl
  · show ((stripStart? "/// ".toList ("/// ".toList ++ doc.toList)).map String.ofList).getD "" = doc
    rw [stripStart?_append, Option.map_some, Option.getD_some, String.ofList_toList]

/-- **An interface at the end of a file is read back.** -/
theorem readInterface_file {i : Interface} (h : i.Readable) {mark : String}
    (hmark : OneLine mark.toList) (hdoc : stripStart? "/// ".toList mark.toList = none)
    (heading : List String) (imports : List (String × String)) (before : List Item) :
    readInterface (file heading ⟨imports, before ++ [marked mark (.interface i)]⟩) = some i := by
  have hlaid : Laid (Item.interface i).pieces i.lines := laid_interface h
  obtain ⟨p, hparents, -⟩ := h.parents
  have hhead : i.head = "pub trait ".toList ++ (i.name.toList ++ ": ".toList ++ p.toList) := by
    unfold Interface.head
    rw [hparents, List.map_singleton, List.intercalate_singleton]
    simp only [List.append_assoc]
  have hnone : unindented (i.head ++ " \x7b".toList) = none := by
    rw [hhead]
    rfl
  obtain ⟨rest, hbraces⟩ := exists_lastBraces_file hlaid hnone hmark heading imports before
  have hname : splitOnce? ": ".toList (i.name.toList ++ ": ".toList ++ p.toList) =
      some (i.name.toList, p.toList) :=
    splitOnce?_of_not_mem (h.name ':' (by decide)) [' '] p.toList
  unfold readInterface
  rw [hbraces]
  dsimp only [bind, Option.bind]
  rw [hhead, stripStart?_append]
  dsimp only
  rw [hname]
  dsimp only
  rw [readFunctions_functionsLines h.functions]
  dsimp only
  rw [description_docLines hdoc, String.ofList_toList, String.ofList_toList, ← hparents]

/-- **A block at the end of a file is read back.** -/
theorem readBlock_file {b : Block} (h : b.Readable) {mark : String}
    (hmark : OneLine mark.toList) (heading : List String) (imports : List (String × String))
    (before : List Item) :
    readBlock (file heading ⟨imports, before ++ [marked mark (.block b)]⟩) = some b := by
  have hlaid : Laid (Item.block b).pieces ([] ++ bracedLines b.head b.body) := laid_block h
  obtain ⟨i, hinterface, hi⟩ := h.interface
  have hhead : b.head = "impl ".toList ++ (i.toList ++ " for ".toList ++ b.target.toList) := by
    unfold Block.head
    rw [hinterface]
    simp
  have hnone : unindented (b.head ++ " \x7b".toList) = none := by
    rw [hhead]
    rfl
  obtain ⟨rest, hbraces⟩ := exists_lastBraces_file hlaid hnone hmark heading imports before
  have hname : splitOnce? " for ".toList (i.toList ++ " for ".toList ++ b.target.toList) =
      some (i.toList, b.target.toList) :=
    splitOnce?_of_not_mem (hi ' ' (by decide)) _ _
  obtain ⟨ls, htypes, hfunctions⟩ := readTypes_body h
  unfold readBlock
  rw [hbraces]
  dsimp only [bind, Option.bind]
  rw [hhead, stripStart?_append]
  dsimp only
  rw [hname]
  dsimp only
  rw [htypes]
  dsimp only
  rw [hfunctions]
  dsimp only
  rw [String.ofList_toList, String.ofList_toList, ← hinterface]

end GraphLayer.Code
