import GraphLayer.Code.Syntax
import GraphLayer.Proofs.Code.Layout

/-!
# The lines of generated code

What functions, interfaces and blocks look like in a file, line by line.

* `Function.Readable`, `Structure.Readable`, `Interface.Readable` and `Block.Readable`: names and
  types have none of the characters that separate them from what is around them, and no text ends
  its line;
* `Function.head` and `bracedLines`, the first line of a function and a body between braces;
  `Function.lines`, `Structure.lines`, `Interface.lines` and `Block.lines`;
* `laid_function`, `laid_struct`, `laid_interface` and `laid_block`: readable code is laid out in
  these lines;
* `laid_marked`, an item behind its mark; `exists_file_eq`, the items at the end of a file, and
  `exists_file_item`, an item anywhere in it.
-/

namespace GraphLayer.Code

open Text (OneLine oneLine_append unlines)

variable {ps : List Piece} {cs : List Char} {ls : List (List Char)}

/-! ### Readable code -/

/-- A text without the characters of another one. -/
def Lacks (s stops : String) : Prop := ∀ c ∈ stops.toList, c ∉ s.toList

/-- A text without ends of lines. -/
theorem Lacks.oneLine {s stops : String} (h : Lacks s stops)
    (hstops : '\n' ∈ stops.toList ∧ '\r' ∈ stops.toList) : OneLine s.toList :=
  ⟨h _ hstops.1, h _ hstops.2⟩

instance decidableLacks (s stops : String) : Decidable (Lacks s stops) :=
  List.decidableBAll (· ∉ s.toList) stops.toList

@[simp] theorem lacks_append {s t stops : String} :
    Lacks (s ++ t) stops ↔ Lacks s stops ∧ Lacks t stops := by
  simp only [Lacks, String.toList_append, List.mem_append, not_or]
  exact ⟨fun h => ⟨fun c hc => (h c hc).1, fun c hc => (h c hc).2⟩,
    fun ⟨hs, ht⟩ c hc => ⟨hs c hc, ht c hc⟩⟩

/-- A function whose parts are found again in its lines. -/
structure Function.Readable (f : Function) : Prop where
  doc : Lacks f.doc "\n\r"
  name : Lacks f.name "\n\r("
  params : ∀ b ∈ f.params, Lacks b.name "\n\r,:)" ∧ Lacks b.type "\n\r,)"
  result : Lacks f.result "\n\r"
  body : ∀ ls, f.body = some ls → ∀ l ∈ ls, Lacks l "\n\r"

/-- An interface with one parent whose functions are readable. -/
structure Interface.Readable (i : Interface) : Prop where
  doc : Lacks i.doc "\n\r"
  name : Lacks i.name "\n\r:"
  parents : ∃ p, i.parents = [p] ∧ Lacks p "\n\r"
  functions : ∀ f ∈ i.functions, f.Readable

/-- A structure with fields, none of whose texts ends its line. -/
structure Structure.Readable (s : Structure) : Prop where
  doc : OneLine s.doc.toList
  name : OneLine s.name.toList
  nonempty : s.fields ≠ []
  fields : ∀ b ∈ s.fields, OneLine b.name.toList ∧ OneLine b.type.toList

/-- What a type makes of an interface, if its functions are readable. -/
structure Block.Readable (b : Block) : Prop where
  interface : ∃ i, b.interface = some i ∧ Lacks i "\n\r "
  target : Lacks b.target "\n\r"
  types : ∀ t ∈ b.types, Lacks t.name "\n\r " ∧ Lacks t.type "\n\r"
  functions : ∀ f ∈ b.functions, f.Readable

/-! ### Lines -/

/-- The line of a description. -/
def docLines (doc : String) : List (List Char) :=
  if doc.toList.isEmpty then [] else ["/// ".toList ++ doc.toList]

/-- The lines of a body behind the line that it belongs to. -/
def bracedLines (head : List Char) (body : List (List Char)) : List (List Char) :=
  (head ++ " \x7b".toList) :: (body.map (indented 4) ++ [['\x7d']])

/-- A name with its type. -/
def Binding.chars (b : Binding) : List Char := b.name.toList ++ ": ".toList ++ b.type.toList

namespace Function

/-- The parameters, the object first. -/
def paramChars (f : Function) : List (List Char) :=
  (if f.onSelf then ["&self".toList] else []) ++ f.params.map Binding.chars

/-- The name of a function with its parameters and its result. -/
def signature (f : Function) : List Char :=
  f.name.toList ++ "(".toList ++
    (", ".toList.intercalate f.paramChars ++ ") -> ".toList ++ f.result.toList)

/-- The line of a function without its end. -/
def head (f : Function) : List Char :=
  (if f.isPublic then "pub ".toList else []) ++
    ((if f.isAsync then "async ".toList else []) ++ ("fn ".toList ++ f.signature))

/-- The lines of a function. -/
def lines (f : Function) : List (List Char) :=
  docLines f.doc ++
    match f.body with
    | none => [f.head ++ ";".toList]
    | some ls => bracedLines f.head (ls.map String.toList)

end Function

/-- The lines of some functions, with empty lines between them. -/
def functionsLines (fs : List Function) : List (List Char) :=
  [[]].intercalate (fs.map Function.lines)

/-- The lines of a structure that has fields. -/
def Structure.lines (s : Structure) : List (List Char) :=
  docLines s.doc ++ bracedLines ("pub struct ".toList ++ s.name.toList)
    (s.fields.map fun b => b.chars ++ [','])

/-- The line of an interface without its end. -/
def Interface.head (i : Interface) : List Char :=
  "pub trait ".toList ++ i.name.toList ++ ": ".toList ++
    " + ".toList.intercalate (i.parents.map String.toList)

/-- The lines of an interface that has parents. -/
def Interface.lines (i : Interface) : List (List Char) :=
  docLines i.doc ++ bracedLines i.head (functionsLines i.functions)

/-- The line of a block without its end. -/
def Block.head (b : Block) : List Char :=
  "impl".toList ++
    (match b.interface with
     | none => []
     | some i => " ".toList ++ i.toList ++ " for".toList) ++
    " ".toList ++ b.target.toList

/-- The line of a named type. -/
def Binding.typeLine (t : Binding) : List Char :=
  "type ".toList ++ (t.name.toList ++ " = ".toList ++ t.type.toList ++ ";".toList)

/-- The lines between the braces of a block: the types before the functions. -/
def Block.body (b : Block) : List (List Char) :=
  b.types.map Binding.typeLine ++ ((if b.types.isEmpty ∨ b.functions.isEmpty then [] else [[]]) ++
    functionsLines b.functions)

/-- The lines of a block. -/
def Block.lines (b : Block) : List (List Char) := bracedLines b.head b.body

/-! ### Layout -/

/-- Parts with a text between them. -/
theorem flush_separated (sep : String) (tss : List (List String)) :
    Flush (separated sep (tss.map pieces))
      (sep.toList.intercalate (tss.map fun ts => ts.flatMap String.toList)) := by
  induction tss with
  | nil => exact .nil
  | cons ts tss ih =>
    cases tss with
    | nil =>
      rw [List.map_singleton, List.map_singleton, List.intercalate_singleton]
      exact flush_pieces ts
    | cons us tss =>
      have hsep : Flush (pieces [sep]) sep.toList := by
        simpa using flush_pieces [sep]
      simp only [List.map_cons] at ih ⊢
      rw [List.intercalate_cons_cons]
      exact ((flush_pieces ts).append hsep).append ih

/-- The line of a description. -/
theorem laid_docPieces {doc : String} (h : OneLine doc.toList) :
    Laid (docPieces doc) (docLines doc) := by
  rw [docPieces, docLines, Text.lines_of_not_mem h.1]
  split
  · exact .nil
  · rw [List.flatMap_cons, List.flatMap_nil, List.append_nil, String.ofList_toList]
    refine Flush.laid ?_ (oneLine_append.2 ⟨by decide, h⟩)
    simpa using flush_pieces ["/// ", doc, "\n"]

/-- A body between braces, with the line that it belongs to. -/
theorem laid_bracedPieces {head : List Piece} {body : List Piece} (hhead : Flush head cs)
    (hcs : OneLine cs) (hbody : Laid body ls) :
    Laid (head ++ bracedPieces body) (bracedLines cs ls) := by
  have hopen : Laid (head ++ pieces [" ", "\x7b\n"]) [cs ++ " \x7b".toList] := by
    refine Flush.laid ?_ (oneLine_append.2 ⟨hcs, by decide⟩)
    rw [List.append_assoc]
    exact hhead.append (flush_pieces [" ", "\x7b\n"])
  have hclose : Laid (pieces ["\x7d\n"]) [['\x7d']] := by
    exact Flush.laid (flush_pieces ["\x7d\n"]) (by decide)
  have hall := (hopen.append hbody.deeper).append hclose
  rw [List.append_assoc, List.append_assoc] at hall
  rw [bracedPieces, List.append_assoc]
  exact hall

/-- The lines of a body. -/
theorem laid_body {lines : List String} (h : ∀ l ∈ lines, OneLine l.toList) :
    Laid (lines.flatMap fun l => pieces [l, "\n"]) (lines.map String.toList) := by
  refine Laid.flatMap fun l hl => Flush.laid ?_ (h l hl)
  simpa using flush_pieces [l, "\n"]

section Functions

variable {f : Function}

/-- The texts of the parameters. -/
theorem flush_paramPieces (f : Function) :
    Flush f.paramPieces (", ".toList.intercalate f.paramChars) := by
  have hself : (if f.onSelf then [pieces ["&self"]] else []) =
        (if f.onSelf then [["&self"]] else []).map pieces ∧
      (if f.onSelf then ["&self".toList] else []) =
        (if f.onSelf then [["&self"]] else []).map fun ts => ts.flatMap String.toList := by
    cases f.onSelf <;> exact ⟨rfl, rfl⟩
  have hparams : f.params.map Binding.pieces =
        (f.params.map fun b => [b.name, ": ", b.type]).map pieces ∧
      f.params.map Binding.chars = (f.params.map fun b => [b.name, ": ", b.type]).map
        fun ts => ts.flatMap String.toList := by
    rw [List.map_map, List.map_map]
    refine ⟨rfl, List.map_congr_left fun b _ => ?_⟩
    simp [Binding.chars]
  rw [Function.paramPieces, Function.paramChars, hself.1, hself.2, hparams.1, hparams.2,
    ← List.map_append, ← List.map_append]
  exact flush_separated ", " _

/-- The pieces of the line of a function without its end. -/
theorem flush_head (f : Function) :
    Flush (pieces ((if f.isPublic then ["pub", " "] else []) ++
        (if f.isAsync then ["async "] else []) ++ ["fn ", f.name, "("]) ++ f.paramPieces ++
      pieces [")", " -> ", f.result]) f.head := by
  have hstart := flush_pieces ((if f.isPublic then ["pub", " "] else []) ++
    (if f.isAsync then ["async "] else []) ++ ["fn ", f.name, "("])
  have hall := (hstart.append (flush_paramPieces f)).append (flush_pieces [")", " -> ", f.result])
  have hchars : ((if f.isPublic then ["pub", " "] else []) ++
      (if f.isAsync then ["async "] else []) ++ ["fn ", f.name, "("]).flatMap String.toList ++
        ", ".toList.intercalate f.paramChars ++ [")", " -> ", f.result].flatMap String.toList =
      f.head := by
    unfold Function.head Function.signature
    cases f.isPublic <;> cases f.isAsync <;> simp
  rwa [hchars] at hall

theorem Function.Readable.oneLine_paramChars (h : f.Readable) :
    ∀ cs ∈ f.paramChars, OneLine cs := by
  intro cs hcs
  rcases List.mem_append.1 hcs with hcs | hcs
  · split at hcs
    · obtain rfl := List.mem_singleton.1 hcs
      decide
    · cases hcs
  · obtain ⟨b, hb, rfl⟩ := List.mem_map.1 hcs
    obtain ⟨hname, htype⟩ := h.params b hb
    exact oneLine_append.2 ⟨oneLine_append.2 ⟨hname.oneLine (by decide), by decide⟩,
      htype.oneLine (by decide)⟩

theorem not_mem_intercalate {sep : List Char} {c : Char} (hsep : c ∉ sep)
    (h : ∀ l ∈ ls, c ∉ l) : c ∉ sep.intercalate ls := by
  induction ls with
  | nil => exact List.not_mem_nil
  | cons l ls ih =>
    have hl := h l List.mem_cons_self
    have hls := ih fun m hm => h m (List.mem_cons_of_mem l hm)
    cases ls with
    | nil => rwa [List.intercalate_singleton]
    | cons m ls =>
      rw [List.intercalate_cons_cons]
      simp only [List.mem_append, not_or]
      exact ⟨⟨hl, hsep⟩, hls⟩

theorem Function.Readable.oneLine_head (h : f.Readable) : OneLine f.head := by
  have hpublic : OneLine (if f.isPublic then "pub ".toList else []) := by
    cases f.isPublic <;> decide
  have hasync : OneLine (if f.isAsync then "async ".toList else []) := by
    cases f.isAsync <;> decide
  have hparams : OneLine (", ".toList.intercalate f.paramChars) :=
    ⟨not_mem_intercalate (by decide) fun cs hcs => (h.oneLine_paramChars cs hcs).1,
      not_mem_intercalate (by decide) fun cs hcs => (h.oneLine_paramChars cs hcs).2⟩
  unfold Function.head Function.signature
  simp only [oneLine_append]
  exact ⟨hpublic, hasync, by decide, ⟨h.name.oneLine (by decide), by decide⟩,
    ⟨hparams, by decide⟩, h.result.oneLine (by decide)⟩

/-- **The lines of a function.** -/
theorem laid_function (h : f.Readable) : Laid f.pieces f.lines := by
  have hdoc := laid_docPieces (h.doc.oneLine (by decide))
  have hhead := flush_head f
  unfold Function.pieces Function.lines
  cases hbody : f.body with
  | none =>
    have hend : Flush (pieces [";\n"]) (";".toList ++ ['\n']) := flush_pieces [";\n"]
    have hflush := hhead.append hend
    rw [← List.append_assoc] at hflush
    have hline := hflush.laid (oneLine_append.2 ⟨h.oneLine_head, by decide⟩)
    simpa only [List.append_assoc] using hdoc.append hline
  | some ls =>
    have hlines := laid_bracedPieces hhead h.oneLine_head
      (laid_body fun l hl => (h.body ls hbody l hl).oneLine (by decide))
    simpa only [List.append_assoc] using hdoc.append hlines

/-- The lines of some functions. -/
theorem laid_functions {fs : List Function} (h : ∀ f ∈ fs, f.Readable) :
    Laid (functionsPieces fs) (functionsLines fs) := by
  unfold functionsPieces functionsLines
  induction fs with
  | nil => exact .nil
  | cons f fs ih =>
    have hf := laid_function (h f List.mem_cons_self)
    have hfs := ih fun g hg => h g (List.mem_cons_of_mem f hg)
    cases fs with
    | nil =>
      rw [List.map_singleton, List.map_singleton, List.intercalate_singleton]
      exact hf
    | cons g fs =>
      have hempty : Laid (pieces ["\n"]) [[]] :=
        Flush.laid (flush_pieces ["\n"]) Text.oneLine_nil
      simp only [List.map_cons] at hfs ⊢
      rw [List.intercalate_cons_cons]
      exact (hf.append hempty).append hfs

end Functions

/-- **The lines of a structure.** -/
theorem laid_struct {s : Structure} (h : s.Readable) : Laid s.pieces s.lines := by
  have hhead : Flush (pieces ["pub", " ", "struct", " ", s.name])
      ("pub struct ".toList ++ s.name.toList) := by
    simpa using flush_pieces ["pub", " ", "struct", " ", s.name]
  have hfields : Laid (s.fields.flatMap fun b => b.pieces ++ pieces [",\n"])
      (s.fields.map fun b => b.chars ++ [',']) := by
    refine Laid.flatMap fun b hb => Flush.laid ?_ ?_
    · simpa [Binding.chars, Binding.pieces] using
        (flush_pieces [b.name, ": ", b.type]).append (flush_pieces [",\n"])
    · obtain ⟨hname, htype⟩ := h.fields b hb
      unfold Binding.chars
      simp only [oneLine_append]
      exact ⟨⟨⟨hname, by decide⟩, htype⟩, by decide⟩
  have hbraces := laid_bracedPieces hhead (oneLine_append.2 ⟨by decide, h.name⟩) hfields
  unfold Structure.pieces Structure.lines
  rw [if_neg (mt List.isEmpty_iff.1 h.nonempty), List.append_assoc]
  exact (laid_docPieces h.doc).append hbraces

/-- **The lines of an interface.** -/
theorem laid_interface {i : Interface} (h : i.Readable) : Laid i.pieces i.lines := by
  obtain ⟨p, hparents, hp⟩ := h.parents
  have hhead : Flush (pieces ["pub", " ", "trait", " ", i.name] ++
      (if i.parents.isEmpty then []
       else pieces [": "] ++ separated " + " (i.parents.map fun p => pieces [p]))) i.head := by
    unfold Interface.head
    rw [hparents]
    have hall := (flush_pieces ["pub", " ", "trait", " ", i.name]).append
      ((flush_pieces [": "]).append (flush_separated " + " [[p]]))
    simpa [List.intercalate_singleton] using hall
  have hline : OneLine i.head := by
    unfold Interface.head
    rw [hparents]
    simp only [oneLine_append, List.map_singleton, List.intercalate_singleton]
    exact ⟨⟨⟨by decide, h.name.oneLine (by decide)⟩, by decide⟩, hp.oneLine (by decide)⟩
  unfold Interface.pieces Interface.lines
  rw [List.append_assoc (docPieces i.doc), List.append_assoc (docPieces i.doc)]
  exact (laid_docPieces (h.doc.oneLine (by decide))).append
    (laid_bracedPieces hhead hline (laid_functions h.functions))

/-- The lines of named types. -/
theorem laid_types {ts : List Binding} (h : ∀ t ∈ ts, Lacks t.name "\n\r " ∧ Lacks t.type "\n\r") :
    Laid (ts.flatMap fun t => pieces ["type ", t.name, " = ", t.type, ";\n"])
      (ts.map Binding.typeLine) := by
  refine Laid.flatMap fun t ht => Flush.laid ?_ ?_
  · simpa [Binding.typeLine] using flush_pieces ["type ", t.name, " = ", t.type, ";\n"]
  · obtain ⟨hname, htype⟩ := h t ht
    unfold Binding.typeLine
    simp only [oneLine_append]
    exact ⟨by decide, ⟨⟨hname.oneLine (by decide), by decide⟩, htype.oneLine (by decide)⟩,
      by decide⟩

/-- **The lines of a block.** -/
theorem laid_block {b : Block} (h : b.Readable) : Laid b.pieces b.lines := by
  obtain ⟨i, hinterface, hi⟩ := h.interface
  have hhead : Flush (pieces ["impl"] ++ (match b.interface with
      | none => []
      | some i => pieces [" ", i, " for"]) ++ pieces [" ", b.target]) b.head := by
    unfold Block.head
    rw [hinterface]
    have hall := ((flush_pieces ["impl"]).append (flush_pieces [" ", i, " for"])).append
      (flush_pieces [" ", b.target])
    simpa using hall
  have hline : OneLine b.head := by
    unfold Block.head
    rw [hinterface]
    simp only [oneLine_append]
    exact ⟨⟨⟨by decide, ⟨by decide, hi.oneLine (by decide)⟩, by decide⟩, by decide⟩,
      h.target.oneLine (by decide)⟩
  have hgap : Laid (if b.types.isEmpty ∨ b.functions.isEmpty then [] else pieces ["\n"])
      (if b.types.isEmpty ∨ b.functions.isEmpty then [] else [[]]) := by
    split
    · exact .nil
    · exact Flush.laid (flush_pieces ["\n"]) Text.oneLine_nil
  have hbody := (laid_types h.types).append (hgap.append (laid_functions h.functions))
  rw [← List.append_assoc] at hbody
  exact laid_bracedPieces hhead hline hbody

/-! ### Files -/

/-- The text of code that ends its last line. -/
theorem Source.toList_text {s : Source} (h : layoutChars true s.pieces = cs ++ ['\n']) :
    s.text.toList = cs := by
  rw [Source.text, layout, h]
  simp

/-- **The lines of an item behind its mark.** -/
theorem laid_marked {i : Item} {mark : String} (h : Laid i.pieces ls) (hls : ls ≠ [])
    (hmark : OneLine mark.toList) : Laid (marked mark i).pieces (mark.toList :: ls) := by
  obtain ⟨init, hinit⟩ : ∃ init, unlines ls = init ++ ['\n'] :=
    (List.getLast?_eq_some_iff).1 (Text.getLast?_unlines hls)
  have htext : (Source.text ⟨[], [i]⟩).toList = init := Source.toList_text (h.chars.trans hinit)
  have hchars : Flush (marked mark i).pieces (unlines (mark.toList :: ls)) := by
    have hall := flush_pieces [mark ++ "\n" ++ Source.text ⟨[], [i]⟩, "\n"]
    have htexts : [mark ++ "\n" ++ Source.text ⟨[], [i]⟩, "\n"].flatMap String.toList =
        unlines (mark.toList :: ls) := by
      simp [htext, hinit]
    rwa [htexts] at hall
  have hline : ∀ l ∈ mark.toList :: ls, OneLine l := by
    intro l hl
    rcases List.mem_cons.1 hl with rfl | hl
    · exact hmark
    · exact h.oneLine l hl
  refine ⟨hchars.layoutChars_eq (fun hreturn => ?_) true, hline⟩
  obtain ⟨l, hl, hmem⟩ := List.mem_flatMap.1 hreturn
  rcases List.mem_append.1 hmem with hmem | hmem
  · exact (hline l hl).2 hmem
  · exact absurd hmem (by decide)

theorem separated_append (sep : String) {pss qss : List (List Piece)} (hp : pss ≠ [])
    (hq : qss ≠ []) :
    separated sep (pss ++ qss) = separated sep pss ++ pieces [sep] ++ separated sep qss := by
  induction pss with
  | nil => exact absurd rfl hp
  | cons p pss ih =>
    cases pss with
    | nil =>
      obtain ⟨q, qss, rfl⟩ := List.exists_cons_of_ne_nil hq
      rfl
    | cons p' pss =>
      have hrest := ih (List.cons_ne_nil p' pss)
      show p ++ pieces [sep] ++ separated sep (p' :: pss ++ qss) = _
      rw [hrest]
      simp only [separated, List.append_assoc]

/-- What stands before the last items of a source ends its line. -/
theorem exists_sourcePieces_eq (imports : List (String × String)) (before : List Item)
    {items : List Item} (h : items ≠ []) :
    ∃ ps, Source.pieces ⟨imports, before ++ items⟩ = ps ++ separated "\n" (items.map Item.pieces) ∧
      (ps = [] ∨ ∃ qs, ps = qs ++ pieces ["\n"]) := by
  have hitems : items.map Item.pieces ≠ [] := mt List.map_eq_nil_iff.1 h
  let s : Source := ⟨imports, before ++ items⟩
  have hall : s.pieces = s.groupedImports.flatMap Source.importPieces ++
      (if s.groupedImports.isEmpty then [] else pieces ["\n"]) ++
        separated "\n" (before.map Item.pieces ++ items.map Item.pieces) := by
    rw [← List.map_append]
    rfl
  cases before with
  | nil =>
    refine ⟨_, hall, ?_⟩
    cases s.groupedImports with
    | nil => exact .inl rfl
    | cons i is => exact .inr ⟨_, rfl⟩
  | cons i is =>
    rw [separated_append "\n" (by simp) hitems, ← List.append_assoc] at hall
    exact ⟨_, hall, .inr ⟨_, (List.append_assoc _ _ _).symm⟩⟩

/-- **The items at the end of a file.** -/
theorem exists_file_eq (heading : List String) (imports : List (String × String))
    (before : List Item) {items : List Item} (hitems : items ≠ [])
    (h : layoutChars true (separated "\n" (items.map Item.pieces)) = cs ++ ['\n']) :
    ∃ start, (file heading ⟨imports, before ++ items⟩).toList =
      start ++ '\n' :: (cs ++ ['\n']) := by
  obtain ⟨ps, hpieces, hps⟩ := exists_sourcePieces_eq imports before hitems
  have hends : ∃ start, '\n' :: layoutChars true ps = start ++ ['\n'] := by
    rcases hps with rfl | ⟨qs, rfl⟩
    · exact ⟨[], rfl⟩
    · rw [layoutChars_append, layoutChars_pieces]
      exact ⟨'\n' :: layoutChars true qs, rfl⟩
  obtain ⟨start, hstart⟩ := hends
  have hfresh : endsFresh true (layoutChars true ps) = true := by
    have hcons : endsFresh true ('\n' :: layoutChars true ps) =
        endsFresh true (layoutChars true ps) := endsFresh_cons true '\n' _
    rw [← hcons, hstart, endsFresh_append]
    rfl
  have htext : (Source.text ⟨imports, before ++ items⟩).toList = layoutChars true ps ++ cs := by
    apply Source.toList_text
    rw [hpieces, layoutChars_append, hfresh, h, List.append_assoc]
  refine ⟨(String.intercalate "\n" heading).toList ++ '\n' :: start, ?_⟩
  have hheading : (file heading ⟨imports, before ++ items⟩).toList =
      (String.intercalate "\n" heading).toList ++
        '\n' :: ('\n' :: layoutChars true ps ++ (cs ++ ['\n'])) := by
    simp [file, htext]
  rw [hheading, hstart]
  simp

/-- Every item ends its last line. -/
theorem exists_item_pieces_eq (i : Item) : ∃ ps t, i.pieces = ps ++ pieces [t] ∧
    (Text.withoutReturns t.toList).getLast? = some '\n' := by
  have hbraces (head body : List Piece) : ∃ ps t, head ++ bracedPieces body = ps ++ pieces [t] ∧
      (Text.withoutReturns t.toList).getLast? = some '\n' :=
    ⟨head ++ (pieces [" ", "\x7b\n"] ++ deeper body), "\x7d\n", by simp [bracedPieces], by decide⟩
  have hdone (head : List Piece) : ∃ ps t, head ++ pieces [";\n"] = ps ++ pieces [t] ∧
      (Text.withoutReturns t.toList).getLast? = some '\n' :=
    ⟨head, ";\n", rfl, by decide⟩
  cases i with
  | function f =>
    simp only [Item.pieces, Function.pieces]
    cases f.body with
    | none => exact hdone _
    | some ls => exact hbraces _ _
  | struct s =>
    simp only [Item.pieces, Structure.pieces]
    split
    · exact hdone _
    · exact hbraces _ _
  | interface i => exact hbraces _ _
  | block b => exact hbraces _ _
  | raw text => exact ⟨pieces [text], "\n", rfl, by decide⟩

/-- What is before the last character of some items. -/
theorem exists_items_eq (fresh : Bool) {items : List Item} (h : items ≠ []) :
    ∃ cs, layoutChars fresh (separated "\n" (items.map Item.pieces)) = cs ++ ['\n'] := by
  obtain ⟨is, i, rfl⟩ : ∃ is i, items = is ++ [i] :=
    ⟨_, _, (List.dropLast_concat_getLast h).symm⟩
  obtain ⟨ps, t, hps, ht⟩ := exists_item_pieces_eq i
  obtain ⟨qs, hqs⟩ : ∃ qs, separated "\n" ((is ++ [i]).map Item.pieces) = qs ++ pieces [t] := by
    rw [List.map_append, List.map_singleton]
    cases is with
    | nil => exact ⟨ps, hps⟩
    | cons j js =>
      rw [separated_append "\n" (by simp) (List.cons_ne_nil _ _), separated, hps]
      exact ⟨_, (List.append_assoc _ _ _).symm⟩
  obtain ⟨cs, hcs⟩ := List.getLast?_eq_some_iff.1 ht
  rw [hqs, layoutChars_append, layoutChars_pieces, List.flatMap_singleton, hcs, ← List.append_assoc]
  exact ⟨_, rfl⟩

/-- **An item of a file**, wherever it stands. -/
theorem exists_file_item {i : Item} (h : Laid i.pieces ls) (heading : List String)
    (imports : List (String × String)) (before : List Item) {after : List Item}
    (hafter : after ≠ []) :
    ∃ start rest, (file heading ⟨imports, before ++ i :: after⟩).toList =
      start ++ '\n' :: (unlines ls ++ rest) := by
  have hitems : ∃ rest, layoutChars true (separated "\n" ((i :: after).map Item.pieces)) =
      unlines ls ++ rest := by
    have hpieces : after.map Item.pieces ≠ [] := mt List.map_eq_nil_iff.1 hafter
    have hcut := separated_append "\n" (List.cons_ne_nil i.pieces []) hpieces
    rw [List.singleton_append] at hcut
    rw [List.map_cons, hcut, separated, List.append_assoc, layoutChars_append, h.chars]
    exact ⟨_, rfl⟩
  obtain ⟨rest, hrest⟩ := hitems
  obtain ⟨cs, hcs⟩ := exists_items_eq true (List.cons_ne_nil i after)
  obtain ⟨start, hstart⟩ := exists_file_eq heading imports before (List.cons_ne_nil i after) hcs
  rw [hstart, ← hcs, hrest]
  exact ⟨start, rest, rfl⟩

/-- The lines of a marked item at the end of a file. -/
theorem exists_file_marked {i : Item} {mark : String} (h : Laid i.pieces ls) (hls : ls ≠ [])
    (hmark : OneLine mark.toList) (heading : List String) (imports : List (String × String))
    (before : List Item) :
    ∃ start, (file heading ⟨imports, before ++ [marked mark i]⟩).toList =
      start ++ '\n' :: unlines (mark.toList :: ls) := by
  have hlaid := laid_marked h hls hmark
  obtain ⟨init, hinit⟩ : ∃ init, unlines (mark.toList :: ls) = init ++ ['\n'] :=
    List.getLast?_eq_some_iff.1 (Text.getLast?_unlines (List.cons_ne_nil _ ls))
  rw [hinit]
  exact exists_file_eq heading imports before (List.cons_ne_nil _ []) (hlaid.chars.trans hinit)

end GraphLayer.Code
