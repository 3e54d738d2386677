import GraphLayer.Code.Layout
import GraphLayer.Proofs.Text.Lines

/-!
# Laws of the layout

* `shift`, a text further in, line by line, and `Piece.chars_eq`: what is written at once is such a
  text, and nothing else is changed but the ends of its lines;
* `layoutChars_append` and `layoutChars_deeper`: pieces one after the other, and further in;
* `Flush`, pieces without indentation that make a text: `Flush.layoutChars_eq`;
* `Laid`, pieces that make some lines, with `Laid.append`, `Laid.flatMap`, `Laid.deeper` and
  `Flush.laid`.
-/

namespace GraphLayer.Code

variable {n m : Nat} {fresh : Bool} {cs ds : List Char} {ps qs : List Piece}

/-! ### Texts further in -/

/-- A text with blanks in front of each line that is not empty; `fresh` says whether it begins a
line. -/
def shift (n : Nat) : Bool → List Char → List Char
  | _, [] => []
  | fresh, c :: cs =>
    (if fresh ∧ c ≠ '\n' then List.replicate n ' ' else []) ++ c :: shift n (c == '\n') cs

theorem endsFresh_append (fresh : Bool) (cs ds : List Char) :
    endsFresh fresh (cs ++ ds) = endsFresh (endsFresh fresh cs) ds := by
  cases hlast : ds.getLast? with
  | none => simp [endsFresh, List.getLast?_append, hlast]
  | some c => simp [endsFresh, List.getLast?_append, hlast]

theorem endsFresh_cons (fresh : Bool) (c : Char) (cs : List Char) :
    endsFresh fresh (c :: cs) = endsFresh (c == '\n') cs :=
  endsFresh_append fresh [c] cs

theorem shift_append (n : Nat) (fresh : Bool) (cs ds : List Char) :
    shift n fresh (cs ++ ds) = shift n fresh cs ++ shift n (endsFresh fresh cs) ds := by
  induction cs generalizing fresh with
  | nil => rfl
  | cons c cs ih =>
    rw [List.cons_append, shift, shift, ih, endsFresh_cons, List.append_assoc, List.cons_append]

/-- Inside a line nothing is put in front. -/
theorem shift_false {l : List Char} (h : '\n' ∉ l) (n : Nat) : shift n false l = l := by
  induction l with
  | nil => rfl
  | cons c l ih =>
    obtain ⟨hc, hl⟩ := List.ne_and_not_mem_of_not_mem_cons h
    have hfresh : (c == '\n') = false := beq_eq_false_iff_ne.2 (Ne.symm hc)
    rw [shift, hfresh, ih hl]
    rfl

/-- A line is indented where it begins. -/
theorem shift_line {l : List Char} (h : '\n' ∉ l) (n : Nat) (fresh : Bool) :
    shift n fresh l = if fresh then indented n l else l := by
  cases l with
  | nil => cases fresh <;> rfl
  | cons c l =>
    obtain ⟨hc, hl⟩ := List.ne_and_not_mem_of_not_mem_cons h
    have hfresh : (c == '\n') = false := beq_eq_false_iff_ne.2 (Ne.symm hc)
    rw [shift, hfresh, shift_false hl]
    cases fresh with
    | false => rfl
    | true => simp [indented, Ne.symm hc]

theorem shift_newline (n : Nat) (fresh : Bool) (cs : List Char) :
    shift n fresh ('\n' :: cs) = '\n' :: shift n true cs := by
  cases fresh <;> rfl

/-- The first line of a text further in, and those after it. -/
theorem shift_append_newline {l : List Char} (h : '\n' ∉ l) (n : Nat) (fresh : Bool)
    (cs : List Char) :
    shift n fresh (l ++ '\n' :: cs) =
      (if fresh then indented n l else l) ++ '\n' :: shift n true cs := by
  rw [shift_append, shift_line h, shift_newline]

/-- Where a text ends does not depend on where it is. -/
theorem endsFresh_shift (n : Nat) (fresh fresh' : Bool) (cs : List Char) :
    endsFresh fresh (shift n fresh' cs) = endsFresh fresh cs := by
  induction cs generalizing fresh fresh' with
  | nil => rfl
  | cons c cs ih =>
    rw [shift, endsFresh_append, endsFresh_cons, endsFresh_cons, ih]

/-- A text that is put further in twice. -/
theorem shift_shift (m n : Nat) (fresh : Bool) (cs : List Char) :
    shift m fresh (shift n fresh cs) = shift (n + m) fresh cs := by
  induction cs generalizing fresh with
  | nil => rfl
  | cons c cs ih =>
    by_cases hfresh : fresh ∧ c ≠ '\n'
    · obtain ⟨rfl, hc⟩ := hfresh
      have hblanks : '\n' ∉ List.replicate n ' ' := fun h =>
        absurd (List.eq_of_mem_replicate h) (by decide)
      have hword : (List.replicate n ' ' ++ [c]).isEmpty = false := by simp
      have hline : '\n' ∉ List.replicate n ' ' ++ [c] := by
        simpa [hblanks] using Ne.symm hc
      have hsplit (k : Nat) : shift k true (c :: cs) =
          List.replicate k ' ' ++ [c] ++ shift k (c == '\n') cs := by
        simp [shift, hc]
      rw [hsplit, hsplit, shift_append, shift_line hline, endsFresh_append, endsFresh_cons]
      simp only [indented, hword, if_true, Bool.false_eq_true, if_false]
      rw [← ih]
      simp only [← List.append_assoc, List.replicate_append_replicate, Nat.add_comm m n]
      rfl
    · have hsplit (k : Nat) : shift k fresh (c :: cs) = c :: shift k (c == '\n') cs := by
        rw [shift, if_neg hfresh, List.nil_append]
      rw [hsplit, hsplit, ← ih, shift, if_neg hfresh, List.nil_append]

/-- Lines that are put further in. -/
theorem shift_unlines {ls : List (List Char)} (h : ∀ l ∈ ls, '\n' ∉ l) (n : Nat) :
    shift n true (Text.unlines ls) = Text.unlines (ls.map (indented n)) := by
  induction ls with
  | nil => rfl
  | cons l ls ih =>
    rw [Text.unlines_cons, shift_append_newline (h l List.mem_cons_self),
      ih fun m hm => h m (List.mem_cons_of_mem l hm), List.map_cons, Text.unlines_cons]
    rfl

/-! ### Pieces -/

/-- A piece that does not end its line. -/
theorem chars_line {l : List Char} (h : '\n' ∉ l) (n : Nat) (fresh : Bool) :
    Piece.chars fresh ⟨n, String.ofList l⟩ = if fresh then indented n l else l := by
  have hlast : ¬ l.getLast? = some '\n' := fun hlast => h (List.mem_of_getLast? hlast)
  unfold Piece.chars
  dsimp only
  rw [String.toList_ofList, Text.lines_of_not_mem h, if_neg hlast, List.append_nil]
  cases l with
  | nil => cases fresh <;> rfl
  | cons c l => simp

/-- What comes after the first line of a piece begins a line. -/
theorem chars_append_newline {l : List Char} (h : '\n' ∉ l) (n : Nat) (fresh : Bool)
    (cs : List Char) :
    Piece.chars fresh ⟨n, String.ofList (l ++ '\n' :: cs)⟩ =
      (if fresh then indented n (Text.dropReturn l) else Text.dropReturn l) ++
        '\n' :: Piece.chars true ⟨n, String.ofList cs⟩ := by
  unfold Piece.chars
  dsimp only
  rw [String.toList_ofList, String.toList_ofList, Text.lines_append h]
  cases cs with
  | nil => simp [Text.lines, Text.splitLines]
  | cons c cs =>
    have hlast : (l ++ '\n' :: c :: cs).getLast? = (c :: cs).getLast? := by
      rw [List.getLast?_append, List.getLast?_cons_cons,
        List.getLast?_eq_some_getLast (List.cons_ne_nil c cs), Option.some_or]
    obtain ⟨k, ks, hlines⟩ := List.exists_cons_of_ne_nil (Text.lines_ne_nil (List.cons_ne_nil c cs))
    rw [hlast, hlines]
    simp

/-- What is written at once is its text further in; only the ends of its lines may differ. -/
theorem Piece.chars_eq (fresh : Bool) (p : Piece) :
    p.chars fresh = shift p.indent fresh (Text.withoutReturns p.text.toList) := by
  have hchars (cs : List Char) : Piece.chars fresh ⟨p.indent, String.ofList cs⟩ =
      shift p.indent fresh (Text.withoutReturns cs) := by
    induction hlength : cs.length using Nat.strongRecOn generalizing cs fresh with
    | ind k ih =>
      by_cases hmem : '\n' ∈ cs
      · obtain ⟨l, rest, rfl, hl⟩ := List.eq_append_cons_of_mem hmem
        have hrest : rest.length < k := by
          rw [← hlength, List.length_append, List.length_cons]
          omega
        rw [chars_append_newline hl, ih rest.length hrest true rest rfl,
          Text.withoutReturns_append_cons hl, shift_append_newline (Text.not_mem_dropReturn hl)]
      · rw [chars_line hmem, Text.withoutReturns_of_not_mem hmem, shift_line hmem]
  rw [← hchars, String.ofList_toList]

theorem layoutChars_append (fresh : Bool) (ps qs : List Piece) :
    layoutChars fresh (ps ++ qs) =
      layoutChars fresh ps ++ layoutChars (endsFresh fresh (layoutChars fresh ps)) qs := by
  induction ps generalizing fresh with
  | nil => rfl
  | cons p ps ih =>
    rw [List.cons_append, layoutChars, layoutChars, ih, endsFresh_append, List.append_assoc]

/-- **Pieces further in** make the same text further in. -/
theorem layoutChars_deeper (fresh : Bool) (ps : List Piece) :
    layoutChars fresh (deeper ps) = shift 4 fresh (layoutChars fresh ps) := by
  induction ps generalizing fresh with
  | nil => rfl
  | cons p ps ih =>
    have hpiece : Piece.chars fresh { p with indent := p.indent + 4 } =
        shift 4 fresh (p.chars fresh) := by
      rw [Piece.chars_eq, Piece.chars_eq, shift_shift]
    show Piece.chars fresh { p with indent := p.indent + 4 } ++ layoutChars _ (deeper ps) = _
    rw [ih, hpiece, layoutChars, shift_append, endsFresh_shift]

/-! ### Pieces without indentation -/

/-- Pieces without indentation that make a text together. -/
def Flush (ps : List Piece) (cs : List Char) : Prop :=
  ∃ texts, ps = pieces texts ∧ texts.flatMap String.toList = cs

theorem flush_pieces (texts : List String) :
    Flush (pieces texts) (texts.flatMap String.toList) :=
  ⟨texts, rfl, rfl⟩

theorem Flush.nil : Flush [] [] := flush_pieces []

theorem Flush.append (hps : Flush ps cs) (hqs : Flush qs ds) : Flush (ps ++ qs) (cs ++ ds) := by
  obtain ⟨ts, rfl, rfl⟩ := hps
  obtain ⟨us, rfl, rfl⟩ := hqs
  exact ⟨ts ++ us, List.map_append.symm, List.flatMap_append⟩

theorem shift_zero (fresh : Bool) (cs : List Char) : shift 0 fresh cs = cs := by
  induction cs generalizing fresh with
  | nil => rfl
  | cons c cs ih => simp [shift, ih]

/-- Without indentation only the ends of lines inside a piece may differ from its text. -/
theorem layoutChars_pieces (fresh : Bool) (texts : List String) :
    layoutChars fresh (pieces texts) =
      texts.flatMap fun t => Text.withoutReturns t.toList := by
  induction texts generalizing fresh with
  | nil => rfl
  | cons t texts ih =>
    show Piece.chars fresh ⟨0, t⟩ ++ layoutChars _ (pieces texts) = _
    rw [ih, Piece.chars_eq, shift_zero, List.flatMap_cons]

/-- A text without carriage returns is laid out as it is. -/
theorem Flush.layoutChars_eq (h : Flush ps cs) (hcs : '\r' ∉ cs) (fresh : Bool) :
    layoutChars fresh ps = cs := by
  obtain ⟨texts, rfl, rfl⟩ := h
  rw [layoutChars_pieces, List.flatMap_def, List.flatMap_def]
  refine congrArg List.flatten (List.map_congr_left fun t ht => ?_)
  exact Text.withoutReturns_eq_self fun h => hcs (List.mem_flatMap.2 ⟨t, ht, h⟩)

/-! ### Pieces that make lines -/

/-- Pieces that begin with a line and make these lines, none of which is cut by another end of a
line. -/
structure Laid (ps : List Piece) (ls : List (List Char)) : Prop where
  chars : layoutChars true ps = Text.unlines ls
  oneLine : ∀ l ∈ ls, Text.OneLine l

namespace Laid

variable {ls ms : List (List Char)}

theorem nil : Laid [] [] := ⟨rfl, nofun⟩

theorem append (hps : Laid ps ls) (hqs : Laid qs ms) : Laid (ps ++ qs) (ls ++ ms) where
  chars := by
    have hfresh : endsFresh true (Text.unlines ls) = true := by
      by_cases hls : ls = []
      · rw [hls]
        rfl
      · rw [endsFresh, Text.getLast?_unlines hls]
        rfl
    rw [layoutChars_append, hps.chars, hfresh, hqs.chars, Text.unlines_append]
  oneLine l hl := (List.mem_append.1 hl).elim (hps.oneLine l) (hqs.oneLine l)

/-- One line for each item of a list. -/
theorem flatMap {α : Type} {parts : α → List Piece} {line : α → List Char} {xs : List α}
    (h : ∀ x ∈ xs, Laid (parts x) [line x]) : Laid (xs.flatMap parts) (xs.map line) := by
  induction xs with
  | nil => exact .nil
  | cons x xs ih =>
    exact (h x List.mem_cons_self).append (ih fun y hy => h y (List.mem_cons_of_mem x hy))

theorem oneLine_indented {l : List Char} (h : Text.OneLine l) (n : Nat) :
    Text.OneLine (indented n l) := by
  have hblanks : Text.OneLine (List.replicate n ' ') :=
    ⟨fun h => absurd (List.eq_of_mem_replicate h) (by decide),
      fun h => absurd (List.eq_of_mem_replicate h) (by decide)⟩
  unfold indented
  split
  · exact Text.oneLine_nil
  · exact Text.oneLine_append.2 ⟨hblanks, h⟩

/-- **Lines further in.** -/
theorem deeper (h : Laid ps ls) : Laid (deeper ps) (ls.map (indented 4)) where
  chars := by
    rw [layoutChars_deeper, h.chars, shift_unlines fun l hl => (h.oneLine l hl).1]
  oneLine l hl := by
    obtain ⟨m, hm, rfl⟩ := List.mem_map.1 hl
    exact oneLine_indented (h.oneLine m hm) 4

end Laid

/-- One line, put together of pieces. -/
theorem Flush.laid {l : List Char} (h : Flush ps (l ++ ['\n'])) (hl : Text.OneLine l) :
    Laid ps [l] where
  chars := by
    have hreturn : '\r' ∉ l ++ ['\n'] := by
      simpa using hl.2
    rw [h.layoutChars_eq hreturn]
    simp
  oneLine m hm := by
    obtain rfl := List.mem_singleton.1 hm
    exact hl

end GraphLayer.Code
