import GraphLayer.Proofs.Data.Except
import GraphLayer.Proofs.Schema.Names
import GraphLayer.Proofs.Text.Lines
import GraphLayer.Proofs.Text.Trim
import GraphLayer.Types.Source

/-!
# The grammar of types

Types are read from the ends of a text, after the blanks around it: `[]` at the end comes first,
then `List<` and `>`, then a name.

* `parseChars_brackets`, `parseChars_angles` and `parseChars_name`: how a text of each shape is
  read;
* `derives_of_parseChars` and `parseChars_of_derives`: what is read has a derivation, and what has
  one is read as it says;
* `ofName_eq_iff`, the meaning of names;
* `accepts_grammar`: the reader accepts the texts of the grammar, and all derivations of a text have
  the meaning that is read.
-/

namespace GraphLayer.SourceType

open Text

variable {cs item name : List Char} {s : String} {t : SourceType} {c : Char}

/-! ### Names -/

/-- No character of a name is a blank, or one of those around types. -/
theorem plain_of_continuesIdentifier (h : continuesIdentifier c = true) :
    isBlank c = false ∧ c ≠ ']' ∧ c ≠ '<' := by
  rcases Bool.or_eq_true_iff.1 h with h | h
  · exact Schema.forall_continuesName (P := fun c => isBlank c = false ∧ c ≠ ']' ∧ c ≠ '<')
      (by decide) h
  · obtain rfl := beq_iff_eq.1 h
    decide

theorem continuesIdentifier_of_isIdentifier (h : isIdentifier name = true) (hc : c ∈ name) :
    continuesIdentifier c = true := by
  cases name with
  | nil => cases h
  | cons a name =>
    obtain ⟨hstart, hrest⟩ := Bool.and_eq_true_iff.1 h
    rcases List.mem_cons.1 hc with rfl | hc
    · simp only [startsIdentifier, continuesIdentifier, Char.isAlphanum, Bool.or_eq_true]
        at hstart ⊢
      exact .inl (hstart.imp_left .inl)
    · exact List.all_eq_true.1 hrest c hc

theorem plain_of_isIdentifier (h : isIdentifier name = true) (hc : c ∈ name) :
    isBlank c = false ∧ c ≠ ']' ∧ c ≠ '<' :=
  plain_of_continuesIdentifier (continuesIdentifier_of_isIdentifier h hc)

/-- A name is a word of the vocabulary, or it stands for the class of this name. -/
theorem ofName_eq_iff :
    ofName s = t ↔ (s, t) ∈ vocabulary ∨ s ∉ vocabulary.map Prod.fst ∧ t = named s := by
  have hwords : ∀ p ∈ vocabulary, vocabulary.lookup p.1 = some p.2 := by decide
  by_cases hs : s ∈ vocabulary.map Prod.fst
  · obtain ⟨⟨word, u⟩, hp, rfl⟩ := List.mem_map.1 hs
    have hlookup := hwords _ hp
    rw [ofName, hlookup, Option.getD_some]
    constructor
    · rintro rfl
      exact .inl hp
    · rintro (ht | ⟨hnone, -⟩)
      · exact Option.some.inj (hlookup.symm.trans (hwords _ ht))
      · exact absurd hs hnone
  · have hlookup : vocabulary.lookup s = none := by
      rw [List.lookup_eq_none_iff]
      intro p hp
      have hne : s ≠ p.1 := fun h => hs (h ▸ List.mem_map_of_mem hp)
      simpa using hne
    rw [ofName, hlookup, Option.getD_none]
    constructor
    · rintro rfl
      exact .inr ⟨hs, rfl⟩
    · rintro (ht | ⟨-, rfl⟩)
      · exact absurd (List.mem_map_of_mem ht) hs
      · rfl

/-! ### The shapes of a text -/

theorem parseChars_eq (cs : List Char) : parseChars cs =
    match stripEnd? ['[', ']'] (trimChars cs) with
    | some item => (parseChars item).map array
    | none =>
      match stripStart? ['L', 'i', 's', 't', '<'] (trimChars cs) with
      | some rest =>
        match stripEnd? ['>'] rest with
        | some item => (parseChars item).map array
        | none => .error ⟨String.ofList cs⟩
      | none =>
        if isIdentifier (trimChars cs) then .ok (ofName (String.ofList (trimChars cs)))
        else .error ⟨String.ofList cs⟩ := by
  rw [parseChars]
  dsimp only
  split
  · next h => rw [h]
  · next h =>
    rw [h]
    dsimp only
    split
    · next rest hrest =>
      rw [hrest]
      dsimp only
      split
      · next h => rw [h]
      · next h => rw [h]
    · next hrest => rw [hrest]

theorem parseChars_brackets (h : trimChars cs = item ++ ['[', ']']) :
    parseChars cs = (parseChars item).map array := by
  rw [parseChars_eq, stripEnd?_eq_some_iff.2 h]

theorem parseChars_angles (h : trimChars cs = ['L', 'i', 's', 't', '<'] ++ (item ++ ['>'])) :
    parseChars cs = (parseChars item).map array := by
  -- a text has only one last character
  have hend : stripEnd? ['[', ']'] (trimChars cs) = none := by
    apply Option.eq_none_iff_forall_ne_some.2
    intro rest hrest
    have hlast := congrArg List.getLast? (h.symm.trans (stripEnd?_eq_some_iff.1 hrest))
    simp only [← List.append_assoc, List.getLast?_append] at hlast
    cases hlast
  rw [parseChars_eq, hend, stripStart?_eq_some_iff.2 h]
  dsimp only
  rw [stripEnd?_append]

theorem parseChars_name (hname : isIdentifier name = true) (h : trimChars cs = name) :
    parseChars cs = .ok (ofName (String.ofList name)) := by
  have hend : stripEnd? ['[', ']'] name = none := by
    apply Option.eq_none_iff_forall_ne_some.2
    intro rest hrest
    have hmem : ']' ∈ name := by simp [stripEnd?_eq_some_iff.1 hrest]
    exact (plain_of_isIdentifier hname hmem).2.1 rfl
  have hstart : stripStart? ['L', 'i', 's', 't', '<'] name = none := by
    apply Option.eq_none_iff_forall_ne_some.2
    intro rest hrest
    have hmem : '<' ∈ name := by simp [stripStart?_eq_some_iff.1 hrest]
    exact (plain_of_isIdentifier hname hmem).2.2 rfl
  rw [parseChars_eq, h, hend, hstart]
  exact if_pos hname

/-! ### Derivations -/

/-- What is read as a type has a derivation. -/
theorem derives_of_parseChars (h : parseChars cs = .ok t) : Derives cs t := by
  fun_induction parseChars cs generalizing t with
  | case1 cs text item hitem _ =>
    rename_i ih
    obtain ⟨u, hu, rfl⟩ := map_eq_ok_iff.1 h
    obtain ⟨left, right, hleft, hright, hcs⟩ := exists_trimChars cs
    have htext : trimChars cs = item ++ ['[', ']'] := stripEnd?_eq_some_iff.1 hitem
    rw [hcs, htext]
    exact .brackets hleft hright (ih hu)
  | case2 cs text _ rest hrest item hitem _ =>
    rename_i ih
    obtain ⟨u, hu, rfl⟩ := map_eq_ok_iff.1 h
    obtain ⟨left, right, hleft, hright, hcs⟩ := exists_trimChars cs
    have htext : trimChars cs = ['L', 'i', 's', 't', '<'] ++ rest := stripStart?_eq_some_iff.1 hrest
    rw [hcs, htext, stripEnd?_eq_some_iff.1 hitem, ← List.append_assoc _ item]
    exact .angles hleft hright (ih hu)
  | case3 => cases h
  | case4 cs text _ _ =>
    rename_i hname
    obtain ⟨left, right, hleft, hright, hcs⟩ := exists_trimChars cs
    obtain rfl := Except.ok.inj h
    have hbase := Derives.base hleft hright hname
    rwa [← hcs] at hbase
  | case5 => cases h

/-- A text with a derivation is read as it says, whatever blanks are around it. -/
theorem parseChars_of_derives (h : Derives cs t) {ds : List Char}
    (hds : trimChars ds = trimChars cs) : parseChars ds = .ok t := by
  induction h generalizing ds with
  | @base left right name hleft hright hname =>
    have hplain : trimChars name = name :=
      trimChars_eq_self fun c hc => (plain_of_isIdentifier hname hc).1
    rw [trimChars_blanks hleft hright, hplain] at hds
    exact parseChars_name hname hds
  | @brackets left right cs t hleft hright _ ih =>
    -- the blanks before the item are those before the whole
    have hshape : trimChars ds = cs.dropWhile isBlank ++ ['[', ']'] := by
      rw [hds, trimChars_blanks hleft hright, List.append_cons, trimChars_concat (by decide),
        dropWhile_append_cons (by decide), List.append_assoc]
      rfl
    rw [parseChars_brackets hshape, ih (trimChars_dropWhile cs)]
    rfl
  | @angles left right cs t hleft hright _ ih =>
    have hshape : trimChars ds = ['L', 'i', 's', 't', '<'] ++ (cs ++ ['>']) := by
      rw [hds, trimChars_blanks hleft hright, trimChars_concat (by decide)]
      rfl
    rw [parseChars_angles hshape, ih rfl]
    rfl

theorem parse_eq_ok_iff : parse s = .ok t ↔ Derives s.toList t :=
  ⟨derives_of_parseChars, fun h => parseChars_of_derives h rfl⟩

/-- All derivations of a text have the same meaning. -/
theorem Derives.unique {u : SourceType} (h : Derives cs t) (h' : Derives cs u) : t = u :=
  Except.ok.inj ((parseChars_of_derives h rfl).symm.trans (parseChars_of_derives h' rfl))

/-- **The reader of types accepts exactly its grammar.**  A text is read as a type if the grammar
derives it with this meaning, and all derivations of the text have the same; a text without a
derivation is an error.  As a name, a word of the vocabulary has its own meaning and any other text
stands for a class. -/
theorem accepts_grammar (s : String) :
    (∀ t, parse s = .ok t ↔ Derives s.toList t) ∧
    (∀ t u, Derives s.toList t → Derives s.toList u → t = u) ∧
    ((∃ e, parse s = .error e) ↔ ∀ t, ¬ Derives s.toList t) ∧
    ∀ t, ofName s = t ↔ (s, t) ∈ vocabulary ∨ s ∉ vocabulary.map Prod.fst ∧ t = named s := by
  refine ⟨fun t => parse_eq_ok_iff, fun t u h h' => h.unique h', ?_, fun t => ofName_eq_iff⟩
  constructor
  · rintro ⟨e, he⟩ t ht
    rw [parse_eq_ok_iff.2 ht] at he
    cases he
  · intro hnone
    cases hs : parse s with
    | error e => exact ⟨e, rfl⟩
    | ok t => exact absurd (parse_eq_ok_iff.1 hs) (hnone t)

/-- Blanks around a name and its brackets do not count, and a list of one class is all that such a
text can mean. -/
theorem accepts_grammar_blanks : Derives " A []".toList (array (named "A")) ∧
    parse " A []" = .ok (array (named "A")) ∧
    ∀ t, Derives " A []".toList t → t = array (named "A") := by
  obtain ⟨hparse, hunique, -⟩ := accepts_grammar " A []"
  have hname : ofName (String.ofList ['A']) = named "A" := ofName_eq_iff.2 (.inr (by decide))
  have hitem : Derives ([] ++ ['A'] ++ [' ']) (ofName (String.ofList ['A'])) :=
    .base rfl (by decide) (by decide)
  rw [hname] at hitem
  have hlist : Derives ([' '] ++ (['A', ' '] ++ ['[', ']']) ++ []) (array (named "A")) :=
    .brackets (by decide) rfl hitem
  exact ⟨hlist, (hparse _).2 hlist, fun t ht => hunique t _ ht hlist⟩

end GraphLayer.SourceType
