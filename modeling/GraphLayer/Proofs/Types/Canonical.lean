import GraphLayer.Proofs.Types.Grammar

/-!
# The canonical text of a type

* `SourceType.WellNamed`, a type whose class does not have the name of another type;
* `derives_text`: the text of such a type has a derivation with this meaning, and
  `wellNamed_of_derives`: every type with a derivation is one;
* `text_canonical`: the text of a type that has been read is read as this type.
-/

namespace GraphLayer.SourceType

variable {cs : List Char} {t : SourceType}

/-- The class at the leaf, if there is one, has the name of a class. -/
def WellNamed : SourceType → Prop
  | named name => isIdentifier name.toList = true ∧ name ∉ vocabulary.map Prod.fst
  | array item => item.WellNamed
  | _ => True

instance decidableWellNamed : DecidablePred WellNamed
  | primitive _ => .isTrue trivial
  | boxed _ => .isTrue trivial
  | string => .isTrue trivial
  | array item => decidableWellNamed item
  | void => .isTrue trivial
  | named name =>
    inferInstanceAs (Decidable (isIdentifier name.toList = true ∧ name ∉ vocabulary.map Prod.fst))

/-- A word of the vocabulary is a text of the type that it means. -/
theorem derives_word {word : String} (h : (word, t) ∈ vocabulary) : Derives word.toList t := by
  have hwords : ∀ p ∈ vocabulary, isIdentifier p.1.toList = true := by decide
  have hbase : Derives ([] ++ word.toList ++ []) (ofName (String.ofList word.toList)) :=
    .base rfl rfl (hwords _ h)
  rwa [List.nil_append, List.append_nil, String.ofList_toList,
    ofName_eq_iff.2 (.inl h)] at hbase

theorem derives_text (h : t.WellNamed) : Derives t.text.toList t := by
  induction t with
  | primitive k =>
    apply derives_word
    cases k <;> decide
  | boxed k =>
    apply derives_word
    cases k <;> decide
  | string => exact derives_word (by decide)
  | void => exact derives_word (by decide)
  | array item ih =>
    have hbrackets : Derives ([] ++ (item.text.toList ++ ['[', ']']) ++ []) (array item) :=
      .brackets rfl rfl (ih h)
    rw [text, String.toList_append]
    rwa [List.nil_append, List.append_nil] at hbrackets
  | named name =>
    have hbase : Derives ([] ++ name.toList ++ []) (ofName (String.ofList name.toList)) :=
      .base rfl rfl h.1
    rwa [List.nil_append, List.append_nil, String.ofList_toList,
      ofName_eq_iff.2 (.inr ⟨h.2, rfl⟩)] at hbase

/-- Whatever has a derivation is well named: a word of the vocabulary never stands for a class. -/
theorem wellNamed_of_derives (h : Derives cs t) : t.WellNamed := by
  have hwords : ∀ p ∈ vocabulary, p.2.WellNamed := by decide
  induction h with
  | @base left right name _ _ hname =>
    rcases ofName_eq_iff.1 (rfl : ofName (String.ofList name) = _) with hword | ⟨hnone, hclass⟩
    · exact hwords _ hword
    · rw [hclass]
      exact ⟨by rwa [String.toList_ofList], hnone⟩
  | brackets _ _ _ ih => exact ih
  | angles _ _ _ ih => exact ih

theorem parse_text_iff : parse t.text = .ok t ↔ t.WellNamed := by
  constructor
  · intro h
    exact wellNamed_of_derives (parse_eq_ok_iff.1 h)
  · intro h
    exact parse_eq_ok_iff.2 (derives_text h)

/-- **The text of a type is canonical.**  A type that has been read is read again from its text, so
that types which have been read have different texts unless they are the same.  The types that are
read from their texts are those whose classes have names of classes. -/
theorem text_canonical :
    (∀ s t, parse s = .ok t → parse t.text = .ok t) ∧
    (∀ s s' t t', parse s = .ok t → parse s' = .ok t' → (t.text = t'.text ↔ t = t')) ∧
    ∀ t : SourceType, parse t.text = .ok t ↔ t.WellNamed := by
  have hagain : ∀ s t, parse s = .ok t → parse t.text = .ok t := by
    intro s t h
    exact parse_text_iff.2 (wellNamed_of_derives (parse_eq_ok_iff.1 h))
  refine ⟨hagain, fun s s' t t' h h' => ?_, fun t => parse_text_iff⟩
  constructor
  · intro htext
    have ht := hagain s t h
    rw [htext, hagain s' t' h'] at ht
    exact (Except.ok.inj ht).symm
  · rintro rfl
    rfl

/-- Lists of lists of numbers have one text, however they are written. -/
theorem text_canonical_lists :
    let t := array (array (primitive .int))
    (parse " List< i32[] >" = .ok t ∧ parse "List<int> []" = .ok t) ∧
      t.text = "int[][]" ∧ parse "int[][]" = .ok t := by
  intro t
  have hread : parse " List< i32[] >" = .ok t ∧ parse "List<int> []" = .ok t := by decide +kernel
  exact ⟨hread, rfl, text_canonical.1 _ t hread.1⟩

end GraphLayer.SourceType
