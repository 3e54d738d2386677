import GraphLayer.Proofs.Schema.Merged

/-!
# Types told from their spellings

A type is spelled in schemas and in code. Both name the scalars, both put lists between brackets,
and both mark one kind of types: schemas those without null, and code those with it.

* `Spelling`, the three forms of which a spelling is made, with `schemaSpelling` and `codeSpelling`;
* `Spelling.IsClear`, a spelling in which no form is taken for another one;
* `GraphType.NamedApart`, a type whose entity does not have the name of a scalar;
* `Spelling.IsClear.spell_injective`: nothing of such types gets lost in a clear spelling, and
  `isClear_schemaSpelling` and `isClear_codeSpelling`: both are clear;
* `spellings_faithful`: this for both, and what a schema has at the leaf of a type.
-/

namespace GraphLayer

open Schema (TypeRef isName continuesName continuesName_of_isName)

/-! ### Spellings -/

/-- The name of each scalar, the form of a list, and the form of a type with null and of one
without it. -/
structure Spelling where
  scalar : Scalar → String
  list : String → String
  mark : Bool → String → String

/-- The entity at the leaf, if there is one, has a name of the schema language that is not given to
a scalar. -/
def GraphType.NamedApart (scalar : Scalar → String) (g : GraphType) : Prop :=
  ∀ name ∈ g.leafEntity?, isName name.toList = true ∧ name ∉ Scalar.all.map scalar

instance (scalar : Scalar → String) : DecidablePred (GraphType.NamedApart scalar) := fun g =>
  inferInstanceAs
    (Decidable (∀ name ∈ g.leafEntity?, isName name.toList = true ∧ name ∉ Scalar.all.map scalar))

theorem Scalar.mem_all (s : Scalar) : s ∈ Scalar.all := by
  cases s <;> decide

theorem Scalar.injective_of_all {f : Scalar → String}
    (hall : ∀ s ∈ all, ∀ t ∈ all, f s = f t → s = t) : Function.Injective f :=
  fun s t => hall s (mem_all s) t (mem_all t)

/-- What stands between brackets is told from the whole. -/
theorem enclosed_injective (left right : String) :
    Function.Injective fun inner : String => left ++ inner ++ right := by
  intro a b h
  exact (String.append_right_inj left).1 ((String.append_left_inj right).1 h)

theorem GraphType.NamedApart.ne_scalar {scalar : Scalar → String} {name : String} {n : Bool}
    (h : (GraphType.entity name n).NamedApart scalar) (s : Scalar) : name ≠ scalar s := by
  rintro rfl
  exact (h (scalar s) rfl).2 (List.mem_map_of_mem (Scalar.mem_all s))

namespace Spelling

variable {p : Spelling} {g h : GraphType} {a b : String}

/-- The text of a type. -/
def spell (p : Spelling) : GraphType → String
  | .scalar s n => p.mark n (p.scalar s)
  | .entity name n => p.mark n name
  | .list item n => p.mark n (p.list (p.spell item))

/-- The text of a type before its mark. -/
def bare (p : Spelling) : GraphType → String
  | .scalar s _ => p.scalar s
  | .entity name _ => name
  | .list item _ => p.list (p.spell item)

theorem spell_eq_mark (g : GraphType) : p.spell g = p.mark g.nullable (p.bare g) := by
  cases g <;> rfl

/-- A word or a list. -/
def IsBare (p : Spelling) (a : String) : Prop :=
  isName a.toList = true ∨ ∃ item, a = p.list item

/-- Each form tells what stands in it, and no form is taken for another one. -/
structure IsClear (p : Spelling) : Prop where
  isName_scalar : ∀ s, isName (p.scalar s).toList = true
  scalar_injective : Function.Injective p.scalar
  not_isName_list : ∀ item, isName (p.list item).toList = false
  list_injective : Function.Injective p.list
  mark_injective : ∀ nullable, Function.Injective (p.mark nullable)
  mark_ne : ∀ {a b}, p.IsBare a → p.IsBare b → p.mark true a ≠ p.mark false b

namespace IsClear

variable (hp : p.IsClear)

include hp

theorem isBare_bare (hg : g.NamedApart p.scalar) : p.IsBare (p.bare g) := by
  cases g with
  | scalar s n => exact .inl (hp.isName_scalar s)
  | entity name n => exact .inl (hg name rfl).1
  | list item n => exact .inr ⟨p.spell item, rfl⟩

/-- Both the mark and what stands under it are told from a text. -/
theorem mark_inj {m n : Bool} (ha : p.IsBare a) (hb : p.IsBare b)
    (heq : p.mark m a = p.mark n b) : m = n ∧ a = b := by
  cases m with
  | true =>
    cases n with
    | true => exact ⟨rfl, hp.mark_injective true heq⟩
    | false => exact absurd heq (hp.mark_ne ha hb)
  | false =>
    cases n with
    | true => exact absurd heq.symm (hp.mark_ne hb ha)
    | false => exact ⟨rfl, hp.mark_injective false heq⟩

theorem scalar_ne_list (s : Scalar) (item : String) : p.scalar s ≠ p.list item := by
  intro heq
  have hname := hp.isName_scalar s
  rw [heq, hp.not_isName_list] at hname
  cases hname

theorem entity_ne_list {name : String} {n : Bool}
    (hg : (GraphType.entity name n).NamedApart p.scalar) (item : String) : name ≠ p.list item := by
  rintro rfl
  have hname := (hg (p.list item) rfl).1
  rw [hp.not_isName_list] at hname
  cases hname

theorem bare_eq (hg : g.NamedApart p.scalar) (hh : h.NamedApart p.scalar)
    (heq : p.spell g = p.spell h) : g.nullable = h.nullable ∧ p.bare g = p.bare h := by
  rw [spell_eq_mark, spell_eq_mark] at heq
  exact hp.mark_inj (hp.isBare_bare hg) (hp.isBare_bare hh) heq

/-- Nothing of a type gets lost in its spelling: by induction on the lists around the leaf, of which
the outermost is told with its mark. -/
theorem spell_injective (hg : g.NamedApart p.scalar) (hh : h.NamedApart p.scalar)
    (heq : p.spell g = p.spell h) : g = h := by
  induction g generalizing h with
  | scalar s n =>
    obtain ⟨hn, hbare⟩ := hp.bare_eq hg hh heq
    cases h with
    | scalar t m => rw [hp.scalar_injective hbare, show n = m from hn]
    | entity name m => exact absurd hbare.symm (hh.ne_scalar s)
    | list item m => exact absurd hbare (hp.scalar_ne_list s _)
  | entity name n =>
    obtain ⟨hn, hbare⟩ := hp.bare_eq hg hh heq
    cases h with
    | scalar t m => exact absurd hbare (hg.ne_scalar t)
    | entity name' m => rw [show name = name' from hbare, show n = m from hn]
    | list item m => exact absurd hbare (hp.entity_ne_list hg _)
  | list item n ih =>
    obtain ⟨hn, hbare⟩ := hp.bare_eq hg hh heq
    cases h with
    | scalar t m => exact absurd hbare.symm (hp.scalar_ne_list t _)
    | entity name m => exact absurd hbare.symm (hp.entity_ne_list hh _)
    | list item' m =>
      have hitem : item'.NamedApart p.scalar := hh
      rw [ih hg hitem (hp.list_injective hbare), show n = m from hn]

theorem spell_eq_iff (hg : g.NamedApart p.scalar) (hh : h.NamedApart p.scalar) :
    p.spell g = p.spell h ↔ g = h := by
  constructor
  · exact hp.spell_injective hg hh
  · rintro rfl
    rfl

end IsClear

end Spelling

/-! ### The spelling of schemas -/

/-- How schemas spell types. -/
def schemaSpelling : Spelling where
  scalar := Scalar.name
  list item := "[" ++ item ++ "]"
  mark nullable bare := bare ++ GraphType.bang nullable

theorem spell_schema (g : GraphType) : schemaSpelling.spell g = g.text := by
  induction g with
  | scalar s n => rfl
  | entity name n => rfl
  | list item n ih => rw [Spelling.spell, ih]; rfl

theorem Schema.TypeRef.text_mark (nullable : Bool) (t : TypeRef) :
    (t.mark nullable).text = t.text ++ GraphType.bang nullable := by
  cases nullable with
  | true => exact String.append_empty.symm
  | false => rfl

/-- The syntax of a type in a schema has the text of the type. -/
theorem GraphType.text_toRef (g : GraphType) : g.toRef.text = g.text := by
  induction g with
  | scalar s n => exact TypeRef.text_mark n (.named s.name)
  | entity name n => exact TypeRef.text_mark n (.named name)
  | list item n ih => rw [toRef, TypeRef.text_mark, TypeRef.text, ih, text]

/-- A word or a list does not end with the mark of types without null. -/
theorem getLast?_ne_of_isBare {a : String} (ha : schemaSpelling.IsBare a) :
    a.toList.getLast? ≠ some '!' := by
  rcases ha with hname | ⟨item, rfl⟩
  · intro hlast
    have hmark := continuesName_of_isName hname '!' (List.mem_of_getLast? hlast)
    exact absurd hmark (by decide)
  · have hlast : (schemaSpelling.list item).toList.getLast? = some ']' := by
      show ("[" ++ item ++ "]").toList.getLast? = some ']'
      rw [String.toList_append]
      exact List.getLast?_concat
    simp [hlast]

theorem isClear_schemaSpelling : schemaSpelling.IsClear where
  isName_scalar s := by cases s <;> decide
  scalar_injective := Scalar.injective_of_all (by decide)
  not_isName_list item := by simp [schemaSpelling, isName, Schema.startsName]
  list_injective := enclosed_injective "[" "]"
  mark_injective nullable a b h := (String.append_left_inj _).1 h
  mark_ne {a b} ha _ h := by
    apply getLast?_ne_of_isBare ha
    have hmark : a = b ++ "!" := String.append_empty.symm.trans h
    simp [hmark]

/-! ### The spelling of code -/

/-- How code spells types. -/
def codeSpelling : Spelling where
  scalar := Scalar.codeType
  list item := "Vec<" ++ item ++ ">"
  mark := GraphType.optionalCode

theorem spell_code (g : GraphType) : codeSpelling.spell g = g.codeType := by
  induction g with
  | scalar s n => rfl
  | entity name n => rfl
  | list item n ih => rw [Spelling.spell, ih]; rfl

/-- A word or a list does not stand between the brackets of types with null. -/
theorem option_ne_of_isBare {a b : String} (hb : codeSpelling.IsBare b) :
    "Option<" ++ a ++ ">" ≠ b := by
  rcases hb with hname | ⟨item, rfl⟩
  · rintro rfl
    have hbracket := continuesName_of_isName hname '<' (by simp)
    exact absurd hbracket (by decide)
  · intro h
    have hhead := congrArg (fun s => s.toList.head?) h
    simp [codeSpelling] at hhead

theorem isClear_codeSpelling : codeSpelling.IsClear where
  isName_scalar s := by cases s <;> decide
  scalar_injective := Scalar.injective_of_all (by decide)
  not_isName_list item := by simp [codeSpelling, isName, continuesName]
  list_injective := enclosed_injective "Vec<" ">"
  mark_injective nullable := by
    cases nullable with
    | true => exact enclosed_injective "Option<" ">"
    | false => exact fun a b h => h
  mark_ne _ hb := option_ne_of_isBare hb

/-! ### The main theorem -/

/-- **Spellings are faithful.**  The syntax of a type in a schema has the text of the type, and at
its leaf the name of the scalar or of the entity there. Types whose entities have names of their own
are told apart by their texts in schemas, and those whose entities do not have the names that code
gives to scalars by their spelling in code. -/
theorem GraphType.spellings_faithful :
    (∀ g : GraphType, g.toRef.text = g.text ∧
      (g.leafScalar?.map Scalar.name = some g.toRef.leaf ∧ g.leafEntity? = none ∨
        g.leafScalar? = none ∧ g.leafEntity? = some g.toRef.leaf)) ∧
    (∀ g h : GraphType, g.NamedApart Scalar.name → h.NamedApart Scalar.name →
      (g.text = h.text ↔ g = h)) ∧
    ∀ g h : GraphType, g.NamedApart Scalar.codeType → h.NamedApart Scalar.codeType →
      (g.codeType = h.codeType ↔ g = h) := by
  refine ⟨fun g => ⟨text_toRef g, leaf_toRef_cases g⟩, fun g h hg hh => ?_, fun g h hg hh => ?_⟩
  · rw [← spell_schema, ← spell_schema]
    exact isClear_schemaSpelling.spell_eq_iff hg hh
  · rw [← spell_code, ← spell_code]
    exact isClear_codeSpelling.spell_eq_iff hg hh

/-- Lists of lists of parts are told apart by what is not null in them. -/
theorem GraphType.spellings_faithful_lists :
    let g := list (list (entity "Part" false) true) false
    let h := list (list (entity "Part" true) false) false
    (g.NamedApart Scalar.name ∧ h.NamedApart Scalar.name ∧ g.text ≠ h.text) ∧
      g.NamedApart Scalar.codeType ∧ h.NamedApart Scalar.codeType ∧ g.codeType ≠ h.codeType := by
  intro g h
  have hname : g.NamedApart Scalar.name ∧ h.NamedApart Scalar.name := by decide
  have hcode : g.NamedApart Scalar.codeType ∧ h.NamedApart Scalar.codeType := by decide
  have hne : g ≠ h := by decide
  obtain ⟨-, htext, hspelled⟩ := spellings_faithful
  exact ⟨⟨hname.1, hname.2, mt (htext g h hname.1 hname.2).1 hne⟩,
    hcode.1, hcode.2, mt (hspelled g h hcode.1 hcode.2).1 hne⟩

/-- An entity with the name of a scalar is not told from it. -/
example : (GraphType.entity "Int" true).text = (GraphType.scalar .int true).text := rfl

end GraphLayer
