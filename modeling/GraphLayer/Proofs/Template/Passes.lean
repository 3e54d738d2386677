import Mathlib.Logic.Relation
import GraphLayer.Proofs.Data.Except
import GraphLayer.Proofs.Text.Separators
import GraphLayer.Proofs.Text.Trim
import GraphLayer.Template.Basic

/-!
# Templates are rendered in one pass

* `renderChars_of_plain`, `renderChars_of_unclosed` and `renderChars_of_placeholder`: what is done
  with the first placeholder of a template;
* `renderChars_append`: templates may be rendered one after the other, unless a placeholder could be
  opened where they meet;
* `Pass`, the text that is rendered so far with the rest of the template; `Pass.Step` replaces one
  placeholder, and `Pass.Ends` says what comes out when none is replaced any more;
* `render_passes`: the laws of a pass.
-/

namespace GraphLayer.Template

open Text

variable {values : Values} {cs before inner placeholder after done rest : List Char}

/-! ### The first placeholder -/

theorem renderChars_of_plain (h : splitOnce? opening cs = none) :
    renderChars values cs = .ok cs := by
  rw [renderChars]
  split
  · rfl
  · next heq => exact absurd (heq.symm.trans h) (Option.some_ne_none _)

theorem renderChars_of_unclosed (h : splitOnce? opening cs = some (before, inner))
    (h' : splitOnce? closing inner = none) : renderChars values cs = .error .unclosed := by
  rw [renderChars]
  split
  · next heq => exact absurd (h.symm.trans heq) (Option.some_ne_none _)
  · next heq =>
    obtain ⟨rfl, rfl⟩ := Prod.mk.inj (Option.some.inj (h.symm.trans heq))
    split
    · rfl
    · next heq => exact absurd (heq.symm.trans h') (Option.some_ne_none _)

/-- A placeholder is replaced by its value, and only what follows it is rendered further. -/
theorem renderChars_of_placeholder (h : splitOnce? opening cs = some (before, inner))
    (h' : splitOnce? closing inner = some (placeholder, after)) :
    renderChars values cs = (value values placeholder >>= fun v =>
      (renderChars values after).map (before ++ v ++ ·)) := by
  rw [renderChars]
  split
  · next heq => exact absurd (h.symm.trans heq) (Option.some_ne_none _)
  · next heq =>
    obtain ⟨rfl, rfl⟩ := Prod.mk.inj (Option.some.inj (h.symm.trans heq))
    split
    · next heq => exact absurd (h'.symm.trans heq) (Option.some_ne_none _)
    · next heq =>
      obtain ⟨rfl, rfl⟩ := Prod.mk.inj (Option.some.inj (h'.symm.trans heq))
      cases value values placeholder with
      | error e => rfl
      | ok v => cases renderChars values after <;> rfl

/-! ### Templates one after the other -/

/-- The text before the first placeholder comes before all else. -/
theorem renderChars_of_moved (h : splitOnce? opening (cs ++ rest) =
      (splitOnce? opening rest).map fun p => (cs ++ p.1, p.2)) :
    renderChars values (cs ++ rest) = (renderChars values rest).map (cs ++ ·) := by
  cases hrest : splitOnce? opening rest with
  | none =>
    rw [hrest] at h
    rw [renderChars_of_plain h, renderChars_of_plain hrest]
    rfl
  | some parts =>
    obtain ⟨before, inner⟩ := parts
    rw [hrest] at h
    cases hinner : splitOnce? closing inner with
    | none =>
      rw [renderChars_of_unclosed h hinner, renderChars_of_unclosed hrest hinner]
      rfl
    | some parts =>
      obtain ⟨placeholder, after⟩ := parts
      rw [renderChars_of_placeholder h hinner, renderChars_of_placeholder hrest hinner]
      cases value values placeholder with
      | error e => rfl
      | ok v => cases renderChars values after <;> simp [bind, Except.bind, Except.map]

/-- What follows a rendered template is rendered on its own, unless a placeholder could be opened
where they meet. -/
theorem renderChars_append {r : List Char} (h : renderChars values cs = .ok r)
    (hlast : cs.getLast? ≠ some '\x7b') (rest : List Char) :
    renderChars values (cs ++ rest) = (renderChars values rest).map (r ++ ·) := by
  induction cs using renderChars.induct generalizing r with
  | case1 cs hopen =>
    rw [renderChars_of_plain hopen] at h
    obtain rfl := Except.ok.inj h
    exact renderChars_of_moved
      (splitOnce?_pair_append (splitOnce?_eq_none_iff.1 hopen) hlast rest)
  | case2 cs before inner hopen hclose =>
    rw [renderChars_of_unclosed hopen hclose] at h
    cases h
  | case3 cs before inner hopen placeholder after hclose _ ih =>
    rw [renderChars_of_placeholder hopen hclose] at h
    obtain ⟨v, hv, h⟩ := bind_eq_ok_iff.1 h
    obtain ⟨t, ht, rfl⟩ := map_eq_ok_iff.1 h
    have hafter : after.getLast? ≠ some '\x7b' := by
      have hcs := (firstOccurrence_of_splitOnce? hopen).eq_append
      have hinner := (firstOccurrence_of_splitOnce? hclose).eq_append
      intro hafter
      apply hlast
      rw [hcs, hinner, List.getLast?_append, List.getLast?_append, hafter]
      rfl
    rw [renderChars_of_placeholder (splitOnce?_append hopen rest) (splitOnce?_append hclose rest),
      hv, ih ht hafter]
    cases renderChars values rest <;> simp [bind, Except.bind, Except.map]

/-! ### The course of a pass -/

/-- The text that is rendered so far, and the rest of the template. -/
structure Pass where
  rendered : List Char
  rest : List Char

namespace Pass

/-- What stands before the first placeholder goes over as it is, and the placeholder as its value;
the pass goes on behind it. -/
inductive Step (values : Values) : Pass → Pass → Prop
  | replace {done rest before inner placeholder after : List Char} {v : String}
      (hopen : FirstOccurrence opening rest before inner)
      (hclose : FirstOccurrence closing inner placeholder after)
      (hv : values.find? (trim (String.ofList placeholder)) = some v) :
      Step values ⟨done, rest⟩ ⟨done ++ before ++ v.toList, after⟩

/-- What comes out where no placeholder can be replaced. -/
inductive Ends (values : Values) : Pass → Except Fault String → Prop
  | plain {done rest : List Char} (h : ¬ opening <:+: rest) :
      Ends values ⟨done, rest⟩ (.ok (String.ofList (done ++ rest)))
  | unclosed {done rest before inner : List Char}
      (hopen : FirstOccurrence opening rest before inner) (h : ¬ closing <:+: inner) :
      Ends values ⟨done, rest⟩ (.error .unclosed)
  | missing {done rest before inner placeholder after : List Char}
      (hopen : FirstOccurrence opening rest before inner)
      (hclose : FirstOccurrence closing inner placeholder after)
      (hv : values.find? (trim (String.ofList placeholder)) = none) :
      Ends values ⟨done, rest⟩ (.error (.missing (trim (String.ofList placeholder))))

/-- A step leaves less of the template, by the four braces at least. -/
theorem Step.length {p q : Pass} (h : Step values p q) : q.rest.length + 4 ≤ p.rest.length := by
  obtain ⟨⟨hopen, -⟩, ⟨hclose, -⟩, -⟩ := h
  simp only [hopen, hclose, opening, closing, List.length_append, List.length_cons, List.length_nil]
  omega

/-- A pass does not go on for ever. -/
theorem wellFounded_step (values : Values) : WellFounded fun q p => Step values p q := by
  refine Subrelation.wf (fun {q p} h => ?_) (measure fun p : Pass => p.rest.length).wf
  have hlength := h.length
  exact Nat.lt_of_lt_of_le (Nat.lt_add_of_pos_right (by decide)) hlength

/-- A pass ends with what is rendered so far and what becomes of the rest. -/
theorem exists_ends (values : Values) (done rest : List Char) :
    ∃ p, Relation.ReflTransGen (Step values) ⟨done, rest⟩ p ∧
      p.Ends values ((renderChars values rest).map fun r => String.ofList (done ++ r)) := by
  induction rest using renderChars.induct generalizing done with
  | case1 rest hopen =>
    rw [renderChars_of_plain hopen]
    exact ⟨_, .refl, .plain (splitOnce?_eq_none_iff.1 hopen)⟩
  | case2 rest before inner hopen hclose =>
    rw [renderChars_of_unclosed hopen hclose]
    exact ⟨_, .refl, .unclosed (firstOccurrence_of_splitOnce? hopen)
      (splitOnce?_eq_none_iff.1 hclose)⟩
  | case3 rest before inner hopen placeholder after hclose _ ih =>
    rw [renderChars_of_placeholder hopen hclose]
    have hopen := firstOccurrence_of_splitOnce? hopen
    have hclose := firstOccurrence_of_splitOnce? hclose
    cases hv : values.find? (trim (String.ofList placeholder)) with
    | none =>
      have hvalue : value values placeholder =
          .error (.missing (trim (String.ofList placeholder))) := by
        simp only [value, hv]
      rw [hvalue]
      exact ⟨_, .refl, .missing hopen hclose hv⟩
    | some v =>
      have hvalue : value values placeholder = .ok v.toList := by
        simp only [value, hv]
      obtain ⟨p, hsteps, hends⟩ := ih (done ++ before ++ v.toList)
      refine ⟨p, hsteps.head (.replace hopen hclose hv), ?_⟩
      rw [hvalue]
      convert hends using 1
      cases renderChars values after <;> simp [bind, Except.bind, Except.map]

end Pass

/-! ### Templates as texts -/

/-- A placeholder with a text in it. -/
def slot (s : String) : String := String.ofList (opening ++ s.toList ++ closing)

theorem render_eq_ok_iff {t r : String} :
    render values t = .ok r ↔ renderChars values t.toList = .ok r.toList := by
  rw [render, map_eq_ok_iff]
  constructor
  · rintro ⟨cs, hcs, rfl⟩
    rw [hcs, String.toList_ofList]
  · intro h
    exact ⟨_, h, String.ofList_toList⟩

theorem trim_blanks {left right : String} (hleft : left.toList.all isBlank = true)
    (hright : right.toList.all isBlank = true) (s : String) :
    trim (left ++ s ++ right) = trim s := by
  rw [trim, String.toList_append, String.toList_append, trimChars_blanks hleft hright, trim]

/-- A placeholder becomes its value, if its text holds no end of a placeholder. -/
theorem render_slot {s v : String} (h : FirstOccurrence closing (s.toList ++ closing) s.toList [])
    (hv : values.find? (trim s) = some v) : render values (slot s) = .ok v := by
  have hopen : splitOnce? opening (slot s).toList = some ([], s.toList ++ closing) := by
    refine splitOnce?_eq_some_iff.2 ⟨?_, fun _ _ _ => Nat.zero_le _⟩
    rw [slot, String.toList_ofList, List.append_assoc]
    rfl
  have hvalue : value values s.toList = .ok v.toList := by
    simp only [value, String.ofList_toList, hv]
  have hrest : renderChars values [] = .ok [] := renderChars_of_plain rfl
  rw [render_eq_ok_iff, renderChars_of_placeholder hopen (splitOnce?_eq_some_iff.2 h), hvalue]
  simp [bind, Except.bind, Except.map, hrest]

/-- **Templates are rendered in one pass** from left to right, whatever the values are.

* A template that is rendered, and does not end with an opening brace, may stand before any other
  one: what comes out stands before what becomes of the other one, and a failure stays the same.
* A template without a pair of opening braces is rendered to itself.
* A name between two pairs of braces, with any blanks around it, becomes its value as it is.  The
  name ends at the first pair of closing braces.
* Every pass ends: there is no endless sequence of steps, and some steps lead to where none is left,
  with what is rendered as the result. -/
theorem render_passes (values : Values) :
    (∀ t₁ t₂ r₁, render values t₁ = .ok r₁ → t₁.toList.getLast? ≠ some '\x7b' →
      render values (t₁ ++ t₂) = (render values t₂).map (r₁ ++ ·)) ∧
    (∀ t, ¬ opening <:+: t.toList → render values t = .ok t) ∧
    (∀ left name right v, left.toList.all isBlank = true → right.toList.all isBlank = true →
      trim name = name → values.find? name = some v →
      FirstOccurrence closing ((left ++ name ++ right).toList ++ closing)
        (left ++ name ++ right).toList [] →
      render values (slot (left ++ name ++ right)) = .ok v) ∧
    (WellFounded fun q p => Pass.Step values p q) ∧
    ∀ t, ∃ p, Relation.ReflTransGen (Pass.Step values) ⟨[], t.toList⟩ p ∧
      p.Ends values (render values t) := by
  refine ⟨?_, ?_, ?_, Pass.wellFounded_step values, ?_⟩
  · intro t₁ t₂ r₁ h hlast
    rw [render, String.toList_append, renderChars_append (render_eq_ok_iff.1 h) hlast, render]
    cases renderChars values t₂.toList <;> simp [Except.map]
  · intro t h
    exact render_eq_ok_iff.2 (renderChars_of_plain (splitOnce?_eq_none_iff.2 h))
  · intro left name right v hleft hright hname hv hend
    refine render_slot hend ?_
    rw [trim_blanks hleft hright, hname, hv]
  · intro t
    exact Pass.exists_ends values [] t.toList

/-- A value that looks like a placeholder stays as it is, whatever comes next. -/
theorem render_passes_braces :
    let values : Values := Dict.ofList [("a", "\x7b\x7bb\x7d\x7d"), ("b", "\x7b")]
    let t₁ := "- \x7b\x7b a\n\x7d\x7d"
    let t₂ := "\x7b\x7bb\x7d\x7d\x7d"
    render values t₁ = .ok "- \x7b\x7bb\x7d\x7d" ∧ t₁.toList.getLast? ≠ some '\x7b' ∧
    render values (t₁ ++ t₂) = (render values t₂).map ("- \x7b\x7bb\x7d\x7d" ++ ·) ∧
    ¬ opening <:+: "\x7b\x7d\x7d \x7b".toList ∧
    render values "\x7b\x7d\x7d \x7b" = .ok "\x7b\x7d\x7d \x7b" ∧
    " ".toList.all isBlank = true ∧ "\n".toList.all isBlank = true ∧ trim "a" = "a" ∧
    values.find? "a" = some "\x7b\x7bb\x7d\x7d" ∧
    FirstOccurrence closing (" a\n".toList ++ closing) " a\n".toList [] ∧
    render values (slot " a\n") = .ok "\x7b\x7bb\x7d\x7d" := by
  intro values t₁ t₂
  have hrendered : render values t₁ = .ok "- \x7b\x7bb\x7d\x7d" := by decide +kernel
  have hlast : t₁.toList.getLast? ≠ some '\x7b' := by decide
  have hplain : ¬ opening <:+: "\x7b\x7d\x7d \x7b".toList := by decide
  have hfirst : FirstOccurrence closing (" a\n".toList ++ closing) " a\n".toList [] :=
    firstOccurrence_of_splitOnce? (by decide)
  have hfound : values.find? "a" = some "\x7b\x7bb\x7d\x7d" := by decide +kernel
  have hleft : " ".toList.all isBlank = true := by decide
  have hright : "\n".toList.all isBlank = true := by decide
  have htrim : trim "a" = "a" := by decide
  obtain ⟨happend, hself, hslot, -⟩ := render_passes values
  exact ⟨hrendered, hlast, happend t₁ t₂ _ hrendered hlast, hplain, hself _ hplain, hleft, hright,
    htrim, hfound, hfirst, hslot " " "a" "\n" _ hleft hright htrim hfound hfirst⟩

end GraphLayer.Template
