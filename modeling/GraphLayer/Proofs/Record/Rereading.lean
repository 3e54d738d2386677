import GraphLayer.Proofs.Record.Faithful

/-!
# Catalogs and configurations are read back

* `Catalog.Repeats`, a name that stands at two places of a list;
* `Catalog.firstRepeated?_eq_none_iff` and `Catalog.firstRepeated?_eq_some_iff`: a class makes a
  catalog invalid if its repetition is the first one in the order of the classes;
* `reads_back`: what is written of a configuration or of a valid catalog is read back, and of the
  catalogs that can be read just those are refused that repeat a class.
-/

namespace GraphLayer

namespace Catalog

/-- The name stands at the first place and again at the second one, which may be far away. -/
def Repeats (names : List String) (i j : Nat) (name : String) : Prop :=
  i < j ∧ names[i]? = some name ∧ names[j]? = some name

/-- No repetition in the list ends before the place. -/
def NoneBefore (names : List String) (j : Nat) : Prop :=
  ∀ i' j' name', Repeats names i' j' name' → j ≤ j'

theorem Repeats.lt_length {names : List String} {i j : Nat} {name : String}
    (h : Repeats names i j name) : j < names.length :=
  (List.getElem?_eq_some_iff.1 h.2.2).1

theorem nodup_iff_forall_not_repeats {names : List String} :
    names.Nodup ↔ ∀ i j name, ¬ Repeats names i j name := by
  rw [List.nodup_iff_getElem?_ne_getElem?]
  constructor
  · rintro h i j name ⟨hij, hi, hj⟩
    exact h i j hij (Repeats.lt_length ⟨hij, hi, hj⟩) (hi.trans hj.symm)
  · intro h i j hij hj heq
    have hname := List.getElem?_eq_getElem hj
    exact h i j _ ⟨hij, heq.trans hname, hname⟩

/-- The search has passed the names `before`, among which there is no repetition. -/
theorem repeatedAfter?_append {seen rest : List String} (before : List String)
    (hseen : ∀ a, a ∈ seen ↔ a ∈ before) (hbefore : NoneBefore (before ++ rest) before.length) :
    match repeatedAfter? seen rest with
    | none => ∀ i j name, ¬ Repeats (before ++ rest) i j name
    | some name => ∃ i j, Repeats (before ++ rest) i j name ∧ NoneBefore (before ++ rest) j := by
  induction rest generalizing seen before with
  | nil =>
    intro i j name h
    have hj := h.lt_length
    have hle := hbefore i j name h
    rw [List.append_nil] at hj
    omega
  | cons n rest ih =>
    have hn : (before ++ n :: rest)[before.length]? = some n := by simp
    rw [repeatedAfter?]
    by_cases hmem : n ∈ seen
    · rw [if_pos hmem]
      obtain ⟨i, hi, hget⟩ := List.getElem_of_mem ((hseen n).1 hmem)
      refine ⟨i, before.length, ⟨hi, ?_, hn⟩, hbefore⟩
      rw [List.getElem?_append_left hi, List.getElem?_eq_getElem hi, hget]
    · rw [if_neg hmem]
      have hsplit : before ++ n :: rest = (before ++ [n]) ++ rest := by simp
      have hseen' : ∀ a, a ∈ n :: seen ↔ a ∈ before ++ [n] := by
        intro a
        rw [List.mem_cons, List.mem_append, List.mem_singleton, hseen, or_comm]
      have hbefore' : NoneBefore (before ++ n :: rest) (before ++ [n]).length := by
        intro i j name h
        have hle := hbefore i j name h
        have hne : j ≠ before.length := by
          rintro rfl
          -- the name at this place would stand before it
          obtain ⟨hi, hget, hname⟩ := h
          rw [hn] at hname
          rw [List.getElem?_append_left hi, ← hname] at hget
          exact hmem ((hseen n).2 (List.mem_of_getElem? hget))
        rw [List.length_append, List.length_singleton]
        omega
      rw [hsplit] at hbefore' ⊢
      exact ih _ hseen' hbefore'

theorem firstRepeated?_spec (c : Catalog) :
    match c.firstRepeated? with
    | none => ∀ i j name, ¬ Repeats c.classNames i j name
    | some name => ∃ i j, Repeats c.classNames i j name ∧ NoneBefore c.classNames j :=
  repeatedAfter?_append [] (fun _ => Iff.rfl) fun _ _ _ _ => Nat.zero_le _

/-- A catalog is valid exactly if its classes have distinct names. -/
theorem firstRepeated?_eq_none_iff (c : Catalog) :
    c.firstRepeated? = none ↔ c.classNames.Nodup := by
  have hspec := firstRepeated?_spec c
  rw [nodup_iff_forall_not_repeats]
  cases hfirst : c.firstRepeated? with
  | none =>
    rw [hfirst] at hspec
    exact iff_of_true rfl hspec
  | some name =>
    rw [hfirst] at hspec
    obtain ⟨i, j, hrepeats, -⟩ := hspec
    exact iff_of_false nofun fun h => h i j name hrepeats

/-- The class that makes a catalog invalid is the one that is repeated first. -/
theorem firstRepeated?_eq_some_iff (c : Catalog) (name : String) :
    c.firstRepeated? = some name ↔
      ∃ i j, Repeats c.classNames i j name ∧ NoneBefore c.classNames j := by
  have hspec := firstRepeated?_spec c
  cases hfirst : c.firstRepeated? with
  | none =>
    rw [hfirst] at hspec
    refine iff_of_false nofun ?_
    rintro ⟨i, j, hrepeats, -⟩
    exact hspec i j name hrepeats
  | some first =>
    rw [hfirst] at hspec
    obtain ⟨i, j, hrepeats, hnone⟩ := hspec
    rw [Option.some.injEq]
    constructor
    · rintro rfl
      exact ⟨i, j, hrepeats, hnone⟩
    · rintro ⟨i', j', hrepeats', hnone'⟩
      -- two first repetitions end at the same place
      have hj : j = j' := Nat.le_antisymm (hnone _ _ _ hrepeats') (hnone' _ _ _ hrepeats)
      have hname := hrepeats.2.2
      rw [hj, hrepeats'.2.2] at hname
      exact (Option.some.inj hname).symm

/-- What becomes of a catalog that can be read. -/
theorem read_eq {f : Format} {text : String} {c : Catalog}
    (h : (f.read? text).bind Catalog.ofNode? = some c) :
    Catalog.read f text = match c.firstRepeated? with
      | some name => .error (.repeated ⟨name⟩)
      | none => .ok c := by
  rw [Catalog.read, h]
  show (match c.firstRepeated? with
    | some name => .error ⟨name⟩
    | none => .ok c : Except RepeatedClass Catalog).mapError CatalogFault.repeated = _
  cases c.firstRepeated? with
  | none => rfl
  | some name => rfl

theorem read_eq_unreadable_iff (f : Format) (text : String) :
    Catalog.read f text = .error .unreadable ↔ (f.read? text).bind Catalog.ofNode? = none := by
  cases h : (f.read? text).bind Catalog.ofNode? with
  | none =>
    rw [Catalog.read, h]
    exact iff_of_true rfl rfl
  | some c =>
    rw [read_eq h]
    cases c.firstRepeated? with
    | none => exact iff_of_false nofun nofun
    | some name => exact iff_of_false nofun nofun

theorem read_eq_ok_iff {f : Format} {text : String} {c : Catalog}
    (h : (f.read? text).bind Catalog.ofNode? = some c) :
    Catalog.read f text = .ok c ↔ c.classNames.Nodup := by
  rw [read_eq h, ← firstRepeated?_eq_none_iff]
  cases c.firstRepeated? with
  | none => exact iff_of_true rfl rfl
  | some name => exact iff_of_false nofun nofun

theorem exists_fault_iff {f : Format} {text : String} {c : Catalog}
    (h : (f.read? text).bind Catalog.ofNode? = some c) :
    (∃ fault, Catalog.read f text = .error fault) ↔
      ∃ i j name, Repeats c.classNames i j name := by
  have hrepeats : (∃ i j name, Repeats c.classNames i j name) ↔ c.firstRepeated? ≠ none := by
    rw [Ne, firstRepeated?_eq_none_iff, nodup_iff_forall_not_repeats]
    simp only [not_forall, not_not]
  rw [hrepeats, read_eq h]
  cases c.firstRepeated? with
  | none => exact iff_of_false nofun fun hne => hne rfl
  | some name => exact iff_of_true ⟨_, rfl⟩ nofun

theorem read_eq_repeated_iff {f : Format} {text : String} {c : Catalog}
    (h : (f.read? text).bind Catalog.ofNode? = some c) (name : String) :
    Catalog.read f text = .error (.repeated ⟨name⟩) ↔
      ∃ i j, Repeats c.classNames i j name ∧ NoneBefore c.classNames j := by
  rw [read_eq h, ← firstRepeated?_eq_some_iff]
  cases c.firstRepeated? with
  | none => exact iff_of_false nofun nofun
  | some first => simp

end Catalog

/-- **Catalogs and configurations are read back from what is written of them.**

* A configuration is read back from its value and from the text of this value, with all its paths,
  options, sets, dictionaries and numbers of 64 bits.
* So is a catalog, with its classes, members and parameters in their order, if its classes have
  distinct names; only the text of another one is refused.
* In every format a text that is no document of a catalog is refused as such, and a catalog that can
  be read is refused exactly if it repeats a class, however far apart, under the name of the class
  whose repetition comes first; otherwise it is accepted as it was read. -/
theorem serialized_reads_back :
    (∀ c : GeneratorConfig,
      GeneratorConfig.ofNode? (Node.ofJson c.toJson) = some c ∧
        GeneratorConfig.read? .json c.toJson.render = some c) ∧
    (∀ c : Catalog,
      Catalog.ofNode? (Node.ofJson c.toJson) = some c ∧
        (c.classNames.Nodup → Catalog.read .json c.toJson.render = .ok c)) ∧
    ∀ (f : Format) (text : String),
      (Catalog.read f text = .error .unreadable ↔ (f.read? text).bind Catalog.ofNode? = none) ∧
      ∀ c, (f.read? text).bind Catalog.ofNode? = some c →
        (Catalog.read f text = .ok c ↔
          ∀ i j name, ¬ Catalog.Repeats c.classNames i j name) ∧
        ((∃ fault, Catalog.read f text = .error fault) ↔
          ∃ i j name, Catalog.Repeats c.classNames i j name) ∧
        ∀ name, Catalog.read f text = .error (.repeated ⟨name⟩) ↔
          ∃ i j, Catalog.Repeats c.classNames i j name ∧ Catalog.NoneBefore c.classNames j := by
  refine ⟨fun c => ?_, fun c => ?_, fun f text => ?_⟩
  · exact ⟨GeneratorConfig.faithful.read c, GeneratorConfig.faithful.render (by decide) c⟩
  · have htext := Catalog.faithful.render (by decide) c
    exact ⟨Catalog.faithful.read c, (Catalog.read_eq_ok_iff htext).2⟩
  · refine ⟨Catalog.read_eq_unreadable_iff f text, fun c hread => ?_⟩
    exact ⟨(Catalog.read_eq_ok_iff hread).trans Catalog.nodup_iff_forall_not_repeats,
      Catalog.exists_fault_iff hread, Catalog.read_eq_repeated_iff hread⟩

/-- A catalog of two classes is read back from its text; of three classes, of which the last one is
declared as the first one, the first one is named. -/
theorem serialized_reads_back_classes :
    Catalog.read .json (Catalog.toJson ⟨[⟨"A", []⟩, ⟨"B", []⟩]⟩).render =
        .ok ⟨[⟨"A", []⟩, ⟨"B", []⟩]⟩ ∧
      Catalog.read .yaml "classes:\n- name: A\n- name: B\n- name: A\n" =
        .error (.repeated ⟨"A"⟩) := by
  have hread : (Format.yaml.read? "classes:\n- name: A\n- name: B\n- name: A\n").bind
      Catalog.ofNode? = some ⟨[⟨"A", []⟩, ⟨"B", []⟩, ⟨"A", []⟩]⟩ := by
    decide +kernel
  refine ⟨(serialized_reads_back.2.1 ⟨[⟨"A", []⟩, ⟨"B", []⟩]⟩).2 (by decide), ?_⟩
  exact (((serialized_reads_back.2.2 .yaml _).2 _ hread).2.2 "A").2
    ((Catalog.firstRepeated?_eq_some_iff _ "A").1 (by decide))

end GraphLayer
