import Mathlib.Data.List.Sublists
import GraphLayer.Config

/-!
# The verdict on a resolved configuration

* `GeneratorConfig.resolvePath_text_eq_empty_iff`: a resolved path is empty only below the empty
  base;
* `GeneratorConfig.validate_eq_iff`: what is missing can be told from the verdict;
* `GeneratorConfig.occupied`, a configuration whose empty directories are the base directory;
* `GeneratorConfig.validate_resolve`: this is what the verdict on a resolved configuration is about,
  so that it is the one on the configuration as written exactly if no directory is empty or the base
  is.
-/

namespace GraphLayer

namespace GeneratorConfig

variable {c d : GeneratorConfig} {base p : Path}

/-! ### Missing directories -/

/-- The key under which the directory of a category is set. -/
def dirKey (k : Category) : String := k.name ++ "_dir"

/-- Whether the directory of a category is not set, or set to nothing. -/
def lacks (c : GeneratorConfig) (k : Category) : Bool :=
  (c.output.get k).all fun p => p.text.isEmpty

theorem missingDirs_eq (c : GeneratorConfig) :
    c.missingDirs = (Category.all.filter c.lacks).map dirKey := by
  rw [missingDirs]
  refine congrArg (List.map dirKey) (List.filter_congr fun k _ => ?_)
  rw [lacks]
  cases c.output.get k <;> rfl

theorem lacks_eq_true_iff {k : Category} :
    c.lacks k = true ↔ ∀ p, c.output.get k = some p → p.text = "" := by
  rw [lacks]
  cases c.output.get k <;> simp

/-- The directories that are missing can be told from the text about them. -/
theorem missingDirs_inj
    (h : String.intercalate ", " c.missingDirs = String.intercalate ", " d.missingDirs) :
    c.lacks = d.lacks := by
  have hall : ∀ l ∈ Category.all.sublists, ∀ l' ∈ Category.all.sublists,
      String.intercalate ", " (l.map dirKey) = String.intercalate ", " (l'.map dirKey) →
        l = l' := by
    decide +kernel
  rw [missingDirs_eq, missingDirs_eq] at h
  have hfilter := hall _ (List.mem_sublists.2 List.filter_sublist) _
    (List.mem_sublists.2 List.filter_sublist) h
  funext k
  have hk : k ∈ Category.all := by cases k <;> decide
  have hmem : c.lacks k = true ↔ d.lacks k = true := by
    have hiff : k ∈ Category.all.filter c.lacks ↔ k ∈ Category.all.filter d.lacks := by
      rw [hfilter]
    simpa [List.mem_filter, hk] using hiff
  exact Bool.eq_iff_iff.2 hmem

/-! ### Verdicts -/

/-- The verdict is about missing directories exactly if some are missing. -/
theorem validate_eq_missing_iff {names : String} :
    c.validate = .error (.config ("output directories not set: " ++ names)) ↔
      c.missingDirs ≠ [] ∧ names = String.intercalate ", " c.missingDirs := by
  unfold validate
  split
  · next hmissing =>
    simp [hmissing, eq_comm]
  · next hnone =>
    -- the other verdicts begin otherwise
    have hother {text : String} (htext : text.toList.head? ≠ some 'o') :
        text ≠ "output directories not set: " ++ names := by
      rintro rfl
      simp at htext
    have hno : "no entities configured" ≠ "output directories not set: " ++ names :=
      hother (by decide)
    have hbatch : "loader.max_batch_size must be at least 1" ≠
        "output directories not set: " ++ names := hother (by decide)
    have hentity (name : String) : "entity '" ++ name ++ "' has no backing service" ≠
        "output directories not set: " ++ names := hother (by simp)
    have hnot : ¬ (c.missingDirs ≠ [] ∧ names = String.intercalate ", " c.missingDirs) :=
      fun h => hnone h.1
    rw [iff_false_right hnot]
    split
    · simp [hno]
    · split
      · simp [hbatch]
      · split
        · simp [hentity]
        · simp

/-- Two configurations that differ in their paths and module names at most have one verdict exactly
if they lack the same directories. -/
theorem validate_eq_iff (hentities : c.entities = d.entities) (hloader : c.loader = d.loader) :
    c.validate = d.validate ↔ c.lacks = d.lacks := by
  constructor
  · intro h
    have hiff (names : String) :
        (c.missingDirs ≠ [] ∧ names = String.intercalate ", " c.missingDirs) ↔
          (d.missingDirs ≠ [] ∧ names = String.intercalate ", " d.missingDirs) := by
      rw [← validate_eq_missing_iff, ← validate_eq_missing_iff, h]
    apply missingDirs_inj
    by_cases hc : c.missingDirs = []
    · have hd : d.missingDirs = [] := by
        by_contra hd
        exact ((hiff _).2 ⟨hd, rfl⟩).1 hc
      rw [hc, hd]
    · exact ((hiff _).1 ⟨hc, rfl⟩).2
  · intro h
    have hmissing : c.missingDirs = d.missingDirs := by
      rw [missingDirs_eq, missingDirs_eq, h]
    simp only [validate, unserved?, hmissing, hentities, hloader]

/-! ### Resolved configurations -/

/-- Of two paths after each other nothing is left only if there is nothing in either. -/
theorem resolvePath_text_eq_empty_iff :
    (resolvePath base p).text = "" ↔ base.text = "" ∧ p.text = "" := by
  unfold resolvePath Path.join
  split
  · next habsolute =>
    have hp : p.text ≠ "" := by
      intro hp
      simp [Path.isAbsolute, hp] at habsolute
    simp [hp]
  · split
    · simp
    · next hbase =>
      have hne : base.text ≠ "" := by
        intro h
        simp [h] at hbase
      simp [hne]

theorem get_resolve (k : Category) :
    (c.resolve base).output.get k = (c.output.get k).map (resolvePath base) := by
  cases k <;> rfl

/-- A path, or the base directory in place of an empty one. -/
def occupiedPath (base p : Path) : Path := if p.text = "" then base else p

/-- The configuration with the base directory as every directory that is given as nothing. -/
def occupied (base : Path) (c : GeneratorConfig) : GeneratorConfig :=
  let at? (p : Option Path) : Option Path := p.map (occupiedPath base)
  { c with
    output :=
      { schema := at? c.output.schema
        contract := at? c.output.contract
        implementation := at? c.output.implementation
        loader := at? c.output.loader } }

theorem get_occupied (k : Category) :
    (c.occupied base).output.get k = (c.output.get k).map (occupiedPath base) := by
  cases k <;> rfl

/-- What a directory is replaced by is lacking if it is nothing. -/
theorem lacks_of_get_eq_map {f : Path → Path} {k : Category}
    (hget : d.output.get k = (c.output.get k).map f)
    (hf : ∀ p, (f p).text = "" ↔ base.text = "" ∧ p.text = "") :
    d.lacks k = true ↔ ∀ p, c.output.get k = some p → base.text = "" ∧ p.text = "" := by
  rw [lacks_eq_true_iff, hget]
  simp only [Option.map_eq_some_iff, forall_exists_index, and_imp, forall_apply_eq_imp_iff₂, hf]

theorem lacks_resolve (base : Path) (c : GeneratorConfig) (k : Category) :
    (c.resolve base).lacks k = true ↔
      ∀ p, c.output.get k = some p → base.text = "" ∧ p.text = "" :=
  lacks_of_get_eq_map (get_resolve k) fun _ => resolvePath_text_eq_empty_iff

theorem lacks_occupied (base : Path) (c : GeneratorConfig) (k : Category) :
    (c.occupied base).lacks k = true ↔
      ∀ p, c.output.get k = some p → base.text = "" ∧ p.text = "" := by
  have hpath (p : Path) : (occupiedPath base p).text = "" ↔ base.text = "" ∧ p.text = "" := by
    unfold occupiedPath
    split
    · next hp => simp [hp]
    · next hp => simp [hp]
  exact lacks_of_get_eq_map (get_occupied k) hpath

/-- Resolving changes what is lacking exactly if a directory is given as nothing and the base is
something. -/
theorem lacks_resolve_eq_iff :
    (c.resolve base).lacks = c.lacks ↔
      base.text = "" ∨ ∀ k, c.output.get k ≠ some ⟨""⟩ := by
  constructor
  · intro h
    by_cases hbase : base.text = ""
    · exact .inl hbase
    · refine .inr fun k hk => hbase ?_
      have hlacks : c.lacks k = true := lacks_eq_true_iff.2 fun p hp => by
        rw [← Option.some.inj (hk.symm.trans hp)]
      rw [← h, lacks_resolve] at hlacks
      exact (hlacks _ hk).1
  · intro h
    funext k
    refine Bool.eq_iff_iff.2 ?_
    rw [lacks_resolve, lacks_eq_true_iff]
    refine forall_congr' fun p => forall_congr' fun hp => ?_
    rcases h with hbase | hdirs
    · exact and_iff_right hbase
    · have hne : p.text ≠ "" := fun hempty => hdirs k (hp.trans (by rw [← hempty]))
      simp [hne]

/-- **Resolving changes the verdict by the empty directories alone.**  The verdict on a resolved
configuration is the one on the configuration with the base directory as every directory that is
given as nothing.  It is the verdict on the configuration as written exactly if no directory is
given as nothing, or the base is empty as well. -/
theorem validate_resolve (base : Path) (c : GeneratorConfig) :
    (c.resolve base).validate = (c.occupied base).validate ∧
    ((c.resolve base).validate = c.validate ↔
      base.text = "" ∨ ∀ k, c.output.get k ≠ some ⟨""⟩) := by
  constructor
  · have hverdict : (c.resolve base).validate = (c.occupied base).validate ↔
        (c.resolve base).lacks = (c.occupied base).lacks := validate_eq_iff rfl rfl
    apply hverdict.2
    funext k
    exact Bool.eq_iff_iff.2 ((lacks_resolve base c k).trans (lacks_occupied base c k).symm)
  · have hverdict : (c.resolve base).validate = c.validate ↔ (c.resolve base).lacks = c.lacks :=
      validate_eq_iff rfl rfl
    exact hverdict.trans lacks_resolve_eq_iff

/-- A directory that is given as nothing is missing, but not any more once the paths are
resolved. -/
theorem validate_resolve_forgets :
    let c : GeneratorConfig :=
      { catalog := ⟨"catalog.yaml"⟩
        output :=
          { schema := some ⟨""⟩
            contract := some ⟨"contract"⟩
            implementation := some ⟨"resolvers"⟩
            loader := some ⟨"loaders"⟩ }
        entities := .ofList [("Part", { service := "PartService" })] }
    c.validate = .error (.config "output directories not set: schema_dir") ∧
      (c.resolve ⟨"app"⟩).validate = .ok () := by
  decide +kernel

end GeneratorConfig

end GraphLayer
