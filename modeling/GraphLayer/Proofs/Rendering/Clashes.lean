import GraphLayer.Proofs.Rendering.Contracts
import GraphLayer.Proofs.Rendering.SelfCheck

/-!
# Distinct names in contracts

The check of the root fields compares names as they are, root by root; an interface has all
operations of an entity under names in snake case.

* `Alike`, names that are one identifier in code: `identifier_eq_iff`.  Of names that may stand in a
  schema these are the ones that are the same in snake case, `alike_iff`;
* `Clash`, two operations of an entity whose functions have one name although their fields pass the
  check;
* `contract_nodup_iff`: exactly these clashes keep the functions of a contract from having different
  names, and only parameters that are alike keep those of a function from it.
-/

namespace GraphLayer.Rendering

open Code
open Schema (isName continuesName continuesName_of_isName)

variable {config : GeneratorConfig} {ds : List Descriptor} {as : List Artifact} {d : Descriptor}

/-! ### Identifiers -/

/-- A word that code has a use for, and what stands for it in code. -/
def Escapes (word escaped : String) : Prop :=
  word ∈ reserved ∧ escaped = word ++ "_" ∨ word ∈ keywords ∧ escaped = "r#" ++ word

/-- Names that are one identifier in code. -/
def Alike (a b : String) : Prop :=
  Text.snakeCase a = Text.snakeCase b ∨ Escapes (Text.snakeCase a) (Text.snakeCase b) ∨
    Escapes (Text.snakeCase b) (Text.snakeCase a)

/-- The mark of a raw word stands in no word that code has a use for. -/
theorem raw_not_mem (word : String) : "r#" ++ word ∉ reserved ∧ "r#" ++ word ∉ keywords := by
  have hmark : '#' ∈ ("r#" ++ word).toList := by simp
  have hreserved : ∀ w ∈ reserved, '#' ∉ w.toList := by decide
  have hkeywords : ∀ w ∈ keywords, '#' ∉ w.toList := by decide
  exact ⟨fun h => hreserved _ h hmark, fun h => hkeywords _ h hmark⟩

/-- What stands for a word in code stands for itself. -/
theorem Escapes.identifier_eq {a b : String} (h : Escapes (Text.snakeCase a) (Text.snakeCase b)) :
    identifier a = identifier b := by
  rcases h with ⟨hword, hb⟩ | ⟨hword, hb⟩
  · have hall : ∀ w ∈ reserved, w ++ "_" ∉ reserved ∧ w ++ "_" ∉ keywords := by decide
    obtain ⟨hreserved, hkeywords⟩ := hall _ hword
    rw [← hb] at hreserved hkeywords
    rw [identifier_of_not_mem hreserved hkeywords, hb, identifier, if_pos hword]
  · have hall : ∀ w ∈ keywords, w ∉ reserved := by decide
    obtain ⟨hreserved, hkeywords⟩ := raw_not_mem (Text.snakeCase a)
    rw [← hb] at hreserved hkeywords
    rw [identifier_of_not_mem hreserved hkeywords, hb, identifier, if_neg (hall _ hword),
      if_pos hword]

/-- Names are one identifier exactly if they are the same in snake case, or if one of them is what
stands for the other one. -/
theorem identifier_eq_iff {a b : String} : identifier a = identifier b ↔ Alike a b := by
  have hhead : ∀ v ∈ reserved, (v ++ "_").toList.head? ≠ some 'r' := by decide
  constructor
  · intro h
    rcases identifier_cases a with ⟨ha, heqa⟩ | ⟨ha, heqa⟩ | ⟨-, heqa⟩ <;>
    rcases identifier_cases b with ⟨hb, heqb⟩ | ⟨hb, heqb⟩ | ⟨-, heqb⟩ <;>
    rw [heqa, heqb] at h
    · exact .inl (String.append_left_inj _ |>.1 h)
    · exact absurd h.symm (raw_ne (hhead _ ha))
    · exact .inr (.inl (.inl ⟨ha, h.symm⟩))
    · exact absurd h (raw_ne (hhead _ hb))
    · exact .inl (String.append_right_inj _ |>.1 h)
    · exact .inr (.inl (.inr ⟨ha, h.symm⟩))
    · exact .inr (.inr (.inl ⟨hb, h⟩))
    · exact .inr (.inr (.inr ⟨hb, h⟩))
    · exact .inl h
  · rintro (h | h | h)
    · rw [identifier, identifier, h]
    · exact h.identifier_eq
    · exact h.identifier_eq.symm

/-- What stands for a word in code is not the snake case of a name that may stand in a schema. -/
theorem not_escapes {word name : String} (hname : isName name.toList = true) :
    ¬ Escapes word (Text.snakeCase name) := by
  rintro (⟨-, h⟩ | ⟨-, h⟩)
  · apply Text.getLast?_snakeCase_ne (continuesName_of_isName hname)
    simp [h]
  · exact snakeCase_ne_raw hname word h

/-- Of names that may stand in a schema those are alike that are the same in snake case. -/
theorem alike_iff {a b : String} (ha : isName a.toList = true) (hb : isName b.toList = true) :
    Alike a b ↔ Text.snakeCase a = Text.snakeCase b := by
  constructor
  · rintro (h | h | h)
    · exact h
    · exact absurd h (not_escapes hb)
    · exact absurd h (not_escapes ha)
  · exact .inl

/-! ### Functions and their parameters -/

/-- The functions of two operations of an entity have one name, although no check compares their
fields or finds them equal. -/
inductive Clash (d : Descriptor) (m m' : Method) : Prop where
  /-- The fields have one name in different roots. -/
  | roots (hroot : m.kind.root ≠ m'.kind.root)
      (hfield : m.rootField d.name = m'.rootField d.name)
  /-- The names of the fields differ, but are alike. -/
  | words (hfield : m.rootField d.name ≠ m'.rootField d.name)
      (halike : Alike (m.rootField d.name) (m'.rootField d.name))

/-- Of operations with different fields those clash whose functions have one name. -/
theorem clash_iff {m m' : Method} (hkey : rootKey (d, m) ≠ rootKey (d, m')) :
    Clash d m m' ↔ identifier (m.rootField d.name) = identifier (m'.rootField d.name) := by
  constructor
  · rintro (⟨-, hfield⟩ | ⟨-, halike⟩)
    · rw [hfield]
    · exact identifier_eq_iff.2 halike
  · intro h
    by_cases hfield : m.rootField d.name = m'.rootField d.name
    · exact .roots (fun hroot => hkey (Prod.ext hroot hfield)) hfield
    · exact .words hfield (identifier_eq_iff.1 h)

/-- No two operations of an entity have one field of one root. -/
theorem pairwise_rootKey (hroots : checkRootFields ds = .ok ()) (hd : d ∈ ds) :
    d.methods.Pairwise fun m m' => rootKey (d, m) ≠ rootKey (d, m') := by
  have hkeys := checkRootFields_eq_ok_iff.1 hroots
  rw [rootKeys, operations, List.map_flatMap] at hkeys
  have hown := (List.nodup_flatMap.1 hkeys).1 d hd
  rw [List.map_map] at hown
  exact List.pairwise_map.1 hown

/-- The names of the functions of a contract are the identifiers for the root fields. -/
theorem nodup_functions_iff : ((contractInterface d).functions.map Function.name).Nodup ↔
    (d.methods.map fun m => identifier (m.rootField d.name)).Nodup := by
  unfold List.Nodup contractInterface
  dsimp only
  rw [List.pairwise_map, List.pairwise_map, List.pairwise_map]
  dsimp only [operationHead]
  exact Iff.rfl

/-- The context is told apart from all other parameters. -/
theorem nodup_params_iff (entity : String) (m : Method) :
    ((operationHead entity m "ctx").params.map Binding.name).Nodup ↔
      (m.params.map fun p => identifier p.name).Nodup := by
  have hnames : (operationHead entity m "ctx").params.map Binding.name =
      "ctx" :: m.params.map fun p => identifier p.name := by
    simp only [operationHead, bindings, List.map_cons, List.map_map, Function.comp_def]
  have hcontext : "ctx" ∉ m.params.map fun p => identifier p.name := by
    intro hmem
    obtain ⟨p, -, hp⟩ := List.mem_map.1 hmem
    exact identifier_ne_ctx p.name hp
  rw [hnames, List.nodup_cons, and_iff_right hcontext]

/-- What holds of the parameters of each operation holds of the function that declares it. -/
theorem forall₂_functions {P : Method → List String → Prop}
    (h : ∀ m ∈ d.methods, P m ((operationHead d.name m "ctx").params.map Binding.name)) :
    List.Forall₂ (fun (m : Method) (f : Function) => P m (f.params.map Binding.name))
      d.methods (contractInterface d).functions := by
  show List.Forall₂ _ d.methods (d.methods.map _)
  rw [List.forall₂_map_right_iff, List.forall₂_same]
  exact h

/-- Of names that may stand in a schema only the snake case counts. -/
theorem nodup_identifiers_iff {A : Type} {l : List A} {name : A → String}
    (h : ∀ a ∈ l, isName (name a).toList = true) :
    (l.map fun a => identifier (name a)).Nodup ↔
      (l.map fun a => Text.snakeCase (name a)).Nodup := by
  unfold List.Nodup
  rw [List.pairwise_map, List.pairwise_map]
  refine List.Pairwise.iff_of_mem fun ha hb => ?_
  rw [ne_eq, identifier_eq_iff, alike_iff (h _ ha) (h _ hb)]

/-! ### The main theorem -/

/-- **When the names of a contract are distinct.**  Let the entities pass the checks that are made
of them together, and take the contract of one of them.

* Its file is about an interface, which is read in its text if all names may stand in a schema.
* The functions of the interface have different names exactly if no two operations clash: fields of
  one name are not in different roots, and fields of different names are not alike.
* The parameters of a function have different names, with the context among them, exactly if no two
  parameters of its operation are alike.
* If all names may stand in a schema, it is enough to look at their snake case. -/
theorem contract_nodup_iff (h : coordinate config ds = .ok as) (hd : d ∈ ds) :
    (∃ heading imports, (contract config d).contents = file heading
      { imports, items := [marked "#[async_trait]" (.interface (contractInterface d))] }) ∧
    (OperationsNamed d → Declares (contract config d) (contractInterface d)) ∧
    (((contractInterface d).functions.map Function.name).Nodup ↔
      d.methods.Pairwise fun m m' => ¬ Clash d m m') ∧
    List.Forall₂ (fun (m : Method) (f : Function) => (f.params.map Binding.name).Nodup ↔
        m.params.Pairwise fun p q => ¬ Alike p.name q.name)
      d.methods (contractInterface d).functions ∧
    (d.Named →
      (((contractInterface d).functions.map Function.name).Nodup ↔
        (d.methods.map fun m => Text.snakeCase (m.rootField d.name)).Nodup) ∧
      List.Forall₂ (fun (m : Method) (f : Function) => (f.params.map Binding.name).Nodup ↔
          (m.params.map fun p => Text.snakeCase p.name).Nodup)
        d.methods (contractInterface d).functions) := by
  obtain ⟨-, hroots, -⟩ := coordinate_eq_ok_iff.1 h
  have hkeys := pairwise_rootKey hroots hd
  refine ⟨⟨_, _, rfl⟩, fun hnamed => declares_contract hnamed config, ?_, ?_,
    fun hnamed => ⟨?_, ?_⟩⟩
  · rw [nodup_functions_iff, List.Nodup, List.pairwise_map]
    constructor
    · exact hkeys.imp₂ fun m m' hkey hname hclash => hname ((clash_iff hkey).1 hclash)
    · exact hkeys.imp₂ fun m m' hkey hclash hname => hclash ((clash_iff hkey).2 hname)
  · apply forall₂_functions (P := fun m names => names.Nodup ↔
      m.params.Pairwise fun p q => ¬ Alike p.name q.name)
    intro m hm
    rw [nodup_params_iff, List.Nodup, List.pairwise_map]
    simp only [ne_eq, identifier_eq_iff]
  · rw [nodup_functions_iff]
    exact nodup_identifiers_iff hnamed.roots
  · apply forall₂_functions (P := fun m names => names.Nodup ↔
      (m.params.map fun p => Text.snakeCase p.name).Nodup)
    intro m hm
    rw [nodup_params_iff]
    exact nodup_identifiers_iff (hnamed.params m hm)

/-- A catalog of parts; two parameters of one operation are the same in snake case. -/
def sparesCatalog : Catalog where
  classes :=
    [⟨"Part", [{ name := "getPartId", returns := "long" },
      { name := "getLabel", returns := "String" }]⟩,
    ⟨"PartService", [{ name := "getPart", params := [⟨"partId", "long"⟩], returns := "Part" },
      { name := "deletePart", params := [⟨"partId", "long"⟩], returns := "void" },
      { name := "findSpares", params := [⟨"partId", "long"⟩, ⟨"part_id", "long"⟩],
        returns := "List<Part>" }]⟩]

/-- A configuration with some names of root fields. -/
def sparesConfig (names : Dict String String) : GeneratorConfig :=
  { Generation.lone "Part" with
    entities := ⟨[("Part", { service := "PartService", operationNames := names })],
      List.pairwise_singleton _ _⟩ }

/-- The descriptor of a part, with the report of its making. -/
def sparesDescribed (names : Dict String String) : List Descriptor × Generation.Report :=
  Generation.describeEach sparesCatalog
    (Generation.knownNames (sparesConfig names) sparesCatalog) (sparesConfig names).modules
    (sparesConfig names).entities.toList ([], {})

/-- Under the names that follow from the operations all functions of a part are told apart. -/
theorem contract_nodup_iff_spares :
    let config := sparesConfig .empty
    let ds := (sparesDescribed .empty).1
    (sparesDescribed .empty).2.failures = [] ∧ ∃ as, coordinate config ds = .ok as ∧
      ∃ d ∈ ds, ((contractInterface d).functions.map Function.name).Nodup ∧
        d.methods.Pairwise fun m m' => ¬ Clash d m m' := by
  intro config ds
  have hr : (sparesDescribed .empty).2.failures = [] := by decide +kernel
  obtain ⟨as, has⟩ := exists_coordinate_of_describeEach config rfl hr (by decide +kernel)
    (by decide +kernel) (by decide +kernel)
  have hnames : ∃ d ∈ ds, ((contractInterface d).functions.map Function.name).Nodup := by
    decide +kernel
  obtain ⟨d, hd, hfunctions⟩ := hnames
  exact ⟨hr, as, has, d, hd, hfunctions, (contract_nodup_iff has hd).2.2.1.1 hfunctions⟩

/-- If the deletion of parts is configured as a field `part`, a name that their reading has in the
other root, two functions have one name. So have two parameters of the function that finds
spares. -/
theorem not_nodup_contract_spares :
    let names : Dict String String := ⟨[("deletePart", "part")], List.pairwise_singleton _ _⟩
    let config := sparesConfig names
    let ds := (sparesDescribed names).1
    (sparesDescribed names).2.failures = [] ∧ ∃ as, coordinate config ds = .ok as ∧
      ∃ d ∈ ds, ¬ ((contractInterface d).functions.map Function.name).Nodup ∧
        ∃ p ∈ d.methods.zip (contractInterface d).functions,
          (p.1.params.map Param.name).Nodup ∧ ¬ (p.2.params.map Binding.name).Nodup := by
  intro names config ds
  have hr : (sparesDescribed names).2.failures = [] := by decide +kernel
  obtain ⟨as, has⟩ := exists_coordinate_of_describeEach config rfl hr (by decide +kernel)
    (by decide +kernel) (by decide +kernel)
  exact ⟨hr, as, has, by decide +kernel⟩

end GraphLayer.Rendering
