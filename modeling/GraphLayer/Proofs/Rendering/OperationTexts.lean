import GraphLayer.Proofs.Code.Reader
import GraphLayer.Proofs.Data.Ascending
import GraphLayer.Proofs.Rendering.Identifiers
import GraphLayer.Proofs.Types.Grammar
import GraphLayer.Rendering.Operations

/-!
# The texts of operations

What the functions of an entity are made of is told apart in the files that they are written to.

* `OperationNamed` and `OperationsNamed`, operations whose names may stand in a schema;
* `lacks_identifier`, `lacks_className` and `lacks_codeType`: what becomes of names and types in
  code has no other characters than words have, and those of generic types;
* `readable_contractInterface` and `readable_implementationBlock`: contracts and implementations are
  readable;
* `Declares` and `Defines`, what is read in the text of a file, and `declares_contract` and
  `defines_implementation`: what is read in the two files of an entity.
-/

namespace GraphLayer.Rendering

open Code
open Schema (isName continuesName continuesName_of_isName)

variable {d : Descriptor} {m : Method} {name stops : String}

/-! ### Names -/

/-- The operation and its parameters have names. -/
structure OperationNamed (m : Method) : Prop where
  name : isName m.name.toList = true
  params : ∀ p ∈ m.params, isName p.name.toList = true

/-- All operations of an entity have names, and so have their fields in the roots and the entity
itself.  The entities that they refer to are under names of classes, as in all types that can be
read; these may have points in them. -/
structure OperationsNamed (d : Descriptor) : Prop where
  entity : isName d.name.toList = true
  refs : ∀ e ∈ d.operationRefs.keys, SourceType.isIdentifier e.toList = true
  operations : ∀ m ∈ d.methods, OperationNamed m
  roots : ∀ m ∈ d.methods, isName (m.rootField d.name).toList = true

instance decidableOperationsNamed (d : Descriptor) : Decidable (OperationsNamed d) :=
  decidable_of_iff
    (isName d.name.toList = true ∧
      (∀ e ∈ d.operationRefs.keys, SourceType.isIdentifier e.toList = true) ∧
      (∀ m ∈ d.methods, isName m.name.toList = true ∧ ∀ p ∈ m.params, isName p.name.toList = true) ∧
      ∀ m ∈ d.methods, isName (m.rootField d.name).toList = true)
    ⟨fun ⟨hentity, hrefs, hoperations, hroots⟩ =>
        ⟨hentity, hrefs, fun m hm => ⟨(hoperations m hm).1, (hoperations m hm).2⟩, hroots⟩,
      fun h => ⟨h.entity, h.refs,
        fun m hm => ⟨(h.operations m hm).name, (h.operations m hm).params⟩, h.roots⟩⟩

/-- Words have none of the characters that are not part of words. -/
theorem lacks_of_words {s : String} (h : ∀ c ∈ s.toList, isWordChar c = true)
    (hstops : stops.toList.all isCut = true) : Lacks s stops := by
  intro c hc hmem
  have hcut := List.all_eq_true.1 hstops c hc
  rw [isCut, h c hmem] at hcut
  cases hcut

section Names

variable (hname : isName name.toList = true) (hstops : stops.toList.all isCut = true)

include hname hstops

theorem lacks_name : Lacks name stops :=
  lacks_of_words (continuesName_of_isName hname) hstops

theorem lacks_snakeCase : Lacks (Text.snakeCase name) stops := by
  refine lacks_of_words (fun c hc => ?_) hstops
  exact Text.continuesName_of_mem_snakeCase (continuesName_of_isName hname) hc

theorem lacks_identifier : Lacks (identifier name) stops := by
  have hsnake := lacks_snakeCase hname hstops
  rcases identifier_cases name with ⟨-, heq⟩ | ⟨-, heq⟩ | ⟨-, heq⟩
  · have hend : "_".toList.all isWordChar = true := by decide
    rw [heq]
    exact lacks_append.2 ⟨hsnake, lacks_of_words (List.all_eq_true.1 hend) hstops⟩
  · have hmark : "r#".toList.all (fun c => isCut c == false) = true := by decide
    rw [heq]
    refine lacks_append.2 ⟨fun c hc hmem => ?_, hsnake⟩
    have hcut := List.all_eq_true.1 hstops c hc
    rw [beq_iff_eq.1 (List.all_eq_true.1 hmark c hmem)] at hcut
    cases hcut
  · rw [heq]
    exact hsnake

/-- The key of a loader is a word. -/
theorem lacks_loaderKey : Lacks (loaderKey name) stops := by
  have hsnake (c : Char) (hc : c ∈ (Text.snakeCase name).toList) : continuesName c = true :=
    Text.continuesName_of_mem_snakeCase (continuesName_of_isName hname) hc
  have hupper := fun c hc => Text.continuesName_of_mem_upper hsnake (c := c) hc
  have hend : "_LOADER_KEY".toList.all isWordChar = true := by decide
  exact lacks_append.2
    ⟨lacks_of_words hupper hstops, lacks_of_words (List.all_eq_true.1 hend) hstops⟩

end Names

/-- The names of classes are in one line, and have no commas and no parentheses. -/
theorem lacks_className (h : SourceType.isIdentifier name.toList = true) :
    Lacks name "\n\r,)" := by
  have hstops :
      "\n\r,)".toList.all (fun c => SourceType.continuesIdentifier c == false) = true := by decide
  intro c hc hmem
  have hcontinues := SourceType.continuesIdentifier_of_isIdentifier h hmem
  rw [beq_iff_eq.1 (List.all_eq_true.1 hstops c hc)] at hcontinues
  cases hcontinues

/-- The types of code have no commas and no parentheses. -/
theorem lacks_codeType {g : GraphType}
    (h : ∀ e, g.leafEntity? = some e → SourceType.isIdentifier e.toList = true) :
    Lacks g.codeType "\n\r,)" := by
  have hoption {inner : String} (hinner : Lacks inner "\n\r,)") (nullable : Bool) :
      Lacks (GraphType.optionalCode nullable inner) "\n\r,)" := by
    cases nullable with
    | true => exact lacks_append.2 ⟨lacks_append.2 ⟨by decide, hinner⟩, by decide⟩
    | false => exact hinner
  induction g with
  | scalar s nullable =>
    have hall : ∀ s ∈ Scalar.all, Lacks s.codeType "\n\r,)" := by decide
    exact hoption (hall s (by cases s <;> decide)) nullable
  | entity name nullable => exact hoption (lacks_className (h name rfl)) nullable
  | list item nullable ih =>
    exact hoption (lacks_append.2 ⟨lacks_append.2 ⟨by decide, ih h⟩, by decide⟩) nullable

/-! ### Functions -/

section Operations

variable (h : OperationsNamed d) (hm : m ∈ d.methods)

include h hm

/-- The entity at the leaf of a type of an operation is under the name of a class. -/
theorem isIdentifier_of_leafEntity? {g : GraphType} (hg : g ∈ m.types) {e : String}
    (he : g.leafEntity? = some e) : SourceType.isIdentifier e.toList = true := by
  have hmem : g ∈ d.methods.flatMap Method.types := List.mem_flatMap.2 ⟨m, hm, hg⟩
  exact h.refs e (KeySet.mem_keys_ofList.2 (List.mem_filterMap.2 ⟨g, hmem, he⟩))

/-- The parameters behind the context. -/
theorem lacks_bindings {b : Binding} (hb : b ∈ bindings m) :
    Lacks b.name "\n\r,:)" ∧ Lacks b.type "\n\r,)" := by
  obtain ⟨p, hp, rfl⟩ := List.mem_map.1 hb
  -- the identifier is not to be evaluated
  dsimp only
  constructor
  · exact lacks_identifier ((h.operations m hm).params p hp) (by decide)
  · exact lacks_codeType fun e he =>
      isIdentifier_of_leafEntity? h hm (List.mem_append_left _ (List.mem_map_of_mem hp)) he

/-- The function of an operation is readable if its description and its body are. -/
theorem readable_function {context doc : String} {body : Option (List String)}
    (hcontext : Lacks context "\n\r,:)") (hdoc : Lacks doc "\n\r")
    (hbody : ∀ ls, body = some ls → ∀ l ∈ ls, Lacks l "\n\r") :
    { operationHead d.name m context with doc, body }.Readable := by
  constructor
  case doc => exact hdoc
  case name =>
    dsimp only [operationHead]
    exact lacks_identifier (h.roots m hm) (by decide)
  case params =>
    intro b hb
    dsimp only [operationHead] at hb
    rcases List.mem_cons.1 hb with rfl | hb
    · have htype : Lacks "&RequestContext" "\n\r,)" := by decide
      exact ⟨hcontext, htype⟩
    · exact lacks_bindings h hm hb
  case result =>
    have htype : Lacks m.returns.codeType "\n\r,)" := lacks_codeType fun e he =>
      isIdentifier_of_leafEntity? h hm (List.mem_append_right _ List.mem_cons_self) he
    have hends : "\n\r,)".toList = "\n\r".toList ++ ",)".toList := by decide
    have hline : Lacks m.returns.codeType "\n\r" := fun c hc =>
      htype c (hends ▸ List.mem_append_left _ hc)
    dsimp only [operationHead]
    exact lacks_append.2 ⟨lacks_append.2 ⟨by decide, hline⟩, by decide⟩
  case body => exact hbody

/-- The description of an operation is one line. -/
theorem lacks_operationDoc : Lacks (operationDoc d.name m) "\n\r" := by
  have hkinds : ∀ k ∈ OperationKind.all, Lacks k.root "\n\r" ∧ Lacks k.text "\n\r" := by decide
  obtain ⟨hroot, htext⟩ := hkinds m.kind (by cases m.kind <;> decide)
  have hname : Lacks m.name "\n\r" := lacks_name (h.operations m hm).name (by decide)
  have hfield : Lacks (m.rootField d.name) "\n\r" := lacks_name (h.roots m hm) (by decide)
  simp only [operationDoc, lacks_append]
  exact ⟨⟨⟨⟨⟨⟨⟨hroot, by decide⟩, hfield⟩, by decide⟩, htext⟩, by decide⟩, hname⟩, by decide⟩

end Operations

/-- The lines of an operation that the service answers. -/
theorem lacks_serviceBody (hm : OperationNamed m) {l : String} (hl : l ∈ serviceBody m) :
    Lacks l "\n\r" := by
  have hname : Lacks (identifier m.name) "\n\r" := lacks_identifier hm.name (by decide)
  have hparams :
      Lacks (String.intercalate ", " (m.params.map fun p => identifier p.name)) "\n\r" := by
    intro c hc
    rw [String.toList_intercalate]
    have hcomma : Lacks ", " "\n\r" := by decide
    refine not_mem_intercalate (hcomma c hc) fun cs hcs => ?_
    obtain ⟨s, hs, rfl⟩ := List.mem_map.1 hcs
    obtain ⟨p, hp, rfl⟩ := List.mem_map.1 hs
    exact lacks_identifier (hm.params p hp) (by decide) c hc
  have hcall {ending : String} (hending : Lacks ending "\n\r") :
      Lacks ("self.service." ++ identifier m.name ++ "(" ++
        String.intercalate ", " (m.params.map fun p => identifier p.name) ++ ")" ++ ending)
        "\n\r" := by
    simp only [lacks_append]
    exact ⟨⟨⟨⟨⟨by decide, hname⟩, by decide⟩, hparams⟩, by decide⟩, hending⟩
  unfold serviceBody at hl
  dsimp only at hl
  split at hl
  · rcases List.mem_cons.1 hl with rfl | hl
    · exact hcall (by decide)
    · obtain rfl := List.mem_singleton.1 hl
      decide
  · obtain rfl := List.mem_singleton.1 hl
    exact hcall (by decide)

/-- The lines of an operation that the loader answers. -/
theorem lacks_loadBody {entity : String} (hentity : isName entity.toList = true)
    (hm : OperationNamed m) {l : String} (hl : l ∈ loadBody entity m) : Lacks l "\n\r" := by
  have hcall {id : String} (hid : Lacks id "\n\r") : Lacks (loadCall entity id) "\n\r" := by
    have hname : Lacks entity "\n\r" := lacks_name hentity (by decide)
    have hkey : Lacks (loaderKey entity) "\n\r" := lacks_loaderKey hentity (by decide)
    unfold loadCall
    simp only [lacks_append]
    exact ⟨⟨⟨⟨⟨⟨by decide, hname⟩, by decide⟩, hkey⟩, by decide⟩, hid⟩, by decide⟩
  unfold loadBody at hl
  split at hl
  · cases hl
  · next p _ hparams =>
    have hid : Lacks (identifier p.name) "\n\r" :=
      lacks_identifier (hm.params p (hparams ▸ List.mem_cons_self)) (by decide)
    split at hl
    · simp only [List.mem_cons, List.not_mem_nil, or_false] at hl
      rcases hl with rfl | rfl | rfl | rfl
      · exact lacks_append.2 ⟨lacks_append.2 ⟨by decide, hid⟩, by decide⟩
      · exact lacks_append.2 ⟨lacks_append.2 ⟨by decide, hcall (by decide)⟩, by decide⟩
      · decide
      · decide
    · obtain rfl := List.mem_singleton.1 hl
      exact lacks_append.2 ⟨lacks_append.2 ⟨by decide, hcall hid⟩, by decide⟩

/-! ### Contracts and implementations -/

/-- **Contracts are readable.** -/
theorem readable_contractInterface (h : OperationsNamed d) : (contractInterface d).Readable where
  doc := lacks_append.2 ⟨lacks_append.2 ⟨by decide, lacks_name h.entity (by decide)⟩, by decide⟩
  name := lacks_append.2 ⟨lacks_name h.entity (by decide), by decide⟩
  parents := ⟨"Send + Sync", rfl, by decide⟩
  functions f hf := by
    obtain ⟨m, hm, rfl⟩ := List.mem_map.1 hf
    exact readable_function h hm (by decide) (lacks_operationDoc h hm) nofun

/-- **Implementations are readable.** -/
theorem readable_implementationBlock (h : OperationsNamed d) :
    (implementationBlock d).Readable where
  interface := ⟨_, rfl, lacks_append.2 ⟨lacks_name h.entity (by decide), by decide⟩⟩
  target := lacks_append.2 ⟨lacks_name h.entity (by decide), by decide⟩
  types := nofun
  functions f hf := by
    obtain ⟨m, hm, rfl⟩ := List.mem_map.1 hf
    have hnamed := h.operations m hm
    have hdoc : Lacks "" "\n\r" := by decide
    unfold operationFunction
    split
    · refine readable_function h hm (by decide) hdoc fun ls hls l hl => ?_
      obtain rfl := Option.some.inj hls
      exact lacks_loadBody h.entity hnamed hl
    · refine readable_function h hm (by decide) hdoc fun ls hls l hl => ?_
      obtain rfl := Option.some.inj hls
      exact lacks_serviceBody hnamed hl

/-- An interface is what is read at the end of a file. -/
def Declares (a : Artifact) (i : Interface) : Prop := readInterface a.contents = some i

/-- A block is what is read at the end of a file. -/
def Defines (a : Artifact) (b : Block) : Prop := readBlock a.contents = some b

/-- The text of a contract is that of its interface. -/
theorem declares_contract (h : OperationsNamed d) (config : GeneratorConfig) :
    Declares (contract config d) (contractInterface d) :=
  readInterface_file (readable_contractInterface h) (by decide) (by decide) _ _ []

/-- The text of an implementation ends in that of its block. -/
theorem defines_implementation (h : OperationsNamed d) (config : GeneratorConfig) :
    Defines (implementation config d) (implementationBlock d) :=
  readBlock_file (readable_implementationBlock h) (by decide) _ _ _

end GraphLayer.Rendering
