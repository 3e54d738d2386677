import GraphLayer.Proofs.Introspection.WellFormed
import GraphLayer.Proofs.Rendering.LoaderWiring
import GraphLayer.Proofs.Rendering.OperationTexts
import GraphLayer.Proofs.Rendering.RootViews

/-!
# Contracts and their implementations

The functions of an entity are made twice, and their bodies by two generators.

* `eq_of_mem_tokens_identifier`: what becomes of a name in code is one token;
* `mem_tokens_serviceBody` and `exists_loading_line`: the tokens of the two kinds of bodies;
* `Spells`, an argument and a parameter in code that stand for one another, and `SameHead` and
  `Agrees`, how the function of an operation is declared and defined;
* `contract_agrees`: described entities are implemented as their contracts say.
-/

namespace GraphLayer.Rendering

open Code
open Schema (Document isName continuesName continuesName_of_isName)

variable {d : Descriptor} {m : Method}

/-! ### Identifiers -/

section Names

variable {name : String} (hname : isName name.toList = true)

include hname

/-- The identifier for a name is one token. -/
theorem eq_of_mem_tokens_identifier {t : String} (h : t ∈ tokens (identifier name)) :
    t = identifier name := by
  have hword : ∀ c ∈ (Text.snakeCase name).toList, isWordChar c = true := fun c hc =>
    Text.continuesName_of_mem_snakeCase (continuesName_of_isName hname) hc
  rcases identifier_cases name with ⟨-, heq⟩ | ⟨-, heq⟩ | ⟨-, heq⟩
  · rw [heq] at h ⊢
    apply eq_of_mem_tokens _ h
    intro c hc
    rw [String.toList_append] at hc
    rcases List.mem_append.1 hc with hc | hc
    · exact hword c hc
    · obtain rfl := List.mem_singleton.1 hc
      decide
  · rw [heq] at h ⊢
    exact eq_of_mem_tokens_raw hword h
  · rw [heq] at h ⊢
    exact eq_of_mem_tokens hword h

/-- No identifier waits, or is the name of a context that is not used. -/
theorem identifier_ne : identifier name ≠ "await" ∧ identifier name ≠ "_ctx" := by
  rcases identifier_cases name with ⟨hreserved, heq⟩ | ⟨-, heq⟩ | ⟨⟨-, hkeyword⟩, heq⟩
  · have hall : ∀ word ∈ reserved, word ++ "_" ≠ "await" ∧ word ++ "_" ≠ "_ctx" := by decide
    rw [heq]
    exact hall _ hreserved
  · rw [heq]
    exact ⟨raw_ne (by decide), raw_ne (by decide)⟩
  · rw [heq]
    constructor
    · intro hawait
      rw [hawait] at hkeyword
      exact hkeyword (by decide)
    · intro hcontext
      have hhead := Text.head?_snakeCase_ne (continuesName_of_isName hname)
      rw [hcontext] at hhead
      exact hhead (by decide)

end Names

/-! ### Bodies -/

/-- The tokens of a call of the service besides the names. -/
def callTokens : List String :=
  ["self", ".", "service", "(", ",", " ", ")", "map_err", "FieldError", ":", "?", ";", "Ok", "true"]

/-- A body that calls the service consists of the names of the operation and its parameters, and of
what all such bodies have. -/
theorem mem_tokens_serviceBody (hm : OperationNamed m) {line t : String}
    (hline : line ∈ serviceBody m) (ht : t ∈ tokens line) :
    t ∈ callTokens ∨ t = identifier m.name ∨ ∃ p ∈ m.params, t = identifier p.name := by
  have hcall {ending : String} (hcut : startsCut ending = true)
      (hending : ∀ t ∈ tokens ending, t ∈ callTokens)
      (ht : t ∈ tokens ("self.service." ++ identifier m.name ++ "(" ++
        String.intercalate ", " (m.params.map fun p => identifier p.name) ++ ")" ++ ending)) :
      t ∈ callTokens ∨ t = identifier m.name ∨ ∃ p ∈ m.params, t = identifier p.name := by
    -- the names stand between characters that belong to no word
    rw [tokens_append (.inr hcut), tokens_append (b := ")") (.inr (by decide)),
      tokens_append (.inl (endsCut_append (by decide))),
      tokens_append (b := "(") (.inr (by decide)), tokens_append (.inl (by decide))] at ht
    simp only [List.mem_append] at ht
    rcases ht with ((((ht | ht) | ht) | ht) | ht) | ht
    · have hstart : ∀ t ∈ tokens "self.service.", t ∈ callTokens := by decide
      exact .inl (hstart t ht)
    · exact .inr (.inl (eq_of_mem_tokens_identifier hm.name ht))
    · have hopen : ∀ t ∈ tokens "(", t ∈ callTokens := by decide
      exact .inl (hopen t ht)
    · rcases mem_tokens_intercalate ht with rfl | rfl | ⟨name, hname, ht⟩
      · exact .inl (by decide)
      · exact .inl (by decide)
      · obtain ⟨p, hp, rfl⟩ := List.mem_map.1 hname
        exact .inr (.inr ⟨p, hp, eq_of_mem_tokens_identifier (hm.params p hp) ht⟩)
    · have hclose : ∀ t ∈ tokens ")", t ∈ callTokens := by decide
      exact .inl (hclose t ht)
    · exact .inl (hending t ht)
  unfold serviceBody at hline
  dsimp only at hline
  split at hline
  · rcases List.mem_cons.1 hline with rfl | hline
    · exact hcall (by decide) (by decide) ht
    · obtain rfl := List.mem_singleton.1 hline
      have hdone : ∀ t ∈ tokens "Ok(true)", t ∈ callTokens := by decide
      exact .inl (hdone t ht)
  · obtain rfl := List.mem_singleton.1 hline
    exact hcall (by decide) (by decide) ht

/-- A body that calls the service does not wait, and does not use its context. -/
theorem ne_of_mem_tokens_serviceBody (hm : OperationNamed m) {line t : String}
    (hline : line ∈ serviceBody m) (ht : t ∈ tokens line) : t ≠ "await" ∧ t ≠ "_ctx" := by
  rcases mem_tokens_serviceBody hm hline ht with ht | rfl | ⟨p, hp, rfl⟩
  · have hall : ∀ t ∈ callTokens, t ≠ "await" ∧ t ≠ "_ctx" := by decide
    exact hall t ht
  · exact identifier_ne hm.name
  · exact identifier_ne (hm.params p hp)

/-- A call of the loader waits, and uses the context. -/
theorem awaits_loadCall (entity id : String) :
    Awaits (loadCall entity id) ∧ "ctx" ∈ tokens (loadCall entity id) := by
  unfold loadCall
  constructor
  · have hend : tokens ")).await?" = [")", ")", ".", "await", "?"] := by decide
    apply awaits_append (by decide)
    rw [Awaits, hend]
    exact ⟨[")", ")"], ["?"], rfl⟩
  · have hctx : "ctx" ∈ tokens "ctx.load::<" := by decide
    simp only [String.append_assoc]
    rw [tokens_append (a := "ctx.load::<") (.inl (by decide))]
    exact List.mem_append_left _ hctx

/-- A body that calls the loader waits for it, and uses its context. -/
theorem exists_loading_line (entity : String) {p : Param} (hparams : m.params = [p]) :
    ∃ line ∈ loadBody entity m, Awaits line ∧ "ctx" ∈ tokens line := by
  obtain ⟨line, hline, before, id, after, rfl⟩ := exists_mem_loadBody entity hparams
  have hcall : tokens (loadCall entity id) <:+:
      tokens (before ++ "Ok(" ++ loadCall entity id ++ ")" ++ after) := by
    rw [tokens_append (.inl (endsCut_append (by decide))),
      tokens_append (b := ")") (.inr (by decide)),
      tokens_append (.inl (endsCut_append (by decide))), List.append_assoc _ (tokens ")")]
    exact List.infix_append _ _ _
  obtain ⟨hawaits, hcontext⟩ := awaits_loadCall entity id
  exact ⟨_, hline, hawaits.trans hcall, hcall.subset hcontext⟩

/-! ### Declarations and definitions -/

/-- An argument of a field and a parameter in code stand for the same parameter of an operation:
their types are the spellings of one type. -/
def Spells (m : Method) (a : Schema.Argument) (b : Binding) : Prop :=
  ∃ p ∈ m.params, a = ⟨p.name, p.type.toRef⟩ ∧ b = ⟨identifier p.name, p.type.codeType⟩

/-- How the function of an operation is declared, and how its definition begins. The context is all
that may have two names in it, and `args` are the other parameters. -/
structure SameHead (d : Descriptor) (m : Method) (declared defined : Function) (context : String)
    (args : List Binding) : Prop where
  name : declared.name = identifier (m.rootField d.name)
  sameName : defined.name = declared.name
  sameAsync : defined.isAsync = declared.isAsync
  onSelf : declared.onSelf = true ∧ defined.onSelf = true
  sameResult : defined.result = declared.result
  declaredParams : declared.params = ⟨"ctx", "&RequestContext"⟩ :: args
  definedParams : defined.params = ⟨context, "&RequestContext"⟩ :: args
  contextName : context = "ctx" ∨ context = "_ctx"
  declaredBody : declared.body = none
  /-- The operation is behind a field of its root in the schema of the entity. -/
  root : m.toDef d.name ∈ Document.added m.kind.root (Schema.fragment d)
  /-- This field has the same arguments, in the same order. -/
  arguments : List.Forall₂ (Spells m) (m.toDef d.name).arguments args

/-- How the function of an operation is declared, and how it is defined by some lines. -/
structure Agrees (d : Descriptor) (m : Method) (declared defined : Function) (context : String)
    (args : List Binding) (body : List String) : Prop
    extends SameHead d m declared defined context args where
  definedBody : defined.body = some body
  awaits : (∃ line ∈ body, Awaits line) ↔ viaLoader d m = true
  usesContext : (∃ line ∈ body, context ∈ tokens line) ↔ viaLoader d m = true
  /-- What the body of an operation that the loader answers takes for granted. -/
  loads : viaLoader d m = true → defined.isAsync = true ∧ context = "ctx" ∧
    (∃ b, args = [b] ∧ b.type ∈ ["i32", "i64", "Option<i32>", "Option<i64>"]) ∧
    defined.result = "FieldResult<Option<" ++ d.name ++ ">>"

/-- The operation behind a field of a root is found in the schema of its entity. -/
theorem toDef_mem_added (hm : m ∈ d.methods) :
    m.toDef d.name ∈ Document.added m.kind.root (Schema.fragment d) := by
  have hroot := Schema.added_fragment d m.kind.isMutation
  rw [show m.kind.root = rootName m.kind.isMutation from rfl, hroot]
  exact List.mem_map_of_mem (List.mem_filter.2 ⟨hm, by simp⟩)

theorem forall₂_spells (d : Descriptor) (m : Method) :
    List.Forall₂ (Spells m) (m.toDef d.name).arguments (bindings m) := by
  rw [Method.toDef, bindings, List.forall₂_map_left_iff, List.forall₂_map_right_iff,
    List.forall₂_same]
  intro p hp
  exact ⟨p, hp, rfl, rfl⟩

theorem sameHead (hm : m ∈ d.methods) {context : String}
    (hcontext : context = "ctx" ∨ context = "_ctx") (body : List String) :
    SameHead d m { operationHead d.name m "ctx" with doc := operationDoc d.name m }
      { operationHead d.name m context with body := some body } context (bindings m) := by
  constructor
  -- the identifier is not to be evaluated
  case name => dsimp only [operationHead]
  case contextName => exact hcontext
  case root => exact toDef_mem_added hm
  case arguments => exact forall₂_spells d m
  case onSelf => exact ⟨rfl, rfl⟩
  all_goals rfl

/-- A number by which an entity is loaded. -/
theorem codeType_of_isScalar {g : GraphType} {s : Scalar} (hs : s = .int ∨ s = .long)
    (h : g.isScalar s = true) :
    g.codeType ∈ ["i32", "i64", "Option<i32>", "Option<i64>"] := by
  cases g with
  | scalar t nullable =>
    obtain rfl : t = s := by simpa [GraphType.isScalar] using h
    rcases hs with rfl | rfl <;> cases nullable <;> decide
  | entity name nullable => cases h
  | list item nullable => cases h

/-- A result that is an entity may be absent. -/
theorem codeType_of_leafEntity? {known : KeySet String} {t : SourceType} {g : GraphType}
    {name : String} (h : mapReturn known t = .ok g) (hlist : g.isList = false)
    (hleaf : g.leafEntity? = some name) : g.codeType = "Option<" ++ name ++ ">" := by
  have hmapped : mapType known t = .ok g := by
    unfold mapReturn at h
    split at h
    · cases h
      cases hleaf
    · exact h
  have harray := isList_of_mapType hmapped
  rw [hlist] at harray
  unfold mapType at hmapped
  split at hmapped
  · cases hmapped
    cases hleaf
  · cases hmapped
    cases hleaf
  · cases hmapped
    cases hleaf
  · split at hmapped
    · cases hmapped
      obtain rfl := Option.some.inj hleaf
      rfl
    · cases hmapped
  · cases hmapped
  · cases hmapped
  · cases hmapped
  · cases harray

/-- What a body that calls the loader takes for granted holds of the operation behind it. -/
theorem loads_of_viaLoader {known : KeySet String}
    (hone : (d.methods.countP fun m => m.kind == .readOne) ≤ 1)
    (hasync : m.asynchronous = true ↔ m.kind = .readOne)
    (hreturns : ∃ t, mapReturn known t = .ok m.returns) (h : viaLoader d m = true) :
    m.asynchronous = true ∧
      (∃ b, bindings m = [b] ∧ b.type ∈ ["i32", "i64", "Option<i32>", "Option<i64>"]) ∧
      m.returns.codeType = "Option<" ++ d.name ++ ">" ∧
      ∃ line ∈ loadBody d.name m, Awaits line ∧ "ctx" ∈ tokens line := by
  obtain ⟨-, hloads⟩ := Bool.and_eq_true_iff.1 h
  obtain ⟨id, p, hid, hparams, hkind, hscalar, hlist, hleaf⟩ := exists_of_loadsById hloads
  obtain ⟨hwhole, -⟩ := Descriptor.identifiedBy_of_id? hone hid
  obtain ⟨t, ht⟩ := hreturns
  refine ⟨hasync.2 hkind, ?_, codeType_of_leafEntity? ht hlist hleaf,
    exists_loading_line d.name hparams⟩
  refine ⟨⟨identifier p.name, p.type.codeType⟩, ?_, codeType_of_isScalar hwhole hscalar⟩
  rw [bindings, hparams]
  rfl

theorem agrees_operation {known : KeySet String}
    (hone : (d.methods.countP fun m => m.kind == .readOne) ≤ 1) (hm : m ∈ d.methods)
    (hasync : m.asynchronous = true ↔ m.kind = .readOne) (hnamed : OperationNamed m)
    (hreturns : ∃ t, mapReturn known t = .ok m.returns) :
    ∃ context args body, Agrees d m
      { operationHead d.name m "ctx" with doc := operationDoc d.name m } (operationFunction d m)
      context args body := by
  cases hloader : viaLoader d m with
  | true =>
    obtain ⟨hwaits, hbinding, hresult, line, hline, hawaits, hcontext⟩ :=
      loads_of_viaLoader hone hasync hreturns hloader
    have hfunction : operationFunction d m =
        { operationHead d.name m "ctx" with body := some (loadBody d.name m) } := if_pos hloader
    rw [hfunction]
    refine ⟨"ctx", bindings m, loadBody d.name m, sameHead hm (.inl rfl) _, rfl, ?_, ?_, ?_⟩
    · exact iff_of_true ⟨line, hline, hawaits⟩ hloader
    · exact iff_of_true ⟨line, hline, hcontext⟩ hloader
    · intro _
      refine ⟨hwaits, rfl, hbinding, ?_⟩
      show "FieldResult<" ++ m.returns.codeType ++ ">" = _
      have hopen : "FieldResult<" ++ "Option<" = "FieldResult<Option<" := by decide
      have hclose : ">" ++ ">" = ">>" := by decide
      rw [hresult, ← hopen, ← hclose]
      simp only [String.append_assoc]
  | false =>
    have hservice : ¬ viaLoader d m = true := by simp [hloader]
    have hfunction : operationFunction d m =
        { operationHead d.name m "_ctx" with body := some (serviceBody m) } := if_neg hservice
    rw [hfunction]
    refine ⟨"_ctx", bindings m, serviceBody m, sameHead hm (.inr rfl) _, rfl, ?_, ?_, ?_⟩
    · refine iff_of_false ?_ hservice
      rintro ⟨line, hline, hawaits⟩
      exact (ne_of_mem_tokens_serviceBody hnamed hline (mem_tokens_of_awaits hawaits)).1 rfl
    · refine iff_of_false ?_ hservice
      rintro ⟨line, hline, hcontext⟩
      exact (ne_of_mem_tokens_serviceBody hnamed hline hcontext).2 rfl
    · intro h
      exact absurd h hservice

/-- **Contract and implementation agree.** Whatever the configuration, let the names of a described
entity, its operations and their parameters and fields be names of the schema language. Read line by
line, the text of its contract ends in an interface and that of its implementation in a block for
this interface. They have one function for each operation, in the same order; these differ in the
name of the context alone. The other parameters stand for the arguments of the field of the root. A
body waits and uses its context exactly if the loader answers the operation, and then its function
is what this body takes it for. -/
theorem contract_agrees {catalog : Catalog} {known : KeySet String} {modules : ModulePaths}
    {entity : String} {settings : EntityConfig} {x : Described}
    (h : describe catalog known modules entity settings = .ok x)
    (hnamed : OperationsNamed x.descriptor) (config : GeneratorConfig) :
    Declares (contract config x.descriptor) (contractInterface x.descriptor) ∧
    Defines (implementation config x.descriptor) (implementationBlock x.descriptor) ∧
    (implementationBlock x.descriptor).interface = some (contractInterface x.descriptor).name ∧
    ∃ declared defined : Method → Function,
      (contractInterface x.descriptor).functions = x.descriptor.methods.map declared ∧
      (implementationBlock x.descriptor).functions = x.descriptor.methods.map defined ∧
      ∀ m ∈ x.descriptor.methods, ∃ context args body,
        Agrees x.descriptor m (declared m) (defined m) context args body := by
  refine ⟨declares_contract hnamed config, defines_implementation hnamed config, rfl, _, _, rfl,
    rfl, ?_⟩
  intro m hm
  have hreturns : ∃ t, mapReturn known t = .ok m.returns := by
    apply exists_mapReturn_of_describe h
    refine List.mem_append_right _ (List.mem_flatMap.2 ⟨m, hm, ?_⟩)
    exact List.mem_append_right _ List.mem_cons_self
  exact agrees_operation (countP_kind_le_one h rfl) hm (method_of_describe h hm).1
    (hnamed.operations m hm) hreturns

open Introspection in
/-- A part has one operation that its loader answers and two that its service answers; all of them
are read in the text of the contract and, as it says, in that of the implementation. -/
theorem contract_agrees_part : ∃ x, partDescribed = .ok x ∧ OperationsNamed x.descriptor ∧
    x.descriptor.methods.map (viaLoader x.descriptor) = [true, false, false] ∧
    ∃ (i : Interface) (b : Block) (declared defined : Method → Function),
      readInterface (contract (Generation.lone "Part") x.descriptor).contents = some i ∧
      readBlock (implementation (Generation.lone "Part") x.descriptor).contents = some b ∧
      b.interface = some i.name ∧
      i.functions = x.descriptor.methods.map declared ∧
      b.functions = x.descriptor.methods.map defined ∧
      ∀ m ∈ x.descriptor.methods, ∃ context args body,
        Agrees x.descriptor m (declared m) (defined m) context args body := by
  have hvalue : (partDescribed.toOption.map fun x => (decide (OperationsNamed x.descriptor),
      x.descriptor.methods.map (viaLoader x.descriptor))) = some (true, [true, false, false]) := by
    decide +kernel
  obtain ⟨x, hx, hvalue⟩ := Option.map_eq_some_iff.1 hvalue
  obtain ⟨hnames, hloaders⟩ := Prod.mk.inj hvalue
  have hdescribed : partDescribed = .ok x := eq_ok_of_toOption hx
  have hnamed := of_decide_eq_true hnames
  obtain ⟨hdeclares, hdefines, hinterface, declared, defined, hagrees⟩ :=
    contract_agrees hdescribed hnamed (Generation.lone "Part")
  exact ⟨x, hdescribed, hnamed, hloaders, _, _, declared, defined, hdeclares, hdefines, hinterface,
    hagrees⟩

end GraphLayer.Rendering
