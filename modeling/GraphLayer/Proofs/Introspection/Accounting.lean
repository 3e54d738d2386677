import GraphLayer.Proofs.Introspection.Ambiguity

/-!
# What became of each operation of a service

* `Method.signature`, the member of a service that an operation was made of;
* `Fate`, what can become of a member: it is kept as an operation, or dropped for a `DropReason`;
  `Fate.Fits` says when a member has a fate;
* `Introspection.exists_fates` and `Introspection.decision_of_fits`: every member has a fate, and no
  two that differ; the operations are those of the members that are kept;
* `filterMap_append_perm` and `flatMap_filterMap_perm`: what several passes over one list collect is
  what one pass collects, as long as no two of them take something of the same element;
* `Accounted` and `members_accounted`: in an entity that can be described every member of its
  service is kept, or there is one warning that says why not.
-/

namespace GraphLayer

/-- The member of a service that an operation was made of. -/
def Method.signature (m : Method) : Signature :=
  ⟨m.name, m.params.map fun p => (p.name, p.sourceType), m.returnSource⟩

/-! ### Fates -/

/-- Why a member of a service is no operation of an entity. -/
inductive DropReason where
  /-- It has no override, and its name matches no convention. -/
  | unclassified
  /-- It has a kind by convention that an override gives to another member. -/
  | superseded (kind : OperationKind)
  /-- A parameter is an entity or a list of entities. -/
  | entityArgument (param target : String)
  deriving DecidableEq

/-- What a warning says after the name of the member. -/
def DropReason.text : DropReason → String
  | unclassified => "' matches no override and no naming convention"
  | superseded kind => "', " ++ kind.text ++ " is pinned by an override"
  | entityArgument param target =>
    "', argument '" ++ param ++ "' has entity type '" ++ target ++ "'"

theorem DropReason.text_unclassified :
    unclassified.text = "' matches no override and no naming convention" := rfl

theorem DropReason.text_superseded (kind : OperationKind) :
    (superseded kind).text = "', " ++ kind.text ++ " is pinned by an override" := rfl

theorem DropReason.text_entityArgument (param target : String) :
    (entityArgument param target).text =
      "', argument '" ++ param ++ "' has entity type '" ++ target ++ "'" := rfl

/-- What became of a member of a service. -/
inductive Fate where
  | kept (method : Method)
  | dropped (name : String) (reason : DropReason)

namespace Fate

/-- The operation that a member became. -/
def method? : Fate → Option Method
  | kept method => some method
  | dropped _ _ => none

/-- The warning about a member that was dropped. -/
def warning? (entity : String) : Fate → Option String
  | kept _ => none
  | dropped name reason => some (entity ++ ": dropped '" ++ name ++ reason.text)

/-- What is decided about a member: the kind under which it is kept, or why it is dropped. -/
def decision : Fate → Except DropReason OperationKind
  | kept method => .ok method.kind
  | dropped _ reason => .error reason

/-- A member has a kind, and no override takes it away. -/
def Stays (config : EntityConfig) (m : MemberDef) (kind : OperationKind) : Prop :=
  ∃ basis, (Classifier.ofConfig config).classify (Introspection.signatureOf m) =
    some (kind, basis) ∧ (basis = .convention → config.methods.name? kind = none)

/-- The entity at the leaf of the type of a parameter. -/
def entityOf? (known : KeySet String) (p : ParamDef) : Option String :=
  match mapType known (Introspection.typeOf p.type) with
  | .ok g => g.leafEntity?
  | .error _ => none

open Introspection in
/-- The fate that a member has by its name, the overrides and the types of its parameters. -/
inductive Fits (known : KeySet String) (config : EntityConfig) (m : MemberDef) : Fate → Prop
  | kept {method : Method} (hstays : Stays config m method.kind)
      (hparams : ∀ p ∈ m.params, entityOf? known p = none)
      (hsignature : method.signature = signatureOf m) : Fits known config m (kept method)
  | unclassified (hname : m.name ∉ config.methods.names)
      (hconvention : Classifier.conventionalKind? (signatureOf m) = none) :
      Fits known config m (dropped m.name .unclassified)
  | superseded {kind : OperationKind} {other : String} (hname : m.name ∉ config.methods.names)
      (hconvention : Classifier.conventionalKind? (signatureOf m) = some kind)
      (hpinned : config.methods.name? kind = some other) :
      Fits known config m (dropped m.name (.superseded kind))
  /-- The warning names the first parameter that is at fault. -/
  | entityArgument {kind : OperationKind} {before after : List ParamDef} {p : ParamDef}
      {target : String} (hstays : Stays config m kind) (hparams : m.params = before ++ p :: after)
      (hbefore : ∀ q ∈ before, entityOf? known q = none) (hp : entityOf? known p = some target) :
      Fits known config m (dropped m.name (.entityArgument p.name target))

end Fate

/-! ### Lists -/

section Lists

variable {A B I : Type}

/-- Two passes that take nothing of the same element collect what one pass collects. -/
theorem filterMap_append_perm {f g : A → Option B} (h : ∀ a, f a = none ∨ g a = none)
    (l : List A) :
    (l.filterMap f ++ l.filterMap g).Perm (l.filterMap fun a => (f a).or (g a)) := by
  induction l with
  | nil => exact .nil
  | cons a l ih =>
    rcases h a with hf | hg
    · cases hg : g a with
      | none => simpa [hf, hg] using ih
      | some b => simpa [hf, hg] using List.perm_middle.trans (ih.cons b)
    · cases hf : f a with
      | none => simpa [hf, hg] using ih
      | some b => simpa [hf, hg] using ih.cons b

/-- One pass for each index collects what one pass collects, if no element gives something to two
indices. -/
theorem flatMap_filterMap_perm {f : I → A → Option B} {is : List I} (hnodup : is.Nodup)
    (h : ∀ i j a, i ≠ j → f i a = none ∨ f j a = none) (l : List A) :
    (is.flatMap fun i => l.filterMap (f i)).Perm
      (l.filterMap fun a => is.findSome? fun i => f i a) := by
  induction is with
  | nil => simp
  | cons i is ih =>
    obtain ⟨hi, his⟩ := List.nodup_cons.1 hnodup
    have hdisjoint (a : A) : f i a = none ∨ (is.findSome? fun j => f j a) = none := by
      cases hf : f i a with
      | none => exact .inl rfl
      | some b =>
        refine .inr (List.findSome?_eq_none_iff.2 fun j hj => ?_)
        have hne : i ≠ j := fun heq => hi (heq ▸ hj)
        exact (h i j a hne).resolve_left (by simp [hf])
    rw [List.flatMap_cons]
    refine ((ih his).append_left _).trans ((filterMap_append_perm hdisjoint l).trans ?_)
    refine .of_eq (List.filterMap_congr fun a _ => ?_)
    rw [List.findSome?_cons]
    cases f i a <;> rfl

/-- Where two lists correspond, each element of the first one is paired with its counterpart. -/
theorem exists_mem_zip {R : A → B → Prop} {as : List A} {bs : List B} (h : List.Forall₂ R as bs)
    {a : A} (ha : a ∈ as) : ∃ b, (a, b) ∈ as.zip bs ∧ R a b := by
  induction h with
  | nil => cases ha
  | cons hab _ ih =>
    rcases List.mem_cons.1 ha with rfl | ha
    · exact ⟨_, List.mem_cons_self, hab⟩
    · obtain ⟨b, hb, hab⟩ := ih ha
      exact ⟨b, List.mem_cons_of_mem _ hb, hab⟩

end Lists

/-! ### The warnings of a classification -/

namespace Classifier

variable {config : EntityConfig} {entity : String} {ms : List Signature}

/-- The warning about an operation without a kind. -/
def unclassified? (config : EntityConfig) (entity : String) (m : Signature) : Option String :=
  if m.name ∉ config.methods.names ∧ conventionalKind? m = none then
    some (entity ++ ": dropped '" ++ m.name ++ DropReason.unclassified.text)
  else none

/-- The warning about a claimant of a kind that is pinned. -/
def superseded? (config : EntityConfig) (entity : String) (kind : OperationKind) (m : Signature) :
    Option String :=
  if (config.methods.name? kind).isSome ∧ m.name ∉ config.methods.names ∧
      conventionalKind? m = some kind then
    some (entity ++ ": dropped '" ++ m.name ++ (DropReason.superseded kind).text)
  else none

theorem droppedWarnings_eq (h : config.methods.names.Nodup) (entity : String)
    (ms : List Signature) :
    (ofConfig config).droppedWarnings entity ms = ms.filterMap (unclassified? config entity) := by
  have htext (name : String) : entity ++ ": dropped " ++ unclassifiedReason name =
      entity ++ ": dropped '" ++ name ++ DropReason.unclassified.text := by
    have hquote : ": dropped '" = ": dropped " ++ "'" := by decide
    rw [unclassifiedReason, DropReason.text_unclassified, hquote, ← String.append_assoc,
      ← String.append_assoc, ← String.append_assoc]
  rw [droppedWarnings, ← List.filterMap_eq_map, List.filterMap_filter]
  refine List.filterMap_congr fun m _ => ?_
  rw [classify_ofConfig h, unclassified?]
  cases hkind : config.methods.kind? m.name with
  | some own =>
    have hname := MethodOverrides.mem_names_of_kind? hkind
    simp [hname]
  | none =>
    have hname := MethodOverrides.kind?_eq_none_iff.1 hkind
    simp [hname, htext]

theorem pinnedWarnings_eq (h : config.methods.InOrder ms) (entity : String)
    (kind : OperationKind) :
    pinnedWarnings entity ((ofConfig config).entries ms) kind =
      ms.filterMap (superseded? config entity kind) := by
  have htext (name : String) :
      entity ++ ": dropped '" ++ name ++ "', " ++ kind.text ++ " is pinned by an override" =
        entity ++ ": dropped '" ++ name ++ (DropReason.superseded kind).text := by
    simp only [DropReason.text_superseded, String.append_assoc]
  rw [pinnedWarnings, pinned_entries h, contenders_entries h.distinct, MethodOverrides.claimants,
    List.map_map, ← List.filterMap_eq_map, List.filterMap_filter]
  cases hname : config.methods.name? kind with
  | none =>
    simp [superseded?, hname]
  | some other =>
    rw [Option.isSome_some, if_pos rfl]
    refine List.filterMap_congr fun m _ => ?_
    simp [superseded?, hname, htext]

end Classifier

/-! ### The fate of each member -/

namespace Introspection

open Classifier

variable {known : KeySet String} {config : EntityConfig} {entity : String} {m : MemberDef}

/-- The warning about an operation that has a kind and an entity as an argument. -/
def entityArgument? (known : KeySet String) (config : EntityConfig) (entity : String)
    (s : Signature) : Option String :=
  (config.methods.keptKind? s).bind fun _ => (entityParam? known s).map fun p =>
    entity ++ ": dropped '" ++ s.name ++ (DropReason.entityArgument p.1 p.2).text

/-- The warnings about the operations that are kept are those about all operations with a kind. -/
theorem filterMap_kept (known : KeySet String) (config : EntityConfig) (entity : String)
    (ss : List Signature) :
    ((config.methods.kept ss).filterMap fun e => (entityParam? known e.1).map fun p =>
      entity ++ ": dropped '" ++ e.1.name ++ "', argument '" ++ p.1 ++ "' has entity type '" ++
        p.2 ++ "'") = ss.filterMap (entityArgument? known config entity) := by
  rw [MethodOverrides.kept, List.filterMap_filterMap]
  refine List.filterMap_congr fun s _ => ?_
  rw [entityArgument?]
  cases config.methods.keptKind? s with
  | none => rfl
  | some kind =>
    simp only [Option.map_some, Option.bind_some, DropReason.text_entityArgument,
      String.append_assoc]

/-- The warning about an operation, if it is dropped. -/
def warningOf? (known : KeySet String) (config : EntityConfig) (entity : String) (s : Signature) :
    Option String :=
  (unclassified? config entity s).or
    ((OperationKind.unique.findSome? fun kind => superseded? config entity kind s).or
      (entityArgument? known config entity s))

theorem entityParam?_signatureOf (known : KeySet String) (m : MemberDef) :
    entityParam? known (signatureOf m) =
      m.params.findSome? fun p => (Fate.entityOf? known p).map fun target => (p.name, target) := by
  rw [entityParam?, signatureOf, List.findSome?_map]
  congr 1
  funext p
  simp only [Function.comp_apply, Fate.entityOf?]
  cases mapType known (typeOf p.type) <;> rfl

/-- No parameter is at fault. -/
theorem entityParam?_eq_none_iff : entityParam? known (signatureOf m) = none ↔
    ∀ p ∈ m.params, Fate.entityOf? known p = none := by
  simp only [entityParam?_signatureOf, List.findSome?_eq_none_iff, Option.map_eq_none_iff]

/-- The first parameter that is at fault. -/
theorem entityParam?_eq_some_iff {param target : String} :
    entityParam? known (signatureOf m) = some (param, target) ↔
      ∃ before p after, m.params = before ++ p :: after ∧
        (∀ q ∈ before, Fate.entityOf? known q = none) ∧ Fate.entityOf? known p = some target ∧
        p.name = param := by
  rw [entityParam?_signatureOf, List.findSome?_eq_some_iff]
  constructor
  · rintro ⟨before, p, after, hparams, hp, hbefore⟩
    obtain ⟨leaf, hleaf, heq⟩ := Option.map_eq_some_iff.1 hp
    obtain ⟨rfl, rfl⟩ := Prod.mk.inj heq
    exact ⟨before, p, after, hparams, fun q hq => Option.map_eq_none_iff.1 (hbefore q hq), hleaf,
      rfl⟩
  · rintro ⟨before, p, after, hparams, hbefore, hp, rfl⟩
    exact ⟨before, p, after, hparams, by rw [hp]; rfl,
      fun q hq => Option.map_eq_none_iff.2 (hbefore q hq)⟩

/-- What the overrides and the name of a member say about it. -/
theorem stays_or_dropped (h : config.methods.names.Nodup) (m : MemberDef) :
    (∃ kind, config.methods.keptKind? (signatureOf m) = some kind ∧ Fate.Stays config m kind) ∨
    (config.methods.keptKind? (signatureOf m) = none ∧ m.name ∉ config.methods.names ∧
      (conventionalKind? (signatureOf m) = none ∨
        ∃ kind other, conventionalKind? (signatureOf m) = some kind ∧
          config.methods.name? kind = some other)) := by
  have hclassify := classify_ofConfig h (signatureOf m)
  rw [MethodOverrides.keptKind?]
  cases hkind : config.methods.kind? (signatureOf m).name with
  | some own =>
    rw [hkind] at hclassify
    exact .inl ⟨own, rfl, .override, hclassify, fun hbasis => by cases hbasis⟩
  | none =>
    have hname : m.name ∉ config.methods.names := MethodOverrides.kind?_eq_none_iff.1 hkind
    rw [hkind] at hclassify
    cases hconvention : conventionalKind? (signatureOf m) with
    | none => exact .inr ⟨rfl, hname, .inl rfl⟩
    | some kind =>
      rw [hconvention] at hclassify
      cases hpinned : config.methods.name? kind with
      | none => exact .inl ⟨kind, by simp [hpinned], .convention, hclassify, fun _ => hpinned⟩
      | some other => exact .inr ⟨by simp [hpinned], hname, .inr ⟨kind, other, rfl, hpinned⟩⟩

/-- A member that stays is kept under its kind, as long as its parameters permit it. -/
theorem keptKind?_of_stays (h : config.methods.names.Nodup) {kind : OperationKind}
    (hstays : Fate.Stays config m kind) :
    config.methods.keptKind? (signatureOf m) = some kind := by
  obtain ⟨basis, hclassify, hconvention⟩ := hstays
  rw [classify_ofConfig h] at hclassify
  rw [MethodOverrides.keptKind?]
  cases hkind : config.methods.kind? (signatureOf m).name with
  | some own =>
    rw [hkind] at hclassify
    cases hclassify
    rfl
  | none =>
    rw [hkind] at hclassify
    obtain ⟨conventional, hconventional, heq⟩ := Option.map_eq_some_iff.1 hclassify
    obtain ⟨rfl, rfl⟩ := Prod.mk.inj heq
    simp [hconventional, hconvention rfl]

/-- What stays is neither without a kind nor superseded. -/
theorem silent_of_keptKind? (entity : String) {s : Signature} {kind : OperationKind}
    (h : config.methods.keptKind? s = some kind) :
    unclassified? config entity s = none ∧ ∀ i, superseded? config entity i s = none := by
  by_cases hname : s.name ∈ config.methods.names
  · simp [unclassified?, superseded?, hname]
  · rw [MethodOverrides.keptKind?, MethodOverrides.kind?_eq_none_iff.2 hname, Option.none_or,
      Option.filter_eq_some_iff, Option.isNone_iff_eq_none] at h
    obtain ⟨hconvention, hpinned⟩ := h
    refine ⟨by simp [unclassified?, hconvention], fun i => if_neg ?_⟩
    rintro ⟨hi, -, hkind⟩
    obtain rfl := Option.some.inj (hconvention.symm.trans hkind)
    rw [hpinned] at hi
    cases hi

theorem superseded?_of_unclassified {s : Signature} (h : conventionalKind? s = none)
    (i : OperationKind) : superseded? config entity i s = none := by
  simp [superseded?, h]

/-- Only the kind that an operation has by convention can be taken away. -/
theorem superseded?_of_ne {s : Signature} {kind i : OperationKind}
    (h : conventionalKind? s = some kind) (hne : i ≠ kind) :
    superseded? config entity i s = none := by
  refine if_neg ?_
  rintro ⟨-, -, hkind⟩
  exact hne (Option.some.inj (hkind.symm.trans h))

/-- **Three passes warn of what one pass warns of.** -/
theorem warnings_perm (known : KeySet String) (config : EntityConfig) (entity : String)
    (ss : List Signature) :
    (ss.filterMap (unclassified? config entity) ++
      ((OperationKind.unique.flatMap fun kind => ss.filterMap (superseded? config entity kind)) ++
        ss.filterMap (entityArgument? known config entity))).Perm
      (ss.filterMap (warningOf? known config entity)) := by
  have hkinds (i j : OperationKind) (s : Signature) (hne : i ≠ j) :
      superseded? config entity i s = none ∨ superseded? config entity j s = none := by
    cases hconvention : conventionalKind? s with
    | none => exact .inl (superseded?_of_unclassified hconvention i)
    | some kind =>
      by_cases hi : i = kind
      · exact .inr (superseded?_of_ne hconvention (hi ▸ hne.symm))
      · exact .inl (superseded?_of_ne hconvention hi)
  have hpinned (s : Signature) :
      (OperationKind.unique.findSome? fun kind => superseded? config entity kind s) = none ∨
        entityArgument? known config entity s = none := by
    cases hkept : config.methods.keptKind? s with
    | none => exact .inr (by simp [entityArgument?, hkept])
    | some kind =>
      exact .inl (List.findSome?_eq_none_iff.2 fun i _ => (silent_of_keptKind? entity hkept).2 i)
  have hunclassified (s : Signature) : unclassified? config entity s = none ∨
      ((OperationKind.unique.findSome? fun kind => superseded? config entity kind s).or
        (entityArgument? known config entity s)) = none := by
    cases hkept : config.methods.keptKind? s with
    | some kind => exact .inl (silent_of_keptKind? entity hkept).1
    | none =>
      cases hconvention : conventionalKind? s with
      | some kind => exact .inl (by simp [unclassified?, hconvention])
      | none =>
        refine .inr (Option.or_eq_none_iff.2 ⟨?_, by simp [entityArgument?, hkept]⟩)
        exact List.findSome?_eq_none_iff.2 fun i _ => superseded?_of_unclassified hconvention i
  have hunique : OperationKind.unique.Nodup := by decide
  refine List.Perm.trans (.append_left _ ?_) (filterMap_append_perm hunclassified ss)
  exact ((flatMap_filterMap_perm hunique hkinds ss).append_right _).trans
    (filterMap_append_perm hpinned ss)

/-- The warning about an operation that an override supersedes. -/
theorem warningOf?_of_superseded {s : Signature} {kind : OperationKind} {other : String}
    (hname : s.name ∉ config.methods.names) (hconvention : conventionalKind? s = some kind)
    (hpinned : config.methods.name? kind = some other) :
    warningOf? known config entity s =
      some (entity ++ ": dropped '" ++ s.name ++ (DropReason.superseded kind).text) := by
  have hown : superseded? config entity kind s =
      some (entity ++ ": dropped '" ++ s.name ++ (DropReason.superseded kind).text) :=
    if_pos ⟨by simp [hpinned], hname, hconvention⟩
  have hunique : kind ∈ OperationKind.unique := by
    refine OperationKind.mem_unique ?_
    cases kind with
    | customFinder => cases hpinned
    | _ => rfl
  have hfound : (OperationKind.unique.findSome? fun i => superseded? config entity i s) =
      superseded? config entity kind s := by
    cases hfind : OperationKind.unique.findSome? fun i => superseded? config entity i s with
    | none => exact (List.findSome?_eq_none_iff.1 hfind kind hunique).symm
    | some w =>
      obtain ⟨i, -, hi⟩ := List.exists_of_findSome?_eq_some hfind
      by_cases hsame : i = kind
      · rw [← hi, hsame]
      · rw [superseded?_of_ne hconvention hsame] at hi
        cases hi
  have hclassified : unclassified? config entity s = none := by simp [unclassified?, hconvention]
  rw [warningOf?, hclassified, hfound, hown]
  rfl

/-- The warning about an operation without a kind. -/
theorem warningOf?_of_unclassified {s : Signature} (hname : s.name ∉ config.methods.names)
    (hconvention : conventionalKind? s = none) :
    warningOf? known config entity s =
      some (entity ++ ": dropped '" ++ s.name ++ DropReason.unclassified.text) := by
  rw [warningOf?, unclassified?, if_pos ⟨hname, hconvention⟩, Option.some_or]

/-- The warning about an operation that has a kind. -/
theorem warningOf?_of_keptKind? {s : Signature} {kind : OperationKind}
    (h : config.methods.keptKind? s = some kind) :
    warningOf? known config entity s = (entityParam? known s).map fun p =>
      entity ++ ": dropped '" ++ s.name ++ (DropReason.entityArgument p.1 p.2).text := by
  obtain ⟨hclassified, hstays⟩ := silent_of_keptKind? entity h
  have hnone : (OperationKind.unique.findSome? fun i => superseded? config entity i s) = none :=
    List.findSome?_eq_none_iff.2 fun i _ => hstays i
  rw [warningOf?, hclassified, hnone, entityArgument?, h]
  rfl

/-- The fate of a member decides about its warning. -/
theorem warning?_of_fits (entity : String) (h : config.methods.names.Nodup) {f : Fate}
    (hfits : Fate.Fits known config m f) :
    f.warning? entity = warningOf? known config entity (signatureOf m) := by
  cases hfits with
  | kept hstays hparams =>
    rw [warningOf?_of_keptKind? (keptKind?_of_stays h hstays), entityParam?_eq_none_iff.2 hparams]
    rfl
  | unclassified hname hconvention => exact (warningOf?_of_unclassified hname hconvention).symm
  | superseded hname hconvention hpinned =>
    exact (warningOf?_of_superseded hname hconvention hpinned).symm
  | entityArgument hstays hparams hbefore hp =>
    rw [warningOf?_of_keptKind? (keptKind?_of_stays h hstays),
      entityParam?_eq_some_iff.2 ⟨_, _, _, hparams, hbefore, hp, rfl⟩]
    rfl

/-- What is decided about a member by its name, the overrides and its parameters. -/
def decisionOf (known : KeySet String) (config : EntityConfig) (s : Signature) :
    Except DropReason OperationKind :=
  match config.methods.keptKind? s with
  | none => .error (((conventionalKind? s).map DropReason.superseded).getD .unclassified)
  | some kind =>
    match entityParam? known s with
    | none => .ok kind
    | some (param, target) => .error (.entityArgument param target)

/-- **The fate of a member is certain**: there are not two kinds for it, nor two reasons to drop
it. -/
theorem decision_of_fits (h : config.methods.names.Nodup) {f : Fate}
    (hfits : Fate.Fits known config m f) :
    f.decision = decisionOf known config (signatureOf m) := by
  -- without an override of its own, a member is not kept under a kind that is taken or missing
  have hdropped {found : Option OperationKind} (hname : m.name ∉ config.methods.names)
      (hconvention : conventionalKind? (signatureOf m) = found)
      (hpinned : ∀ kind, found = some kind → config.methods.name? kind ≠ none) :
      config.methods.keptKind? (signatureOf m) = none := by
    have hkind : config.methods.kind? (signatureOf m).name = none :=
      MethodOverrides.kind?_eq_none_iff.2 hname
    rw [MethodOverrides.keptKind?, hkind, hconvention, Option.none_or, Option.filter_eq_none_iff]
    intro kind hsome
    rw [Option.isNone_iff_eq_none]
    exact hpinned kind hsome
  cases hfits with
  | kept hstays hparams =>
    simp only [Fate.decision, decisionOf, keptKind?_of_stays h hstays,
      entityParam?_eq_none_iff.2 hparams]
  | unclassified hname hconvention =>
    have hkept := hdropped hname hconvention fun kind heq => by cases heq
    simp only [Fate.decision, decisionOf, hkept, hconvention, Option.map_none, Option.getD_none]
  | superseded hname hconvention hpinned =>
    have hkept := hdropped hname hconvention fun kind heq => by
      obtain rfl := Option.some.inj heq
      simp [hpinned]
    simp only [Fate.decision, decisionOf, hkept, hconvention, Option.map_some, Option.getD_some]
  | entityArgument hstays hparams hbefore hp =>
    simp only [Fate.decision, decisionOf, keptKind?_of_stays h hstays,
      entityParam?_eq_some_iff.2 ⟨_, _, _, hparams, hbefore, hp, rfl⟩]

theorem filterMap_warning? (entity : String) (h : config.methods.names.Nodup)
    {members : List MemberDef} {fates : List Fate}
    (hfits : List.Forall₂ (Fate.Fits known config) members fates) :
    fates.filterMap (Fate.warning? entity) =
      (members.map signatureOf).filterMap (warningOf? known config entity) := by
  induction hfits with
  | nil => rfl
  | cons hfit _ ih =>
    rw [List.filterMap_cons, List.map_cons, List.filterMap_cons, ih, warning?_of_fits entity h hfit]

/-- **Every member has a fate.**  The operations are those of the members that are kept. -/
theorem exists_fates (h : config.methods.names.Nodup) {members : List MemberDef}
    {methods : List Method}
    (hmethods : List.Forall₂ (fun e m => describeMethod known entity config e.1 e.2 = .ok m)
      ((config.methods.kept (members.map signatureOf)).filter fun e =>
        (entityParam? known e.1).isNone) methods) :
    ∃ fates, List.Forall₂ (Fate.Fits known config) members fates ∧
      fates.filterMap Fate.method? = methods := by
  induction members generalizing methods with
  | nil =>
    cases hmethods
    exact ⟨[], .nil, rfl⟩
  | cons m members ih =>
    rw [MethodOverrides.kept, List.map_cons, List.filterMap_cons] at hmethods
    obtain ⟨kind, hkept, hstays⟩ | ⟨hkept, hname, hreason⟩ := stays_or_dropped h m
    · rw [hkept, Option.map_some] at hmethods
      cases hparam : entityParam? known (signatureOf m) with
      | some p =>
        obtain ⟨param, target⟩ := p
        rw [List.filter_cons_of_neg (by simp [hparam])] at hmethods
        obtain ⟨fates, hfits, rfl⟩ := ih hmethods
        obtain ⟨before, p, after, hparams, hbefore, hp, rfl⟩ := entityParam?_eq_some_iff.1 hparam
        exact ⟨_, .cons (.entityArgument hstays hparams hbefore hp) hfits, rfl⟩
      | none =>
        rw [List.filter_cons_of_pos (by simp [hparam])] at hmethods
        cases hmethods with
        | cons hmethod hrest =>
          obtain ⟨fates, hfits, rfl⟩ := ih hrest
          obtain ⟨params, returns, hparams, -, rfl⟩ := exists_of_describeMethod hmethod
          refine ⟨_, .cons (.kept hstays (entityParam?_eq_none_iff.1 hparam) ?_) hfits, rfl⟩
          rw [Method.signature, map_of_paramsOf hparams]
    · rw [hkept] at hmethods
      obtain ⟨fates, hfits, rfl⟩ := ih hmethods
      obtain hconvention | ⟨kind, other, hconvention, hpinned⟩ := hreason
      · exact ⟨_, .cons (.unclassified hname hconvention) hfits, rfl⟩
      · exact ⟨_, .cons (.superseded hname hconvention hpinned) hfits, rfl⟩

end Introspection

/-! ### The accounts of an entity -/

/-- Nothing is lost between the members of a service and the operations of an entity; `fates` says
what became of each member, by its position. -/
structure Accounted (known : KeySet String) (entity : String) (config : EntityConfig)
    (members : List MemberDef) (methods : List Method) (warnings : List String)
    (fates : List Fate) : Prop where
  /-- A member has the fate that its name, the overrides and its parameters give it. -/
  fits : List.Forall₂ (Fate.Fits known config) members fates
  /-- It has no second fate with another kind or another reason. -/
  certain : ∀ m f f', Fate.Fits known config m f → Fate.Fits known config m f' →
    f.decision = f'.decision
  /-- The operations are the members that are kept, in their order. -/
  operations : methods = fates.filterMap Fate.method?
  sublist : (methods.map Method.signature).Sublist (members.map Introspection.signatureOf)
  /-- There is one warning for each member that is dropped, and there are no others. -/
  warned : warnings.Perm (fates.filterMap (Fate.warning? entity))
  total : methods.length + warnings.length = members.length
  unique : ∀ kind, kind ≠ .customFinder → (methods.countP fun m => m.kind == kind) ≤ 1
  /-- The member with an override has its kind, unless it is dropped for an argument. -/
  overridden : ∀ kind name, config.methods.name? kind = some name →
    ∃ m f, (m, f) ∈ members.zip fates ∧ m.name = name ∧
      ((∃ method, f = .kept method ∧ method.kind = kind) ∨
        ∃ param target, f = .dropped name (.entityArgument param target))

namespace Fate

variable {known : KeySet String} {config : EntityConfig} {members : List MemberDef}
  {fates : List Fate}

/-- A member is kept or there is a warning about it, and not both. -/
theorem length_eq (entity : String) (fates : List Fate) :
    (fates.filterMap method?).length + (fates.filterMap (warning? entity)).length =
      fates.length := by
  induction fates with
  | nil => rfl
  | cons f fates ih =>
    cases f with
    | kept method =>
      simp only [List.filterMap_cons, method?, warning?, List.length_cons]
      omega
    | dropped name reason =>
      simp only [List.filterMap_cons, method?, warning?, List.length_cons]
      omega

theorem signatures_sublist (h : List.Forall₂ (Fits known config) members fates) :
    ((fates.filterMap method?).map Method.signature).Sublist
      (members.map Introspection.signatureOf) := by
  induction h with
  | nil => exact .slnil
  | cons hfits _ ih =>
    cases hfits with
    | kept _ _ hsignature =>
      simp only [List.filterMap_cons, method?, List.map_cons, hsignature]
      exact ih.cons_cons _
    | unclassified => exact ih.cons _
    | superseded => exact ih.cons _
    | entityArgument => exact ih.cons _

/-- A member with an override has its kind, if it is not dropped for an argument. -/
theorem Fits.of_override {m : MemberDef} {f : Fate} {kind : OperationKind}
    (h : Fits known config m f) (hdistinct : config.methods.names.Nodup)
    (hname : config.methods.name? kind = some m.name) :
    (∃ method, f = .kept method ∧ method.kind = kind) ∨
      ∃ param target, f = .dropped m.name (.entityArgument param target) := by
  have hmem := MethodOverrides.mem_names_iff.2 ⟨kind, hname⟩
  cases h with
  | kept hstays =>
    obtain ⟨basis, hclassify, -⟩ := hstays
    have hkind : config.methods.kind? (Introspection.signatureOf m).name = some kind :=
      (MethodOverrides.kind?_eq_some_iff hdistinct).2 hname
    rw [Classifier.classify_ofConfig hdistinct, hkind] at hclassify
    cases hclassify
    exact .inl ⟨_, rfl, rfl⟩
  | unclassified hnot => exact absurd hmem hnot
  | superseded hnot => exact absurd hmem hnot
  | entityArgument => exact .inr ⟨_, _, rfl⟩

end Fate

open Introspection in
/-- **No operation is dropped silently or under a wrong kind.**  Where an entity is described, every
accessible member of its service has a fate: it is one of the operations, with the kind of its
classification, or one warning says why it is none. -/
theorem members_accounted {catalog : Catalog} {known : KeySet String} {modules : ModulePaths}
    {entity : String} {config : EntityConfig} {x : Described}
    (h : describe catalog known modules entity config = .ok x) :
    ∃ entityClass service fieldWarnings methodWarnings fates,
      catalog.class? entity = some entityClass ∧
      catalog.class? (serviceOf modules config.service).class = some service ∧
      describeFields known entity entityClass config.ignoredFields =
        .ok (x.descriptor.fields, fieldWarnings) ∧
      x.warnings = fieldWarnings ++ methodWarnings ∧
      Accounted known entity config service.accessibleMembers x.descriptor.methods methodWarnings
        fates := by
  obtain ⟨entityClass, service, fieldWarnings, methodWarnings, hclass, hservice, hfields, hmethods,
    hwarnings, -⟩ := exists_of_describe h
  obtain ⟨classified, rest, hclassified, hmade, heq, -⟩ := exists_of_describeMethods hmethods
  have horder := (Classifier.exists_ok_iff.1 ⟨classified, hclassified⟩).toInOrder
  obtain rfl := Classifier.eq_of_classifyAll hclassified
  obtain ⟨hkept, hrest⟩ := forall₂_of_methodsOf hmade
  obtain ⟨fates, hfits, hoperations⟩ := exists_fates horder.distinct hkept
  have hwarned : methodWarnings.Perm (fates.filterMap (Fate.warning? entity)) := by
    have hpinned : OperationKind.unique.flatMap (Classifier.pinnedWarnings entity
        ((Classifier.ofConfig config).entries (service.accessibleMembers.map signatureOf))) =
          OperationKind.unique.flatMap fun kind => (service.accessibleMembers.map
            signatureOf).filterMap (Classifier.superseded? config entity kind) :=
      List.flatMap_congr fun kind _ => Classifier.pinnedWarnings_eq horder entity kind
    rw [heq, filterMap_warning? entity horder.distinct hfits,
      Classifier.droppedWarnings_eq horder.distinct, hpinned, hrest, filterMap_kept,
      List.append_assoc]
    exact warnings_perm known config entity _
  refine ⟨entityClass, service, fieldWarnings, methodWarnings, fates, hclass, hservice, hfields,
    hwarnings, ?_⟩
  exact
    { fits := hfits
      certain := fun m f f' hf hf' => (decision_of_fits horder.distinct hf).trans
        (decision_of_fits horder.distinct hf').symm
      operations := hoperations.symm
      sublist := hoperations ▸ Fate.signatures_sublist hfits
      warned := hwarned
      total := by
        have hlength := Fate.length_eq entity fates
        rw [hoperations, ← hwarned.length_eq, ← hfits.length_eq] at hlength
        exact hlength
      unique := fun kind hkind => countP_kind_le_one h (by
        cases kind with
        | customFinder => exact absurd rfl hkind
        | _ => rfl)
      overridden := by
        intro kind name hname
        have hone := horder.present name (MethodOverrides.mem_names_iff.2 ⟨kind, hname⟩)
        obtain ⟨s, hs, hsame⟩ := List.countP_pos_iff.1 (Nat.lt_of_lt_of_eq Nat.one_pos hone.symm)
        obtain ⟨m, hm, rfl⟩ := List.mem_map.1 hs
        obtain rfl : m.name = name := beq_iff_eq.1 hsame
        obtain ⟨f, hf, hfit⟩ := exists_mem_zip hfits hm
        exact ⟨m, f, hf, rfl, hfit.of_override horder.distinct hname⟩ }

open Introspection in
/-- Of six members three are kept, and each of the others is dropped for a reason of its own. -/
theorem members_accounted_part : ∃ x, partDescribed = .ok x ∧
    (x.descriptor.methods.map fun m => (m.name, m.kind)) =
      [("fetchPart", .readOne), ("getParts", .readAll), ("findByLabel", .customFinder)] ∧
    x.warnings = ["Part: dropped ignored field 'made' of unmappable type 'Date'",
      "Part: dropped 'reindex' matches no override and no naming convention",
      "Part: dropped 'getPart', read-one is pinned by an override",
      "Part: dropped 'updatePart', argument 'part' has entity type 'Part'"] ∧
    ∃ entityClass service fieldWarnings methodWarnings fates,
      partsCatalog.class? "Part" = some entityClass ∧
      partsCatalog.class? (serviceOf {} partsConfig.service).class = some service ∧
      describeFields (.ofList partsCatalog.classNames) "Part" entityClass
        partsConfig.ignoredFields = .ok (x.descriptor.fields, fieldWarnings) ∧
      x.warnings = fieldWarnings ++ methodWarnings ∧
      Accounted (.ofList partsCatalog.classNames) "Part" partsConfig service.accessibleMembers
        x.descriptor.methods methodWarnings fates := by
  have hvalue : (partDescribed.toOption.map fun x =>
      ((x.descriptor.methods.map fun m => (m.name, m.kind)), x.warnings)) =
        some ([("fetchPart", .readOne), ("getParts", .readAll), ("findByLabel", .customFinder)],
          ["Part: dropped ignored field 'made' of unmappable type 'Date'",
            "Part: dropped 'reindex' matches no override and no naming convention",
            "Part: dropped 'getPart', read-one is pinned by an override",
            "Part: dropped 'updatePart', argument 'part' has entity type 'Part'"]) := by
    decide +kernel
  obtain ⟨x, hx, hvalue⟩ := Option.map_eq_some_iff.1 hvalue
  obtain ⟨hkinds, hwarnings⟩ := Prod.mk.inj hvalue
  have hdescribed : partDescribed = .ok x := eq_ok_of_toOption hx
  exact ⟨x, hdescribed, hkinds, hwarnings, members_accounted hdescribed⟩

end GraphLayer
