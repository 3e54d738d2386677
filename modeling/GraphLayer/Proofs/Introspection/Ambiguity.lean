import Mathlib.Data.List.Nodup
import GraphLayer.Proofs.Introspection.UniqueKinds

/-!
# Which operations can be classified

* `MethodOverrides.names` and `MethodOverrides.kind?`: the names that are given a kind, and the kind
  of a name;
* `MethodOverrides.InOrder`: no name has two kinds, and each one names one operation;
  `MethodOverrides.keptKind?` and `MethodOverrides.claimants`: what the overrides and the names of
  operations then say, one by one and for each kind;
* `Classifier.classifyAll_of_inOrder` and `Classifier.exists_error_of_not_inOrder`: all that a
  classification can say;
* `Classifier.classifyAll_decides`: a classification succeeds exactly on unambiguous operations,
  whatever their order, and fails at the first kind that is ambiguous.
-/

namespace GraphLayer

/-! ### Names of overrides -/

namespace MethodOverrides

/-- The names that are given a kind. -/
def names (o : MethodOverrides) : List String := o.pairs.map Prod.fst

/-- The kind that is given to a name. -/
def kind? (o : MethodOverrides) (name : String) : Option OperationKind :=
  (o.pairs.find? fun p => p.1 == name).map Prod.snd

variable {o : MethodOverrides} {name : String} {kind : OperationKind}

theorem mem_names_iff : name ∈ o.names ↔ ∃ kind, o.name? kind = some name := by
  simp only [names, List.mem_map, Prod.exists, mem_pairs_iff, exists_and_right, exists_eq_right]

theorem kind?_eq_none_iff : o.kind? name = none ↔ name ∉ o.names := by
  simp only [kind?, Option.map_eq_none_iff, List.find?_eq_none, beq_iff_eq, names, List.mem_map,
    not_exists, not_and]

theorem mem_names_of_kind? (h : o.kind? name = some kind) : name ∈ o.names := by
  obtain ⟨p, hp, -⟩ := Option.map_eq_some_iff.1 h
  obtain rfl : p.1 = name := by simpa using List.find?_some hp
  exact List.mem_map_of_mem (List.mem_of_find?_eq_some hp)

/-- Where no name has two kinds, the kind of a name is the one that it was given. -/
theorem kind?_eq_some_iff (h : o.names.Nodup) : o.kind? name = some kind ↔
    o.name? kind = some name := by
  rw [← mem_pairs_iff]
  constructor
  · intro hkind
    obtain ⟨p, hp, rfl⟩ := Option.map_eq_some_iff.1 hkind
    obtain rfl : p.1 = name := by simpa using List.find?_some hp
    exact List.mem_of_find?_eq_some hp
  · intro hmem
    cases hkind : o.kind? name with
    | none => exact absurd (List.mem_map.2 ⟨_, hmem, rfl⟩) (kind?_eq_none_iff.1 hkind)
    | some other =>
      obtain ⟨p, hp, rfl⟩ := Option.map_eq_some_iff.1 hkind
      have hname : p.1 = name := by simpa using List.find?_some hp
      have heq := List.inj_on_of_nodup_map h (List.mem_of_find?_eq_some hp) hmem hname
      rw [heq]

/-- Overrides that can be followed: no name has two kinds, and each one names one operation. -/
structure InOrder (o : MethodOverrides) (ms : List Signature) : Prop where
  distinct : o.names.Nodup
  present : ∀ name ∈ o.names, (ms.countP fun m => m.name == name) = 1

/-- The kind under which an operation is kept: that of its override, or the conventional one unless
an override gives it to another operation. -/
def keptKind? (o : MethodOverrides) (m : Signature) : Option OperationKind :=
  (o.kind? m.name).or ((Classifier.conventionalKind? m).filter fun kind => (o.name? kind).isNone)

/-- The operations that have a kind by convention and no override, in their order. -/
def claimants (o : MethodOverrides) (ms : List Signature) (kind : OperationKind) :
    List Signature :=
  ms.filter fun m => decide (m.name ∉ o.names) && Classifier.conventionalKind? m == some kind

/-- Whether a kind has several claimants, and none is preferred. -/
def isAmbiguous (o : MethodOverrides) (ms : List Signature) (kind : OperationKind) : Bool :=
  (o.name? kind).isNone && decide (1 < (o.claimants ms kind).length)

/-- The operations that are kept, with their kinds, in their order. -/
def kept (o : MethodOverrides) (ms : List Signature) : List (Signature × OperationKind) :=
  ms.filterMap fun m => (o.keptKind? m).map fun kind => (m, kind)

/-- Overrides that can be followed, and which leave no kind ambiguous. -/
structure Unambiguous (o : MethodOverrides) (ms : List Signature) : Prop extends
    o.InOrder ms where
  single : ∀ kind, kind ≠ .customFinder → o.name? kind = none → (o.claimants ms kind).length ≤ 1

theorem InOrder.of_perm {ms ms' : List Signature} (h : o.InOrder ms) (hperm : ms'.Perm ms) :
    o.InOrder ms' :=
  ⟨h.distinct, fun name hname => (hperm.countP_eq _).trans (h.present name hname)⟩

theorem Unambiguous.of_perm {ms ms' : List Signature} (h : o.Unambiguous ms)
    (hperm : ms'.Perm ms) : o.Unambiguous ms' where
  toInOrder := h.toInOrder.of_perm hperm
  single kind hkind hnone := by
    rw [claimants, (hperm.filter _).length_eq]
    exact h.single kind hkind hnone

end MethodOverrides

/-! ### The overrides of a classifier -/

namespace Classifier

variable {c : Classifier} {config : EntityConfig} {entity : String} {ms : List Signature}
  {name : String} {kind : OperationKind}

/-- Several overrides without a name in common are found, next to those that were there before. -/
theorem find?_foldl_add {ps : List (String × OperationKind)} (h : (ps.map Prod.fst).Nodup) :
    (ps.foldl (fun c p => c.add p.1 p.2) c).overrides.find? name = some kind ↔
      (name, kind) ∈ ps ∨ name ∉ ps.map Prod.fst ∧ c.overrides.find? name = some kind := by
  induction ps generalizing c with
  | nil => simp
  | cons p ps ih =>
    obtain ⟨hp, hps⟩ := List.nodup_cons.1 h
    have hadd : (c.add p.1 p.2).overrides.find? name =
        if name = p.1 then some p.2 else c.overrides.find? name :=
      Dict.find?_insert c.overrides p.1 name p.2
    rw [List.foldl_cons, ih hps, hadd]
    by_cases hname : name = p.1
    · subst hname
      have hnot : (p.1, kind) ∉ ps := fun hmem => hp (List.mem_map.2 ⟨_, hmem, rfl⟩)
      simp only [hnot, hp, List.mem_cons, List.map_cons, if_true, Option.some.injEq,
        not_true_eq_false, not_false_eq_true, true_and, false_and, or_false, false_or]
      exact ⟨fun heq => heq ▸ rfl, fun heq => (congrArg Prod.snd heq).symm⟩
    · have hne : (name, kind) ≠ p := fun heq => hname (congrArg Prod.fst heq)
      simp only [List.mem_cons, List.map_cons, hne, hname, if_false, false_or]

/-- No conflict arises from overrides of different names that were not overridden before. -/
theorem conflicts_foldl_add {ps : List (String × OperationKind)} :
    (ps.foldl (fun c p => c.add p.1 p.2) c).conflicts = [] ↔
      c.conflicts = [] ∧ (∀ p ∈ ps, c.overrides.find? p.1 = none) ∧ (ps.map Prod.fst).Nodup := by
  induction ps generalizing c with
  | nil => simp
  | cons p ps ih =>
    have hconflicts : (c.add p.1 p.2).conflicts = [] ↔
        c.conflicts = [] ∧ c.overrides.find? p.1 = none := by
      cases hfind : c.overrides.find? p.1 <;> simp [add, hfind]
    have hadd (name : String) : (c.add p.1 p.2).overrides.find? name = none ↔
        name ≠ p.1 ∧ c.overrides.find? name = none := by
      have hinsert := Dict.find?_insert c.overrides p.1 name p.2
      rw [add, hinsert]
      split
      · next heq => simp [heq]
      · next hne => simp [hne]
    rw [List.foldl_cons, ih, hconflicts]
    simp only [hadd, List.forall_mem_cons, List.map_cons, List.nodup_cons, List.mem_map, not_exists,
      not_and]
    constructor
    · rintro ⟨⟨hc, hp⟩, hps, hnodup⟩
      exact ⟨hc, ⟨hp, fun q hq => (hps q hq).2⟩, fun q hq => (hps q hq).1, hnodup⟩
    · rintro ⟨hc, ⟨hp, hps⟩, hne, hnodup⟩
      exact ⟨⟨hc, hp⟩, fun q hq => ⟨hne q hq, hps q hq⟩, hnodup⟩

/-- There is no conflict where no name has two kinds. -/
theorem conflicts_ofConfig_iff : (ofConfig config).conflicts = [] ↔ config.methods.names.Nodup := by
  have hnone (p : String × OperationKind) :
      (⟨.empty, []⟩ : Classifier).overrides.find? p.1 = none := rfl
  rw [ofConfig, conflicts_foldl_add]
  simp only [hnone, implies_true, true_and]
  rfl

theorem find?_ofConfig (h : config.methods.names.Nodup) (name : String) :
    (ofConfig config).overrides.find? name = config.methods.kind? name := by
  have hnone : (⟨.empty, []⟩ : Classifier).overrides.find? name = none := rfl
  refine Option.ext fun kind => ?_
  rw [ofConfig, find?_foldl_add h, hnone, MethodOverrides.kind?_eq_some_iff h,
    MethodOverrides.mem_pairs_iff]
  simp

/-- An override pins its kind. -/
theorem any_ofConfig (h : config.methods.names.Nodup) (kind : OperationKind) :
    ((ofConfig config).overrides.toList.any fun p => p.2 == kind) =
      (config.methods.name? kind).isSome := by
  rw [Bool.eq_iff_iff, List.any_eq_true, Option.isSome_iff_exists]
  constructor
  · rintro ⟨p, hp, hkind⟩
    obtain rfl := beq_iff_eq.1 hkind
    exact ⟨p.1, MethodOverrides.mem_pairs_iff.1 (mem_pairs_of_mem_overrides hp)⟩
  · rintro ⟨name, hname⟩
    have hfind := find?_ofConfig h name
    rw [(MethodOverrides.kind?_eq_some_iff h).2 hname] at hfind
    exact ⟨_, Dict.find?_eq_some_iff.1 hfind, beq_self_eq_true kind⟩

theorem classify_ofConfig (h : config.methods.names.Nodup) (m : Signature) :
    (ofConfig config).classify m =
      match config.methods.kind? m.name with
      | some kind => some (kind, .override)
      | none => (conventionalKind? m).map fun kind => (kind, .convention) := by
  cases hkind : config.methods.kind? m.name with
  | some kind => simp only [classify, find?_ofConfig h, hkind]
  | none => simp only [classify, find?_ofConfig h, hkind]

/-! ### Entries that can be followed -/

/-- A kind is pinned if it has an override. -/
theorem pinned_entries (h : config.methods.InOrder ms) (kind : OperationKind) :
    pinned ((ofConfig config).entries ms) kind = (config.methods.name? kind).isSome := by
  rw [Bool.eq_iff_iff, Option.isSome_iff_exists, pinned, List.any_eq_true]
  constructor
  · rintro ⟨e, he, hpin⟩
    obtain ⟨rfl, hbasis⟩ : e.2.1 = kind ∧ e.2.2 = .override := by simpa using hpin
    have hfind := find?_of_override he hbasis
    rw [find?_ofConfig h.distinct, MethodOverrides.kind?_eq_some_iff h.distinct] at hfind
    exact ⟨e.1.name, hfind⟩
  · rintro ⟨name, hname⟩
    -- the one operation of the name is an entry
    have hone := h.present name (MethodOverrides.mem_names_iff.2 ⟨kind, hname⟩)
    obtain ⟨m, hm, hsame⟩ := List.countP_pos_iff.1 (Nat.lt_of_lt_of_eq Nat.one_pos hone.symm)
    obtain rfl := beq_iff_eq.1 hsame
    have hclassify : (ofConfig config).classify m = some (kind, .override) := by
      rw [classify_ofConfig h.distinct, (MethodOverrides.kind?_eq_some_iff h.distinct).2 hname]
    exact ⟨(m, kind, .override), List.mem_filterMap.2 ⟨m, hm, by rw [hclassify]; rfl⟩, by simp⟩

/-- The contenders of a kind are its claimants. -/
theorem contenders_entries (h : config.methods.names.Nodup) (ms : List Signature)
    (kind : OperationKind) : contenders ((ofConfig config).entries ms) kind =
      (config.methods.claimants ms kind).map Signature.name := by
  rw [contenders, entries, List.filter_filterMap, List.map_filterMap, MethodOverrides.claimants,
    ← List.filterMap_eq_map, List.filterMap_filter]
  refine List.filterMap_congr fun m _ => ?_
  rw [classify_ofConfig h]
  cases hkind : config.methods.kind? m.name with
  | some own =>
    have hname := MethodOverrides.mem_names_of_kind? hkind
    simp [hname]
  | none =>
    have hname := MethodOverrides.kind?_eq_none_iff.1 hkind
    cases hconv : conventionalKind? m with
    | none => simp
    | some conventional =>
      by_cases hsame : conventional = kind
      · simp [hname, hsame]
      · simp [hsame]

/-- What stays is what the overrides and the names of operations keep. -/
theorem operations_entries (h : config.methods.names.Nodup) (ms : List Signature) :
    ((((ofConfig config).entries ms).filter (ofConfig config).keeps).map fun e => (e.1, e.2.1)) =
      config.methods.kept ms := by
  rw [entries, List.filter_filterMap, List.map_filterMap, MethodOverrides.kept]
  refine List.filterMap_congr fun m _ => ?_
  rw [classify_ofConfig h, MethodOverrides.keptKind?]
  cases config.methods.kind? m.name with
  | some own => simp [keeps]
  | none =>
    cases conventionalKind? m with
    | none => rfl
    | some kind =>
      have hkeeps : (ofConfig config).keeps (m, kind, .convention) =
          (config.methods.name? kind).isNone := by
        rw [keeps, any_ofConfig h]
        cases kind <;> simp [OperationKind.isUnique, MethodOverrides.name?]
      simp only [Option.map_some, Option.filter_some, hkeeps, Option.none_or]
      split <;> rfl

/-! ### The course of a classification -/

/-- **Where the overrides can be followed**, a classification fails at the first kind that is
ambiguous, and keeps everything else there is to keep. -/
theorem classifyAll_of_inOrder (entity : String) (h : config.methods.InOrder ms) :
    (ofConfig config).classifyAll entity ms =
      match OperationKind.unique.find? (config.methods.isAmbiguous ms) with
      | some kind => .error (.ambiguousClassification entity kind
          ((config.methods.claimants ms kind).map Signature.name))
      | none => .ok
          { operations := config.methods.kept ms
            warnings := (ofConfig config).droppedWarnings entity ms ++
              OperationKind.unique.flatMap
                (pinnedWarnings entity ((ofConfig config).entries ms)) } := by
  have hconflicts := conflicts_ofConfig_iff.2 h.distinct
  have hfault : overrideFault? entity ms (ofConfig config).overrides.toList = none := by
    refine overrideFault?_eq_none_iff.2 fun p hp => ?_
    rw [← List.countP_eq_length_filter]
    exact h.present _ (List.mem_map_of_mem (mem_pairs_of_mem_overrides hp))
  have hoffends : offends ((ofConfig config).entries ms) = config.methods.isAmbiguous ms := by
    funext kind
    rw [offends, pinned_entries h, contenders_entries h.distinct, List.length_map,
      MethodOverrides.isAmbiguous, Option.not_isSome]
  rw [classifyAll, hconflicts]
  simp only [hfault, settleKinds_eq, hoffends, contenders_entries h.distinct,
    operations_entries h.distinct]
  cases OperationKind.unique.find? (config.methods.isAmbiguous ms) <;> rfl

/-- Overrides that cannot be followed let a classification fail. -/
theorem exists_error_of_not_inOrder (entity : String) (h : ¬ config.methods.InOrder ms) :
    ∃ e, (ofConfig config).classifyAll entity ms = .error e := by
  unfold classifyAll
  split
  · exact ⟨_, rfl⟩
  · next hconflicts =>
    have hdistinct := conflicts_ofConfig_iff.1 hconflicts
    split
    · exact ⟨_, rfl⟩
    · next hfault =>
      refine absurd ⟨hdistinct, fun name hname => ?_⟩ h
      obtain ⟨kind, hkind⟩ := MethodOverrides.mem_names_iff.1 hname
      have hfind := (find?_ofConfig hdistinct name).trans
        ((MethodOverrides.kind?_eq_some_iff hdistinct).2 hkind)
      rw [List.countP_eq_length_filter]
      exact overrideFault?_eq_none_iff.1 hfault _ (Dict.find?_eq_some_iff.1 hfind)

/-- No kind is ambiguous exactly if none has several claimants. -/
theorem find?_isAmbiguous_eq_none_iff {o : MethodOverrides} :
    OperationKind.unique.find? (o.isAmbiguous ms) = none ↔
      ∀ kind, kind ≠ .customFinder → o.name? kind = none → (o.claimants ms kind).length ≤ 1 := by
  rw [List.find?_eq_none]
  constructor
  · intro h kind hkind hnone
    have hunique : kind ∈ OperationKind.unique := by
      refine OperationKind.mem_unique ?_
      cases kind <;> first | rfl | exact absurd rfl hkind
    have hfew := h kind hunique
    simp only [MethodOverrides.isAmbiguous, hnone, Option.isNone_none, Bool.true_and,
      decide_eq_true_eq] at hfew
    exact Nat.le_of_not_lt hfew
  · intro h kind hunique hambiguous
    have hkind : kind ≠ .customFinder := by
      rintro rfl
      exact absurd hunique (by decide)
    simp only [MethodOverrides.isAmbiguous, Bool.and_eq_true, Option.isNone_iff_eq_none,
      decide_eq_true_eq] at hambiguous
    exact absurd hambiguous.2 (Nat.not_lt.2 (h kind hkind hambiguous.1))

/-- A classification succeeds on unambiguous operations, and on no others. -/
theorem exists_ok_iff : (∃ r, (ofConfig config).classifyAll entity ms = .ok r) ↔
    config.methods.Unambiguous ms := by
  by_cases horder : config.methods.InOrder ms
  · rw [classifyAll_of_inOrder entity horder]
    cases hfind : OperationKind.unique.find? (config.methods.isAmbiguous ms) with
    | none => exact iff_of_true ⟨_, rfl⟩ ⟨horder, find?_isAmbiguous_eq_none_iff.1 hfind⟩
    | some kind =>
      refine iff_of_false nofun fun h => ?_
      rw [find?_isAmbiguous_eq_none_iff.2 h.single] at hfind
      cases hfind
  · obtain ⟨e, he⟩ := exists_error_of_not_inOrder entity horder
    rw [he]
    exact iff_of_false nofun fun h => horder h.toInOrder

/-- What a classification keeps and what it warns of. -/
theorem eq_of_classifyAll {r : Classified} (h : (ofConfig config).classifyAll entity ms = .ok r) :
    r =
      { operations := config.methods.kept ms
        warnings := (ofConfig config).droppedWarnings entity ms ++
          OperationKind.unique.flatMap
            (pinnedWarnings entity ((ofConfig config).entries ms)) } := by
  have hunambiguous := exists_ok_iff.1 ⟨r, h⟩
  rw [classifyAll_of_inOrder entity hunambiguous.toInOrder,
    find?_isAmbiguous_eq_none_iff.2 hunambiguous.single] at h
  exact (Except.ok.inj h).symm

/-- **A classification accepts exactly the unambiguous operations, whatever their order.**

* It succeeds if and only if no name has two kinds, each name with a kind occurs once, and each
  unique kind without an override has one claimant at most.
* Neither its success nor what it keeps of each operation depends on the order of the operations.
* Where the overrides can be followed, it fails at the first ambiguous kind and names all claimants
  in the order of their declaration. -/
theorem classifyAll_decides (config : EntityConfig) (entity : String) (ms : List Signature) :
    let classify (ms : List Signature) := (ofConfig config).classifyAll entity ms
    let o := config.methods
    ((∃ r, classify ms = .ok r) ↔
      o.names.Nodup ∧ (∀ name ∈ o.names, (ms.countP fun m => m.name == name) = 1) ∧
      ∀ kind, kind ≠ .customFinder → o.name? kind = none → (o.claimants ms kind).length ≤ 1) ∧
    (∀ ms', ms'.Perm ms →
      ((∃ r', classify ms' = .ok r') ↔ ∃ r, classify ms = .ok r) ∧
      ∀ r r', classify ms = .ok r → classify ms' = .ok r' →
        r.operations = (ms.filterMap fun m => (o.keptKind? m).map fun kind => (m, kind)) ∧
        r'.operations = (ms'.filterMap fun m => (o.keptKind? m).map fun kind => (m, kind)) ∧
        r'.operations.Perm r.operations) ∧
    (o.names.Nodup → (∀ name ∈ o.names, (ms.countP fun m => m.name == name) = 1) →
      ∀ e, classify ms = .error e →
        ∃ kind, [.create, .readOne, .readAll, .update, .delete].find? (fun kind =>
            (o.name? kind).isNone && decide (1 < (o.claimants ms kind).length)) = some kind ∧
          e = .ambiguousClassification entity kind ((o.claimants ms kind).map Signature.name)) := by
  intro classify o
  refine ⟨?_, ?_, ?_⟩
  · refine exists_ok_iff.trans ⟨fun h => ⟨h.distinct, h.present, h.single⟩, ?_⟩
    rintro ⟨hdistinct, hpresent, hsingle⟩
    exact ⟨⟨hdistinct, hpresent⟩, hsingle⟩
  · intro ms' hperm
    constructor
    · exact exists_ok_iff.trans
        (Iff.trans ⟨fun h => h.of_perm hperm.symm, fun h => h.of_perm hperm⟩ exists_ok_iff.symm)
    · intro r r' hr hr'
      have hoperations := congrArg Classified.operations (eq_of_classifyAll hr)
      have hoperations' := congrArg Classified.operations (eq_of_classifyAll hr')
      refine ⟨hoperations, hoperations', ?_⟩
      rw [hoperations, hoperations']
      exact hperm.filterMap _
  · intro hdistinct hpresent e he
    have hcourse := classifyAll_of_inOrder entity ⟨hdistinct, hpresent⟩
    cases hfind : OperationKind.unique.find? (o.isAmbiguous ms) with
    | none =>
      rw [hfind] at hcourse
      cases hcourse.symm.trans he
    | some kind =>
      rw [hfind] at hcourse
      exact ⟨kind, hfind, (Except.error.inj (hcourse.symm.trans he)).symm⟩

/-- An override decides between two operations that read a part, in either order of declaration; two
operations that make one are ambiguous. -/
theorem classifyAll_decides_parts :
    let config : EntityConfig := { methods := { readOne := some "fetchPart" } }
    let classify (ms : List Signature) := (ofConfig config).classifyAll "Part" ms
    let o := config.methods
    let reading (name : String) : Signature := ⟨name, [("id", .primitive .long)], .named "Part"⟩
    let making (name : String) : Signature := ⟨name, [("name", .string)], .named "Part"⟩
    let ms := [reading "getPart", reading "fetchPart", making "addPart", making "reindex"]
    let ms' := [making "reindex", making "addPart", reading "fetchPart", reading "getPart"]
    let more := making "createPart" :: ms
    (ms'.Perm ms ∧ ∃ r r', classify ms = .ok r ∧ classify ms' = .ok r' ∧
      r.operations = [(reading "fetchPart", .readOne), (making "addPart", .create)] ∧
      r'.operations.Perm r.operations) ∧
    (o.names.Nodup ∧ (∀ name ∈ o.names, (more.countP fun m => m.name == name) = 1) ∧
      classify more = .error (.ambiguousClassification "Part" .create ["createPart", "addPart"]) ∧
      ∃ kind, [.create, .readOne, .readAll, .update, .delete].find? (fun kind =>
          (o.name? kind).isNone && decide (1 < (o.claimants more kind).length)) = some kind ∧
        .ambiguousClassification "Part" .create ["createPart", "addPart"] =
          GenerationError.ambiguousClassification "Part" kind
            ((o.claimants more kind).map Signature.name)) := by
  intro config classify o reading making ms ms' more
  have hperm : ms'.Perm ms := by decide
  obtain ⟨hms, hreorder, -⟩ := classifyAll_decides config "Part" ms
  have hsucceeds : ∃ r, classify ms = .ok r := by
    refine hms.2 ⟨by decide, by decide, fun kind hkind hnone => ?_⟩
    cases kind with
    | customFinder => exact absurd rfl hkind
    | readOne => cases hnone
    | _ => decide
  obtain ⟨r, hr⟩ := hsucceeds
  obtain ⟨r', hr'⟩ := (hreorder ms' hperm).1.2 ⟨r, hr⟩
  obtain ⟨hoperations, -, hsame⟩ := (hreorder ms' hperm).2 r r' hr hr'
  have horder : o.InOrder more := ⟨by decide, by decide⟩
  have hfails : classify more =
      .error (.ambiguousClassification "Part" .create ["createPart", "addPart"]) := by
    have hfirst : OperationKind.unique.find? (config.methods.isAmbiguous more) = some .create := by
      decide
    have hnames : (config.methods.claimants more .create).map Signature.name =
        ["createPart", "addPart"] := by decide
    have hcourse := classifyAll_of_inOrder "Part" horder
    rw [hfirst] at hcourse
    exact hcourse.trans (congrArg _ (congrArg _ hnames))
  obtain ⟨-, -, hmore⟩ := classifyAll_decides config "Part" more
  exact ⟨⟨hperm, r, r', hr, hr', hoperations.trans (by decide), hsame⟩, horder.distinct,
    horder.present, hfails, hmore horder.distinct horder.present _ hfails⟩

end Classifier

end GraphLayer
