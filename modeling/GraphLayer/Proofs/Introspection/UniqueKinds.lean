import GraphLayer.Proofs.Data.Ascending
import GraphLayer.Proofs.Introspection.Guarantees

/-!
# At most one operation of each unique kind

* `MethodOverrides.mem_pairs_iff` and `Classifier.mem_pairs_of_mem_overrides`: an override gives a
  kind to one name;
* `Classifier.overrideFault?_eq_none_iff` and `Classifier.settleKinds_eq`: what the checks of a
  classification say;
* `find?_of_countP_le_one`: a test that holds once finds what it holds of;
* `Classifier.countP_operations_le_one` and `countP_kind_le_one`: of a unique kind there is at most
  one classified operation, and at most one in the descriptor of an entity.
-/

namespace GraphLayer

/-! ### Overrides -/

/-- The name that is given a kind. -/
def MethodOverrides.name? (o : MethodOverrides) : OperationKind → Option String
  | .create => o.create
  | .readOne => o.readOne
  | .readAll => o.readAll
  | .update => o.update
  | .delete => o.delete
  | .customFinder => none

theorem MethodOverrides.mem_pairs_iff {o : MethodOverrides} {name : String}
    {kind : OperationKind} : (name, kind) ∈ o.pairs ↔ o.name? kind = some name := by
  cases kind <;> simp [pairs, name?]

/-- The unique kinds are those that are settled. -/
theorem OperationKind.mem_unique {kind : OperationKind} (h : kind.isUnique = true) :
    kind ∈ unique := by
  cases kind with
  | customFinder => cases h
  | _ => decide

namespace Classifier

variable {c : Classifier} {config : EntityConfig} {entity : String} {ms : List Signature}
  {es : List Entry} {kind : OperationKind}

theorem mem_of_mem_overrides_foldl {ps : List (String × OperationKind)}
    {p : String × OperationKind}
    (h : p ∈ (ps.foldl (fun c p => c.add p.1 p.2) c).overrides.toList) :
    p ∈ c.overrides.toList ∨ p ∈ ps := by
  induction ps generalizing c with
  | nil => exact .inl h
  | cons q ps ih =>
    rcases ih h with h | h
    · rcases Ascending.mem_upsert h with h | rfl | ⟨_, -, rfl⟩
      · exact .inl h
      · exact .inr List.mem_cons_self
      · exact .inr List.mem_cons_self
    · exact .inr (List.mem_cons_of_mem _ h)

/-- Every override is one of the configuration. -/
theorem mem_pairs_of_mem_overrides {p : String × OperationKind}
    (h : p ∈ (ofConfig config).overrides.toList) : p ∈ config.methods.pairs :=
  (mem_of_mem_overrides_foldl h).resolve_left List.not_mem_nil

/-- Overrides are without a fault if each of them names one operation. -/
theorem overrideFault?_eq_none_iff {ps : List (String × OperationKind)} :
    overrideFault? entity ms ps = none ↔
      ∀ p ∈ ps, (ms.filter fun m => m.name == p.1).length = 1 := by
  induction ps with
  | nil => simp [overrideFault?]
  | cons p ps ih =>
    obtain ⟨name, kind⟩ := p
    rw [List.forall_mem_cons, ← ih, overrideFault?]
    dsimp only
    split
    · next hnone => simp [hnone]
    · next hone => simp [hone]
    · next hone => exact iff_of_false nofun fun hall => hone hall.1

/-! ### Entries -/

/-- Whether several entries have a kind by convention, and none by an override. -/
def offends (es : List Entry) (kind : OperationKind) : Bool :=
  !pinned es kind && decide (1 < (contenders es kind).length)

/-- The warnings for the contenders of a kind that is pinned. -/
def pinnedWarnings (entity : String) (es : List Entry) (kind : OperationKind) : List String :=
  if pinned es kind then
    (contenders es kind).map fun name =>
      entity ++ ": dropped '" ++ name ++ "', " ++ kind.text ++ " is pinned by an override"
  else []

/-- Settling fails at the first kind that offends, and otherwise warns of all contenders of pinned
kinds. -/
theorem settleKinds_eq (kinds : List OperationKind) :
    settleKinds entity es kinds =
      match kinds.find? (offends es) with
      | some kind => .error (.ambiguousClassification entity kind (contenders es kind))
      | none => .ok (kinds.flatMap (pinnedWarnings entity es)) := by
  induction kinds with
  | nil => rfl
  | cons kind kinds ih =>
    rw [settleKinds, ih, List.flatMap_cons]
    by_cases hpinned : pinned es kind = true
    · have hoffends : ¬ offends es kind = true := by simp [offends, hpinned]
      rw [if_pos hpinned, List.find?_cons_of_neg hoffends, pinnedWarnings, if_pos hpinned]
      cases kinds.find? (offends es) <;> rfl
    · rw [if_neg hpinned]
      by_cases hmany : 1 < (contenders es kind).length
      · have hoffends : offends es kind = true := by simp [offends, hpinned, hmany]
        rw [if_pos hmany, List.find?_cons_of_pos hoffends]
      · have hoffends : ¬ offends es kind = true := by simp [offends, hmany]
        rw [if_neg hmany, List.find?_cons_of_neg hoffends, pinnedWarnings, if_neg hpinned]
        rfl

/-- A kind that is settled has an override, or one contender at most. -/
theorem pinned_or_of_settleKinds {kinds : List OperationKind} {warnings : List String}
    (h : settleKinds entity es kinds = .ok warnings) :
    ∀ kind ∈ kinds, pinned es kind = true ∨ (contenders es kind).length ≤ 1 := by
  intro kind hkind
  rw [settleKinds_eq] at h
  cases hfind : kinds.find? (offends es) with
  | some kind =>
    rw [hfind] at h
    cases h
  | none =>
    have hoffends := List.find?_eq_none.1 hfind kind hkind
    by_cases hpinned : pinned es kind = true
    · exact .inl hpinned
    · simp only [offends, hpinned, Bool.not_false, Bool.true_and, decide_eq_true_eq] at hoffends
      exact .inr (Nat.le_of_not_lt hoffends)

/-- An entry has its kind from an override of its name. -/
theorem find?_of_override {e : Entry} (he : e ∈ c.entries ms) (hbasis : e.2.2 = .override) :
    c.overrides.find? e.1.name = some e.2.1 := by
  obtain ⟨m, -, hm⟩ := List.mem_filterMap.1 he
  obtain ⟨⟨kind, basis⟩, hclassify, rfl⟩ := Option.map_eq_some_iff.1 hm
  unfold classify at hclassify
  split at hclassify
  · next found hfound =>
    cases hclassify
    exact hfound
  · obtain ⟨conventional, -, heq⟩ := Option.map_eq_some_iff.1 hclassify
    cases heq
    cases hbasis

/-- There are no more entries of a name than operations. -/
theorem countP_entries_le (c : Classifier) (ms : List Signature) (name : String) :
    ((c.entries ms).countP fun e => e.1.name == name) ≤ ms.countP fun m => m.name == name := by
  rw [entries, List.countP_filterMap]
  refine List.countP_mono_left fun m _ hm => ?_
  cases hkind : c.classify m with
  | none => simp [hkind] at hm
  | some k => simpa [hkind] using hm

/-- Next to an override of a unique kind no other operation keeps this kind by convention. -/
theorem override_of_keeps {e : Entry} (hkept : c.keeps e = true) (hkind : e.2.1.isUnique = true)
    {name : String} (hname : (name, e.2.1) ∈ c.overrides.toList) : e.2.2 = .override := by
  cases hbasis : e.2.2 with
  | override => rfl
  | convention =>
    have hany : (c.overrides.toList.any fun p => p.2 == e.2.1) = true :=
      List.any_eq_true.2 ⟨_, hname, beq_self_eq_true _⟩
    simp [keeps, hkind, hbasis, hany] at hkept

/-- **Of a unique kind there is at most one classified operation.** -/
theorem countP_operations_le_one {classified : Classified}
    (h : (ofConfig config).classifyAll entity ms = .ok classified) (hkind : kind.isUnique = true) :
    (classified.operations.countP fun e => e.2 == kind) ≤ 1 := by
  unfold classifyAll at h
  split at h
  · cases h
  split at h
  · cases h
  next hfault =>
  obtain ⟨warnings, hsettle, h⟩ := bind_eq_ok_iff.1 h
  cases h
  rw [List.countP_map, List.countP_filter]
  by_cases hpinned : pinned ((ofConfig config).entries ms) kind = true
  · -- what is kept has the one name that the kind is given to
    obtain ⟨e, he, hpin⟩ := List.any_eq_true.1 hpinned
    obtain ⟨rfl, hbasis⟩ : e.2.1 = kind ∧ e.2.2 = .override := by simpa using hpin
    have hoverride := Dict.find?_eq_some_iff.1 (find?_of_override he hbasis)
    have hname := MethodOverrides.mem_pairs_iff.1 (mem_pairs_of_mem_overrides hoverride)
    refine Nat.le_trans ?_ (Nat.le_trans (countP_entries_le (ofConfig config) ms e.1.name) ?_)
    · refine List.countP_mono_left fun e' he' hkept => ?_
      obtain ⟨hsame, hkept⟩ : e'.2.1 = e.2.1 ∧ (ofConfig config).keeps e' = true := by
        simpa using hkept
      have hbasis' := override_of_keeps hkept (hsame ▸ hkind) (hsame ▸ hoverride)
      have hoverride' := Dict.find?_eq_some_iff.1 (find?_of_override he' hbasis')
      have hname' := MethodOverrides.mem_pairs_iff.1 (mem_pairs_of_mem_overrides hoverride')
      rw [hsame, hname] at hname'
      exact beq_iff_eq.2 (Option.some.inj hname').symm
    · rw [List.countP_eq_length_filter]
      exact Nat.le_of_eq (overrideFault?_eq_none_iff.1 hfault _ hoverride)
  · -- without an override all entries of the kind are contenders
    have hfew := (pinned_or_of_settleKinds hsettle kind
      (OperationKind.mem_unique hkind)).resolve_left hpinned
    rw [contenders, List.length_map, ← List.countP_eq_length_filter] at hfew
    refine Nat.le_trans (List.countP_mono_left fun e he hkept => ?_) hfew
    obtain ⟨rfl, -⟩ : e.2.1 = kind ∧ (ofConfig config).keeps e = true := by simpa using hkept
    cases hbasis : e.2.2 with
    | override => exact absurd (List.any_eq_true.2 ⟨e, he, by simp [hbasis]⟩) hpinned
    | convention => simp

end Classifier

/-! ### What occurs at most once -/

/-- What counts at most once is the same wherever it occurs. -/
theorem eq_of_countP_le_one {A : Type} {p : A → Bool} {l : List A} (h : l.countP p ≤ 1) {a b : A}
    (ha : a ∈ l) (hb : b ∈ l) (hpa : p a = true) (hpb : p b = true) : a = b := by
  have ha' : a ∈ l.filter p := List.mem_filter.2 ⟨ha, hpa⟩
  have hb' : b ∈ l.filter p := List.mem_filter.2 ⟨hb, hpb⟩
  rw [List.countP_eq_length_filter] at h
  match hl : l.filter p with
  | [] =>
    rw [hl] at ha'
    cases ha'
  | [x] =>
    rw [hl] at ha' hb'
    rw [List.mem_singleton.1 ha', List.mem_singleton.1 hb']
  | x :: y :: rest =>
    rw [hl] at h
    exact absurd h (by simp)

/-- What counts at most once is found first. -/
theorem find?_of_countP_le_one {A : Type} {p q : A → Bool} {l : List A} (h : l.countP q ≤ 1)
    (hq : ∀ a, p a = true → q a = true) {a : A} (ha : a ∈ l) (hpa : p a = true) :
    l.find? p = some a := by
  cases hfound : l.find? p with
  | none => exact absurd hpa (List.find?_eq_none.1 hfound a ha)
  | some b =>
    have hpb := List.find?_some hfound
    rw [eq_of_countP_le_one h (List.mem_of_find?_eq_some hfound) ha (hq b hpb) (hq a hpa)]

/-! ### Descriptors -/

namespace Introspection

variable {known : KeySet String} {entity : String}

variable {config : EntityConfig} {es : List (Signature × OperationKind)} {methods : List Method}

/-- Operations have the kinds under which they are described. -/
theorem map_kind_of_describeMethod
    (h : List.Forall₂ (fun e m => describeMethod known entity config e.1 e.2 = .ok m) es methods) :
    methods.map Method.kind = es.map Prod.snd := by
  induction h with
  | nil => rfl
  | cons hm _ ih =>
    obtain ⟨params, returns, -, -, rfl⟩ := exists_of_describeMethod hm
    rw [List.map_cons, List.map_cons, ih]

/-- The operations that are kept have the kinds of their signatures, in order. -/
theorem map_kind_sublist {warnings : List String}
    (h : methodsOf known entity config es = .ok (methods, warnings)) :
    (methods.map Method.kind).Sublist (es.map Prod.snd) := by
  rw [map_kind_of_describeMethod (forall₂_of_methodsOf h).1]
  exact List.filter_sublist.map _

end Introspection

open Introspection in
/-- **Of a unique kind a described entity has at most one operation.** -/
theorem countP_kind_le_one {catalog : Catalog} {known : KeySet String} {modules : ModulePaths}
    {entity : String} {config : EntityConfig} {x : Described}
    (h : describe catalog known modules entity config = .ok x) {kind : OperationKind}
    (hkind : kind.isUnique = true) :
    (x.descriptor.methods.countP fun m => m.kind == kind) ≤ 1 := by
  obtain ⟨c, s, fieldWarnings, methodWarnings, -, -, -, hmethods, -⟩ := exists_of_describe h
  obtain ⟨classified, rest, hclassified, hmethods, -⟩ := exists_of_describeMethods hmethods
  have hsublist := (map_kind_sublist hmethods).countP_le (p := (· == kind))
  rw [List.countP_map, List.countP_map] at hsublist
  exact Nat.le_trans hsublist (Classifier.countP_operations_le_one hclassified hkind)

end GraphLayer
