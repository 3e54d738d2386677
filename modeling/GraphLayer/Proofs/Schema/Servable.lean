import GraphLayer.Proofs.Data.Ascending
import GraphLayer.Proofs.Data.Except
import GraphLayer.Schema.Check

/-!
# What the check of a schema finds

* `Fault.Holds`, what a fault says about a schema;
* `Document.holds_of_fault?`: a fault that is found holds of the schema;
* `Document.fault?_eq_none_iff`: no fault is found exactly if the schema can be served;
* `check_eq_ok_iff` and `check_eq_error_iff`: the error of a run is the fault that is found.
-/

namespace GraphLayer.Schema

/-- What a fault says about a schema that has been read. -/
def Fault.Holds (d : Document) : Fault → Prop
  | unreadable => False
  | repeated name => ∃ before fields after, d = before ++ .object name fields :: after ∧
      name ∈ Document.declared before
  | fieldless name => (name, []) ∈ Document.owned d
  | undeclared names => names ≠ [] ∧
      ∀ name, name ∈ names ↔ name ∈ Document.references d ∧ name ∉ Document.declared d
  | objectArgument owner field argument type => type ∈ Document.objects d ∧
      ∃ u ∈ Document.uses d, u.owner = owner ∧ u.field = field ∧ u.argument.name = argument ∧
        u.argument.type.leaf = type
  | noQuery => ∀ fields, ("Query", fields) ∈ Document.owned d → fields = []

namespace Document

variable {d rest before : Document} {seen : List String} {f : Fault}

/-! ### Declarations -/

theorem declared_append (d e : Document) :
    declared (d ++ e) = declared d ++ e.filterMap Definition.declared? := by
  rw [declared, declared, List.filterMap_append, List.append_assoc]

/-- What is wrong with one definition after some names have been seen. -/
def definitionFault? (seen : List String) : Definition → Option Fault
  | .object name fields =>
    if name ∈ seen then some (.repeated name)
    else if fields.isEmpty then some (.fieldless name)
    else none
  | .extension name fields => if fields.isEmpty then some (.fieldless name) else none
  | _ => none

/-- Definitions are looked at one after the other. -/
theorem declarationFault?_cons (seen : List String) (x : Definition) (rest : Document) :
    declarationFault? seen (x :: rest) =
      (definitionFault? seen x).or (declarationFault? (x.declared?.toList ++ seen) rest) := by
  cases x with
  | scalar name => rfl
  | object name fields =>
    simp only [declarationFault?, definitionFault?]
    split
    · rfl
    · split <;> rfl
  | extension name fields =>
    simp only [declarationFault?, definitionFault?]
    split <;> rfl
  | other => rfl

/-- A definition without fault has fields, if it is one that should. -/
theorem fields_of_definitionFault? {x : Definition} (h : definitionFault? seen x = none)
    {o : String × List FieldDef} (ho : x.owned? = some o) : o.2 ≠ [] := by
  intro hempty
  cases x with
  | object name fields =>
    obtain rfl := Option.some.inj ho
    obtain rfl : fields = [] := hempty
    simp only [definitionFault?, List.isEmpty_nil, if_true] at h
    split at h <;> cases h
  | extension name fields =>
    obtain rfl := Option.some.inj ho
    obtain rfl : fields = [] := hempty
    cases h
  | _ => cases ho

theorem notMem_of_definitionFault? {name : String} {fields : List FieldDef}
    (h : definitionFault? seen (.object name fields) = none) : name ∉ seen := by
  intro hname
  simp [definitionFault?, hname] at h

/-- What has been seen is what the definitions before the rest declare. -/
def Seen (seen : List String) (before : Document) : Prop :=
  ∀ name, name ∈ seen ↔ name ∈ declared before

theorem seen_nil : Seen builtins [] := by
  simp [Seen, declared]

theorem Seen.concat (h : Seen seen before) (x : Definition) :
    Seen (x.declared?.toList ++ seen) (before ++ [x]) := by
  intro name
  simp only [declared_append, List.mem_append, h name, List.filterMap_cons, List.filterMap_nil]
  cases x.declared? <;> simp [or_comm]

/-- A fault of one definition is one of the whole schema. -/
theorem holds_of_definitionFault? (hseen : Seen seen before) {x : Definition}
    (h : definitionFault? seen x = some f) : f.Holds (before ++ x :: rest) := by
  have howned {name : String} (hx : x.owned? = some (name, [])) :
      (name, []) ∈ owned (before ++ x :: rest) :=
    List.mem_filterMap.2 ⟨x, List.mem_append_right _ List.mem_cons_self, hx⟩
  cases x with
  | object name fields =>
    simp only [definitionFault?] at h
    split at h
    · next hname =>
      obtain rfl := Option.some.inj h
      exact ⟨before, fields, rest, rfl, (hseen name).1 hname⟩
    · split at h
      · next hfields =>
        obtain rfl := Option.some.inj h
        obtain rfl := List.isEmpty_iff.1 hfields
        exact howned rfl
      · cases h
  | extension name fields =>
    simp only [definitionFault?] at h
    split at h
    · next hfields =>
      obtain rfl := Option.some.inj h
      obtain rfl := List.isEmpty_iff.1 hfields
      exact howned rfl
    · cases h
  | _ => cases h

/-- A fault of the rest is one of the whole schema. -/
theorem holds_of_declarationFault? (hseen : Seen seen before)
    (h : declarationFault? seen rest = some f) : f.Holds (before ++ rest) := by
  -- the definitions before the rest grow along with what has been seen
  induction rest generalizing seen before with
  | nil => cases h
  | cons x rest ih =>
    rw [declarationFault?_cons, Option.or_eq_some_iff] at h
    rcases h with hx | ⟨-, hrest⟩
    · exact holds_of_definitionFault? hseen hx
    · have hholds := ih (hseen.concat x) hrest
      rwa [List.append_assoc] at hholds

/-- If the rest has no fault, its objects and extensions have fields. -/
theorem fields_of_declarationFault? (h : declarationFault? seen rest = none) :
    ∀ o ∈ owned rest, o.2 ≠ [] := by
  induction rest generalizing seen with
  | nil => nofun
  | cons x rest ih =>
    rw [declarationFault?_cons, Option.or_eq_none_iff] at h
    intro o ho
    obtain ⟨y, hy, hown⟩ := List.mem_filterMap.1 ho
    rcases List.mem_cons.1 hy with rfl | hy
    · exact fields_of_definitionFault? h.1 hown
    · exact ih h.2 o (List.mem_filterMap.2 ⟨y, hy, hown⟩)

/-- If the rest has no fault, no object of it repeats a name. -/
theorem notMem_declared_of_declarationFault? (hseen : Seen seen before) {mid after : Document}
    {name : String} {fields : List FieldDef}
    (h : declarationFault? seen (mid ++ .object name fields :: after) = none) :
    name ∉ declared (before ++ mid) := by
  induction mid generalizing seen before with
  | nil =>
    rw [List.nil_append, declarationFault?_cons, Option.or_eq_none_iff] at h
    rw [List.append_nil]
    exact fun hname => notMem_of_definitionFault? h.1 ((hseen name).2 hname)
  | cons x mid ih =>
    rw [List.cons_append, declarationFault?_cons, Option.or_eq_none_iff] at h
    have hname := ih (hseen.concat x) h.2
    rwa [List.append_assoc] at hname

/-! ### All conditions -/

theorem mem_undeclared {name : String} :
    name ∈ undeclared d ↔ name ∈ references d ∧ name ∉ declared d := by
  simp [undeclared, KeySet.mem_keys_ofList]

theorem mem_queryFields {x : FieldDef} :
    x ∈ queryFields d ↔ ∃ fields, ("Query", fields) ∈ owned d ∧ x ∈ fields := by
  simp only [queryFields, List.mem_flatMap, Prod.exists, beq_iff_eq]
  constructor
  · rintro ⟨name, fields, ho, hx⟩
    split at hx
    · next hname => exact ⟨fields, hname ▸ ho, hx⟩
    · cases hx
  · rintro ⟨fields, ho, hx⟩
    exact ⟨"Query", fields, ho, by simpa using hx⟩

/-- **A fault that is found holds of the schema.** -/
theorem holds_of_fault? (h : d.fault? = some f) : f.Holds d := by
  unfold fault? at h
  split at h
  · next hfault =>
    obtain rfl := Option.some.inj h
    exact holds_of_declarationFault? seen_nil hfault
  · split at h
    · next n ns hnames =>
      obtain rfl := Option.some.inj h
      refine ⟨List.cons_ne_nil n ns, fun name => ?_⟩
      rw [← hnames, mem_undeclared]
    · split at h
      · next u hu =>
        obtain rfl := Option.some.inj h
        have hobject : u.argument.type.leaf ∈ objects d := by simpa using List.find?_some hu
        exact ⟨hobject, u, List.mem_of_find?_eq_some hu, rfl, rfl, rfl, rfl⟩
      · split at h
        · next hquery =>
          obtain rfl := Option.some.inj h
          intro fields hfields
          refine List.eq_nil_iff_forall_not_mem.2 fun x hx => ?_
          have hmem : x ∈ queryFields d := mem_queryFields.2 ⟨fields, hfields, hx⟩
          rw [List.isEmpty_iff.1 hquery] at hmem
          cases hmem
        · cases h

/-- No fault holds of a schema that can be served. -/
theorem Servable.not_holds (h : Servable d) (f : Fault) : ¬ f.Holds d := by
  intro hf
  cases f with
  | unreadable => exact hf
  | repeated name =>
    obtain ⟨before, fields, after, hd, hname⟩ := hf
    exact h.distinct before after name fields hd hname
  | fieldless name => exact h.fields _ hf rfl
  | undeclared names =>
    obtain ⟨hne, hnames⟩ := hf
    obtain ⟨name, hname⟩ := List.exists_mem_of_ne_nil names hne
    obtain ⟨href, hdecl⟩ := (hnames name).1 hname
    exact hdecl (h.closed name href)
  | objectArgument owner field argument type =>
    obtain ⟨htype, u, hu, -, -, -, rfl⟩ := hf
    exact h.inputs u hu htype
  | noQuery =>
    obtain ⟨⟨name, fields⟩, ho, rfl, hne⟩ := h.query
    exact hne (hf fields ho)

theorem servable_of_fault? (h : d.fault? = none) : Servable d := by
  unfold fault? at h
  split at h
  · cases h
  · next hfault =>
    split at h
    · cases h
    · next hnames =>
      split at h
      · cases h
      · next huses =>
        split at h
        · cases h
        · next hquery =>
          refine ⟨?_, fields_of_declarationFault? hfault, ?_, ?_, ?_⟩
          · rintro before after name fields rfl
            have hname := notMem_declared_of_declarationFault? seen_nil hfault
            rwa [List.nil_append] at hname
          · intro name href
            refine Decidable.byContradiction fun hdecl => ?_
            have hmem : name ∈ undeclared d := mem_undeclared.2 ⟨href, hdecl⟩
            rw [hnames] at hmem
            cases hmem
          · intro u hu
            simpa using List.find?_eq_none.1 huses u hu
          · obtain ⟨x, hx⟩ := List.exists_mem_of_ne_nil _ fun hempty =>
              hquery (List.isEmpty_iff.2 hempty)
            obtain ⟨fields, hfields, hx⟩ := mem_queryFields.1 hx
            exact ⟨_, hfields, rfl, List.ne_nil_of_mem hx⟩

/-- **The check decides whether a schema can be served.** -/
theorem fault?_eq_none_iff : d.fault? = none ↔ Servable d := by
  refine ⟨servable_of_fault?, fun h => ?_⟩
  cases hf : d.fault? with
  | none => rfl
  | some f => exact (h.not_holds f (holds_of_fault? hf)).elim

end Document

variable {s : String} {d : Document}

/-- The check of a text that can be read decides whether its schema can be served. -/
theorem checkText_eq_ok_iff (h : Document.read? s = some d) :
    checkText s = .ok () ↔ Document.Servable d := by
  rw [← Document.fault?_eq_none_iff, checkText, h]
  cases hf : Document.fault? d with
  | none => simp [hf]
  | some f => simp [hf]

theorem check_eq_ok_iff : check s = .ok () ↔ checkText s = .ok () := by
  rw [check, mapError_eq_ok_iff]

theorem check_eq_error_iff {e : GenerationError} :
    check s = .error e ↔ ∃ f, checkText s = .error f ∧ .render f.message = e := by
  rw [check, mapError_eq_error_iff]

/-- A fault of a text that can be read holds of its schema. -/
theorem holds_of_checkText (h : Document.read? s = some d) {f : Fault}
    (hf : checkText s = .error f) : f.Holds d := by
  refine Document.holds_of_fault? ?_
  rw [checkText, h] at hf
  cases hd : Document.fault? d with
  | none => simp [hd] at hf
  | some f' => simpa [hd] using hf

end GraphLayer.Schema
