import GraphLayer.Proofs.Introspection.WellFormed
import GraphLayer.Proofs.Text.Lines

/-!
# The fields of an entity

Fields come from accessors, and of several accessors of one name the first one counts.

* `MemberDef.Exposes`, when a member of a class is the accessor of a field;
* `Accessor` and `FirstAccessors`, the first accessor of each name with its position in the class;
* `Introspection.accessors_of_later`: an accessor of a name that has been seen makes no
  difference;
* `Introspection.firstAccessors_spec`: what is gone through are the first accessors of all names;
* `fields_extracted`: which classes have fields, which fields they have, what is warned of, and what
  is wrong otherwise.
-/

namespace GraphLayer

/-! ### Accessors -/

/-- Whether a member can be an accessor, whatever its name is: it has no parameters and a result,
and it is not the one that every object has. -/
structure MemberDef.IsReader (m : MemberDef) : Prop where
  accessible : m.accessible = true
  params : m.params = []
  name : m.name ≠ "getClass"
  returns : m.returns ≠ "void"

/-- The member is the accessor of a field: `get` or `is` stands before the name of the field, which
begins with a capital of ASCII there.  After `is` there must be a truth value. -/
inductive MemberDef.Exposes (m : MemberDef) : String → AccessorKind → Prop
  | getter {c : Char} {rest : List Char} (hreader : m.IsReader)
      (hname : m.name.toList = 'g' :: 'e' :: 't' :: c :: rest) (hcapital : 'A' ≤ c ∧ c ≤ 'Z') :
      m.Exposes (String.ofList (c.toLower :: rest)) .getter
  | booleanGetter {c : Char} {rest : List Char} (hreader : m.IsReader)
      (hname : m.name.toList = 'i' :: 's' :: c :: rest) (hcapital : 'A' ≤ c ∧ c ≤ 'Z')
      (hboolean : Introspection.typeOf m.returns = .primitive .boolean ∨
        Introspection.typeOf m.returns = .boxed .boolean) :
      m.Exposes (String.ofList (c.toLower :: rest)) .booleanGetter

/-- A member that is the accessor of a field, with its position in its class. -/
structure Accessor where
  position : ℕ
  member : MemberDef
  name : String
  kind : AccessorKind

/-- The accessor without its position. -/
def Accessor.entry (a : Accessor) : MemberDef × String × AccessorKind := (a.member, a.name, a.kind)

/-- The accessor is the first one of its name among some members. -/
structure Accessor.IsFirst (ms : List MemberDef) (a : Accessor) : Prop where
  declared : ms[a.position]? = some a.member
  exposes : a.member.Exposes a.name a.kind
  first : ∀ i m kind, i < a.position → ms[i]? = some m → ¬ m.Exposes a.name kind

/-- The first accessors of all names, in the order of their declaration. -/
structure FirstAccessors (ms : List MemberDef) (as : List Accessor) : Prop where
  mem : ∀ a, a ∈ as ↔ a.IsFirst ms
  ascending : (as.map Accessor.position).Pairwise (· < ·)
  distinct : (as.map Accessor.name).Nodup

namespace Introspection

variable {m : MemberDef} {ms : List MemberDef} {name : String} {kind : AccessorKind}

/-- The field that a member is the accessor of. -/
def exposed? (m : MemberDef) : Option (String × AccessorKind) :=
  if m.accessible then accessorField? m else none

theorem isUpper_iff {c : Char} : c.isUpper = true ↔ 'A' ≤ c ∧ c ≤ 'Z' := by
  unfold Char.isUpper
  simp [Char.le_def]

theorem isBoolean_iff {t : SourceType} :
    t.isBoolean = true ↔ t = .primitive .boolean ∨ t = .boxed .boolean := by
  cases t with
  | primitive k => cases k <;> simp [SourceType.isBoolean]
  | boxed k => cases k <;> simp [SourceType.isBoolean]
  | _ => simp [SourceType.isBoolean]

/-- The names of accessors. -/
theorem fieldOfAccessor?_eq_some_iff {accessor : String} :
    Naming.fieldOfAccessor? accessor = some name ↔
      ∃ c rest, (accessor.toList = 'g' :: 'e' :: 't' :: c :: rest ∨
          accessor.toList = 'i' :: 's' :: c :: rest) ∧
        ('A' ≤ c ∧ c ≤ 'Z') ∧ String.ofList (c.toLower :: rest) = name := by
  constructor
  · intro h
    unfold Naming.fieldOfAccessor? at h
    dsimp only at h
    split at h
    · next c rest hrest =>
      split at h
      · next hupper =>
        refine ⟨c, rest, ?_, isUpper_iff.1 hupper, Option.some.inj h⟩
        rcases Option.or_eq_some_iff.1 hrest with hget | ⟨-, his⟩
        · exact .inl (Text.stripStart?_eq_some_iff.1 hget)
        · exact .inr (Text.stripStart?_eq_some_iff.1 his)
      · cases h
    · cases h
  · rintro ⟨c, rest, hname | hname, hcapital, rfl⟩
    · simp [Naming.fieldOfAccessor?, hname, Text.stripStart?, isUpper_iff.2 hcapital]
    · simp [Naming.fieldOfAccessor?, hname, Text.stripStart?, isUpper_iff.2 hcapital]

/-- A member says a field exactly if it is its accessor. -/
theorem exposed?_eq_some_iff : exposed? m = some (name, kind) ↔ m.Exposes name kind := by
  have hreader : (m.accessible = true ∧
      (!m.params.isEmpty || m.name == "getClass" || m.returns == "void") = false) ↔ m.IsReader := by
    simp only [Bool.or_eq_false_iff, Bool.not_eq_false', List.isEmpty_iff, beq_eq_false_iff_ne]
    exact ⟨fun ⟨ha, ⟨hp, hn⟩, hr⟩ => ⟨ha, hp, hn, hr⟩, fun h =>
      ⟨h.accessible, ⟨h.params, h.name⟩, h.returns⟩⟩
  constructor
  · intro h
    unfold exposed? accessorField? at h
    split at h
    · next haccessible =>
      split at h
      · cases h
      · next hother =>
        have hreader := hreader.1 ⟨haccessible, by simpa using hother⟩
        obtain ⟨field, hfield, h⟩ := Option.bind_eq_some_iff.1 h
        obtain ⟨c, rest, hname, hcapital, rfl⟩ := fieldOfAccessor?_eq_some_iff.1 hfield
        rcases hname with hname | hname
        · have hstart : Text.stripStart? ['i', 's'] m.name.toList = none := by
            simp [hname, Text.stripStart?]
          rw [hstart] at h
          cases h
          exact .getter hreader hname hcapital
        · have hstart : Text.stripStart? ['i', 's'] m.name.toList = some (c :: rest) :=
            Text.stripStart?_eq_some_iff.2 hname
          rw [hstart, Option.isSome_some, if_pos rfl] at h
          split at h
          · next hboolean =>
            cases h
            exact .booleanGetter hreader hname hcapital (isBoolean_iff.1 hboolean)
          · cases h
    · cases h
  · intro h
    cases h with
    | getter hread hname hcapital =>
      obtain ⟨haccessible, hother⟩ := hreader.2 hread
      have hfield := fieldOfAccessor?_eq_some_iff.2 ⟨_, _, .inl hname, hcapital, rfl⟩
      simp [exposed?, accessorField?, haccessible, hother, hfield, hname, Text.stripStart?]
    | booleanGetter hread hname hcapital hboolean =>
      obtain ⟨haccessible, hother⟩ := hreader.2 hread
      have hfield := fieldOfAccessor?_eq_some_iff.2 ⟨_, _, .inr hname, hcapital, rfl⟩
      simp [exposed?, accessorField?, haccessible, hother, hfield, hname, Text.stripStart?,
        isBoolean_iff.2 hboolean]

/-! ### The first accessor of each name -/

theorem accessors_cons (seen : List String) (m : MemberDef) (ms : List MemberDef) :
    accessors seen ((m :: ms).filter MemberDef.accessible) =
      match exposed? m with
      | none => accessors seen (ms.filter MemberDef.accessible)
      | some (name, kind) =>
        if name ∈ seen then accessors seen (ms.filter MemberDef.accessible)
        else (m, name, kind) :: accessors (name :: seen) (ms.filter MemberDef.accessible) := by
  by_cases hm : m.accessible = true
  · have hexposed : exposed? m = accessorField? m := if_pos hm
    rw [List.filter_cons_of_pos hm, hexposed]
    cases hfield : accessorField? m with
    | none => simp [accessors, hfield]
    | some p => simp [accessors, hfield]
  · rw [List.filter_cons_of_neg hm, exposed?, if_neg hm]

/-- An accessor of a name that has been seen, in the list or before it, makes no difference. -/
theorem accessors_of_later {seen : List String} {before : List MemberDef} (after : List MemberDef)
    (hm : m.Exposes name kind) (hseen : name ∈ seen ∨ ∃ q ∈ before, ∃ k, q.Exposes name k) :
    accessors seen ((before ++ m :: after).filter MemberDef.accessible) =
      accessors seen ((before ++ after).filter MemberDef.accessible) := by
  induction before generalizing seen with
  | nil =>
    have hmem : name ∈ seen := by simpa using hseen
    rw [List.nil_append, List.nil_append, accessors_cons, exposed?_eq_some_iff.2 hm]
    exact if_pos hmem
  | cons q before ih =>
    have hearlier {seen' : List String} (hsub : ∀ n ∈ seen, n ∈ seen')
        (hq : ∀ k, q.Exposes name k → name ∈ seen') :
        name ∈ seen' ∨ ∃ q ∈ before, ∃ k, q.Exposes name k := by
      rcases hseen with hmem | ⟨q', hq', k, hk⟩
      · exact .inl (hsub name hmem)
      · rcases List.mem_cons.1 hq' with rfl | hq'
        · exact .inl (hq k hk)
        · exact .inr ⟨q', hq', k, hk⟩
    rw [List.cons_append, List.cons_append, accessors_cons, accessors_cons]
    cases hexposed : exposed? q with
    | none =>
      refine ih (hearlier (fun n hn => hn) fun k hk => ?_)
      rw [exposed?_eq_some_iff.2 hk] at hexposed
      cases hexposed
    | some p =>
      obtain ⟨own, k⟩ := p
      have hown : ∀ k', q.Exposes name k' → own = name := by
        intro k' hk'
        rw [exposed?_eq_some_iff.2 hk'] at hexposed
        cases hexposed
        rfl
      by_cases hmem : own ∈ seen
      · simp only [if_pos hmem]
        exact ih (hearlier (fun n hn => hn) fun k' hk' => hown k' hk' ▸ hmem)
      · simp only [if_neg hmem]
        rw [ih (hearlier (fun n hn => List.mem_cons_of_mem _ hn)
          fun k' hk' => hown k' hk' ▸ List.mem_cons_self)]

/-- The first accessors of names that have not been seen; the first member has the position `i`. -/
def firstAccessors (seen : List String) (i : ℕ) : List MemberDef → List Accessor
  | [] => []
  | m :: ms =>
    match exposed? m with
    | none => firstAccessors seen (i + 1) ms
    | some (name, kind) =>
      if name ∈ seen then firstAccessors seen (i + 1) ms
      else ⟨i, m, name, kind⟩ :: firstAccessors (name :: seen) (i + 1) ms

/-- What is gone through are the first accessors, without their positions. -/
theorem map_firstAccessors (seen : List String) (i : ℕ) (ms : List MemberDef) :
    (firstAccessors seen i ms).map Accessor.entry =
      accessors seen (ms.filter MemberDef.accessible) := by
  induction ms generalizing seen i with
  | nil => rfl
  | cons m ms ih =>
    rw [firstAccessors, accessors_cons]
    split
    · exact ih seen (i + 1)
    · split
      · exact ih seen (i + 1)
      · rw [List.map_cons, ih]
        rfl

/-- The accessor is the first one of its name among members of which the first has the position
`i`. -/
def Leads (i : ℕ) (ms : List MemberDef) (a : Accessor) : Prop :=
  ∃ j, a.position = i + j ∧ Accessor.IsFirst ms { a with position := j }

theorem leads_zero_iff {a : Accessor} : Leads 0 ms a ↔ a.IsFirst ms := by
  constructor
  · rintro ⟨j, hj, hfirst⟩
    rw [Nat.zero_add] at hj
    subst hj
    exact hfirst
  · intro hfirst
    exact ⟨a.position, (Nat.zero_add _).symm, hfirst⟩

/-- An accessor leads if it is the first member, or if it leads the others and the first member is
none of its name. -/
theorem leads_cons_iff {i : ℕ} {a : Accessor} : Leads i (m :: ms) a ↔
    a.position = i ∧ a.member = m ∧ m.Exposes a.name a.kind ∨
      Leads (i + 1) ms a ∧ ∀ kind, ¬ m.Exposes a.name kind := by
  constructor
  · rintro ⟨j, hj, hfirst⟩
    cases j with
    | zero =>
      have hm : m = a.member := by simpa using hfirst.declared
      subst hm
      exact .inl ⟨hj, rfl, hfirst.exposes⟩
    | succ j =>
      refine .inr ⟨⟨j, by omega, ?_⟩, fun kind => ?_⟩
      · exact
          { declared := by simpa using hfirst.declared
            exposes := hfirst.exposes
            first := fun k q kind hk hq =>
              hfirst.first (k + 1) q kind (Nat.succ_lt_succ hk) (by simpa using hq) }
      · exact hfirst.first 0 m kind (Nat.succ_pos j) rfl
  · rintro (⟨hi, rfl, hexposes⟩ | ⟨⟨j, hj, hfirst⟩, hhead⟩)
    · refine ⟨0, hi, rfl, hexposes, fun k q kind hk => ?_⟩
      exact absurd hk (Nat.not_lt_zero k)
    · refine ⟨j + 1, by omega, by simpa using hfirst.declared, hfirst.exposes, ?_⟩
      intro k q kind hk hq
      cases k with
      | zero =>
        obtain rfl : m = q := by simpa using hq
        exact hhead kind
      | succ k =>
        exact hfirst.first k q kind (Nat.lt_of_succ_lt_succ hk) (by simpa using hq)

/-- The accessors that are gone through are those that lead and whose names have not been seen. -/
theorem mem_firstAccessors_iff {seen : List String} {i : ℕ} {a : Accessor} :
    a ∈ firstAccessors seen i ms ↔ Leads i ms a ∧ a.name ∉ seen := by
  induction ms generalizing seen i with
  | nil =>
    refine iff_of_false List.not_mem_nil ?_
    rintro ⟨⟨j, -, hfirst⟩, -⟩
    simpa using hfirst.declared
  | cons m ms ih =>
    rw [firstAccessors, leads_cons_iff]
    cases hexposed : exposed? m with
    | none =>
      have hhidden : ∀ name kind, ¬ m.Exposes name kind := by
        intro name kind h
        rw [exposed?_eq_some_iff.2 h] at hexposed
        cases hexposed
      simp [ih, hhidden]
    | some p =>
      obtain ⟨name, kind⟩ := p
      have hexposes : ∀ n k, m.Exposes n k ↔ name = n ∧ kind = k := by
        intro n k
        rw [← exposed?_eq_some_iff, hexposed, Option.some.injEq, Prod.mk.injEq]
      by_cases hmem : name ∈ seen
      · simp only [if_pos hmem, ih, hexposes]
        constructor
        · rintro ⟨hleads, hseen⟩
          exact ⟨.inr ⟨hleads, fun k hk => hseen (hk.1 ▸ hmem)⟩, hseen⟩
        · rintro ⟨⟨-, -, hname, -⟩ | ⟨hleads, -⟩, hseen⟩
          · exact absurd (hname ▸ hmem) hseen
          · exact ⟨hleads, hseen⟩
      · simp only [if_neg hmem, List.mem_cons, ih, hexposes]
        constructor
        · rintro (rfl | ⟨hleads, hseen⟩)
          · exact ⟨.inl ⟨rfl, rfl, rfl, rfl⟩, hmem⟩
          · exact ⟨.inr ⟨hleads, fun k hk => hseen (.inl hk.1.symm)⟩, fun h => hseen (.inr h)⟩
        · rintro ⟨⟨hi, hm, hname, hkind⟩ | ⟨hleads, hother⟩, hseen⟩
          · obtain ⟨position, member, own, k⟩ := a
            dsimp only at hi hm hname hkind
            subst hi hm hname hkind
            exact .inl rfl
          · exact .inr ⟨hleads, fun h => h.elim (fun h => hother kind ⟨h.symm, rfl⟩) hseen⟩

theorem position_of_mem_firstAccessors {seen : List String} {i : ℕ} {a : Accessor}
    (ha : a ∈ firstAccessors seen i ms) : i ≤ a.position := by
  obtain ⟨⟨j, hj, -⟩, -⟩ := mem_firstAccessors_iff.1 ha
  omega

theorem ascending_firstAccessors (seen : List String) (i : ℕ) (ms : List MemberDef) :
    ((firstAccessors seen i ms).map Accessor.position).Pairwise (· < ·) := by
  induction ms generalizing seen i with
  | nil => exact .nil
  | cons m ms ih =>
    rw [firstAccessors]
    split
    · exact ih seen (i + 1)
    · next name kind _ =>
      split
      · exact ih seen (i + 1)
      · rw [List.map_cons, List.pairwise_cons]
        refine ⟨fun j hj => ?_, ih _ _⟩
        obtain ⟨a, ha, rfl⟩ := List.mem_map.1 hj
        exact position_of_mem_firstAccessors ha

/-- What is gone through are the first accessors of all names. -/
theorem firstAccessors_spec (ms : List MemberDef) :
    FirstAccessors ms (firstAccessors [] 0 ms) where
  mem := by
    intro a
    rw [mem_firstAccessors_iff, leads_zero_iff]
    simp
  ascending := ascending_firstAccessors [] 0 ms
  distinct := by
    have hnodup := (nodup_accessors [] (ms.filter MemberDef.accessible)).1
    rw [← map_firstAccessors [] 0, List.map_map] at hnodup
    exact hnodup

/-! ### The fields of a class -/

/-- **The fields of a class are those of its first accessors.**

* There are fields exactly if the type of each first accessor has a counterpart, unless its name is
  ignored.
* There is one field for each first accessor whose name is not ignored, in their order, and one
  warning for each ignored one whose type has no counterpart; nothing else is warned of.
* Otherwise the type of the earliest accessor at fault is what is wrong.
* An accessor of a name that an earlier one has makes no difference. -/
theorem fields_extracted (known : KeySet String) (entity : String) (c : ClassDef)
    (ignored : KeySet String) :
    ∃ as, FirstAccessors c.members as ∧
    ((∃ r, describeFields known entity c ignored = .ok r) ↔
      ∀ a : Accessor, a.IsFirst c.members → ignored.contains a.name = false →
        ∃ g, mapType known (typeOf a.member.returns) = .ok g) ∧
    (∀ fields warnings, describeFields known entity c ignored = .ok (fields, warnings) →
      List.Forall₂ (fun a f => f.name = a.name ∧ f.accessor = a.member.name ∧
          f.accessorKind = a.kind ∧ f.sourceType = typeOf a.member.returns ∧
          mapType known (typeOf a.member.returns) = .ok f.type)
        (as.filter fun a => !ignored.contains a.name) fields ∧
      warnings = (as.filter fun a => ignored.contains a.name &&
          (mapType known (typeOf a.member.returns)).toOption.isNone).map fun a =>
        entity ++ ": dropped ignored field '" ++ a.name ++ "' of unmappable type '" ++
          a.member.returns ++ "'") ∧
    (∀ e, describeFields known entity c ignored = .error e →
      ∃ before a after u, as = before ++ a :: after ∧
        (∀ b ∈ before, ignored.contains b.name = false →
          ∃ g, mapType known (typeOf b.member.returns) = .ok g) ∧
        ignored.contains a.name = false ∧ mapType known (typeOf a.member.returns) = .error u ∧
        e = .unmappableType entity a.member.name u.type) ∧
    ∀ before m after name kind, c.members = before ++ m :: after → m.Exposes name kind →
      (∃ q ∈ before, ∃ k, q.Exposes name k) →
      describeFields known entity { c with members := before ++ after } ignored =
        describeFields known entity c ignored := by
  have hspec := firstAccessors_spec c.members
  have hentries : accessors [] c.accessibleMembers =
      (firstAccessors [] 0 c.members).map Accessor.entry := (map_firstAccessors [] 0 _).symm
  refine ⟨firstAccessors [] 0 c.members, hspec, ?_, ?_, ?_, ?_⟩
  · have hok : (∃ r, describeFields known entity c ignored = .ok r) ↔
        ∀ p ∈ accessors [] c.accessibleMembers, fieldFault? known entity ignored p = none := by
      constructor
      · rintro ⟨⟨fields, warnings⟩, h⟩
        exact (fieldsOf_eq_ok_iff.1 h).1
      · intro h
        exact ⟨_, fieldsOf_eq_ok_iff.2 ⟨h, rfl, rfl⟩⟩
    rw [hok, hentries, List.forall_mem_map]
    simp only [fieldFault?_eq_none_iff, hspec.mem]
    rfl
  · intro fields warnings h
    obtain ⟨hfaultless, rfl, rfl⟩ := fieldsOf_eq_ok_iff.1 h
    constructor
    · have hfields := forall₂_field? hfaultless
      rw [hentries, List.filter_map, List.forall₂_map_left_iff] at hfields
      rw [hentries]
      refine hfields.imp fun a f ha => ?_
      obtain ⟨-, type, htype, rfl⟩ := field?_eq_some_iff.1 ha
      exact ⟨rfl, rfl, rfl, rfl, htype⟩
    · rw [hentries, List.filterMap_map, ← List.filterMap_eq_map, List.filterMap_filter]
      rfl
  · intro e he
    rw [describeFields, fieldsOf_eq] at he
    split at he
    · next fault hfault =>
      obtain rfl := Except.error.inj he
      rw [hentries, List.findSome?_map] at hfault
      obtain ⟨before, a, after, has, ha, hbefore⟩ := List.findSome?_eq_some_iff.1 hfault
      have hbefore : ∀ b ∈ before, ignored.contains b.name = false →
          ∃ g, mapType known (typeOf b.member.returns) = .ok g :=
        fun b hb => fieldFault?_eq_none_iff.1 (hbefore b hb)
      rw [Function.comp_apply, fieldFault?] at ha
      split at ha
      · cases ha
      · next u hu =>
        split at ha
        · cases ha
        · next hkept =>
          exact ⟨before, a, after, u, has, hbefore, Bool.eq_false_iff.2 hkept, hu,
            (Option.some.inj ha).symm⟩
    · cases he
  · intro before m after name kind hmembers hm hearlier
    have hsame : accessors [] (c.members.filter MemberDef.accessible) =
        accessors [] ((before ++ after).filter MemberDef.accessible) := by
      rw [hmembers]
      exact accessors_of_later after hm (.inr hearlier)
    rw [describeFields, describeFields, ClassDef.accessibleMembers, ClassDef.accessibleMembers,
      hsame]

/-- A box that is open or not, with a second accessor for its lock and one that is ignored. -/
def boxClass : ClassDef where
  name := "Box"
  members := [{ name := "getSize", returns := "int" }, { name := "isOpen", returns := "boolean" },
    { name := "getMade", returns := "Date" }, { name := "getClass", returns := "Class" },
    { name := "getOpen", returns := "Lock" }, { name := "getOwner", returns := "User" }]

/-- Users must be known, locks need not be: a box is open by its first accessor. -/
theorem fields_extracted_box :
    let ignored := KeySet.ofList ["made"]
    (∃ as fields warnings,
      describeFields (.ofList ["User"]) "Box" boxClass ignored = .ok (fields, warnings) ∧
      fields.map Field.name = ["size", "open", "owner"] ∧
      FirstAccessors boxClass.members as ∧
      List.Forall₂ (fun a f => f.name = a.name ∧ f.accessor = a.member.name ∧
          f.accessorKind = a.kind ∧ f.sourceType = typeOf a.member.returns ∧
          mapType (.ofList ["User"]) (typeOf a.member.returns) = .ok f.type)
        (as.filter fun a => !ignored.contains a.name) fields ∧
      warnings = (as.filter fun a => ignored.contains a.name &&
          (mapType (.ofList ["User"]) (typeOf a.member.returns)).toOption.isNone).map fun a =>
        "Box" ++ ": dropped ignored field '" ++ a.name ++ "' of unmappable type '" ++
          a.member.returns ++ "'") ∧
    (∃ before a after u,
      describeFields .empty "Box" boxClass ignored =
        .error (.unmappableType "Box" "getOwner" "User") ∧
      FirstAccessors boxClass.members (before ++ a :: after) ∧
      mapType .empty (typeOf a.member.returns) = .error u ∧
      GenerationError.unmappableType "Box" "getOwner" "User" =
        .unmappableType "Box" a.member.name u.type) ∧
    (MemberDef.Exposes { name := "getOpen", returns := "Lock" } "open" .getter ∧
      MemberDef.Exposes { name := "isOpen", returns := "boolean" } "open" .booleanGetter ∧
      describeFields (.ofList ["User"]) "Box"
          { boxClass with members := boxClass.members.take 4 ++ boxClass.members.drop 5 } ignored =
        describeFields (.ofList ["User"]) "Box" boxClass ignored) := by
  intro ignored
  refine ⟨?_, ?_, ?_⟩
  · have hvalue : ((describeFields (.ofList ["User"]) "Box" boxClass ignored).toOption.map fun r =>
        r.1.map Field.name) = some ["size", "open", "owner"] := by decide +kernel
    obtain ⟨⟨fields, warnings⟩, hok, hnames⟩ := Option.map_eq_some_iff.1 hvalue
    have hok := eq_ok_of_toOption hok
    obtain ⟨as, has, -, hextracted, -⟩ := fields_extracted (.ofList ["User"]) "Box" boxClass ignored
    obtain ⟨hfields, hwarnings⟩ := hextracted fields warnings hok
    exact ⟨as, fields, warnings, hok, hnames, has, hfields, hwarnings⟩
  · have herror : describeFields .empty "Box" boxClass ignored =
        .error (.unmappableType "Box" "getOwner" "User") := by decide +kernel
    obtain ⟨as, has, -, -, hfault, -⟩ := fields_extracted .empty "Box" boxClass ignored
    obtain ⟨before, a, after, u, rfl, -, -, hu, he⟩ := hfault _ herror
    exact ⟨before, a, after, u, herror, has, hu, he⟩
  · have hlater : MemberDef.Exposes { name := "getOpen", returns := "Lock" } "open" .getter :=
      exposed?_eq_some_iff.1 (by decide +kernel)
    have hfirst : MemberDef.Exposes { name := "isOpen", returns := "boolean" } "open"
        .booleanGetter := exposed?_eq_some_iff.1 (by decide +kernel)
    obtain ⟨as, -, -, -, -, hsame⟩ := fields_extracted (.ofList ["User"]) "Box" boxClass ignored
    exact ⟨hlater, hfirst, hsame (boxClass.members.take 4) _ (boxClass.members.drop 5) _ _ rfl
      hlater ⟨_, by decide, _, hfirst⟩⟩

end Introspection

end GraphLayer
