import Mathlib.Data.List.Nodup
import GraphLayer.Proofs.Data.Ascending
import GraphLayer.Proofs.Json.Text
import GraphLayer.Record.Encode
import GraphLayer.Record.Format

/-!
# What is written is read back

* `Faithful`, a reader and a writer of one type such that whatever is written is read back, and is
  a value whose text can be read;
* `Faithful.list`, `Faithful.optional`, `Faithful.set` and `Faithful.dict`, the collections of what
  is read back, and `Faithful.render`: it is read back from its text as well;
* `Node.written` and `Node.fields?_ofJson`, the fields that a written structure gives, and with them
  one law for each structure, up to `Catalog.faithful` and `GeneratorConfig.faithful`.
-/

namespace GraphLayer

open Json (Exact)

/-! ### Trees of written values -/

namespace Node

theorem ofItems_eq (xs : List Json) : ofItems xs = xs.map ofJson := by
  induction xs with
  | nil => rfl
  | cons x xs ih => rw [ofItems, ih, List.map_cons]

theorem ofFields_eq (fs : List (String × Json)) :
    ofFields fs = fs.map fun p => (text p.1, ofJson p.2) := by
  induction fs with
  | nil => rfl
  | cons p fs ih => rw [ofFields, ih, List.map_cons]

theorem distinct_of_nodup (names : List String) {given : Given}
    (h : (given.map Prod.fst).Nodup) : distinct names given = true := by
  refine List.all_eq_true.2 fun name _ => decide_eq_true ?_
  have hcount := List.nodup_iff_count_le_one.1 h name
  rwa [List.count, List.countP_map, List.countP_eq_length_filter] at hcount

/-- The fields that are given by a written record. -/
def written (fs : List (String × Json)) : Given := fs.map fun p => (p.1, ofJson p.2)

/-- The fields of a record that repeats no key are given under their keys. -/
theorem fields?_ofJson (names : List String) (required : Nat) {fs : List (String × Json)}
    (h : (fs.map Prod.fst).Nodup) :
    (ofJson (.record fs)).fields? names required = some (written fs) := by
  have hgiven : (fs.map fun p => (text p.1, ofJson p.2)).mapM
      (fun p : Node × Node => do return (← p.1.text?, p.2)) = some (written fs) := by
    rw [List.mapM_map]
    exact List.mapM_pure
  have hdistinct : distinct names (written fs) = true := by
    refine distinct_of_nodup names ?_
    rwa [written, List.map_map]
  have hguard : (guard (distinct names (written fs) = true) : Option Unit) = some () :=
    if_pos hdistinct
  rw [ofJson, ofFields_eq, fields?, hgiven]
  show (guard (distinct names (written fs) = true) >>= fun _ => some (written fs)) = _
  rw [hguard]
  rfl

theorem lookup_cons_of_ne {A : Type} {k name : String} (h : name ≠ k) (a : A)
    (l : List (String × A)) : ((k, a) :: l).lookup name = l.lookup name := by
  have hne : (name == k) = false := beq_eq_false_iff_ne.2 h
  rw [List.lookup_cons, hne]

section Fields

variable {α : Type} {k name : String} {x : Json} {fs : List (String × Json)}
  {read : Node → Option α} {value : α}

@[simp] theorem required?_written_self :
    (written ((k, x) :: fs)).required? k read = read (ofJson x) := by
  rw [written, List.map_cons, Given.required?, List.lookup_cons_self, Option.bind_some]

@[simp] theorem required?_written_of_ne (h : name ≠ k) :
    (written ((k, x) :: fs)).required? name read = (written fs).required? name read := by
  rw [written, List.map_cons, Given.required?, lookup_cons_of_ne h]
  rfl

@[simp] theorem default?_written_self :
    (written ((k, x) :: fs)).default? k read value = read (ofJson x) := by
  rw [written, List.map_cons, Given.default?, List.lookup_cons_self]

@[simp] theorem default?_written_of_ne (h : name ≠ k) :
    (written ((k, x) :: fs)).default? name read value = (written fs).default? name read value := by
  rw [written, List.map_cons, Given.default?, lookup_cons_of_ne h]
  rfl

end Fields

end Node

/-! ### Readers and writers -/

theorem Json.Exact.noFields {depth : Nat} : Exact (depth + 1) (.record []) :=
  .record (List.forall_mem_nil _)

/-- A record is written field by field. -/
theorem Json.Exact.field {depth : Nat} {k : String} {x : Json} {fs : List (String × Json)}
    (hx : Exact depth x) (h : Exact (depth + 1) (.record fs)) :
    Exact (depth + 1) (.record ((k, x) :: fs)) := by
  cases h with
  | record hfs => exact .record (List.forall_mem_cons.2 ⟨hx, hfs⟩)

/-- Whatever is written is read back, and is a value of at most the given depth whose text can be
read. -/
structure Faithful {α : Type} (depth : Nat) (read : Node → Option α) (write : α → Json) : Prop where
  exact (a : α) : Exact depth (write a)
  read (a : α) : read (Node.ofJson (write a)) = some a

namespace Faithful

variable {α : Type} {depth : Nat} {read : Node → Option α} {write : α → Json}

theorem text : Faithful 0 Node.text? .text where
  exact s := .text s
  read _ := rfl

theorem bool : Faithful 0 Node.bool? .bool where
  exact b := .bool b
  read _ := rfl

/-- All numbers of 64 bits are written and read. -/
theorem word : Faithful 0 Node.word? Json.word where
  exact n := by
    have hn := n.toNat_lt
    exact .integer (by omega)
  read n := by
    have hn : n.toNat < 0x10000000000000000 := n.toNat_lt
    have hread : Node.word? (.integer n.toNat) =
        ((some n.toNat).filter fun v => v < 0x10000000000000000).map Nat.toUInt64 := rfl
    rw [Json.word, Node.ofJson, hread, Option.filter_some, if_pos (decide_eq_true hn)]
    simp

/-- A reader reads in a list what it reads alone, in the order of the list. -/
theorem list (h : Faithful depth read write) :
    Faithful (depth + 1) (Node.list? read) fun l => .list (l.map write) where
  exact l := by
    refine .list fun x hx => ?_
    obtain ⟨a, -, rfl⟩ := List.mem_map.1 hx
    exact h.exact a
  read l := by
    have hitem : (read ∘ Node.ofJson) ∘ write = pure := funext h.read
    rw [Node.ofJson, Node.ofItems_eq, Node.list?, List.mapM_map, List.mapM_map, hitem]
    exact (List.mapM_pure (f := id)).trans (congrArg some (List.map_id l))

/-- A value that may be absent is read back if no value is written as absent. -/
theorem optional (h : Faithful depth read write) (hnull : ∀ a, write a ≠ .null) :
    Faithful depth (Node.optional? read) (Json.optional write) where
  exact
    | none => .null
    | some a => h.exact a
  read
    | none => rfl
    | some a => by
      have hread := h.read a
      have hne := hnull a
      show Node.optional? read (Node.ofJson (write a)) = some (some a)
      cases hwrite : write a with
      | null => exact absurd hwrite hne
      | _ =>
        rw [hwrite] at hread
        exact congrArg (Option.map some) hread

theorem set : Faithful 1 Node.set? fun s => Json.texts s.keys where
  exact s := Faithful.text.list.exact s.keys
  read s := by
    have hkeys : Node.list? Node.text? (Node.ofJson (Json.texts s.keys)) = some s.keys :=
      Faithful.text.list.read s.keys
    rw [Node.set?, hkeys, Option.map_some, KeySet.ofList_keys]

theorem dict (h : Faithful depth read write) :
    Faithful (depth + 1) (Node.dict? read) fun d =>
      .record (d.toList.map fun p => (p.1, write p.2)) where
  exact d := by
    refine .record fun p hp => ?_
    obtain ⟨q, -, rfl⟩ := List.mem_map.1 hp
    exact h.exact q.2
  read d := by
    have hpairs : (d.toList.map fun p => (Node.text p.1, Node.ofJson (write p.2))).mapM
        (fun p : Node × Node => do return (← p.1.text?, ← read p.2)) = some d.toList := by
      have hpair (p : String × α) : (do return (← Node.text? (.text p.1),
          ← read (Node.ofJson (write p.2))) : Option (String × α)) = some p := by
        rw [h.read]
        rfl
      rw [List.mapM_map]
      exact (congrArg (List.mapM · d.toList) (funext hpair)).trans
        ((List.mapM_pure (f := id)).trans (congrArg some (List.map_id _)))
    have htree : Node.ofJson (.record (d.toList.map fun p => (p.1, write p.2))) =
        .record (d.toList.map fun p => (.text p.1, Node.ofJson (write p.2))) := by
      rw [Node.ofJson, Node.ofFields_eq, List.map_map]
      rfl
    rw [htree, Node.dict?, hpairs, Option.map_some, Dict.ofList_toList]

/-- What is written is read back from its text. -/
theorem render (h : Faithful depth read write) (hdepth : depth ≤ 127) (a : α) :
    (Format.json.read? (write a).render).bind read = some a := by
  rw [Format.read?, Json.read?_render ((h.exact a).mono hdepth), Option.map_some, Option.bind_some,
    h.read]

end Faithful

/-! ### Catalogs -/

theorem ParamDef.faithful : Faithful 1 ParamDef.ofNode? ParamDef.toJson where
  exact p :=
    .field (.text _) <| .field (.text _) .noFields
  read p := by
    rw [ParamDef.ofNode?, ParamDef.toJson, Node.fields?_ofJson _ _ (by simp)]
    simp [Faithful.text.read]

theorem MemberDef.faithful : Faithful 3 MemberDef.ofNode? MemberDef.toJson where
  exact m :=
    .field (.text _) <| .field (ParamDef.faithful.list.exact m.params) <| .field (.text _) <|
    .field (.bool _) <| .field (.bool _) .noFields
  read m := by
    rw [MemberDef.ofNode?, MemberDef.toJson, Node.fields?_ofJson _ _ (by simp)]
    simp [Faithful.text.read, Faithful.bool.read, ParamDef.faithful.list.read]

theorem ClassDef.faithful : Faithful 5 ClassDef.ofNode? ClassDef.toJson where
  exact c :=
    .field (.text _) <| .field (MemberDef.faithful.list.exact c.members) .noFields
  read c := by
    rw [ClassDef.ofNode?, ClassDef.toJson, Node.fields?_ofJson _ _ (by simp)]
    simp [Faithful.text.read, MemberDef.faithful.list.read]

/-- A catalog is read back with its classes, members and parameters in their order. -/
theorem Catalog.faithful : Faithful 7 Catalog.ofNode? Catalog.toJson where
  exact c :=
    .field (ClassDef.faithful.list.exact c.classes) .noFields
  read c := by
    rw [Catalog.ofNode?, Catalog.toJson, Node.fields?_ofJson _ _ (by simp)]
    simp [ClassDef.faithful.list.read]

/-! ### Configurations -/

theorem Path.faithful : Faithful 0 Path.ofNode? fun p => .text p.text where
  exact p := .text p.text
  read _ := rfl

theorem OutputDirs.faithful : Faithful 1 OutputDirs.ofNode? OutputDirs.toJson where
  exact o := by
    have hdir := (Path.faithful.optional nofun).exact
    exact .field (hdir o.schema) <| .field (hdir o.contract) <| .field (hdir o.implementation) <|
      .field (hdir o.loader) .noFields
  read o := by
    have hdir := (Path.faithful.optional nofun).read
    rw [OutputDirs.ofNode?, OutputDirs.toJson, Node.fields?_ofJson _ _ (by simp)]
    simp [hdir]

theorem ModulePaths.faithful : Faithful 1 ModulePaths.ofNode? ModulePaths.toJson where
  exact m :=
    .field (.text _) <| .field (.text _) <| .field (.text _) <| .field (.text _) <|
    .field (.text _) <| .field (.text _) .noFields
  read m := by
    rw [ModulePaths.ofNode?, ModulePaths.toJson, Node.fields?_ofJson _ _ (by simp)]
    simp [Faithful.text.read]

theorem LoaderOptions.faithful : Faithful 1 LoaderOptions.ofNode? LoaderOptions.toJson where
  exact o := by
    have hword := Faithful.word.exact
    exact .field (hword o.maxBatchSize) <| .field (hword o.cacheTtl) <|
      .field (hword o.cacheMaxSize) .noFields
  read o := by
    rw [LoaderOptions.ofNode?, LoaderOptions.toJson, Node.fields?_ofJson _ _ (by simp)]
    simp [Faithful.word.read]

theorem OverwritePolicy.faithful : Faithful 1 OverwritePolicy.ofNode? OverwritePolicy.toJson where
  exact p :=
    .field (.bool _) <| .field (.bool _) <| .field (.bool _) <| .field (.bool _) .noFields
  read p := by
    rw [OverwritePolicy.ofNode?, OverwritePolicy.toJson, Node.fields?_ofJson _ _ (by simp)]
    simp [Faithful.bool.read]

theorem MethodOverrides.faithful : Faithful 1 MethodOverrides.ofNode? MethodOverrides.toJson where
  exact m := by
    have hname := (Faithful.text.optional nofun).exact
    exact .field (hname m.create) <| .field (hname m.readOne) <| .field (hname m.readAll) <|
      .field (hname m.update) <| .field (hname m.delete) .noFields
  read m := by
    have hname := (Faithful.text.optional nofun).read
    rw [MethodOverrides.ofNode?, MethodOverrides.toJson, Node.fields?_ofJson _ _ (by simp)]
    simp [hname]

theorem EntityConfig.faithful : Faithful 2 EntityConfig.ofNode? EntityConfig.toJson where
  exact c :=
    .field (.text _) <| .field (Faithful.set.exact c.ignoredFields) <|
    .field (MethodOverrides.faithful.exact c.methods) <|
    .field (Faithful.text.dict.exact c.operationNames) <|
    .field (OverwritePolicy.faithful.exact c.overwrite) .noFields
  read c := by
    rw [EntityConfig.ofNode?, EntityConfig.toJson, Node.fields?_ofJson _ _ (by simp)]
    simp [Faithful.text.read, Faithful.set.read, MethodOverrides.faithful.read,
      Faithful.text.dict.read, OverwritePolicy.faithful.read]

/-- A configuration is read back. -/
theorem GeneratorConfig.faithful : Faithful 4 GeneratorConfig.ofNode? GeneratorConfig.toJson where
  exact c := by
    have hle : 1 ≤ 3 := by decide
    exact .field (.text _) <| .field ((OutputDirs.faithful.exact c.output).mono hle) <|
      .field ((ModulePaths.faithful.exact c.modules).mono hle) <|
      .field ((LoaderOptions.faithful.exact c.loader).mono hle) <|
      .field (EntityConfig.faithful.dict.exact c.entities) .noFields
  read c := by
    rw [GeneratorConfig.ofNode?, GeneratorConfig.toJson, Node.fields?_ofJson _ _ (by simp)]
    simp [Path.faithful.read, OutputDirs.faithful.read, ModulePaths.faithful.read,
      LoaderOptions.faithful.read, EntityConfig.faithful.dict.read]

end GraphLayer
