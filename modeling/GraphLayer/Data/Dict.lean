/-!
# Ordered dictionaries

A finite map kept as a list of pairs in strictly ascending order of its keys, so that two
dictionaries are equal exactly when they hold the same pairs.

* `Dict K V`, with `Dict.find?`, `Dict.upsert`, `Dict.insert`, `Dict.erase`, `Dict.filter`,
  `Dict.ofList`;
* `KeySet K`, the dictionaries that hold nothing but their keys.

The order of the keys is the one of `Ord K`; for strings it is the order of code points.
-/

namespace GraphLayer

/-- The list is strictly ascending. -/
def Ascending {K : Type} [Ord K] (l : List K) : Prop :=
  l.Pairwise fun a b => compare a b = .lt

instance {K : Type} [Ord K] (l : List K) : Decidable (Ascending l) :=
  inferInstanceAs (Decidable (l.Pairwise _))

namespace Ascending

variable {K V : Type} [Ord K]

/-- Put `f none` under a new key, or replace the value `v` of a present key by `f (some v)`.
A present key keeps its place and its spelling. -/
def upsert (k : K) (f : Option V → V) : List (K × V) → List (K × V)
  | [] => [(k, f none)]
  | p :: r =>
    match compare k p.1 with
    | .lt => (k, f none) :: p :: r
    | .eq => (p.1, f (some p.2)) :: r
    | .gt => p :: upsert k f r

/-- Take the key out, if it is present. -/
def erase (k : K) : List (K × V) → List (K × V)
  | [] => []
  | p :: r => if compare k p.1 = .eq then r else p :: erase k r

/-- The value under a key. -/
def find? (k : K) : List (K × V) → Option V
  | [] => none
  | p :: r => if compare k p.1 = .eq then some p.2 else find? k r

theorem mem_keys_upsert {k : K} {f : Option V → V} {l : List (K × V)} {a : K}
    (h : a ∈ (upsert k f l).map Prod.fst) : a = k ∨ a ∈ l.map Prod.fst := by
  induction l with
  | nil => simpa [upsert] using h
  | cons p r ih =>
    unfold upsert at h
    split at h
    · simpa using h
    · exact .inr (by simpa using h)
    · rcases List.mem_cons.1 h with h | h
      · exact .inr (h ▸ List.mem_cons_self)
      · exact (ih h).imp_right (List.mem_cons_of_mem _)

theorem mem_keys_erase {k : K} {l : List (K × V)} {a : K}
    (h : a ∈ (erase k l).map Prod.fst) : a ∈ l.map Prod.fst := by
  induction l with
  | nil => simp [erase] at h
  | cons p r ih =>
    unfold erase at h
    split at h
    · exact List.mem_cons_of_mem _ h
    · rcases List.mem_cons.1 h with h | h
      · exact h ▸ List.mem_cons_self
      · exact List.mem_cons_of_mem _ (ih h)

theorem ascending_erase (k : K) {l : List (K × V)}
    (h : Ascending (l.map Prod.fst)) : Ascending ((erase k l).map Prod.fst) := by
  induction l with
  | nil => exact h
  | cons p r ih =>
    have hp := List.pairwise_cons.1 h
    unfold erase
    split
    · exact hp.2
    · exact List.pairwise_cons.2 ⟨fun a ha => hp.1 a (mem_keys_erase ha), ih hp.2⟩

variable [Std.TransOrd K]

theorem ascending_upsert (k : K) (f : Option V → V) {l : List (K × V)}
    (h : Ascending (l.map Prod.fst)) : Ascending ((upsert k f l).map Prod.fst) := by
  induction l with
  | nil => simp [upsert, Ascending]
  | cons p r ih =>
    have hp := List.pairwise_cons.1 h
    unfold upsert
    split
    · rename_i hlt
      refine List.pairwise_cons.2 ⟨fun a ha => ?_, h⟩
      rcases List.mem_cons.1 ha with rfl | ha
      · exact hlt
      · exact Std.TransCmp.lt_trans hlt (hp.1 a ha)
    · exact h
    · rename_i hgt
      refine List.pairwise_cons.2 ⟨fun a ha => ?_, ih hp.2⟩
      rcases mem_keys_upsert ha with rfl | ha
      · exact Std.OrientedCmp.gt_iff_lt.1 hgt
      · exact hp.1 a ha

end Ascending

/-- A finite map whose pairs stand in strictly ascending order of their keys. -/
structure Dict (K V : Type) [Ord K] where
  toList : List (K × V) := []
  ascending : Ascending (toList.map Prod.fst) := by exact List.Pairwise.nil

/-- A finite set, in ascending order. -/
abbrev KeySet (K : Type) [Ord K] := Dict K Unit

namespace Dict

variable {K V : Type} [Ord K]

instance [DecidableEq K] [DecidableEq V] : DecidableEq (Dict K V)
  | ⟨a, _⟩, ⟨b, _⟩ =>
    if h : a = b then isTrue (by subst h; rfl) else isFalse (fun e => h (congrArg Dict.toList e))

@[ext] theorem ext {a b : Dict K V} (h : a.toList = b.toList) : a = b := by
  cases a; cases b; cases h; rfl

/-- The dictionary without keys. -/
def empty : Dict K V := {}

@[simp] theorem toList_empty : (empty : Dict K V).toList = [] := rfl

instance : Inhabited (Dict K V) := ⟨empty⟩

/-- The value under a key. -/
def find? (d : Dict K V) (k : K) : Option V := Ascending.find? k d.toList

/-- Whether the key is present. -/
def contains (d : Dict K V) (k : K) : Bool := (d.find? k).isSome

/-- The keys in ascending order. -/
def keys (d : Dict K V) : List K := d.toList.map Prod.fst

/-- The number of keys. -/
def size (d : Dict K V) : Nat := d.toList.length

/-- Whether there is no key. -/
def isEmpty (d : Dict K V) : Bool := d.toList.isEmpty

/-- Take a key out. -/
def erase (d : Dict K V) (k : K) : Dict K V :=
  ⟨Ascending.erase k d.toList, Ascending.ascending_erase k d.ascending⟩

/-- Put `f none` under a new key, or replace the value `v` of a present key by `f (some v)`. -/
def upsert [Std.TransOrd K] (d : Dict K V) (k : K) (f : Option V → V) : Dict K V :=
  ⟨Ascending.upsert k f d.toList, Ascending.ascending_upsert k f d.ascending⟩

/-- Put a value under a key, in place of the one that was there. -/
def insert [Std.TransOrd K] (d : Dict K V) (k : K) (v : V) : Dict K V :=
  d.upsert k fun _ => v

/-- The dictionary of a list of pairs; of several values under one key the last is kept. -/
def ofList [Std.TransOrd K] (l : List (K × V)) : Dict K V :=
  l.foldl (fun d p => d.insert p.1 p.2) empty

/-- The pairs that pass a test. -/
def filter (keep : K × V → Bool) (d : Dict K V) : Dict K V :=
  ⟨d.toList.filter keep, d.ascending.sublist (List.filter_sublist.map Prod.fst)⟩

end Dict

namespace KeySet

variable {K : Type} [Ord K] [Std.TransOrd K]

/-- The set of the members of a list. -/
def ofList (l : List K) : KeySet K := Dict.ofList (l.map fun k => (k, ()))

end KeySet

end GraphLayer
