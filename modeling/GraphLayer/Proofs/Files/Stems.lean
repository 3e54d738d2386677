import GraphLayer.Files.Tree
import GraphLayer.Proofs.Files.Joined

/-!
# The beginnings of a path

* `Path.CutAt`, a reversed spelling whose end has been cut off at a separator;
* `Path.IsStem`, a path that another one begins with, and `IsStem.pieces`: its pieces are those at
  the beginning of the other one;
* `Path.isStem_of_parent?` and `FileTree.isStem_of_mem_ancestors`: what a path lies in is a stem
  of it.
-/

namespace GraphLayer

namespace Path

/-! ### Cutting off the end of a spelling -/

/-- The second list is what is left of the first one, a reversed spelling, after its end has been
cut off at a separator. -/
def CutAt (r stem : List Char) : Prop :=
  ∃ cut, r = cut ++ stem ∧
    (cut = [] ∨ cut.getLast? = some '/' ∨ stem.head? = some '/' ∨ stem = [])

theorem CutAt.refl (r : List Char) : CutAt r r := ⟨[], rfl, .inl rfl⟩

theorem CutAt.trans {r s u : List Char} (hr : CutAt r s) (hs : CutAt s u) : CutAt r u := by
  obtain ⟨c, rfl, hc⟩ := hr
  obtain ⟨d, rfl, hd⟩ := hs
  refine ⟨c ++ d, (List.append_assoc c d u).symm, ?_⟩
  cases d with
  | nil => simpa using hc
  | cons x d =>
    rcases hd with hd | hd
    · cases hd
    · refine .inr (hd.imp_left fun hlast => ?_)
      rw [List.getLast?_append, hlast]
      rfl

theorem cutAt_dropWhile_name (r : List Char) : CutAt r (r.dropWhile fun c => c ≠ '/') := by
  refine ⟨r.takeWhile fun c => c ≠ '/', List.takeWhile_append_dropWhile.symm, ?_⟩
  have hhead := List.head?_dropWhile_not (fun c => decide (c ≠ '/')) r
  cases hr : r.dropWhile fun c => c ≠ '/' with
  | nil => exact .inr (.inr (.inr rfl))
  | cons c s =>
    rw [hr] at hhead
    exact .inr (.inr (.inl (by simpa using hhead)))

theorem cutAt_dropWhile_separators (r : List Char) : CutAt r (r.dropWhile (· == '/')) := by
  induction r with
  | nil => exact .refl []
  | cons c r ih =>
    rw [List.dropWhile_cons]
    split
    · next hc =>
      have hone : CutAt (c :: r) r := ⟨[c], rfl, .inr (.inl (by simpa using hc))⟩
      exact hone.trans ih
    · exact .refl _

theorem cutAt_trimEnd (keep : Nat) (r : List Char) : CutAt r (trimEnd keep r) := by
  induction r with
  | nil => exact .refl []
  | cons c r ih =>
    unfold trimEnd
    split
    · exact .refl _
    · split
      · next hc =>
        have hone : CutAt (c :: r) r := ⟨[c], rfl, .inr (.inl (by rw [hc]; rfl))⟩
        exact hone.trans ih
      · split
        · next hdot =>
          have hone : CutAt (c :: r) r := ⟨[c], rfl, .inr (.inr (.inl hdot.2))⟩
          exact hone.trans ih
        · exact .refl _

/-! ### Stems -/

/-- The second path begins with the first one, which has a spelling of its own. -/
structure IsStem (q p : Path) : Prop where
  ne : q.text ≠ ""
  cut : CutAt p.text.toList.reverse q.text.toList.reverse

theorem IsStem.refl {p : Path} (h : p.text ≠ "") : IsStem p p := ⟨h, .refl _⟩

theorem IsStem.trans {p q s : Path} (hq : IsStem q p) (hs : IsStem s q) : IsStem s p :=
  ⟨hs.ne, hq.cut.trans hs.cut⟩

theorem IsStem.toList_ne {p q : Path} (h : IsStem q p) : q.text.toList ≠ [] :=
  fun hnil => h.ne (String.ext hnil)

/-- What a path lies in is a stem of it. -/
theorem isStem_of_parent? {p q : Path} (h : p.parent? = some q) (hq : q.text ≠ "") :
    IsStem q p := by
  refine ⟨hq, ?_⟩
  unfold parent? at h
  split at h
  · cases h
  · cases h
  · cases h
    exact absurd rfl hq
  · cases h
    rw [String.toList_ofList, List.reverse_reverse]
    exact ((cutAt_trimEnd _ _).trans (cutAt_dropWhile_name _)).trans (cutAt_trimEnd _ _)

/-- The rest of a path after a stem: a separator stands between them. -/
theorem IsStem.exists_rest {p q : Path} (h : IsStem q p) :
    ∃ rest, p.text.toList = q.text.toList ++ rest ∧
      (rest = [] ∨ rest.head? = some '/' ∨ q.text.toList.getLast? = some '/') := by
  obtain ⟨cut, heq, hcut⟩ := h.cut
  refine ⟨cut.reverse, ?_, ?_⟩
  · have hrev := congrArg List.reverse heq
    simpa using hrev
  · rw [List.head?_reverse, List.reverse_eq_nil_iff, ← List.head?_reverse (l := q.text.toList)]
    rcases hcut with hcut | hcut | hcut | hcut
    · exact .inl hcut
    · exact .inr (.inl hcut)
    · exact .inr (.inr hcut)
    · exact absurd (List.reverse_eq_nil_iff.1 hcut) h.toList_ne

theorem IsStem.isAbsolute_eq {p q : Path} (h : IsStem q p) : q.isAbsolute = p.isAbsolute := by
  obtain ⟨rest, hrest, -⟩ := h.exists_rest
  obtain ⟨c, cs, hcs⟩ := List.exists_cons_of_ne_nil h.toList_ne
  rw [isAbsolute, isAbsolute, hrest, hcs]
  rfl

/-- The pieces of a stem are those at the beginning of the path, but for an empty one at its end. -/
theorem IsStem.pieces {p q : Path} (h : IsStem q p) :
    pieces q.text.toList <+: pieces p.text.toList ∨
      ∃ ps, Path.pieces q.text.toList = ps ++ [[]] ∧ ps <+: Path.pieces p.text.toList := by
  obtain ⟨rest, hrest, hsep⟩ := h.exists_rest
  rw [hrest]
  rcases hsep with rfl | hsep | hsep
  · rw [List.append_nil]
    exact .inl (List.prefix_refl _)
  · obtain ⟨ds, rfl⟩ := List.head?_eq_some_iff.1 hsep
    rw [pieces_append_separator]
    exact .inl (List.prefix_append _ _)
  · obtain ⟨cs, hcs⟩ := List.getLast?_eq_some_iff.1 hsep
    refine .inr ⟨Path.pieces cs, ?_, ?_⟩
    · rw [hcs]
      exact pieces_append_separator cs []
    · rw [hcs, List.append_assoc, List.singleton_append, pieces_append_separator]
      exact List.prefix_append _ _

end Path

namespace FileTree

open GraphLayer.Path (IsStem isStem_of_parent?)

theorem isStem_bare {p : Path} (h : p.text ≠ "") : IsStem (bare p) p := by
  unfold bare
  split
  · exact .refl h
  · next hr =>
    refine ⟨fun hempty => ?_, ?_⟩
    · have hnil := congrArg String.toList hempty
      rw [String.toList_ofList] at hnil
      exact hr (List.reverse_eq_nil_iff.1 hnil)
    · rw [String.toList_ofList, List.reverse_reverse]
      exact Path.cutAt_dropWhile_separators _

/-- A path and what it lies in are stems of it. -/
theorem isStem_of_mem_ancestors {count : Nat} {p q : Path} (h : q ∈ ancestors count p) :
    IsStem q p := by
  induction count generalizing p with
  | zero => cases h
  | succ count ih =>
    unfold ancestors at h
    split at h
    · cases h
    · next hne =>
      have hp : p.text ≠ "" := fun he => hne (by rw [he]; rfl)
      split at h
      · obtain rfl := List.mem_singleton.1 h
        exact .refl hp
      · next d hd =>
        rcases List.mem_cons.1 h with rfl | h
        · exact .refl hp
        · have hstem := ih h
          by_cases hempty : d.text = ""
          · -- nothing lies in a path without a spelling
            cases count with
            | zero => cases h
            | succ count => simp [ancestors, hempty] at h
          · exact (isStem_of_parent? hd hempty).trans hstem

end FileTree

end GraphLayer
