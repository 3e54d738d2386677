import Mathlib.Data.List.Infix
import GraphLayer.Proofs.Data.Ascending
import GraphLayer.Proofs.Data.Except
import GraphLayer.Proofs.Files.Stems

/-!
# How a tree of files grows

* `FileTree.place`, the location that a path names, and `FileTree.way`, the locations that it passes
  through;
* `FileTree.Grows`, which keeps all directories: a path that leads to a location leads there ever
  after (`FileTree.locate_of_grows`);
* `FileTree.Reaches`, a path that leads to whatever stands at its place;
* `FileTree.Builds`, which only adds directories: `FileTree.builds_createDirs`, making a directory
  and those above it adds directories on the way to it;
* `FileTree.exists_of_write?`, what it takes to write a file.
-/

namespace GraphLayer.FileTree

variable {t s u : FileTree} {p : Path} {l : Location}

/-! ### Places and ways -/

/-- The location after one more piece of a path, where it passes through directories only. -/
def follow (l : Location) (piece : List Char) : Location :=
  if piece = [] ∨ piece = ['.'] then l
  else if piece = ['.', '.'] then l.dropLast
  else l ++ [String.ofList piece]

/-- Where a path starts. -/
def start (t : FileTree) (p : Path) : Location := if p.isAbsolute then [] else t.home

/-- The location that a path names, whether it leads there or not. -/
def place (t : FileTree) (p : Path) : Location :=
  (Path.pieces p.text.toList).foldl follow (t.start p)

/-- The locations that a path passes through, up to its place. -/
def way (t : FileTree) (p : Path) : List Location :=
  (Path.pieces p.text.toList).inits.map fun ps => ps.foldl follow (t.start p)

theorem mem_way_iff : l ∈ t.way p ↔
    ∃ ps, ps <+: Path.pieces p.text.toList ∧ ps.foldl follow (t.start p) = l := by
  simp only [way, List.mem_map, List.mem_inits]

/-- The way of a path ends at its place. -/
theorem place_mem_way (t : FileTree) (p : Path) : t.place p ∈ t.way p :=
  mem_way_iff.2 ⟨_, List.prefix_refl _, rfl⟩

theorem place_congr (h : s.home = t.home) (p : Path) : s.place p = t.place p := by
  rw [place, place, start, start, h]

theorem way_congr (h : s.home = t.home) (p : Path) : s.way p = t.way p := by
  rw [way, way, start, start, h]

/-- A stem of a path has a part of its way. -/
theorem way_subset_of_isStem {q : Path} (h : Path.IsStem q p) : t.way q ⊆ t.way p := by
  intro l hl
  have hstart : t.start q = t.start p := by rw [start, start, h.isAbsolute_eq]
  obtain ⟨ps, hps, rfl⟩ := mem_way_iff.1 hl
  rw [hstart]
  rcases h.pieces with hq | ⟨qs, hq, hqs⟩
  · exact mem_way_iff.2 ⟨ps, hps.trans hq, rfl⟩
  · rw [hq] at hps
    rcases List.prefix_concat_iff.1 hps with rfl | hps
    · -- an empty piece does not lead on
      refine mem_way_iff.2 ⟨qs, hqs, ?_⟩
      rw [List.foldl_append, List.foldl_cons, List.foldl_nil, follow, if_pos (.inl rfl)]
    · exact mem_way_iff.2 ⟨ps, hps.trans hqs, rfl⟩

/-! ### Entries and files -/

/-- The bytes of the file at a location. -/
def file? (t : FileTree) (l : Location) : Option ByteArray :=
  match t.entry? l with
  | some (.file bytes) => some bytes
  | _ => none

theorem file?_eq_some_iff {bytes : ByteArray} :
    t.file? l = some bytes ↔ t.entry? l = some (.file bytes) := by
  unfold file?
  split
  · next h => rw [h, Option.some.injEq, Option.some.injEq, Entry.file.injEq]
  · next h => exact iff_of_false nofun fun he => h _ he

theorem isDirAt_iff : t.isDirAt l = true ↔ t.entry? l = some .directory := by
  unfold isDirAt
  exact beq_iff_eq

theorem entry?_set {e : Entry} (hl : l ≠ []) (k : Location) :
    entry? (t.set l e) k = if k = l then some e else t.entry? k := by
  unfold entry? set
  by_cases hk : k = []
  · rw [if_pos hk, if_pos hk, if_neg (hk ▸ Ne.symm hl)]
  · rw [if_neg hk, if_neg hk, Dict.find?_insert]

/-! ### Growing -/

/-- The second tree has all directories of the first one. -/
structure Grows (t s : FileTree) : Prop where
  home : s.home = t.home
  directory : ∀ l, t.entry? l = some .directory → s.entry? l = some .directory

theorem Grows.refl (t : FileTree) : Grows t t := ⟨rfl, fun _ h => h⟩

theorem Grows.trans (ht : Grows t s) (hs : Grows s u) : Grows t u :=
  ⟨hs.home.trans ht.home, fun l h => hs.directory l (ht.directory l h)⟩

theorem ne_nil_of_ne_directory (h : t.entry? l ≠ some .directory) : l ≠ [] := by
  rintro rfl
  exact h rfl

/-- A file in place of no directory. -/
theorem Grows.set (h : t.entry? l ≠ some .directory) (e : Entry) : Grows t (t.set l e) := by
  refine ⟨rfl, fun k hk => ?_⟩
  have hkl : k ≠ l := by
    rintro rfl
    exact h hk
  rw [entry?_set (ne_nil_of_ne_directory h), if_neg hkl]
  exact hk

theorem follow_of_enter {piece : List Char} {k : Location} (h : t.enter l piece = .ok k) :
    t.entry? l = some .directory ∧ k = follow l piece := by
  unfold enter at h
  split at h
  · cases h
  · cases h
  · next hdir =>
    refine ⟨hdir, ?_⟩
    unfold follow
    split at h
    · next hp => rw [if_pos hp, Except.ok.inj h]
    · next hp =>
      split at h
      · next hup => rw [if_neg hp, if_pos hup, Except.ok.inj h]
      · next hup =>
        split at h
        · rw [if_neg hp, if_neg hup, Except.ok.inj h]
        · cases h

theorem Grows.enter (h : Grows t s) {piece : List Char} {k : Location}
    (hk : t.enter l piece = .ok k) : s.enter l piece = .ok k := by
  obtain ⟨hdir, -⟩ := follow_of_enter hk
  unfold FileTree.enter at hk ⊢
  rw [hdir] at hk
  rw [h.directory l hdir]
  exact hk

theorem foldl_follow_of_foldlM {ps : List (List Char)} {k : Location}
    (h : ps.foldlM t.enter l = .ok k) : k = ps.foldl follow l := by
  induction ps generalizing l with
  | nil => exact (Except.ok.inj h).symm
  | cons piece ps ih =>
    obtain ⟨m, hm, h⟩ := bind_eq_ok_iff.1 h
    rw [List.foldl_cons, ← (follow_of_enter hm).2]
    exact ih h

theorem Grows.foldlM (h : Grows t s) {ps : List (List Char)} {k : Location}
    (hk : ps.foldlM t.enter l = .ok k) : ps.foldlM s.enter l = .ok k := by
  induction ps generalizing l with
  | nil => exact hk
  | cons piece ps ih =>
    obtain ⟨m, hm, hk⟩ := bind_eq_ok_iff.1 hk
    exact bind_eq_ok_iff.2 ⟨m, h.enter hm, ih hk⟩

/-- A path that leads to a location leads to its place. -/
theorem eq_place_of_locate (h : t.locate p = .ok l) : l = t.place p := by
  unfold locate at h
  split at h
  · cases h
  · split at h
    · cases h
    · exact foldl_follow_of_foldlM h

/-- **A path that leads to a location leads there ever after.** -/
theorem locate_of_grows (h : Grows t s) (hl : t.locate p = .ok l) : s.locate p = .ok l := by
  unfold locate at hl ⊢
  rw [h.home]
  split at hl
  · cases hl
  · next hempty =>
    rw [if_neg hempty]
    split at hl
    · cases hl
    · next hspelling =>
      rw [if_neg hspelling]
      exact h.foldlM hl

/-- What a path leads to stands at its place. -/
theorem lookup?_eq_some_iff {e : Entry} : t.lookup? p = some e ↔
    t.locate p = .ok (t.place p) ∧ t.entry? (t.place p) = some e := by
  unfold lookup?
  split
  · next l hl =>
    obtain rfl := eq_place_of_locate hl
    simp [hl]
  · next hl => simp [hl]

theorem read?_eq_some_iff {bytes : ByteArray} : t.read? p = some bytes ↔
    t.lookup? p = some (.file bytes) := by
  unfold read?
  split
  · next h => rw [h, Option.some.injEq, Option.some.injEq, Entry.file.injEq]
  · next h => exact iff_of_false nofun fun he => h _ he

theorem lookup?_of_grows (h : Grows t s) {e : Entry} (he : t.lookup? p = some e)
    (hentry : s.entry? (t.place p) = some e) : s.lookup? p = some e := by
  have hplace := place_congr h.home p
  rw [lookup?_eq_some_iff, hplace]
  exact ⟨locate_of_grows h (lookup?_eq_some_iff.1 he).1, hentry⟩

/-- The path leads to whatever stands at its place. -/
def Reaches (t : FileTree) (p : Path) : Prop := t.lookup? p = t.entry? (t.place p)

instance : Decidable (t.Reaches p) :=
  inferInstanceAs (Decidable (t.lookup? p = t.entry? (t.place p)))

theorem Reaches.of_grows (h : t.Reaches p) (hs : Grows t s)
    (hentry : s.entry? (t.place p) = t.entry? (t.place p)) : s.Reaches p := by
  unfold Reaches at h ⊢
  rw [place_congr hs.home, hentry, ← h]
  cases he : t.lookup? p with
  | some e => exact lookup?_of_grows hs he (by rw [hentry, ← h, he])
  | none =>
    -- a path that leads to something would find it at its place
    cases hs' : s.lookup? p with
    | none => rfl
    | some e =>
      have hfound := (lookup?_eq_some_iff.1 hs').2
      rw [place_congr hs.home, hentry, ← h, he] at hfound
      cases hfound

/-! ### Building directories -/

/-- The second tree is the first one with directories added at some of the locations, where nothing
stood before. -/
structure Builds (ls : List Location) (t s : FileTree) : Prop where
  home : s.home = t.home
  entry : ∀ l, s.entry? l = t.entry? l ∨
    l ∈ ls ∧ t.entry? l = none ∧ s.entry? l = some .directory

variable {ls ks : List Location}

theorem Builds.refl (ls : List Location) (t : FileTree) : Builds ls t t := ⟨rfl, fun _ => .inl rfl⟩

theorem Builds.mono (h : Builds ls t s) (hsub : ls ⊆ ks) : Builds ks t s :=
  ⟨h.home, fun l => (h.entry l).imp_right fun hl => ⟨hsub hl.1, hl.2⟩⟩

theorem Builds.trans (ht : Builds ls t s) (hs : Builds ls s u) : Builds ls t u := by
  refine ⟨hs.home.trans ht.home, fun l => ?_⟩
  rcases hs.entry l with hu | ⟨hl, hnone, hu⟩
  · rw [hu]
    exact ht.entry l
  · rcases ht.entry l with heq | ⟨-, -, hdir⟩
    · exact .inr ⟨hl, heq ▸ hnone, hu⟩
    · rw [hdir] at hnone
      cases hnone

/-- What stands in a tree stays while directories are added. -/
theorem Builds.entry?_of_isSome (h : Builds ls t s) {e : Entry} (he : t.entry? l = some e) :
    s.entry? l = some e := by
  rcases h.entry l with heq | ⟨-, hnone, -⟩
  · exact heq.trans he
  · rw [hnone] at he
    cases he

theorem builds_createDir (h : t.createDir p = .ok s) : Builds [t.place (bare p)] t s := by
  unfold createDir at h
  split at h
  · next l hl =>
    obtain rfl := eq_place_of_locate hl
    split at h
    · cases h
    · next hnone =>
      have hnone : t.entry? (t.place (bare p)) = none := by simpa using hnone
      have hne : t.place (bare p) ≠ [] := ne_nil_of_ne_directory (by rw [hnone]; nofun)
      obtain rfl := Except.ok.inj h
      refine ⟨rfl, fun l => ?_⟩
      rw [entry?_set hne]
      by_cases hl : l = t.place (bare p)
      · exact .inr ⟨List.mem_singleton.2 hl, hl ▸ hnone, if_pos hl⟩
      · exact .inl (if_neg hl)
  · cases h

/-- Making some directories, each of which lies in the next one, adds directories at their
places. -/
theorem builds_createFirst (t : FileTree) (ps : List Path) :
    Builds (ps.map fun p => t.place (bare p)) t (t.createFirst ps).2 := by
  induction ps with
  | nil => exact .refl _ t
  | cons p ps ih =>
    have hhead : [t.place (bare p)] ⊆ (p :: ps).map fun p => t.place (bare p) := by simp
    have htail := ih.mono (List.subset_cons_self (t.place (bare p)) _)
    unfold createFirst
    split
    · next h => exact (builds_createDir h).mono hhead
    · exact .refl _ t
    · split
      · next s hs =>
        rw [hs] at htail
        exact htail
      · next s hs =>
        rw [hs] at htail
        split
        · next u hu =>
          have hu := builds_createDir hu
          rw [place_congr htail.home] at hu
          exact htail.trans (hu.mono hhead)
        · exact htail

/-- **Making a directory** and those above it adds directories on the way to it. -/
theorem builds_createDirs (t : FileTree) (p : Path) : Builds (t.way p) t (t.createDirs p).2 := by
  refine (builds_createFirst t _).mono fun l hl => ?_
  obtain ⟨q, hq, rfl⟩ := List.mem_map.1 hl
  have hstem := isStem_of_mem_ancestors hq
  exact way_subset_of_isStem ((hstem.trans (isStem_bare hstem.ne))) (place_mem_way t (bare q))

/-! ### Writing -/

/-- A file is written at the place that its path leads to, where no directory stands. -/
theorem exists_of_write? {bytes : ByteArray} (h : t.write? p bytes = some s) :
    t.locate p = .ok (t.place p) ∧ t.entry? (t.place p) ≠ some .directory ∧
      s = t.set (t.place p) (.file bytes) := by
  unfold write? at h
  split at h
  · next l hl =>
    obtain rfl := eq_place_of_locate hl
    split at h
    · cases h
    · next hdir =>
      exact ⟨hl, fun hd => hdir (isDirAt_iff.2 hd), (Option.some.inj h).symm⟩
  · cases h

end GraphLayer.FileTree
