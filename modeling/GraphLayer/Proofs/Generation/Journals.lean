import GraphLayer.Generation.Write
import GraphLayer.Proofs.Files.Growth

/-!
# Offers of artifacts and their effects

* `Offer`, an artifact with the policy under which it is offered, and `Offer.on`, the offer on a
  tree of files;
* `Offer.Effect`, the four ways in which an offer can end, and `Offer.effect_on`: there is no other;
* `Offer.verdict`, what comes of an offer by what stands at the place of its artifact;
* `Journal`, offers with what came of them, and `Journal.Leads`, from the tree before them to the
  tree after them;
* `Journal.Leads.exists_effect_of_nodup`: an offer of a journal with what is before and after it;
* `Journal.Leads.file?_cases`: a file that has changed holds the artifact of one of the offers;
* `Offer.Settled`, an offer that changes nothing, and `Offer.Effect.settled`: an offer that came to
  an end is settled;
* `Journal.Leads.of_settled`: so nothing changes if all offers are settled.

What a run does to files is proved effect by effect, so that offers are opened only here.
-/

namespace GraphLayer.Generation

open FileTree (Builds Grows)

/-! ### Computations on a tree -/

section Computations

variable {A B : Type} (t : FileTree) (p : Path)

theorem run_bind_tree (x : StateM FileTree A) (f : A → StateM FileTree B) :
    (x >>= f).run t = (f (x.run t).1).run (x.run t).2 := rfl

theorem run_present :
    (FileStore.present p : StateM FileTree Bool).run t = ((t.lookup? p).isSome, t) := rfl

theorem run_read :
    (FileStore.read p : StateM FileTree (Option ByteArray)).run t = (t.read? p, t) := rfl

theorem run_writeText (text : String) :
    (FileStore.writeText p text : StateM FileTree Bool).run t =
      match t.write? p text.toUTF8 with
      | some s => (true, s)
      | none => (false, t) := rfl

/-- Making the directory of a path adds directories on the way of the path. -/
theorem builds_createParent :
    Builds (t.way p) t ((createParent p : StateM FileTree Bool).run t).2 := by
  unfold createParent
  split
  · exact .refl _ t
  · next d hd =>
    split
    · exact .refl _ t
    · next hempty =>
      have hstem := Path.isStem_of_parent? hd fun he => hempty (by rw [he]; rfl)
      exact (FileTree.builds_createDirs t d).mono (FileTree.way_subset_of_isStem hstem)

end Computations

/-! ### Offers -/

/-- An artifact with the policy under which it is offered. -/
structure Offer where
  policy : OverwritePolicy
  artifact : Artifact

namespace Offer

/-- The path of the artifact. -/
abbrev path (o : Offer) : Path := o.artifact.path

/-- The bytes of the artifact. -/
def bytes (o : Offer) : ByteArray := o.artifact.contents.toUTF8

/-- Whether a file that is there has to stay. -/
def isProtected (o : Offer) : Bool :=
  !o.artifact.aggregate && !o.policy.allows o.artifact.category

/-- Make the offer on a tree: what comes of it, and the tree after it. -/
def on (o : Offer) (t : FileTree) : Except GenerationError WriteOutcome × FileTree :=
  (offer o.policy o.artifact : StateM FileTree (Except GenerationError WriteOutcome)).run t

/-- What an offer on a tree can come to. -/
inductive Effect (o : Offer) (t : FileTree) :
    Except GenerationError WriteOutcome → FileTree → Prop
  /-- What is there stays. -/
  | skipped {e : Entry} (hp : o.isProtected = true) (he : t.lookup? o.path = some e) :
    Effect o t (.ok .skipped) t
  /-- The file that is there is the artifact. -/
  | unchanged (hp : o.isProtected = false) (he : t.lookup? o.path = some (.file o.bytes)) :
    Effect o t (.ok .unchanged) t
  /-- The artifact is written, after the directories above it have been made. -/
  | written {s : FileTree} (hp : o.isProtected = true → t.lookup? o.path = none)
    (he : t.lookup? o.path ≠ some (.file o.bytes)) (hs : Builds (t.way o.path) t s)
    (hl : s.locate o.path = .ok (t.place o.path))
    (hd : s.entry? (t.place o.path) ≠ some .directory) :
    Effect o t (.ok .written) (s.set (t.place o.path) (.file o.bytes))
  /-- Nothing has been done but to make directories. -/
  | failed {s : FileTree} (hp : o.isProtected = true → t.lookup? o.path = none)
    (he : t.lookup? o.path ≠ some (.file o.bytes)) (hs : Builds (t.way o.path) t s) :
    Effect o t (.error (.io o.path)) s

variable {o : Offer} {t s u : FileTree} {res : Except GenerationError WriteOutcome}

theorem effect_put (hp : o.isProtected = true → t.lookup? o.path = none)
    (he : t.lookup? o.path ≠ some (.file o.bytes))
    (h : (put o.artifact : StateM FileTree _).run t = (res, s)) : Effect o t res s := by
  have hbuilds := builds_createParent t o.artifact.path
  unfold put at h
  rw [run_bind_tree] at h
  generalize (createParent o.artifact.path : StateM FileTree Bool).run t = made at h hbuilds
  obtain ⟨made, v⟩ := made
  cases made with
  | false =>
    obtain ⟨rfl, rfl⟩ := Prod.mk.inj h
    exact .failed hp he hbuilds
  | true =>
    simp only [if_true] at h
    rw [run_bind_tree, run_writeText] at h
    cases hw : v.write? o.artifact.path o.artifact.contents.toUTF8 with
    | none =>
      simp only [hw] at h
      obtain ⟨rfl, rfl⟩ := Prod.mk.inj h
      exact .failed hp he hbuilds
    | some w =>
      simp only [hw] at h
      obtain ⟨rfl, rfl⟩ := Prod.mk.inj h
      obtain ⟨hl, hd, rfl⟩ := FileTree.exists_of_write? hw
      rw [FileTree.place_congr hbuilds.home] at hl hd ⊢
      exact .written hp he hbuilds hl hd

/-- **Every offer has one of the effects.** -/
theorem effect_on (h : o.on t = (res, s)) : Effect o t res s := by
  unfold on offer at h
  rw [run_bind_tree, run_present] at h
  cases he : t.lookup? o.path with
  | none =>
    have hlookup : t.lookup? o.artifact.path = none := he
    rw [hlookup] at h
    exact effect_put (fun _ => he) (by rw [he]; nofun) h
  | some e =>
    have hlookup : t.lookup? o.artifact.path = some e := he
    simp only [hlookup, Option.isSome_some, if_true] at h
    split at h
    · next hp =>
      obtain ⟨rfl, rfl⟩ := Prod.mk.inj h
      exact .skipped hp he
    · next hp =>
      have hp : o.isProtected = false := Bool.eq_false_iff.2 hp
      rw [run_bind_tree, run_read] at h
      simp only [FileTree.read?, hlookup] at h
      cases e with
      | directory =>
        obtain ⟨rfl, rfl⟩ := Prod.mk.inj h
        refine .failed (fun h => ?_) (by rw [he]; nofun) (.refl _ t)
        rw [hp] at h
        cases h
      | file bytes =>
        dsimp only at h
        split at h
        · next hbytes =>
          obtain ⟨rfl, rfl⟩ := Prod.mk.inj h
          have hbytes : bytes = o.bytes := ByteArray.ext hbytes
          exact .unchanged hp (by rw [he, hbytes])
        · next hbytes =>
          refine effect_put (fun h => ?_) (fun h => ?_) h
          · rw [hp] at h
            cases h
          · rw [he] at h
            exact hbytes (congrArg ByteArray.data (Entry.file.inj (Option.some.inj h)))

namespace Effect

/-- **What an effect changes.**  At every location there is what was there, a new directory on the
way of the artifact, or the artifact that has been written. -/
theorem entry?_cases (h : Effect o t res s) (l : Location) : s.entry? l = t.entry? l ∨
    (l ∈ t.way o.path ∧ t.entry? l = none ∧ s.entry? l = some .directory) ∨
    (l = t.place o.path ∧ res = .ok .written ∧ t.entry? l ≠ some .directory ∧
      s.entry? l = some (.file o.bytes)) := by
  cases h with
  | skipped => exact .inl rfl
  | unchanged => exact .inl rfl
  | @written s hp he hs hl hd =>
    rw [FileTree.entry?_set (FileTree.ne_nil_of_ne_directory hd)]
    by_cases hl : l = t.place o.path
    · refine .inr (.inr ⟨hl, rfl, fun hdir => hd ?_, if_pos hl⟩)
      rw [← hl]
      exact hs.entry?_of_isSome hdir
    · rw [if_neg hl]
      exact (hs.entry l).imp_right .inl
  | failed _ _ hs => exact (hs.entry l).imp_right .inl

theorem home (h : Effect o t res s) : s.home = t.home := by
  cases h with
  | skipped => rfl
  | unchanged => rfl
  | written _ _ hs => exact hs.home
  | failed _ _ hs => exact hs.home

theorem grows (h : Effect o t res s) : Grows t s := by
  refine ⟨h.home, fun l hl => ?_⟩
  rcases h.entry?_cases l with heq | ⟨-, hnone, -⟩ | ⟨-, -, hne, -⟩
  · exact heq.trans hl
  · rw [hnone] at hl
    cases hl
  · exact absurd hl hne

/-- Where an artifact is in the end there has been no directory. -/
theorem entry?_ne_directory {w : WriteOutcome} (h : Effect o t (.ok w) s) (hw : w ≠ .skipped) :
    t.entry? (t.place o.path) ≠ some .directory := by
  intro hdir
  cases h with
  | skipped => exact hw rfl
  | unchanged _ he =>
    rw [(FileTree.lookup?_eq_some_iff.1 he).2] at hdir
    cases hdir
  | written _ _ hs _ hd => exact hd (hs.entry?_of_isSome hdir)

/-- An offer that fails tells the path of its artifact. -/
theorem eq_io {e : GenerationError} (h : Effect o t (.error e) s) : e = .io o.path := by
  cases h
  rfl

end Effect

/-! ### Settled offers -/

/-- Unless something else has to stay, the artifact is there in the end. -/
theorem Effect.lookup?_of_ok {w : WriteOutcome} (h : Effect o t (.ok w) s) (hw : w ≠ .skipped) :
    s.lookup? o.path = some (.file o.bytes) := by
  cases h with
  | skipped => exact absurd rfl hw
  | unchanged _ he => exact he
  | @written v _ _ hs hl hd =>
    have hset : Grows v (v.set (t.place o.path) (.file o.bytes)) := .set hd _
    rw [FileTree.lookup?_eq_some_iff, FileTree.place_congr (hset.home.trans hs.home)]
    refine ⟨FileTree.locate_of_grows hset hl, ?_⟩
    rw [FileTree.entry?_set (FileTree.ne_nil_of_ne_directory hd), if_pos rfl]

/-- There is nothing to do for the offer: something that has to stay is there, or the artifact. -/
def Settled (o : Offer) (t : FileTree) : Prop :=
  if o.isProtected then (t.lookup? o.path).isSome = true
  else t.lookup? o.path = some (.file o.bytes)

/-- **No offer needs to be made twice.** -/
theorem Effect.settled {w : WriteOutcome} (h : Effect o t (.ok w) s) : o.Settled s := by
  unfold Settled
  by_cases hw : w = .skipped
  · subst hw
    cases h with
    | skipped hp he => simp [hp, he]
  · simp [h.lookup?_of_ok hw]

/-- What comes of an offer for which there is nothing to do. -/
def settledOutcome (o : Offer) : WriteOutcome := if o.isProtected then .skipped else .unchanged

theorem Settled.on (h : o.Settled t) : o.on t = (.ok o.settledOutcome, t) := by
  have hbusy : ¬ ((o.isProtected = true → t.lookup? o.path = none) ∧
      t.lookup? o.path ≠ some (.file o.bytes)) := by
    rintro ⟨hp, he⟩
    unfold Settled at h
    split at h
    · next hprotected =>
      rw [hp hprotected] at h
      cases h
    · exact he h
  rcases hon : o.on t with ⟨res, s⟩
  unfold settledOutcome
  cases effect_on hon with
  | skipped hp => rw [if_pos hp]
  | unchanged hp =>
    rw [hp]
    rfl
  | written hp he => exact absurd ⟨hp, he⟩ hbusy
  | failed hp he => exact absurd ⟨hp, he⟩ hbusy

/-! ### Verdicts -/

/-- What comes of an offer by what stands at the place of its artifact. -/
def verdict (o : Offer) : Option Entry → WriteOutcome
  | none => .written
  | some e =>
    if o.isProtected then .skipped
    else if e = .file o.bytes then .unchanged
    else .written

theorem verdict_of_isProtected {e? : Option Entry} (hp : o.isProtected = true)
    (he : e?.isSome = true) : o.verdict e? = .skipped := by
  obtain ⟨e, rfl⟩ := Option.isSome_iff_exists.1 he
  exact if_pos hp

theorem verdict_of_free {e? : Option Entry} (hfree : o.isProtected = true → e? = none) :
    o.verdict e? = if e? = some (.file o.bytes) then .unchanged else .written := by
  cases e? with
  | none => rfl
  | some e =>
    have hp : o.isProtected = false := Bool.eq_false_iff.2 fun hp => nomatch hfree hp
    simp [verdict, hp]

theorem Effect.eq_verdict {w : WriteOutcome} (h : Effect o t (.ok w) s) :
    w = o.verdict (t.lookup? o.path) := by
  cases h with
  | skipped hp he => rw [verdict_of_isProtected hp (by rw [he]; rfl)]
  | unchanged hp he =>
    rw [verdict_of_free fun hprotected => absurd hprotected (by rw [hp]; nofun), if_pos he]
  | written hp he => rw [verdict_of_free hp, if_neg he]

end Offer

/-! ### Journals -/

/-- Offers with what came of them, in order. -/
abbrev Journal := List (Offer × Except GenerationError WriteOutcome)

namespace Journal

/-- The offers, made one after another, lead from a tree to another one. -/
inductive Leads : FileTree → Journal → FileTree → Prop
  | nil (t : FileTree) : Leads t [] t
  | cons {t s u : FileTree} {o : Offer} {res : Except GenerationError WriteOutcome} {j : Journal}
    (h : o.on t = (res, s)) (hj : Leads s j u) : Leads t ((o, res) :: j) u

namespace Leads

variable {t s u : FileTree} {j k : Journal} {l : Location}

theorem append (h : Leads t j s) (hk : Leads s k u) : Leads t (j ++ k) u := by
  induction h with
  | nil => exact hk
  | cons h _ ih => exact .cons h (ih hk)

theorem grows (h : Leads t j s) : Grows t s := by
  induction h with
  | nil t => exact .refl t
  | cons h _ ih => exact (Offer.effect_on h).grows.trans ih

/-- The tree before an offer of the journal and the one after it. -/
theorem exists_effect_of_mem (h : Leads t j s) {x : Offer × Except GenerationError WriteOutcome}
    (hx : x ∈ j) : ∃ before after t₁ s₁, j = before ++ x :: after ∧ Leads t before t₁ ∧
      x.1.Effect t₁ x.2 s₁ ∧ Leads s₁ after s := by
  induction h with
  | nil => cases hx
  | @cons t t' u o res j ho hj ih =>
    rcases List.mem_cons.1 hx with rfl | hx
    · exact ⟨[], j, t, t', rfl, .nil t, Offer.effect_on ho, hj⟩
    · obtain ⟨before, after, t₁, s₁, rfl, hbefore, heffect, hafter⟩ := ih hx
      exact ⟨(o, res) :: before, after, t₁, s₁, rfl, .cons ho hbefore, heffect, hafter⟩

/-- The same for artifacts that name different files: no other one takes the place of this one. -/
theorem exists_effect_of_nodup (h : Leads t j s)
    (hplaces : (j.map fun x => t.place x.1.path).Nodup)
    {x : Offer × Except GenerationError WriteOutcome} (hx : x ∈ j) :
    ∃ before after t₁ s₁, Leads t before t₁ ∧ x.1.Effect t₁ x.2 s₁ ∧ Leads s₁ after s ∧
      (∀ y ∈ before, y ∈ j ∧ t.place y.1.path ≠ t.place x.1.path) ∧
      ∀ y ∈ after, s₁.place y.1.path ≠ s₁.place x.1.path := by
  obtain ⟨before, after, t₁, s₁, rfl, hbefore, heffect, hafter⟩ := h.exists_effect_of_mem hx
  have hnodup := (List.perm_middle.map _).nodup_iff.1 hplaces
  rw [List.map_cons, List.nodup_cons] at hnodup
  have hothers : ∀ y ∈ before ++ after, t.place y.1.path ≠ t.place x.1.path :=
    fun y hy heq => hnodup.1 (heq ▸ List.mem_map_of_mem hy)
  refine ⟨before, after, t₁, s₁, hbefore, heffect, hafter, fun y hy => ⟨?_, ?_⟩, fun y hy => ?_⟩
  · exact List.mem_append_left _ hy
  · exact hothers y (List.mem_append_left _ hy)
  · have hhome : s₁.home = t.home := heffect.home.trans hbefore.grows.home
    rw [FileTree.place_congr hhome, FileTree.place_congr hhome]
    exact hothers y (List.mem_append_right _ hy)

/-- **A file that has changed** holds the artifact of one of the offers. -/
theorem file?_cases (h : Leads t j s) (l : Location) : s.file? l = t.file? l ∨
    ∃ x ∈ j, x.2 = .ok .written ∧ t.place x.1.path = l ∧ s.file? l = some x.1.bytes := by
  induction h with
  | nil => exact .inl rfl
  | @cons t t' u o res j ho hj ih =>
    have heffect := Offer.effect_on ho
    rcases ih with heq | ⟨x, hx, hwritten, hplace, hfile⟩
    · rw [heq]
      rcases heffect.entry?_cases l with hl | ⟨-, hnone, hdir⟩ | ⟨rfl, rfl, -, hl⟩
      · exact .inl (by rw [FileTree.file?, FileTree.file?, hl])
      · exact .inl (by rw [FileTree.file?, FileTree.file?, hnone, hdir])
      · exact .inr ⟨_, List.mem_cons_self, rfl, rfl, FileTree.file?_eq_some_iff.2 hl⟩
    · rw [FileTree.place_congr heffect.home] at hplace
      exact .inr ⟨x, List.mem_cons_of_mem _ hx, hwritten, hplace, hfile⟩

/-- Away from the places of the artifacts, directories are made where nothing stood, on the way of
an artifact, and nothing else changes. -/
theorem entry?_cases (h : Leads t j s) (hl : ∀ x ∈ j, t.place x.1.path ≠ l) :
    s.entry? l = t.entry? l ∨
      (∃ x ∈ j, l ∈ t.way x.1.path) ∧ t.entry? l = none ∧ s.entry? l = some .directory := by
  induction h with
  | nil => exact .inl rfl
  | @cons t t' u o res j ho hj ih =>
    obtain ⟨hhead, htail⟩ := List.forall_mem_cons.1 hl
    have heffect := Offer.effect_on ho
    have hhome := heffect.home
    have hrest := ih fun x hx => by rw [FileTree.place_congr hhome]; exact htail x hx
    rcases heffect.entry?_cases l with heq | ⟨hway, hnone, hdir⟩ | ⟨rfl, -⟩
    · -- the first offer has not come here, but a later one may have made a directory
      rw [heq] at hrest
      refine hrest.imp_right fun ⟨⟨x, hx, hway⟩, hentries⟩ => ⟨⟨x, ?_, ?_⟩, hentries⟩
      · exact List.mem_cons_of_mem _ hx
      · rw [← FileTree.way_congr hhome]
        exact hway
    · refine .inr ⟨⟨_, List.mem_cons_self, hway⟩, hnone, ?_⟩
      rcases hrest with heq | ⟨-, hnone', -⟩
      · exact heq.trans hdir
      · rw [hdir] at hnone'
        cases hnone'
    · exact absurd rfl hhead

/-- What stands away from the places of the artifacts stays. -/
theorem entry?_of_some (h : Leads t j s) (hl : ∀ x ∈ j, t.place x.1.path ≠ l) {e : Entry}
    (he : t.entry? l = some e) : s.entry? l = some e := by
  rcases h.entry?_cases hl with heq | ⟨-, hnone, -⟩
  · exact heq.trans he
  · rw [hnone] at he
    cases he

/-- A path leads ever after to what it leads to, unless an artifact takes the place. -/
theorem lookup?_of_some (h : Leads t j s) {p : Path}
    (hp : ∀ x ∈ j, t.place x.1.path ≠ t.place p) {e : Entry} (he : t.lookup? p = some e) :
    s.lookup? p = some e :=
  FileTree.lookup?_of_grows h.grows he
    (h.entry?_of_some hp (FileTree.lookup?_eq_some_iff.1 he).2)

/-- A settled offer stays settled, unless another artifact takes the place of its own. -/
theorem settled (h : Leads t j s) {o : Offer} (ho : ∀ x ∈ j, t.place x.1.path ≠ t.place o.path)
    (hsettled : o.Settled t) : o.Settled s := by
  unfold Offer.Settled at hsettled ⊢
  split at hsettled
  · next hp =>
    obtain ⟨e, he⟩ := Option.isSome_iff_exists.1 hsettled
    rw [if_pos hp, h.lookup?_of_some ho he]
    rfl
  · next hp =>
    rw [if_neg hp]
    exact h.lookup?_of_some ho hsettled

/-- **Settled offers change nothing.** -/
theorem of_settled (h : Leads t j s) (hj : ∀ x ∈ j, x.1.Settled t) :
    s = t ∧ ∀ x ∈ j, x.2 = .ok x.1.settledOutcome := by
  induction h with
  | nil => exact ⟨rfl, List.forall_mem_nil _⟩
  | @cons t t' u o res j ho hj' ih =>
    obtain ⟨hhead, htail⟩ := List.forall_mem_cons.1 hj
    have hon : o.on t = (.ok o.settledOutcome, t) := hhead.on
    rw [hon] at ho
    obtain ⟨rfl, rfl⟩ := Prod.mk.inj ho
    obtain ⟨rfl, houtcomes⟩ := ih htail
    exact ⟨rfl, List.forall_mem_cons.2 ⟨rfl, houtcomes⟩⟩

end Leads

end Journal

end GraphLayer.Generation
