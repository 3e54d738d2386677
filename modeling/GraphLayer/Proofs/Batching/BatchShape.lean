import Mathlib.Algebra.GroupWithZero.Nat
import GraphLayer.Proofs.Batching.Calls
import GraphLayer.Proofs.Batching.Provenance

/-!
# The shape of batches

* `CutInto.countP_mem`: an id stands in one piece of a list that is cut;
* `World.Taken` and `World.taken_of_drained`: what a run drains was the open window of its slot just
  before;
* `World.called_of_dispatch` and `World.called_of_served`: the dispatches of a run, and the answers
  that it takes in, belong to calls that it made;
* `World.fetchCount_eq_sum`: the fetch count of a slot, from the sizes of its windows;
* `World.batch_shape`, all of this for every run.
-/

namespace GraphLayer.Batching

variable {σ V : Type}

/-- An element of a list without repetitions stands in one of the pieces. -/
theorem CutInto.countP_mem {α : Type} [DecidableEq α] {b : Nat} {xs : List α}
    {pieces : List (List α)} (h : CutInto b xs pieces) (hnd : xs.Nodup) {a : α} (ha : a ∈ xs) :
    pieces.countP (a ∈ ·) = 1 := by
  have hone : pieces.flatten.count a = 1 := by
    rw [h.flatten]
    exact List.count_eq_one_of_mem hnd ha
  have hle : pieces.countP (a ∈ ·) ≤ 1 := by
    have hcount := List.countP_mem_le_count_flatMap id pieces a
    rw [List.flatMap_id, hone] at hcount
    exact hcount
  have hpos : 0 < pieces.countP (a ∈ ·) := by
    rw [← h.flatten] at ha
    obtain ⟨p, hp, hap⟩ := List.mem_flatten.1 ha
    exact List.countP_pos_iff.2 ⟨p, hp, decide_eq_true hap⟩
  omega

namespace World

variable {rt : Runtime σ V} {w : World σ V}

/-! ### What is drained -/

/-- In the course of some events a dispatch drains the open window of its slot. -/
def Taken (rt : Runtime σ V) (w : World σ V) (es : List (Event V)) (dd : Dispatch V) : Prop :=
  ∃ es₁ e es₂, es = es₁ ++ e :: es₂ ∧ (w.run rt es₁).drains rt e = [dd] ∧
    ((w.run rt es₁).queue dd.slot).scheduled = true ∧
    dd.batch = ((w.run rt es₁).queue dd.slot).pending.toList ∧
    ((w.run rt (es₁ ++ [e])).queue dd.slot).pending = .empty

theorem taken_of_drained (hw : Placed rt w) (ho : Once w) (ha : Attended w) {es : List (Event V)}
    {dd : Dispatch V} (h : dd ∈ w.drained rt es) : Taken rt w es dd := by
  induction es generalizing w with
  | nil => cases h
  | cons e es ih =>
    rw [drained, List.mem_append] at h
    rcases h with h | h
    · rcases drains_cases rt w e with ⟨hnone, -⟩ | ⟨d, di, hd, hone⟩
      · rw [hnone] at h
        cases h
      · rw [hone] at h
        obtain rfl := List.mem_singleton.1 h
        have hne := (ha.step hw ho e).batch d dd hd.dispatch hd.isSpawned
        rw [hd.batch] at hne
        refine ⟨[], e, es, rfl, hone, (ha.scheduled dd.slot).2 hne, hd.batch, ?_⟩
        show ((w.step rt e).queue dd.slot).pending = .empty
        rw [hd.queue, if_pos rfl]
        rfl
    · obtain ⟨es₁, e', es₂, rfl, htaken⟩ := ih (hw.step e) (ho.step hw e) (ha.step hw ho e) h
      exact ⟨e :: es₁, e', es₂, rfl, htaken⟩

/-- A dispatch that has drained its window has made the calls for the chunks of it. -/
theorem called_of_dispatch (rt : Runtime σ V) (cache : Option σ) (es : List (Event V)) {d : Nat}
    {dd : Dispatch V} (hd : ((start cache).run rt es).dispatches[d]? = some dd)
    (hst : dd.stage.isSpawned = false) {c : Calling} (hc : c ∈ dd.callings rt.maxBatchSize) :
    c ∈ (start cache).called rt es := by
  induction es using List.reverseRecOn generalizing dd with
  | nil => cases hd
  | append_singleton es e ih =>
    rw [called_append, called, called, List.append_nil]
    rw [run_concat] at hd
    by_cases hold : ((start cache).run rt es).hasDrained d = true
    · -- its slot and its batch are as they were before this step
      obtain ⟨d₀, hd₀, hst₀⟩ := hasDrained_iff.1 hold
      obtain ⟨w', c', t, a, hm, hw⟩ := exists_move rt ((start cache).run rt es) e
      obtain ⟨d₁, hd₁, hstep⟩ := hm.dispatch_step hd₀
      rw [hw] at hd
      obtain rfl : d₁ = dd := Option.some.inj (hd₁.symm.trans hd)
      have hsame : d₁.callings rt.maxBatchSize = d₀.callings rt.maxBatchSize := by
        cases hstep with
        | drain hsp =>
          rw [hsp] at hst₀
          cases hst₀
        | _ => rfl
      exact List.mem_append_left _ (ih hd₀ hst₀ (hsame ▸ hc))
    · have hnew : (((start cache).run rt es).step rt e).hasDrained d = true :=
        hasDrained_iff.2 ⟨dd, hd, hst⟩
      refine List.mem_append_right _ ?_
      rw [callings, callingsTo_eq]
      rcases drains_cases rt ((start cache).run rt es) e with ⟨-, hnone, -⟩ | ⟨i, di, hi, hone⟩
      · exact absurd (hnone d hnew) hold
      · obtain rfl : d = i := by
          by_contra hne
          exact hold (hi.only d hne hnew)
        obtain rfl : di = dd := Option.some.inj (hi.dispatch.symm.trans hd)
        have hone' : ((start cache).run rt es).drainsTo (((start cache).run rt es).step rt e) =
            [di] := hone
        rw [hone', List.flatMap_singleton]
        exact hc

/-- No answer is taken in but for a call that was made. -/
theorem called_of_served (rt : Runtime σ V) (cache : Option σ) (es : List (Event V))
    {x : Serving V} (hx : x ∈ (start cache).served rt es) :
    ⟨x.slot, x.ids⟩ ∈ (start cache).called rt es := by
  induction es using List.reverseRecOn with
  | nil => cases hx
  | append_singleton es e ih =>
    rw [called_append]
    refine List.mem_append_left _ ?_
    rw [served_concat, List.mem_append] at hx
    rcases hx with hx | hx
    · exact ih hx
    · obtain ⟨-, dd, rs, hd, hst, -, hs, hids⟩ := exists_dispatch_of_servings hx
      have hdrained : dd.stage.isSpawned = false := by rw [hst]; rfl
      refine called_of_dispatch rt cache es hd hdrained ?_
      rw [Dispatch.callings, hs]
      exact List.mem_map_of_mem (List.mem_of_getElem? hids)

/-! ### How much is fetched -/

theorem fetchCount_eq_sum (rt : Runtime σ V) (cache : Option σ) (es : List (Event V)) (s : Slot) :
    ((start cache).run rt es).fetchCount s =
      ((((start cache).drained rt es).filter (·.slot = s)).map fun dd =>
        (dd.batch.length + max 1 rt.maxBatchSize - 1) / max 1 rt.maxBatchSize).sum := by
  have hstart : (start cache : World σ V).fetchCount s = 0 := rfl
  rw [fetchCount_run, hstart, Nat.zero_add, called_eq]
  generalize (start cache).drained rt es = dds
  induction dds with
  | nil => rfl
  | cons dd dds ih =>
    rw [List.flatMap_cons, List.countP_append, countP_callings, ih]
    have hlen : (dd.calls rt.maxBatchSize).length =
        (dd.batch.length + max 1 rt.maxBatchSize - 1) / max 1 rt.maxBatchSize := by
      have hcut := (cutInto_chunks rt.maxBatchSize (dd.batch.map Prod.fst)).length
      rwa [List.length_map] at hcut
    rw [List.filter_cons]
    by_cases hs : dd.slot = s
    · rw [if_pos hs.symm, if_pos (decide_eq_true hs), hlen, List.map_cons, List.sum_cons]
    · rw [if_neg fun he => hs he.symm, if_neg (by simpa using hs), Nat.zero_add]

/-! ### All together -/

/-- **The shape of batches**, in every run.  A bound of zero on the size of chunks counts as one.

* Loaders are called for the windows that are drained, in this order, and for nothing else; the
  answers that the run takes in belong to these calls.
* What is drained is the whole open window of its slot.  Its ids, each of them once and in strictly
  ascending order, are cut into as few calls as the bound allows: none is empty or exceeds the
  bound, all but the last one reach it, and every id stands in exactly one.
* The fetch count of a slot is the number of these calls, from the sizes of the windows that were
  drained for it so far, whatever has become of them. -/
theorem batch_shape (rt : Runtime σ V) (cache : Option σ) (es : List (Event V)) :
    let w : World σ V := start cache
    let b := max 1 rt.maxBatchSize
    w.called rt es = (w.drained rt es).flatMap (Dispatch.callings rt.maxBatchSize) ∧
    (∀ x ∈ w.served rt es, ⟨x.slot, x.ids⟩ ∈ w.called rt es) ∧
    (∀ dd ∈ w.drained rt es,
      let ids := dd.batch.map Prod.fst
      Taken rt w es dd ∧ ids ≠ [] ∧ ids.Pairwise (· < ·) ∧
      CutInto b ids (dd.calls rt.maxBatchSize) ∧
      ∀ id ∈ ids, (dd.calls rt.maxBatchSize).countP (id ∈ ·) = 1) ∧
    ∀ s, (w.run rt es).fetchCount s =
      (((w.drained rt es).filter (·.slot = s)).map fun dd => (dd.batch.length + b - 1) / b).sum := by
  intro w b
  refine ⟨called_eq rt w es, fun x => called_of_served rt cache es, ?_,
    fetchCount_eq_sum rt cache es⟩
  intro dd hdd ids
  have htaken : Taken rt w es dd := taken_of_drained (placed_start rt cache)
    (fun _ => Nat.zero_le _) (attended_start cache) hdd
  obtain ⟨es₁, e, es₂, -, -, hopen, hbatch, -⟩ := id htaken
  have hascending : Ascending ids := by
    show Ascending (dd.batch.map Prod.fst)
    rw [hbatch]
    exact ((w.run rt es₁).queue dd.slot).pending.ascending
  have hne : ids ≠ [] := by
    intro hnil
    have hempty : dd.batch = [] := List.map_eq_nil_iff.1 hnil
    rw [hbatch] at hempty
    exact ((attended_run rt cache es₁).scheduled dd.slot).1 hopen hempty
  have hcut := cutInto_chunks rt.maxBatchSize ids
  exact ⟨htaken, hne, hascending.pairwise_lt, hcut,
    fun id hid => hcut.countP_mem hascending.nodup hid⟩

example : (start none).called usersOnly [.beginLoad users 3 "Nat", .beginLoad users 1 "Nat",
    .beginLoad users 3 "Nat", .beginLoad users 2 "Nat", .poll 0, .poll 0] =
      [⟨users, [1, 2]⟩, ⟨users, [3]⟩] := by decide

end World

end GraphLayer.Batching
