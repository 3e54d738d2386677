import GraphLayer.Proofs.Rendering.Gates
import GraphLayer.Proofs.Schema.Servable

/-!
# When the files of all entities together can be made

* `coordinate_eq_ok_iff`: the gates and the check of the whole schema pass, and then it is these
  files;
* `coordinate_eq_error`: what is said if the gates pass and the check does not;
* `concernsAll_of_coordinate_error`: whatever is said is about the entities together.
-/

namespace GraphLayer

/-- Whether the error is about the entities together. -/
def GenerationError.concernsAll : GenerationError → Bool
  | danglingReference _ _ => true
  | duplicateRootField _ _ _ => true
  | render _ => true
  | _ => false

end GraphLayer

namespace GraphLayer.Rendering

variable {config : GeneratorConfig} {ds : List Descriptor} {as : List Artifact}

theorem mergedSchema_eq_ok_iff {a : Artifact} : mergedSchema config ds = .ok a ↔
    Schema.checkText (mergedFile config ds).contents = .ok () ∧ a = mergedFile config ds := by
  constructor
  · intro h
    obtain ⟨⟨⟩, hcheck, h⟩ := bind_eq_ok_iff.1 h
    exact ⟨Schema.check_eq_ok_iff.1 hcheck, (Except.ok.inj h).symm⟩
  · rintro ⟨hcheck, rfl⟩
    exact bind_eq_ok_iff.2 ⟨(), Schema.check_eq_ok_iff.2 hcheck, rfl⟩

/-- The files that belong to no single entity are made exactly when the references are resolved, the
root fields differ and the whole schema can be served. -/
theorem coordinate_eq_ok_iff : coordinate config ds = .ok as ↔
    resolveReferences ds = .ok () ∧ checkRootFields ds = .ok () ∧
      Schema.checkText (mergedFile config ds).contents = .ok () ∧
      as = [mergedFile config ds, registry config ds, engine config ds] ++
        moduleIndexes config ds := by
  constructor
  · intro h
    obtain ⟨⟨⟩, hrefs, h⟩ := bind_eq_ok_iff.1 h
    obtain ⟨⟨⟩, hroots, h⟩ := bind_eq_ok_iff.1 h
    obtain ⟨schema, hschema, h⟩ := bind_eq_ok_iff.1 h
    obtain ⟨hcheck, rfl⟩ := mergedSchema_eq_ok_iff.1 hschema
    exact ⟨hrefs, hroots, hcheck, (Except.ok.inj h).symm⟩
  · rintro ⟨hrefs, hroots, hcheck, rfl⟩
    have hschema := mergedSchema_eq_ok_iff.2 ⟨hcheck, rfl⟩
    exact bind_eq_ok_iff.2 ⟨(), hrefs, bind_eq_ok_iff.2 ⟨(), hroots,
      bind_eq_ok_iff.2 ⟨_, hschema, rfl⟩⟩⟩

/-- If the gates pass, a schema that cannot be served is what is wrong. -/
theorem coordinate_eq_error (hrefs : resolveReferences ds = .ok ())
    (hroots : checkRootFields ds = .ok ()) {f : Schema.Fault}
    (hf : Schema.checkText (mergedFile config ds).contents = .error f) :
    coordinate config ds = .error (.render f.message) := by
  have hschema : mergedSchema config ds = .error (.render f.message) := by
    exact bind_eq_error_iff.2 (.inl (Schema.check_eq_error_iff.2 ⟨f, hf, rfl⟩))
  rw [coordinate, hrefs, hroots, hschema]
  rfl

/-- If the files cannot be made, this is because of the entities together. -/
theorem concernsAll_of_coordinate_error {e : GenerationError}
    (h : coordinate config ds = .error e) : e.concernsAll = true := by
  rcases bind_eq_error_iff.1 h with h | ⟨⟨⟩, -, h⟩
  · obtain ⟨before, d, after, target, -, -, -, -, rfl⟩ := exists_of_resolveReferences h
    rfl
  rcases bind_eq_error_iff.1 h with h | ⟨⟨⟩, -, h⟩
  · obtain ⟨root, field, -, rfl⟩ := exists_of_checkRootFields h
    rfl
  rcases bind_eq_error_iff.1 h with h | ⟨schema, -, h⟩
  · rcases bind_eq_error_iff.1 h with h | ⟨⟨⟩, -, h⟩
    · obtain ⟨f, -, rfl⟩ := Schema.check_eq_error_iff.1 h
      rfl
    · cases h
  · cases h

end GraphLayer.Rendering
