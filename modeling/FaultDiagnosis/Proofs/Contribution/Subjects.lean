import FaultDiagnosis.Proofs.Contribution.Fitting

/-!
# What a contribution is about

A symptom brings an identifier that must not be known yet, and a rule and its clues mention
identifiers that have to be known already. All of them are the *subjects* of the contribution
(`FaultDiagnosis.Contribution.subjects`), and they are all that ties it to the knowledge around it:
two knowledge bases that know the same of the subjects agree on whether the contribution fits
(`FaultDiagnosis.Contribution.fits_congr`).

The two kinds depend on their subjects in opposite directions. Knowing more never hurts a rule, and
it can only hurt a symptom by knowing its identifier already
(`FaultDiagnosis.Contribution.Fits.mono`).
-/

namespace FaultDiagnosis

variable {W : Type}

namespace Contribution

/-- The identifier that a contribution brings, if it is a symptom. -/
def newIds : Contribution W → List String
  | symptom s => [s.id]
  | rule _ _ => []

/-- **The subjects of a contribution**: the identifier of a symptom, and those that a rule and its
clues mention. -/
def subjects : Contribution W → List String
  | symptom s => [s.id]
  | rule r cs => r.referencedIds ++ cs.map Clue.symptom

variable {item : Contribution W}

@[simp] theorem newIds_asUser : item.asUser.newIds = item.newIds := by
  cases item with
  | symptom s => rfl
  | rule r cs => rfl

@[simp] theorem subjects_asUser : item.asUser.subjects = item.subjects := by
  cases item with
  | symptom s => rfl
  | rule r cs =>
    change r.referencedIds ++ (cs.map _).map Clue.symptom = r.referencedIds ++ cs.map Clue.symptom
    rw [List.map_map]
    rfl

end Contribution

/-- After a contribution, what was known is known, and so is the identifier that it brings. -/
theorem KnowledgeBase.mem_ids_add {kb : KnowledgeBase W} {item : Contribution W} {id : String} :
    id ∈ (kb.add item).ids ↔ id ∈ kb.ids ∨ id ∈ item.newIds := by
  rw [ids_add, List.mem_append]
  cases item with
  | symptom s => rfl
  | rule r cs => rfl

namespace Contribution

variable [Weight W] {item : Contribution W} {kb kb' : KnowledgeBase W} {r : Rule}
  {cs : List (Clue W)}

/-- The subjects of a rule that fits are known. -/
theorem known_of_fits_rule (hf : (rule r cs).Fits kb) :
    ∀ id ∈ (rule r cs).subjects, id ∈ kb.ids := by
  intro id hid
  rcases List.mem_append.mp hid with hid | hid
  · exact hf.1.known id hid
  · obtain ⟨c, hc, rfl⟩ := List.mem_map.mp hid
    exact (hf.2 c hc).known

/-- A rule that fits somewhere fits wherever its subjects are known. -/
theorem fits_rule_of_known (hf : (rule r cs).Fits kb)
    (h : ∀ id ∈ (rule r cs).subjects, id ∈ kb'.ids) : (rule r cs).Fits kb' := by
  obtain ⟨hr, hcs⟩ := hf
  refine ⟨⟨hr.diagnosed, hr.sensible, fun id hid => h id (List.mem_append_left _ hid)⟩,
    fun c hc => ⟨(hcs c hc).weighed, ?_, (hcs c hc).diagnosed⟩⟩
  exact h c.symptom (List.mem_append_right _ (List.mem_map_of_mem hc))

/-- **Only what is known of its subjects decides whether a contribution fits.** -/
theorem fits_congr (h : ∀ id ∈ item.subjects, id ∈ kb.ids ↔ id ∈ kb'.ids) :
    item.Fits kb ↔ item.Fits kb' := by
  cases item with
  | symptom s =>
    have hid : s.id ∈ kb.ids ↔ s.id ∈ kb'.ids := h s.id List.mem_cons_self
    exact ⟨fun hf => ⟨hf.named, hf.labelled, mt hid.mpr hf.fresh⟩,
      fun hf => ⟨hf.named, hf.labelled, mt hid.mp hf.fresh⟩⟩
  | rule r cs =>
    exact ⟨fun hf => fits_rule_of_known hf fun id hid => (h id hid).mp (known_of_fits_rule hf id hid),
      fun hf => fits_rule_of_known hf fun id hid => (h id hid).mpr (known_of_fits_rule hf id hid)⟩

/-- **What fits some knowledge fits more knowledge**, but for a symptom that has become known. -/
theorem Fits.mono (hf : item.Fits kb) (h : ∀ id ∈ kb.ids, id ∈ kb'.ids) :
    item.Fits kb' ∨ ∃ s, item = symptom s ∧ s.id ∈ kb'.ids := by
  cases item with
  | symptom s =>
    by_cases hid : s.id ∈ kb'.ids
    · exact Or.inr ⟨s, rfl, hid⟩
    · exact Or.inl ⟨hf.named, hf.labelled, hid⟩
  | rule r cs =>
    exact Or.inl (fits_rule_of_known hf fun id hid => h id (known_of_fits_rule hf id hid))

end Contribution

end FaultDiagnosis
