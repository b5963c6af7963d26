import FaultDiagnosis.Proofs.Engine.Run
import FaultDiagnosis.Proofs.Store.Taken

/-!
# What a sequence of calls adds

Of a sequence of calls, some are accepted and the others are turned away. What the engine knows
afterwards is what it knew before, and behind it the items of the accepted calls in their order
(`FaultDiagnosis.Engine.merged_afterCalls`). Hints are not among them: these are shipped or there
are none.
-/

namespace FaultDiagnosis.Engine

variable {W : Type} [Weight W] [WeightNotation W]

/-- **The records accepted along a sequence of calls**, in their order. -/
def acceptedAlong (e : Engine W) : List (Call W) → List (Record W)
  | [] => []
  | call :: calls => e.acceptedBy call ++ (e.afterCall call).acceptedAlong calls

/-- Every one of them was accepted by the engine of that moment. -/
theorem exists_accepts_of_mem_acceptedAlong {e : Engine W} {calls : List (Call W)}
    {record : Record W} (h : record ∈ e.acceptedAlong calls) :
    ∃ e₁ e₂ : Engine W, e₁.Accepts record e₂ := by
  induction calls generalizing e with
  | nil => exact absurd h List.not_mem_nil
  | cons call calls ih =>
    rcases List.mem_append.mp h with h | h
    · rcases e.afterCall_cases call with ⟨hnone, -⟩ | ⟨accepted, hone, ha⟩
      · rw [hnone] at h
        cases h
      · rw [hone] at h
        obtain rfl := List.mem_singleton.mp h
        exact ⟨e, e.afterCall call, ha⟩
    · exact ih h

/-- One call adds the item of the record that it adds, if any. -/
theorem merged_afterCall (e : Engine W) (call : Call W) : (e.afterCall call).merged =
    e.merged ++ KnowledgeBase.ofItems ((e.acceptedBy call).map Record.item) := by
  rcases e.afterCall_cases call with ⟨hnone, ht⟩ | ⟨record, hone, ha⟩
  · rw [merged, ht.repository, hnone]
    exact (KnowledgeBase.append_empty _).symm
  · rw [ha.merged_eq, KnowledgeBase.add_eq_append, hone]
    rfl

/-- **What is known after calls** is what was known, and then the items of the accepted calls. -/
theorem merged_afterCalls (e : Engine W) (calls : List (Call W)) : (e.afterCalls calls).merged =
    e.merged ++ KnowledgeBase.ofItems ((e.acceptedAlong calls).map Record.item) := by
  induction calls generalizing e with
  | nil => exact (KnowledgeBase.append_empty _).symm
  | cons call calls ih =>
    change ((e.afterCall call).afterCalls calls).merged = _
    rw [ih, merged_afterCall, KnowledgeBase.append_assoc, ← KnowledgeBase.ofItems_append,
      ← List.map_append]
    rfl

/-- What was known stays known. -/
theorem ids_subset_afterCalls (e : Engine W) (calls : List (Call W)) {id : String}
    (h : id ∈ e.merged.ids) : id ∈ (e.afterCalls calls).merged.ids := by
  rw [merged_afterCalls, KnowledgeBase.ids, KnowledgeBase.symptoms_append, List.map_append]
  exact List.mem_append_left _ h

theorem settings_afterCalls (e : Engine W) (calls : List (Call W)) :
    (e.afterCalls calls).settings = e.settings :=
  afterCalls_induction (P := fun e' => e'.settings = e.settings)
    (fun _ _ _ h ha => ha.settings.trans h) (fun _ _ h ht => ht.settings.trans h) rfl calls

/-- Contributed rules are a user's. -/
theorem origin_of_mem_rules_acceptedAlong {e : Engine W} {calls : List (Call W)} {r : Rule}
    (h : r ∈ (KnowledgeBase.ofItems ((e.acceptedAlong calls).map Record.item)).rules) :
    r.origin = .user := by
  obtain ⟨item, hitem, hr⟩ := List.mem_flatMap.mp h
  obtain ⟨record, hrecord, rfl⟩ := List.mem_map.mp hitem
  obtain ⟨e₁, e₂, ha⟩ := exists_accepts_of_mem_acceptedAlong hrecord
  rw [← ha.asUser] at hr
  cases hitem : record.item with
  | symptom s =>
    rw [hitem] at hr
    cases hr
  | rule x cs =>
    rw [hitem] at hr
    rw [List.mem_singleton.mp hr]

/-- Contributed clues weigh something. -/
theorem isPositive_of_mem_clues_acceptedAlong {e : Engine W} {calls : List (Call W)} {c : Clue W}
    (h : c ∈ (KnowledgeBase.ofItems ((e.acceptedAlong calls).map Record.item)).clues) :
    Weight.isPositive c.weight = true := by
  obtain ⟨item, hitem, hc⟩ := List.mem_flatMap.mp h
  obtain ⟨record, hrecord, rfl⟩ := List.mem_map.mp hitem
  obtain ⟨e₁, e₂, ha⟩ := exists_accepts_of_mem_acceptedAlong hrecord
  have hfits := ha.fits
  cases hitem : record.item with
  | symptom s =>
    rw [hitem] at hc
    cases hc
  | rule x cs =>
    rw [hitem] at hc hfits
    exact (hfits.2 c hc).weighed

end FaultDiagnosis.Engine
