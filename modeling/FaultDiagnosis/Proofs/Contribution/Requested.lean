import FaultDiagnosis.Contribution.Request
import FaultDiagnosis.Proofs.Contribution.Codec
import FaultDiagnosis.Proofs.Knowledge.WellMade

/-!
# What a request gives

A request that is sound gives a contribution (`FaultDiagnosis.Request.contribution`). This file says
where its clues come from: a rule has one clue for each positive condition, of the weight that was
asked for, and that weight is positive (`FaultDiagnosis.Rule.cluesOfWeight_eq_ok_iff`). So whether
the contribution can be read back from a log is decided by the one weight in the request
(`FaultDiagnosis.Request.readsBack_of_contribution`).
-/

namespace FaultDiagnosis

open Outcome

variable {W : Type} [Weight W]

/-- The weight that a request asks for. -/
def Request.weight? : Request W → Option W
  | symptom _ => none
  | rule r => r.weight

/-- **One clue for every positive condition**, and none if no weight is given. -/
theorem Rule.cluesOfWeight_eq_ok_iff {r : Rule} {weight : Option W} {cs : List (Clue W)} :
    r.cluesOfWeight weight = .ok cs ↔
      match weight with
      | none => cs = []
      | some w => List.Forall₂ (fun id c => c = ⟨id, r.diagnosis, w, .user⟩ ∧
          Weight.isPositive c.weight = true) r.positive.toList cs := by
  cases weight with
  | none =>
    rw [cluesOfWeight, Except.ok.injEq]
    exact eq_comm
  | some w => simp only [cluesOfWeight, mapM_eq_ok_iff, Clue.ofWeight_eq_ok_iff]

/-- The clues of a request have the weight that it asks for, and that is positive. -/
theorem Request.weight?_of_mem_clues {request : Request W} {item : Contribution W}
    (h : request.contribution = .ok item) {c : Clue W} (hc : c ∈ item.clues) :
    request.weight? = some c.weight ∧ Weight.isPositive c.weight = true := by
  cases request with
  | symptom r =>
    simp only [contribution, SymptomRequest.contribution, bind_eq_ok, pure_eq_ok] at h
    obtain ⟨-, -, category, -, id, -, rfl⟩ := h
    exact absurd hc List.not_mem_nil
  | rule r =>
    simp only [contribution, RuleRequest.contribution, bind_eq_ok, pure_eq_ok] at h
    obtain ⟨-, -, rule, -, cs, hcs, rfl⟩ := h
    rw [Rule.cluesOfWeight_eq_ok_iff] at hcs
    change r.weight = some c.weight ∧ _
    cases hweight : r.weight with
    | none =>
      rw [hweight] at hcs
      obtain rfl : cs = [] := hcs
      exact absurd hc List.not_mem_nil
    | some w =>
      rw [hweight] at hcs
      have hall : ∀ c ∈ cs, some w = some c.weight ∧ Weight.isPositive c.weight = true := by
        refine forall_of_forall₂ hcs fun id c hclue => ?_
        obtain ⟨rfl, hpositive⟩ := hclue
        exact ⟨rfl, hpositive⟩
      exact hall c hc

variable [WeightNotation W]

omit [Weight W] in
@[simp] theorem Contribution.readsBack_asUser {item : Contribution W} :
    item.asUser.ReadsBack ↔ item.ReadsBack := by
  cases item with
  | symptom s => exact Iff.rfl
  | rule r cs => simp [asUser, ReadsBack]

/-- **A request whose weight is read back gives a contribution that is read back.** -/
theorem Request.readsBack_of_contribution {request : Request W} {item : Contribution W}
    (h : request.contribution = .ok item)
    (hweight : ∀ w, request.weight? = some w → Weight.isPositive w = true →
      WeightNotation.ReadsBack w) : item.ReadsBack := by
  refine Contribution.readsBack_iff.mpr fun c hc => ?_
  obtain ⟨hasked, hpositive⟩ := weight?_of_mem_clues h hc
  exact hweight c.weight hasked hpositive

end FaultDiagnosis
