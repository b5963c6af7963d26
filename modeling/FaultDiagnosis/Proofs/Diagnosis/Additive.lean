import FaultDiagnosis.Proofs.Diagnosis.Totals
import Mathlib.Algebra.Order.BigOperators.Group.List
import Mathlib.Algebra.Order.Field.Rat

/-!
# Totals are sums

Scoring keeps its totals in a list, and every clue changes one entry of it or adds a new one. Seen
from a single diagnosis this is simpler. A clue for another diagnosis leaves the entry as it is, so
the entry depends only on the clues for its own diagnosis
(`FaultDiagnosis.Scoring.score?_scores_append`). And with exact weights the total there is the sum
of the weights of those that count for it (`FaultDiagnosis.Scoring.value_totalOf_scores`). More
clues therefore add their weights to what there was, whatever the totals of the other diagnoses are.
-/

namespace FaultDiagnosis.Scoring

open ExactWeight (value)

variable {W : Type}

/-- The score of a diagnosis, if it has one. -/
def score? (ss : List (Score W)) (diagnosis : String) : Option (Score W) :=
  ss.find? fun s => s.diagnosis = diagnosis

section Entries

variable [Weight W] {observed : IdSet} {diagnosis d : String}

/-- **The total of a diagnosis**: that of its score, and zero where it has none. -/
def totalOf (ss : List (Score W)) (diagnosis : String) : W :=
  ((score? ss diagnosis).map Score.total).getD 0

/-! ### The entry of a diagnosis -/

/-- Adding to one diagnosis leaves the entries of the others alone. -/
theorem score?_addTo_of_ne (h : d ≠ diagnosis) (weight : Option W) (ss : List (Score W)) :
    score? (addTo d weight ss) diagnosis = score? ss diagnosis := by
  induction ss with
  | nil => exact List.find?_cons_of_neg (by simpa using h)
  | cons s ss ih =>
    rw [addTo]
    split
    · rename_i hs
      have hother : ¬s.diagnosis = diagnosis := hs ▸ h
      rw [score?, score?, List.find?_cons_of_neg (by simpa using hother),
        List.find?_cons_of_neg (by simpa using hother)]
    · rw [score?, score?, List.find?_cons, List.find?_cons]
      split
      · rfl
      · exact ih

/-- The entry that is added to has the new total, or it is a new one. -/
theorem score?_addTo_self (diagnosis : String) (weight : Option W) (ss : List (Score W)) :
    score? (addTo diagnosis weight ss) diagnosis =
      some ⟨diagnosis, weight.elim (totalOf ss diagnosis) (totalOf ss diagnosis + ·)⟩ := by
  induction ss with
  | nil =>
    rw [addTo, score?, List.find?_cons_of_pos (by simp)]
    rfl
  | cons s ss ih =>
    rw [addTo]
    split
    · rename_i hs
      subst hs
      simp [score?, totalOf]
    · rename_i hs
      have htail : totalOf (s :: ss) diagnosis = totalOf ss diagnosis := by
        rw [totalOf, totalOf, score?, score?, List.find?_cons_of_neg (by simpa using hs)]
      rw [score?, List.find?_cons_of_neg (by simpa using hs), htail]
      exact ih

/-- **The step**: a clue for another diagnosis does not matter. -/
theorem score?_tally_of_ne {c : Clue W} (h : c.diagnosis ≠ diagnosis) (ss : List (Score W)) :
    score? (tally observed ss c) diagnosis = score? ss diagnosis :=
  score?_addTo_of_ne h _ ss

/-- **All steps**: any number of them does not matter. -/
theorem score?_foldl_tally_of_ne {cs : List (Clue W)} (h : ∀ c ∈ cs, c.diagnosis ≠ diagnosis)
    (ss : List (Score W)) :
    score? (cs.foldl (tally observed) ss) diagnosis = score? ss diagnosis := by
  induction cs generalizing ss with
  | nil => rfl
  | cons c cs ih =>
    obtain ⟨hc, hcs⟩ := List.forall_mem_cons.mp h
    rw [List.foldl_cons, ih hcs, score?_tally_of_ne hc]

/-- **More clues leave the entries of other diagnoses alone.** -/
theorem score?_scores_append {kb more : KnowledgeBase W}
    (h : ∀ c ∈ more.clues, c.diagnosis ≠ diagnosis) :
    score? (scores (kb ++ more) observed) diagnosis = score? (scores kb observed) diagnosis := by
  rw [scores, scores, KnowledgeBase.clues_append, List.foldl_append, score?_foldl_tally_of_ne h]

omit [Weight W] in
theorem contributing_append (kb more : KnowledgeBase W) : contributing (kb ++ more) observed d =
    contributing kb observed d ++ contributing more observed d := by
  rw [contributing, contributing, contributing, KnowledgeBase.clues_append, List.filter_append]

end Entries

/-! ### The total of a diagnosis -/

section Sums

variable [ExactWeight W] {observed : IdSet} {diagnosis : String}

/-- What clues weigh together. -/
def weightSum (cs : List (Clue W)) : ℚ :=
  (cs.map fun c => value c.weight).sum

@[simp] theorem weightSum_nil : weightSum ([] : List (Clue W)) = 0 := rfl

@[simp] theorem weightSum_cons (c : Clue W) (cs : List (Clue W)) :
    weightSum (c :: cs) = value c.weight + weightSum cs := by
  rw [weightSum, weightSum, List.map_cons, List.sum_cons]

@[simp] theorem weightSum_append (cs more : List (Clue W)) :
    weightSum (cs ++ more) = weightSum cs + weightSum more := by
  rw [weightSum, weightSum, weightSum, List.map_append, List.sum_append]

/-- Positive clues do not weigh less than nothing together. -/
theorem weightSum_nonneg {cs : List (Clue W)} (h : ∀ c ∈ cs, Weight.isPositive c.weight = true) :
    0 ≤ weightSum cs := by
  refine List.sum_nonneg fun x hx => ?_
  obtain ⟨c, hc, rfl⟩ := List.mem_map.mp hx
  exact (ExactWeight.isPositive_iff.mp (h c hc)).le

/-- **The step**: a clue that counts for the diagnosis adds its weight to the total, and any other
adds nothing. -/
theorem value_totalOf_tally (ss : List (Score W)) (c : Clue W) :
    value (totalOf (tally observed ss c) diagnosis) = value (totalOf ss diagnosis) +
      weightSum ([c].filter fun c => c.diagnosis = diagnosis && observed.contains c.symptom) := by
  by_cases hdiagnosis : c.diagnosis = diagnosis
  · subst hdiagnosis
    rw [totalOf, tally, score?_addTo_self]
    cases hobserved : observed.contains c.symptom with
    | true => simp [hobserved, ExactWeight.value_add]
    | false => simp [hobserved]
  · rw [totalOf, score?_tally_of_ne hdiagnosis, List.filter_cons_of_neg (by simp [hdiagnosis])]
    exact (add_zero _).symm

/-- **All steps**: clues add the weights of those that count. -/
theorem value_totalOf_foldl_tally (cs : List (Clue W)) (ss : List (Score W)) :
    value (totalOf (cs.foldl (tally observed) ss) diagnosis) = value (totalOf ss diagnosis) +
      weightSum (cs.filter fun c => c.diagnosis = diagnosis && observed.contains c.symptom) := by
  induction cs generalizing ss with
  | nil => exact (add_zero _).symm
  | cons c cs ih =>
    rw [List.foldl_cons, ih, value_totalOf_tally, add_assoc, ← weightSum_append,
      ← List.filter_append]
    rfl

/-- **A total is the sum of the weights that count for its diagnosis.** -/
theorem value_totalOf_scores (kb : KnowledgeBase W) :
    value (totalOf (scores kb observed) diagnosis) =
      weightSum (contributing kb observed diagnosis) := by
  rw [scores, value_totalOf_foldl_tally, contributing]
  change value (0 : W) + _ = _
  rw [ExactWeight.value_zero, zero_add]

/-- More knowledge adds to a total what its own clues weigh. -/
theorem value_totalOf_scores_append (kb more : KnowledgeBase W) :
    value (totalOf (scores (kb ++ more) observed) diagnosis) =
      value (totalOf (scores kb observed) diagnosis) +
        weightSum (contributing more observed diagnosis) := by
  simp only [value_totalOf_scores, contributing_append, weightSum_append]

/-- With positive clues no total is below zero. -/
theorem value_totalOf_scores_nonneg {kb : KnowledgeBase W}
    (h : ∀ c ∈ kb.clues, Weight.isPositive c.weight = true) :
    0 ≤ value (totalOf (scores kb observed) diagnosis) := by
  rw [value_totalOf_scores]
  exact weightSum_nonneg fun c hc => h c (List.mem_of_mem_filter hc)

/-- **Scoring is conclusive when the total of some diagnosis is high enough.** -/
theorem conclusive_of_totalOf {kb : KnowledgeBase W} {threshold : W} (diagnosis : String)
    (hpositive : 0 < value (totalOf (scores kb observed) diagnosis))
    (hreached : value threshold ≤ value (totalOf (scores kb observed) diagnosis)) :
    (evaluate threshold kb observed).conclusive = true := by
  cases hscore : score? (scores kb observed) diagnosis with
  | none =>
    -- without a score the total would be zero
    rw [totalOf, hscore] at hpositive
    change 0 < value (0 : W) at hpositive
    rw [ExactWeight.value_zero] at hpositive
    exact absurd hpositive (lt_irrefl 0)
  | some s =>
    rw [totalOf, hscore] at hpositive hreached
    exact conclusive_iff.mpr ⟨s, List.mem_of_find?_eq_some hscore, hpositive, hreached⟩

end Sums

end FaultDiagnosis.Scoring
