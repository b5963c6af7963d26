import FaultDiagnosis.Proofs.Contribution.Fitting
import FaultDiagnosis.Proofs.Diagnosis.ExactWeight
import FaultDiagnosis.Proofs.Diagnosis.Scores
import Mathlib.Data.List.MinMax

/-!
# Totals only rise

With exact weights, scoring comes to a diagnosis exactly when some total is above zero and reaches
the threshold (`FaultDiagnosis.Scoring.conclusive_iff`): the best score is a greatest one
(`FaultDiagnosis.Scoring.best_eq_argmax`). A further clue raises the total of its diagnosis or
leaves it, and touches no other. So with more clues, each of them positive, every diagnosis keeps
at least the total it had (`FaultDiagnosis.Scoring.raises_foldl_tally`).
-/

namespace FaultDiagnosis.Scoring

open ExactWeight (value)

variable {W : Type} [ExactWeight W] {observed : IdSet} {threshold : W}

/-! ### The best score -/

/-- **The best score is the first of the greatest ones.** -/
theorem best_eq_argmax (ss : List (Score W)) : best ss = ss.argmax fun s => value s.total := by
  have hbetter : better (W := W) = List.argAux fun s t => value t.total < value s.total := by
    funext best s
    cases best with
    | none => rfl
    | some best =>
      rw [better, List.argAux, ← ite_not]
      refine if_congr ?_ rfl rfl
      rw [ExactWeight.atMost_iff, not_le]
  rw [best, List.argmax, hbetter]

theorem isTooLow_eq_false_iff {total : W} :
    isTooLow threshold total = false ↔ 0 < value total ∧ value threshold ≤ value total := by
  rw [isTooLow, Bool.or_eq_false_iff, ← Bool.not_eq_true, ← Bool.not_eq_true,
    ExactWeight.atMost_iff, ExactWeight.below_iff, ExactWeight.value_zero, not_le, not_lt]

/-- **Scoring is conclusive when some total is high enough.** -/
theorem conclusive_iff {kb : KnowledgeBase W} :
    (evaluate threshold kb observed).conclusive = true ↔
      ∃ s ∈ scores kb observed, 0 < value s.total ∧ value threshold ≤ value s.total := by
  rcases evaluate_cases threshold kb observed with ⟨s, hbest, hlow, heq⟩ | ⟨hlow, heq⟩
  · rw [best_eq_argmax] at hbest
    rw [heq]
    exact iff_of_true rfl ⟨s, List.argmax_mem hbest, isTooLow_eq_false_iff.mp hlow⟩
  · rw [heq]
    refine iff_of_false nofun ?_
    rintro ⟨s, hs, hpositive, hreached⟩
    -- the best score is at least as high
    cases hbest : (scores kb observed).argmax fun s => value s.total with
    | none =>
      rw [List.argmax_eq_none.mp hbest] at hs
      cases hs
    | some t =>
      have hle : value s.total ≤ value t.total :=
        List.le_of_mem_argmax (f := fun s : Score W => value s.total) hs hbest
      have hhigh : isTooLow threshold t.total = false :=
        isTooLow_eq_false_iff.mpr ⟨hpositive.trans_le hle, hreached.trans hle⟩
      rw [hlow t ((best_eq_argmax _).trans hbest)] at hhigh
      cases hhigh

-- neither clue alone reaches the threshold, but their total does exactly
example : (evaluate (⟨5 / 2⟩ : Points)
    { clues := [⟨"fan", "The power supply is worn", ⟨3 / 2⟩, .shipped⟩,
        ⟨"smell", "The power supply is worn", ⟨1⟩, .shipped⟩] }
    (.ofList ["fan", "smell"])).conclusive = true := by
  decide +kernel

/-! ### More clues -/

/-- **Scores raised**: every diagnosis has at least the total that it had before. -/
def Raises (ss ss' : List (Score W)) : Prop :=
  ∀ s ∈ ss, ∃ s' ∈ ss', s'.diagnosis = s.diagnosis ∧ value s.total ≤ value s'.total

theorem Raises.refl (ss : List (Score W)) : Raises ss ss :=
  fun s hs => ⟨s, hs, rfl, le_rfl⟩

theorem Raises.trans {ss ss' ss'' : List (Score W)} (h : Raises ss ss') (h' : Raises ss' ss'') :
    Raises ss ss'' := by
  intro s hs
  obtain ⟨s', hs', hdiagnosis, hle⟩ := h s hs
  obtain ⟨s'', hs'', hdiagnosis', hle'⟩ := h' s' hs'
  exact ⟨s'', hs'', hdiagnosis'.trans hdiagnosis, hle.trans hle'⟩

/-- Adding a positive weight, or only taking note of a diagnosis, raises scores. -/
theorem raises_addTo (diagnosis : String) {weight : Option W}
    (h : ∀ w ∈ weight, Weight.isPositive w = true) (ss : List (Score W)) :
    Raises ss (addTo diagnosis weight ss) := by
  induction ss with
  | nil => exact fun s hs => absurd hs List.not_mem_nil
  | cons s ss ih =>
    rw [addTo]
    split
    · intro t ht
      rcases List.mem_cons.mp ht with rfl | ht
      · refine ⟨_, List.mem_cons_self, rfl, ?_⟩
        cases weight with
        | none => exact le_rfl
        | some w =>
          have hw : 0 < value w := ExactWeight.isPositive_iff.mp (h w rfl)
          change value t.total ≤ value (t.total + w)
          rw [ExactWeight.value_add]
          exact le_add_of_nonneg_right hw.le
      · exact ⟨t, List.mem_cons_of_mem _ ht, rfl, le_rfl⟩
    · intro t ht
      rcases List.mem_cons.mp ht with rfl | ht
      · exact ⟨t, List.mem_cons_self, rfl, le_rfl⟩
      · obtain ⟨t', ht', hdiagnosis, hle⟩ := ih t ht
        exact ⟨t', List.mem_cons_of_mem _ ht', hdiagnosis, hle⟩

/-- **The step**: a positive clue raises scores. -/
theorem raises_tally {c : Clue W} (hc : Weight.isPositive c.weight = true) (ss : List (Score W)) :
    Raises ss (tally observed ss c) := by
  refine raises_addTo c.diagnosis (fun w hw => ?_) ss
  split at hw
  · rwa [← Option.some.inj hw]
  · cases hw

/-- **All steps**: so do any number of them. -/
theorem raises_foldl_tally {cs : List (Clue W)}
    (hcs : ∀ c ∈ cs, Weight.isPositive c.weight = true) (ss : List (Score W)) :
    Raises ss (cs.foldl (tally observed) ss) := by
  induction cs generalizing ss with
  | nil => exact .refl ss
  | cons c cs ih =>
    obtain ⟨hc, hcs⟩ := List.forall_mem_cons.mp hcs
    exact (raises_tally hc ss).trans (ih hcs _)

/-- **Raised scores leave a conclusive verdict conclusive.** -/
theorem Raises.conclusive {kb kb' : KnowledgeBase W} {observed' : IdSet}
    (h : Raises (scores kb observed) (scores kb' observed'))
    (hconclusive : (evaluate threshold kb observed).conclusive = true) :
    (evaluate threshold kb' observed').conclusive = true := by
  obtain ⟨s, hs, hpositive, hreached⟩ := conclusive_iff.mp hconclusive
  obtain ⟨s', hs', -, hle⟩ := h s hs
  exact conclusive_iff.mpr ⟨s', hs', hpositive.trans_le hle, hreached.trans hle⟩

/-- **More positive clues never take a diagnosis away.** -/
theorem conclusive_append {kb more : KnowledgeBase W}
    (hmore : ∀ c ∈ more.clues, Weight.isPositive c.weight = true)
    (h : (evaluate threshold kb observed).conclusive = true) :
    (evaluate threshold (kb ++ more) observed).conclusive = true := by
  have hraises : Raises (scores kb observed) (scores (kb ++ more) observed) := by
    rw [scores, scores, KnowledgeBase.clues_append, List.foldl_append]
    exact raises_foldl_tally hmore _
  exact hraises.conclusive h

end FaultDiagnosis.Scoring
