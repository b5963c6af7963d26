import FaultDiagnosis.Diagnosis.Engine
import FaultDiagnosis.Proofs.Diagnosis.Selection
import FaultDiagnosis.Proofs.Diagnosis.Totals

/-!
# When a strategy concludes

The two strategies have little in common but how they end: with a diagnosis of their own, or with
the fallback (`FaultDiagnosis.Strategy.evaluate_of_not_conclusive`), which knows nothing of rules
and clues (`FaultDiagnosis.Fallback.evaluate_congr`). Neither of them is talked out of a diagnosis by
more rules and more clues (`FaultDiagnosis.Strategy.conclusive_append`).
-/

namespace FaultDiagnosis

variable {W : Type} {observed : IdSet} {kb more : KnowledgeBase W}

/-- **The fallback is a matter of hints alone.** -/
theorem Fallback.evaluate_congr {kb' : KnowledgeBase W} (hhints : kb'.hints = kb.hints)
    (hcombinations : kb'.combinationHints = kb.combinationHints) :
    Fallback.evaluate kb' observed = Fallback.evaluate kb observed := by
  simp only [Fallback.evaluate, Fallback.advice, Fallback.singleHint?, Fallback.combinationHint?,
    hhints, hcombinations]

namespace Strategy

variable {strategy : Strategy} {settings : InferenceSettings W}

/-- **Whichever strategy does not conclude, the fallback answers.** -/
theorem evaluate_of_not_conclusive [Weight W]
    (h : (strategy.evaluate settings kb observed).conclusive = false) :
    strategy.evaluate settings kb observed = Fallback.evaluate kb observed := by
  cases strategy with
  | rules => exact RuleSelection.evaluate_of_not_conclusive h
  | scoring => exact Scoring.evaluate_of_not_conclusive h

/-- **More knowledge leaves a conclusive strategy conclusive**, if its clues are positive. -/
theorem conclusive_append [ExactWeight W]
    (hmore : ∀ c ∈ more.clues, Weight.isPositive c.weight = true)
    (h : (strategy.evaluate settings kb observed).conclusive = true) :
    (strategy.evaluate settings (kb ++ more) observed).conclusive = true := by
  cases strategy with
  | rules =>
    obtain ⟨r, hr, hcandidate⟩ := RuleSelection.conclusive_iff.mp h
    exact RuleSelection.conclusive_iff.mpr ⟨r, List.mem_append_left _ hr, hcandidate⟩
  | scoring => exact Scoring.conclusive_append hmore h

end Strategy

end FaultDiagnosis
