import FaultDiagnosis.Proofs.Diagnosis.Observed
import FaultDiagnosis.Proofs.Diagnosis.Shapes
import FaultDiagnosis.Proofs.Engine.Reachable

/-!
# Every verdict makes sense

What an engine answers is either a diagnosis that the strategy asked for has come to, or it comes
from the fallback and claims nothing (`FaultDiagnosis.Engine.evaluate_shapes`). The settings have no
influence on this, and neither has what was observed. It needs knowledge that is closed and well
made, which the knowledge of a reachable engine is if the shipped part comes from a document.

The text of the fallback cannot be contributed as a diagnosis: it has nineteen characters, and users
have to write twenty. So where users are named as the origin of a verdict, it does not read like one
of the fallback. A document may ship a rule with this text.
-/

namespace FaultDiagnosis

variable {W : Type} [Weight W]

/-- What users contributed to a sound repository is worded as a diagnosis has to be. -/
theorem Repository.IsSound.le_trimmedLength {r : Repository W} (h : r.IsSound) {diagnosis : String}
    (hcontributed : r.merged.HasFromUser diagnosis) : 20 ≤ trimmedLength diagnosis := by
  rcases hcontributed with ⟨rule, hrule, huser, rfl⟩ | ⟨clue, hclue, huser, rfl⟩
  · rcases List.mem_append.mp hrule with hshipped | hcontributed
    · cases huser.symm.trans (h.shipped.rules rule hshipped)
    · exact h.worded.rules rule hcontributed
  · rcases List.mem_append.mp hclue with hshipped | hcontributed
    · cases huser.symm.trans (h.shipped.clues clue hshipped)
    · exact h.worded.clues clue hcontributed

/-- No user contributed the text of the fallback, which is one character too short. -/
theorem Repository.IsSound.ne_fallback {r : Repository W} (h : r.IsSound) {diagnosis : String}
    (hcontributed : r.merged.HasFromUser diagnosis) : diagnosis ≠ Fallback.diagnosis := by
  rintro rfl
  have hlength : trimmedLength Fallback.diagnosis = 19 := by decide
  have hlong := h.le_trimmedLength hcontributed
  omega

namespace Engine

/-- **Every verdict has one of two shapes.** An engine can be reached from a store whose knowledge
comes from a document. Whatever is observed, by whichever strategy and with any settings, its
verdict is a diagnosis by this strategy, or it is an answer of the fallback. And where users are the
origin of a verdict, its text is not that of the fallback. -/
theorem evaluate_shapes {store : Store Float} {e : Engine Float} (h : ReachableFrom store e)
    (hstore : store.IsDocumented) (observed : IdSet) (strategy : Option Strategy) :
    ((e.evaluate observed strategy).IsDiagnosis (strategy.getD e.settings.defaultStrategy) observed ∨
        (e.evaluate observed strategy).IsFallback observed) ∧
      ((e.evaluate observed strategy).origin = some .user →
        (e.evaluate observed strategy).diagnosis ≠ Fallback.diagnosis) := by
  have hsound : e.repository.IsSound := h.isSound hstore
  have hwell : e.merged.IsWellMade := hsound.wellMade
  have hzero : Weight.atMost (0 : Float) 0 = true := by decide
  rcases Strategy.isBacked_or_eq_fallback h.isClosed hwell hzero
    (strategy.getD e.settings.defaultStrategy) e.settings observed with hbacked | hfallback
  · have hknown : ∀ id ∈ (e.evaluate observed strategy).matched,
        id ∉ e.merged.unknownIds observed := by
      intro id hid hunknown
      exact (KnowledgeBase.mem_unknownIds_iff.mp hunknown).2 (hbacked.matched id hid)
    refine ⟨Or.inl (hbacked.diagnosis.withUnknown hknown), fun horigin => ?_⟩
    exact hsound.ne_fallback (hbacked.contributed horigin)
  · have hshape : (e.evaluate observed strategy).IsFallback observed := by
      rw [evaluate, hfallback]
      exact Fallback.isFallback_evaluate e.merged observed _
    refine ⟨Or.inr hshape, fun horigin => ?_⟩
    rw [hshape.origin] at horigin
    cases horigin

/-! ### Verdicts of one engine -/

/-- The humming is a diagnosis by either strategy and comes from a user. About what nobody has heard
of there is nothing to say. -/
theorem evaluate_shapes_hum :
    ReachableFrom hummingStore hummingEngine ∧ hummingStore.IsDocumented ∧
      (hummingEngine.evaluate (.ofList ["hum"]) (some .scoring)).IsDiagnosis .scoring
        (.ofList ["hum"]) ∧
      (hummingEngine.evaluate (.ofList ["hum"]) (some .rules)).origin = some .user ∧
      (hummingEngine.evaluate (.ofList ["hum"]) (some .rules)).diagnosis ≠ Fallback.diagnosis ∧
      (hummingEngine.evaluate (.ofList ["zombie"]) none).IsFallback (.ofList ["zombie"]) := by
  have hscoring := evaluate_shapes reachableFrom_hummingEngine isDocumented_hummingStore
    (.ofList ["hum"]) (some .scoring)
  have hrules := evaluate_shapes reachableFrom_hummingEngine isDocumented_hummingStore
    (.ofList ["hum"]) (some .rules)
  have hzombie := evaluate_shapes reachableFrom_hummingEngine isDocumented_hummingStore
    (.ofList ["zombie"]) none
  have horigin : (hummingEngine.evaluate (.ofList ["hum"]) (some .rules)).origin = some .user := by
    decide +kernel
  -- which of the two shapes it is shows in whether the verdict is conclusive
  have hconclusive :
      (hummingEngine.evaluate (.ofList ["hum"]) (some .scoring)).conclusive = true := by
    decide +kernel
  have hinconclusive : (hummingEngine.evaluate (.ofList ["zombie"]) none).conclusive = false := by
    decide +kernel
  refine ⟨reachableFrom_hummingEngine, isDocumented_hummingStore, ?_, horigin, hrules.2 horigin, ?_⟩
  · refine hscoring.1.resolve_right fun hfallback => ?_
    cases hconclusive.symm.trans hfallback.conclusive
  · refine hzombie.1.resolve_left fun hdiagnosis => ?_
    cases hinconclusive.symm.trans hdiagnosis.conclusive

end Engine

end FaultDiagnosis
