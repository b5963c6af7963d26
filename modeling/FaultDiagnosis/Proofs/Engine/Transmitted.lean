import FaultDiagnosis.Proofs.Diagnosis.Codec
import FaultDiagnosis.Proofs.Diagnosis.Totals
import FaultDiagnosis.Proofs.Engine.Reachable

/-!
# Verdicts that arrive

An engine's verdict is sent to a client as compact or as indented JSON. Only scoring gives a verdict
a confidence (`FaultDiagnosis.Strategy.confidence_eq_none`), so every other verdict arrives as it
was. A confidence is the sum of the weights of all clues that count. Each of them was checked to be
finite when it came in, but no check looks at their sum, and two weights of half the largest double
or more are enough for it to be infinite. So a verdict arrives as it was exactly if its confidence
is finite, and without its confidence if not (`FaultDiagnosis.Engine.evaluate_survives_iff`).
-/

namespace FaultDiagnosis

open Json (Reading)

/-- **Only scoring gives a confidence.** -/
theorem Strategy.confidence_eq_none {W : Type} [Weight W] {strategy : Strategy}
    {settings : InferenceSettings W} {kb : KnowledgeBase W} {observed : IdSet}
    (h : (strategy.evaluate settings kb observed).resolvedBy ≠ .scoring) :
    (strategy.evaluate settings kb observed).confidence = none := by
  cases strategy with
  | rules =>
    rw [evaluate, RuleSelection.evaluate]
    split
    · rfl
    · rfl
  | scoring =>
    rw [evaluate] at h ⊢
    rcases Scoring.evaluate_cases settings.threshold kb observed with ⟨s, -, -, heq⟩ | ⟨-, heq⟩
    · rw [heq] at h
      exact absurd rfl h
    · rw [heq]
      rfl

namespace Engine

/-- **A verdict survives exactly if its confidence is finite.** Whatever an engine knows and by
whichever strategy it comes to a verdict on whatever is observed: if the confidence of the verdict
is finite, and its numeral names it, or if there is none, the verdict is decoded from its compact
text and from its indented one as it was. If the confidence is not finite, it is decoded from both
without it. This can only happen to a verdict of scoring. -/
theorem evaluate_survives_iff (e : Engine Float) (observed : IdSet) (strategy : Option Strategy)
    (hread : ∀ w : Float, w ∈ (e.evaluate observed strategy).confidence → w.isFinite = true →
      (WeightNotation.write w).map (WeightNotation.read (W := Float)) = some w) :
    ((e.evaluate observed strategy).Survives ↔
        ∀ w : Float, w ∈ (e.evaluate observed strategy).confidence → w.isFinite = true) ∧
      (∀ w : Float, w ∈ (e.evaluate observed strategy).confidence → w.isFinite = false →
        Verdict.decoder (Reading.ofText (e.evaluate observed strategy).toJson.compact) =
            .ok (e.evaluate observed strategy).withoutConfidence ∧
          Verdict.decoder (Reading.ofText (e.evaluate observed strategy).toJson.pretty) =
            .ok (e.evaluate observed strategy).withoutConfidence) ∧
      ((e.evaluate observed strategy).resolvedBy ≠ .scoring →
        (e.evaluate observed strategy).Survives) := by
  have hback : (e.evaluate observed strategy).ReadsBack := by
    intro w hw hwritten
    rw [WeightNotation.isWritten_eq_isFinite] at hwritten
    exact WeightNotation.readsBack_of_isFinite hwritten (hread w hw hwritten)
  have hsurvives := Verdict.survives_iff hback
  simp only [WeightNotation.isWritten_eq_isFinite] at hsurvives
  refine ⟨hsurvives, ?_, ?_⟩
  · intro w hw hinfinite
    rw [← WeightNotation.isWritten_eq_isFinite] at hinfinite
    rw [← Verdict.transmitted_eq_withoutConfidence hw hinfinite]
    exact Verdict.decoder_ofText hback
  · intro hresolved
    have hnone : (e.evaluate observed strategy).confidence = none :=
      Strategy.confidence_eq_none hresolved
    rw [hsurvives, hnone]
    exact nofun

/-! ### Two engines -/

/-- The confidence in the worn bearing is twelve points, and the verdict survives. -/
theorem evaluate_survives_iff_hum :
    (hummingEngine.evaluate (.ofList ["hum"]) (some .scoring)).confidence = some 12 ∧
      (hummingEngine.evaluate (.ofList ["hum"]) (some .scoring)).Survives := by
  have hconfidence : (hummingEngine.evaluate (.ofList ["hum"]) (some .scoring)).confidence =
      some 12 := by
    decide +kernel
  have hnumeral : ∀ w : Float, some 12 = some w →
      w.isFinite = true ∧ (WeightNotation.write w).map WeightNotation.read = some w := by
    rintro w ⟨⟩
    decide +kernel
  have hsurvives := evaluate_survives_iff hummingEngine (.ofList ["hum"]) (some .scoring)
  rw [hconfidence] at hsurvives
  have hboth := hsurvives fun w hw _ => (hnumeral w hw).2
  exact ⟨hconfidence, hboth.1.mpr fun w hw => (hnumeral w hw).1⟩

/-- A store with the record of a rule whose two clues weigh more than half the largest double. -/
def deafeningStore : Store Float :=
  .memory
    { knowledge := quietFanKnowledge
      records := [⟨⟨0, 0⟩, .rule ⟨.ofList ["hum"], ∅, "The fan bearing is worn out", .user⟩
        [⟨"hum", "The fan bearing is worn out", 1e308, .user⟩,
          ⟨"hum", "The fan bearing is worn out", 1e308, .user⟩]⟩] }

/-- The engine of that store. -/
def deafeningEngine : Engine Float where
  store := deafeningStore
  repository :=
    { shipped := quietFanKnowledge
      user :=
        { rules := [⟨.ofList ["hum"], ∅, "The fan bearing is worn out", .user⟩]
          clues := [⟨"hum", "The fan bearing is worn out", 1e308, .user⟩,
            ⟨"hum", "The fan bearing is worn out", 1e308, .user⟩] } }
  settings := lenientSettings

theorem reachableFrom_deafeningEngine : ReachableFrom deafeningStore deafeningEngine := by
  have hrepository : Repository.load deafeningStore = .ok deafeningEngine.repository := by
    decide +kernel
  have hload : Engine.load deafeningStore lenientSettings = .ok deafeningEngine :=
    load_eq_ok_iff.mpr ⟨hrepository, rfl, rfl⟩
  exact .load hload

/-- Its verdict on the hum. -/
def deafeningVerdict : Verdict Float :=
  deafeningEngine.evaluate (.ofList ["hum"]) (some .scoring)

/-- **Two weights may be too much.** All clues have finite and positive weights, and the verdict has
a confidence. It is decoded from either of its texts without it. -/
theorem verdict_loses_confidence :
    ReachableFrom deafeningStore deafeningEngine ∧ deafeningStore.IsDocumented ∧
      (∀ c ∈ deafeningEngine.merged.clues, Weight.isPositive c.weight = true) ∧
      deafeningVerdict.resolvedBy = .scoring ∧ deafeningVerdict.confidence.isSome = true ∧
      Verdict.decoder (Reading.ofText deafeningVerdict.toJson.compact) =
        .ok deafeningVerdict.withoutConfidence ∧
      Verdict.decoder (Reading.ofText deafeningVerdict.toJson.pretty) =
        .ok deafeningVerdict.withoutConfidence ∧
      ¬deafeningVerdict.Survives := by
  have hconfidence : deafeningVerdict.confidence = some (1e308 + 1e308) := by decide +kernel
  have hwritten : WeightNotation.isWritten (1e308 + 1e308 : Float) = false := by decide +kernel
  have hback : deafeningVerdict.ReadsBack := by
    intro w hw hw'
    obtain rfl := Option.some.inj (hconfidence.symm.trans hw)
    cases hwritten.symm.trans hw'
  have hlost := Verdict.decoder_ofText hback
  rw [Verdict.transmitted_eq_withoutConfidence hconfidence hwritten] at hlost
  have hstore : deafeningStore.IsDocumented :=
    Store.isDocumented_memory isDocumented_quietFanKnowledge
  have hsome : deafeningVerdict.confidence.isSome = true := Option.isSome_of_eq_some hconfidence
  refine ⟨reachableFrom_deafeningEngine, hstore, by decide +kernel, by decide +kernel, hsome,
    hlost.1, hlost.2, ?_⟩
  intro hsurvives
  cases hwritten.symm.trans ((Verdict.survives_iff hback).mp hsurvives _ hconfidence)

end Engine

end FaultDiagnosis
