import FaultDiagnosis.Proofs.Diagnosis.Observed
import FaultDiagnosis.Proofs.Engine.Reachable

/-!
# Unknown identifiers do not influence a diagnosis

A client may send any identifiers as observed symptoms, among them such as no symptom has. The
engine reports them and otherwise looks only at the known ones
(`FaultDiagnosis.Engine.evaluate_known`): had the client left the unknown ones out, the diagnosis
would have been the same. What makes this so is that the knowledge of a reachable engine is closed,
and therefore has nothing to say about a symptom that it does not know.

Two things do depend on how many identifiers were sent. An inconclusive verdict repeats them all,
and its advice is a different one for no symptom, for a single one and for several. And full
coverage has to be off: a rule that must explain every observed symptom fails on an unknown one.
-/

namespace FaultDiagnosis

/-- **The same diagnosis**, for the same reasons. What an inconclusive verdict has for a reason is
only what was observed, and this does not count. -/
structure Verdict.SameDiagnosis {W : Type} (v v' : Verdict W) : Prop where
  diagnosis : v.diagnosis = v'.diagnosis
  conclusive : v.conclusive = v'.conclusive
  confidence : v.confidence = v'.confidence
  origin : v.origin = v'.origin
  resolvedBy : v.resolvedBy = v'.resolvedBy
  matched : v.conclusive = true → v.matched = v'.matched

variable {W : Type} [Weight W]

namespace Engine

/-- The verdict of an engine is that of a strategy on what the engine knows, but for the unknown
identifiers. -/
theorem evaluate_eq (e : Engine W) (observed : IdSet) (strategy : Option Strategy) :
    e.evaluate observed strategy =
      { (strategy.getD e.settings.defaultStrategy).evaluate e.settings e.merged observed with
        unknown := e.merged.unknownIds observed } :=
  rfl

variable [WeightNotation W] {store : Store W} {e : Engine W}

/-- **Unknown identifiers do not influence a diagnosis.** An engine can be reached from any store,
and full coverage is off. Whatever is observed, and by either strategy, the diagnosis is the one for
what is known of it. If that are at least two symptoms, the advice is the same too. And the unknown
identifiers of the verdict are the others that were observed, in increasing order. -/
theorem evaluate_known (h : ReachableFrom store e) (hfull : e.settings.fullCoverage = false)
    (observed : IdSet) (strategy : Option Strategy) :
    (e.evaluate observed strategy).SameDiagnosis
        (e.evaluate (e.merged.known observed) strategy) ∧
      (2 ≤ (e.merged.known observed).size →
        (e.evaluate observed strategy).advice =
          (e.evaluate (e.merged.known observed) strategy).advice) ∧
      (∀ id, id ∈ (e.evaluate observed strategy).unknown ↔
        id ∈ observed ∧ ¬id ∈ e.merged.known observed) ∧
      (e.evaluate observed strategy).unknown.Pairwise (· < ·) := by
  have hclosed : e.merged.IsClosed := h.isClosed
  have hagree := e.merged.agreeOn_known observed
  have hunknown : ∀ id, id ∈ e.merged.unknownIds observed ↔
      id ∈ observed ∧ ¬id ∈ e.merged.known observed := fun _ =>
    KnowledgeBase.mem_unknownIds_iff_not_mem_known
  have hsorted := e.merged.pairwise_unknownIds observed
  rw [evaluate_eq, evaluate_eq]
  rcases Strategy.evaluate_congr hclosed hagree (strategy.getD e.settings.defaultStrategy) hfull
    with heq | ⟨hleft, hright⟩
  · rw [heq]
    exact ⟨⟨rfl, rfl, rfl, rfl, rfl, fun _ => rfl⟩, fun _ => rfl, hunknown, hsorted⟩
  · rw [hleft, hright]
    refine ⟨⟨rfl, rfl, rfl, rfl, rfl, nofun⟩, fun htwo => ?_, hunknown, hsorted⟩
    have htwo' : 2 ≤ observed.size := htwo.trans (e.merged.size_known_le observed)
    exact congrArg some (Fallback.advice_congr hclosed hagree htwo' htwo)

/-! ### An observation with an unknown identifier -/

/-- Of the three identifiers two are known. What nobody has heard of is reported, and the verdict is
that of the contributed rule all the same. -/
theorem evaluate_known_zombie :
    ReachableFrom hummingStore hummingEngine ∧ hummingEngine.settings.fullCoverage = false ∧
      hummingEngine.merged.known (.ofList ["hum", "on", "zombie"]) = .ofList ["hum", "on"] ∧
      (hummingEngine.evaluate (.ofList ["hum", "on", "zombie"]) none).SameDiagnosis
        (hummingEngine.evaluate (.ofList ["hum", "on"]) none) ∧
      (hummingEngine.evaluate (.ofList ["hum", "on"]) none).diagnosis =
        "The fan bearing is worn out" ∧
      (hummingEngine.evaluate (.ofList ["hum", "on", "zombie"]) none).unknown = ["zombie"] := by
  have hknown : hummingEngine.merged.known (.ofList ["hum", "on", "zombie"]) =
      .ofList ["hum", "on"] := by
    decide +kernel
  have hsame :=
    evaluate_known reachableFrom_hummingEngine rfl (.ofList ["hum", "on", "zombie"]) none
  rw [hknown] at hsame
  exact ⟨reachableFrom_hummingEngine, rfl, hknown, hsame.1, by decide +kernel, by decide +kernel⟩

end Engine

end FaultDiagnosis
