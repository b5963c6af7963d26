import FaultDiagnosis.Proofs.Contribution.Acceptable
import FaultDiagnosis.Proofs.Diagnosis.Additive
import FaultDiagnosis.Proofs.Diagnosis.Selection
import FaultDiagnosis.Proofs.Engine.Reachable
import FaultDiagnosis.Proofs.Engine.Submission
import FaultDiagnosis.Proofs.Store.Taken

/-!
# An accepted rule takes effect at once

A user who contributes a rule can see at once what it does. On just the symptoms that the rule wants
present it may win, with full coverage or without, so that rules are conclusive there and select one
that is at least as specific (`FaultDiagnosis.RuleSelection.evaluate_positive`). With a weight it
comes with a clue for each of these symptoms, and the total of its diagnosis rises by the weight of
those that are observed (`FaultDiagnosis.RuleRequest.value_totalOf_append`). Scoring is conclusive
as soon as these weights alone reach the threshold, and for this no total may be below zero before
(`FaultDiagnosis.RuleRequest.conclusive_append`). In a reachable engine none is.
-/

namespace FaultDiagnosis

open ExactWeight (value)
open Scoring (contributing scores totalOf weightSum)

variable {W : Type}

/-! ### The rule -/

/-- **A sensible rule that is known makes rules conclusive on what it wants present.** -/
theorem RuleSelection.evaluate_positive {kb : KnowledgeBase W} {r : Rule} (hr : r ∈ kb.rules)
    (hsensible : r.IsSensible) (fullCoverage : Bool) :
    ∃ w, select fullCoverage kb r.positive = some w ∧
      r.positive.size + r.negative.size ≤ w.positive.size + w.negative.size ∧
      evaluate fullCoverage kb r.positive = verdict r.positive w := by
  obtain ⟨w, hselect, hrank⟩ := exists_select hr (isCandidate_positive hsensible fullCoverage)
  refine ⟨w, hselect, Rule.conditions_le_of_rank_le hrank, ?_⟩
  rw [evaluate, hselect]

/-! ### Its clues -/

namespace RuleRequest

variable {r : RuleRequest W} {weight : W}

/-- What the rule asked for brings along. -/
def addition (r : RuleRequest W) : KnowledgeBase W :=
  .ofItems [.rule r.wantedRule r.wantedClues]

@[simp] theorem rules_addition : r.addition.rules = [r.wantedRule] := rfl

@[simp] theorem clues_addition : r.addition.clues = r.wantedClues :=
  List.flatMap_singleton _ _

theorem contributing_addition (h : r.weight = some weight) (observed : IdSet) :
    contributing r.addition observed r.wantedRule.diagnosis =
      (r.wantedRule.positive.inter observed).toList.map fun id =>
        ⟨id, r.wantedRule.diagnosis, weight, .user⟩ := by
  have hclues : r.wantedClues = r.wantedRule.positive.toList.map fun id =>
      ⟨id, r.wantedRule.diagnosis, weight, .user⟩ := by
    rw [wantedClues, h]
  rw [contributing, clues_addition, hclues, List.filter_map]
  simp [Function.comp_def, IdSet.inter, IdSet.filter]

variable [ExactWeight W]

/-- **The weight counts once for every positive condition that is observed.** -/
theorem weightSum_contributing_addition (h : r.weight = some weight) (observed : IdSet) :
    weightSum (contributing r.addition observed r.wantedRule.diagnosis) =
      value weight * (r.wantedRule.positive.inter observed).size := by
  rw [contributing_addition h, weightSum, List.map_map, IdSet.size]
  simp [Function.comp_def, mul_comm]

/-- The total of the diagnosis grows by that. -/
theorem value_totalOf_append (kb : KnowledgeBase W) (h : r.weight = some weight)
    (observed : IdSet) :
    value (totalOf (scores (kb ++ r.addition) observed) r.wantedRule.diagnosis) =
      value (totalOf (scores kb observed) r.wantedRule.diagnosis) +
        value weight * (r.wantedRule.positive.inter observed).size := by
  rw [Scoring.value_totalOf_scores_append, weightSum_contributing_addition h]

/-- The other totals are what they were. -/
theorem totalOf_append_of_ne (kb : KnowledgeBase W) {diagnosis : String}
    (h : diagnosis ≠ r.wantedRule.diagnosis) (observed : IdSet) :
    totalOf (scores (kb ++ r.addition) observed) diagnosis =
      totalOf (scores kb observed) diagnosis := by
  have hclues : ∀ c ∈ r.addition.clues, c.diagnosis ≠ diagnosis := by
    intro c hc
    rw [clues_addition] at hc
    rw [(of_mem_wantedClues hc).2.1]
    exact h.symm
  rw [totalOf, totalOf, Scoring.score?_scores_append hclues]

/-- **Where the weights reach the threshold by themselves, scoring is conclusive.** -/
theorem conclusive_append {kb : KnowledgeBase W} {threshold : W}
    (hclues : ∀ c ∈ kb.clues, Weight.isPositive c.weight = true)
    (hsensible : r.wantedRule.IsSensible) (h : r.weight = some weight)
    (hweight : Weight.isPositive weight = true)
    (hreached : value threshold ≤ value weight * r.wantedRule.positive.size) :
    (Scoring.evaluate threshold (kb ++ r.addition) r.wantedRule.positive).conclusive = true := by
  have hbefore : 0 ≤ value (totalOf (scores kb r.wantedRule.positive) r.wantedRule.diagnosis) :=
    Scoring.value_totalOf_scores_nonneg hclues
  have hown : 0 < value weight * r.wantedRule.positive.size :=
    mul_pos (ExactWeight.isPositive_iff.mp hweight)
      (Nat.cast_pos.mpr (IdSet.size_pos_iff.mpr hsensible.wanted))
  have hafter := value_totalOf_append kb h r.wantedRule.positive
  rw [IdSet.inter_self] at hafter
  refine Scoring.conclusive_of_totalOf r.wantedRule.diagnosis ?_ ?_
  · rw [hafter]
    exact add_pos_of_nonneg_of_pos hbefore hown
  · rw [hafter]
    exact le_add_of_nonneg_of_le hbefore hreached

end RuleRequest

/-! ### An accepted rule -/

namespace Engine

variable [ExactWeight W] [WeightNotation W] {store : Store W} {e e' : Engine W} {now : Timestamp}
  {request : RuleRequest W} {record : Record W}

/-- **An accepted rule is known afterwards**: it makes sense, its weight is positive if it has one,
and it stands with its clues behind everything else. -/
theorem of_submit_rule_ok (h : e.submit now (.rule request) = (.ok record, e')) :
    request.wantedRule.IsSensible ∧ (∀ w ∈ request.weight, Weight.isPositive w = true) ∧
      e'.merged = e.merged ++ request.addition := by
  obtain ⟨item, hrequest, -, -, hmerged⟩ := of_submit_ok h
  obtain ⟨-, hsensible, hweighed, rfl⟩ := RuleRequest.contribution_eq_ok_iff.mp hrequest
  rw [RuleRequest.asUser_wanted, KnowledgeBase.add_eq_append] at hmerged
  exact ⟨hsensible, hweighed, hmerged⟩

/-- **An accepted rule takes effect at once.** An engine can be reached from a store whose knowledge
comes from a document, and it has accepted a request for a rule. On the positive conditions of this
rule, and with any settings, rules are conclusive then, and the rule selected has at least as many
conditions. If the request has a weight, the total of the diagnosis has grown by the weight of each
positive condition that is observed, all other totals are what they were, and on the positive
conditions scoring is conclusive if their weights alone reach the threshold. -/
theorem submit_rule_takes_effect (h : ReachableFrom store e) (hstore : store.IsDocumented)
    (haccepted : e.submit now (.rule request) = (.ok record, e')) :
    (∀ settings : InferenceSettings W, ∃ w,
        RuleSelection.select settings.fullCoverage e'.merged request.wantedRule.positive = some w ∧
          request.wantedRule.positive.size + request.wantedRule.negative.size ≤
            w.positive.size + w.negative.size ∧
          ({ e' with settings }.evaluate request.wantedRule.positive (some .rules)).diagnosis =
            w.diagnosis ∧
          ({ e' with settings }.evaluate request.wantedRule.positive (some .rules)).conclusive =
            true) ∧
      ∀ weight, request.weight = some weight →
        (∀ observed,
            value (totalOf (scores e'.merged observed) request.wantedRule.diagnosis) =
              value (totalOf (scores e.merged observed) request.wantedRule.diagnosis) +
                value weight * (request.wantedRule.positive.inter observed).size) ∧
          (∀ observed diagnosis, diagnosis ≠ request.wantedRule.diagnosis →
            totalOf (scores e'.merged observed) diagnosis =
              totalOf (scores e.merged observed) diagnosis) ∧
          ∀ settings : InferenceSettings W,
            value settings.threshold ≤ value weight * request.wantedRule.positive.size →
              ({ e' with settings }.evaluate request.wantedRule.positive
                (some .scoring)).conclusive = true := by
  obtain ⟨hsensible, hweighed, hmerged⟩ := of_submit_rule_ok haccepted
  refine ⟨fun settings => ?_, fun weight hweight => ⟨?_, ?_, ?_⟩⟩
  · have hknown : request.wantedRule ∈ e'.merged.rules := by
      rw [hmerged]
      exact List.mem_append_right _ (List.mem_singleton_self _)
    obtain ⟨w, hselect, hconditions, hverdict⟩ :=
      RuleSelection.evaluate_positive hknown hsensible settings.fullCoverage
    exact ⟨w, hselect, hconditions, congrArg Verdict.diagnosis hverdict,
      congrArg Verdict.conclusive hverdict⟩
  · rw [hmerged]
    exact RuleRequest.value_totalOf_append e.merged hweight
  · rw [hmerged]
    exact fun observed diagnosis hother => RuleRequest.totalOf_append_of_ne e.merged hother observed
  · intro settings hreached
    have hclues : ∀ c ∈ e.merged.clues, Weight.isPositive c.weight = true :=
      (h.isSound hstore).wellMade.clues
    have hconclusive := RuleRequest.conclusive_append hclues hsensible hweight
      (hweighed weight hweight) hreached
    rw [← hmerged] at hconclusive
    exact hconclusive

/-! ### A rule with a weight -/

/-- A document with a rule for one of the symptoms, and a clue for the diagnosis to come. -/
def rattleDocument : Document Points where
  symptoms := [⟨"hum", "Fan hums", "hardware"⟩, ⟨"rattle", "Fan rattles", "hardware"⟩]
  rules := [⟨"Fan is dusty", [], [], ["hum"]⟩]
  clues := [⟨"hum", "The fan bearing is worn out", ⟨3 / 2⟩⟩]
  singleSymptomHints := ∅
  combinationHints := []

/-- The knowledge of the document. -/
def rattleKnowledge : KnowledgeBase Points where
  symptoms := [⟨"hum", "Fan hums", .hardware, .shipped⟩,
    ⟨"rattle", "Fan rattles", .hardware, .shipped⟩]
  rules := [⟨.ofList ["hum"], ∅, "Fan is dusty", .shipped⟩]
  clues := [⟨"hum", "The fan bearing is worn out", ⟨3 / 2⟩, .shipped⟩]

/-- A store with that knowledge. -/
def rattleStore : Store Points :=
  .memory { knowledge := rattleKnowledge }

/-- The engine of that store. A single clue of the document is not enough for it. -/
def rattleEngine : Engine Points where
  store := rattleStore
  repository := { shipped := rattleKnowledge, user := ∅ }
  settings := { defaultStrategy := .scoring, threshold := ⟨4⟩, fullCoverage := true }

/-- A request for a rule with a weight. -/
def rattleRequest : RuleRequest Points where
  positive := ["rattle ", "hum", "rattle"]
  negative := []
  diagnosis := " The fan bearing is worn out"
  weight := some ⟨2⟩

theorem reachableFrom_rattleEngine : ReachableFrom rattleStore rattleEngine := by
  have hload : Engine.load rattleStore rattleEngine.settings = .ok rattleEngine := rfl
  exact .load hload

theorem isDocumented_rattleStore : rattleStore.IsDocumented := by
  have hliteral : Json.Reading.IsLiteral ⟨false, [1], [5], none⟩ := by
    refine ⟨by decide, ?_, nofun⟩
    rintro d ds ⟨⟩ -
    rfl
  have hweights : ∀ e ∈ rattleDocument.clues, WeightNotation.ReadsBack e.weight := by
    intro e he
    rw [List.mem_singleton.mp he]
    exact ⟨_, by decide +kernel, hliteral, by decide +kernel, by decide +kernel⟩
  exact Store.isDocumented_memory
    (Document.isDocumented_knowledge hweights (by decide +kernel))

/-- The rule is selected over the shipped one, with full coverage on. The hum alone has brought its
diagnosis one and a half points, and now brings it two more. -/
theorem submit_rule_takes_effect_rattle :
    ReachableFrom rattleStore rattleEngine ∧ rattleStore.IsDocumented ∧
      ∃ record e', rattleEngine.submit ⟨5, 0⟩ (.rule rattleRequest) = (.ok record, e') ∧
        (∃ w, RuleSelection.select true e'.merged rattleRequest.wantedRule.positive = some w ∧
          2 ≤ w.positive.size + w.negative.size) ∧
        value (totalOf (scores e'.merged (.ofList ["hum"])) "The fan bearing is worn out") =
          3 / 2 + 2 ∧
        ({ e' with settings := rattleEngine.settings }.evaluate rattleRequest.wantedRule.positive
          (some .scoring)).conclusive = true := by
  have hjudge : rattleEngine.repository.judge (.rule rattleRequest) =
      .ok (.rule rattleRequest.wantedRule rattleRequest.wantedClues) := by
    decide +kernel
  obtain ⟨e', haccepted, -⟩ :=
    exists_submit_of_judge_ok (Store.takesRecords_memory rfl) hjudge ⟨5, 0⟩
  obtain ⟨hrules, hscoring⟩ := submit_rule_takes_effect reachableFrom_rattleEngine
    isDocumented_rattleStore haccepted
  obtain ⟨w, hselect, hconditions, -⟩ := hrules rattleEngine.settings
  obtain ⟨hgrown, -, hconclusive⟩ := hscoring ⟨2⟩ rfl
  refine ⟨reachableFrom_rattleEngine, isDocumented_rattleStore, _, e', haccepted,
    ⟨w, hselect, ?_⟩, ?_, ?_⟩
  · have hsize : rattleRequest.wantedRule.positive.size + rattleRequest.wantedRule.negative.size =
        2 := by
      decide +kernel
    rwa [hsize] at hconditions
  · have hdiagnosis : rattleRequest.wantedRule.diagnosis = "The fan bearing is worn out" := by
      decide +kernel
    rw [← hdiagnosis, hgrown (.ofList ["hum"])]
    decide +kernel
  · exact hconclusive rattleEngine.settings (by decide +kernel)

end Engine

end FaultDiagnosis
