import FaultDiagnosis.Proofs.Diagnosis.Conclusive
import FaultDiagnosis.Proofs.Engine.Accepted

/-!
# What contributions do to verdicts

Users may contribute what they like, and the verdicts on what others observe may change with it.
This file says how far. A diagnosis never goes away: where there was one, there is one
(`FaultDiagnosis.Engine.evaluate_afterCalls`). And where a rule was selected, another one takes its
place only if it was contributed since and has a higher standing
(`FaultDiagnosis.Engine.select_afterCalls_of_ne`): it is more specific, or it is as specific and has
more positive conditions. Being shipped comes last in this order, so a contribution can prevail over
a shipped rule that is just as specific
(`FaultDiagnosis.Engine.contribution_beats_equally_specific`).

None of this depends on how an engine came to know what it knows, so it is stated of all engines.
-/

namespace FaultDiagnosis.Engine

open RuleSelection (select isCandidate)

variable {W : Type}

/-! ### Diagnoses last -/

section Lasting

variable [ExactWeight W]

/-- An engine that comes to no diagnosis gives the verdict of the fallback. -/
theorem evaluate_of_not_conclusive {e : Engine W} {observed : IdSet} {strategy : Option Strategy}
    (h : (e.evaluate observed strategy).conclusive = false) :
    e.evaluate observed strategy =
      { Fallback.evaluate e.merged observed with unknown := e.merged.unknownIds observed } := by
  rw [evaluate] at h ⊢
  rw [Strategy.evaluate_of_not_conclusive h]

variable [WeightNotation W]

/-- **Contributions never take a diagnosis away.** An engine with any knowledge and any settings
evaluates an observation, by either strategy, before and after a sequence of calls. If the first
verdict is conclusive, so is the second. If the second one is inconclusive, it is the first verdict
but for the unknown identifiers, and of these no new ones have come up. -/
theorem evaluate_afterCalls (e : Engine W) (calls : List (Call W)) (observed : IdSet)
    (strategy : Option Strategy) :
    ((e.evaluate observed strategy).conclusive = true →
        ((e.afterCalls calls).evaluate observed strategy).conclusive = true) ∧
      (((e.afterCalls calls).evaluate observed strategy).conclusive = false →
        (e.afterCalls calls).evaluate observed strategy =
            { e.evaluate observed strategy with
              unknown := ((e.afterCalls calls).evaluate observed strategy).unknown } ∧
          ((e.afterCalls calls).evaluate observed strategy).unknown.Sublist
            (e.evaluate observed strategy).unknown) := by
  have hlasts : (e.evaluate observed strategy).conclusive = true →
      ((e.afterCalls calls).evaluate observed strategy).conclusive = true := by
    intro h
    rw [evaluate, settings_afterCalls, merged_afterCalls]
    exact Strategy.conclusive_append (fun c hc => isPositive_of_mem_clues_acceptedAlong hc) h
  refine ⟨hlasts, fun h => ⟨?_, ?_⟩⟩
  · have hbefore : (e.evaluate observed strategy).conclusive = false :=
      Bool.eq_false_iff.mpr fun hbefore => Bool.false_ne_true (h.symm.trans (hlasts hbefore))
    -- both times it is the fallback that answers, and contributions bring it no hints
    have hfallback : Fallback.evaluate (e.afterCalls calls).merged observed =
        Fallback.evaluate e.merged observed := by
      rw [merged_afterCalls]
      exact Fallback.evaluate_congr KnowledgeBase.hints_append_ofItems
        KnowledgeBase.combinationHints_append_ofItems
    rw [evaluate_of_not_conclusive h, evaluate_of_not_conclusive hbefore, hfallback]
  · refine List.monotone_filter_right observed.toList fun id hid => ?_
    rw [Bool.not_eq_true', KnowledgeBase.hasSymptom_eq_false_iff] at hid ⊢
    exact mt (e.ids_subset_afterCalls calls) hid

end Lasting

/-! ### Only a better rule displaces a rule -/

section Displacing

variable [Weight W] [WeightNotation W] {e : Engine W} {calls : List (Call W)} {fullCoverage : Bool}
  {observed : IdSet} {w w' : Rule}

/-- **A rule is displaced only by a contribution of higher standing.** A rule is selected, and after
a sequence of calls it is another one. Then this one is among the rules contributed by these calls,
its origin is a user, and its standing is higher than that of the rule it displaces. Moreover its
standing is higher than that of any rule that may win and was known before, be it shipped or
contributed. -/
theorem select_afterCalls_of_ne (h : select fullCoverage e.merged observed = some w)
    (h' : select fullCoverage (e.afterCalls calls).merged observed = some w') (hne : w' ≠ w) :
    w' ∈ (KnowledgeBase.ofItems ((e.acceptedAlong calls).map Record.item)).rules ∧
      w'.origin = .user ∧ w.standing < w'.standing ∧
      ∀ r ∈ e.merged.rules, isCandidate fullCoverage observed r = true →
        r.standing < w'.standing := by
  rw [merged_afterCalls] at h'
  rcases RuleSelection.select_append_cases fullCoverage e.merged
    (.ofItems ((e.acceptedAlong calls).map Record.item)) observed with
    heq | ⟨v, hv, heq, hcandidate, hbefore⟩
  · rw [heq, h] at h'
    exact absurd (Option.some.inj h').symm hne
  · obtain rfl : v = w' := Option.some.inj (heq.symm.trans h')
    have horigin : v.origin = .user := origin_of_mem_rules_acceptedAlong hv
    have hstanding : ∀ r ∈ e.merged.rules, isCandidate fullCoverage observed r = true →
        r.standing < v.standing := fun r hr hr' =>
      Rule.standing_lt_of_rank_lt (RuleSelection.isSatisfied_of_isCandidate hr')
        (RuleSelection.isSatisfied_of_isCandidate hcandidate) horigin (hbefore r hr hr')
    obtain ⟨hw, hw'⟩ := RuleSelection.of_select_eq_some h
    exact ⟨hv, horigin, hstanding w hw hw', hstanding⟩

end Displacing

/-! ### A rule that is displaced -/

/-- A rule with one positive and one negative condition. -/
def silentRule : Rule :=
  ⟨.ofList ["no_power"], .ofList ["beeps"], "The power supply is broken", .shipped⟩

/-- A rule with two positive conditions. -/
def stuckRule : Rule :=
  ⟨.ofList ["no_power", "fan"], ∅, "The fan of the power supply is stuck", .user⟩

/-- A store that ships the first rule and the symptoms of both. -/
def silentStore : MemoryStore Float where
  knowledge :=
    { symptoms := [⟨"no_power", "PC does not power on", .hardware, .shipped⟩,
        ⟨"beeps", "Long beeps at power on", .hardware, .shipped⟩,
        ⟨"fan", "Fan does not turn", .hardware, .shipped⟩]
      rules := [silentRule] }

/-- The engine of that store. -/
def silentEngine : Engine Float where
  store := .memory silentStore
  repository := { shipped := silentStore.knowledge, user := ∅ }
  settings := { defaultStrategy := .rules, threshold := 10, fullCoverage := false }

/-- A user contributes the second rule. -/
def stuckCalls : List (Call Float) :=
  [.contribute ⟨0, 0⟩ (.rule stuckRule [])]

/-- What is observed: the positive conditions of both rules. -/
def stuckFan : IdSet :=
  .ofList ["no_power", "fan"]

theorem load_silentStore :
    load (.memory silentStore) silentEngine.settings = .ok silentEngine := by rfl

theorem select_silentEngine : select false silentEngine.merged stuckFan = some silentRule := by
  rfl

theorem select_afterCalls_stuckCalls :
    select false (silentEngine.afterCalls stuckCalls).merged stuckFan = some stuckRule := by
  rfl

theorem select_afterCalls_of_ne_stuck :
    load (.memory silentStore) silentEngine.settings = .ok silentEngine ∧
      select false silentEngine.merged stuckFan = some silentRule ∧
      select false (silentEngine.afterCalls stuckCalls).merged stuckFan = some stuckRule ∧
      stuckRule ≠ silentRule ∧
      stuckRule ∈
        (KnowledgeBase.ofItems ((silentEngine.acceptedAlong stuckCalls).map Record.item)).rules ∧
      stuckRule.origin = .user ∧ silentRule.standing < stuckRule.standing ∧
      ∀ r ∈ silentEngine.merged.rules, isCandidate false stuckFan r = true →
        r.standing < stuckRule.standing := by
  have hne : stuckRule ≠ silentRule := by decide
  exact ⟨load_silentStore, select_silentEngine, select_afterCalls_stuckCalls, hne,
    select_afterCalls_of_ne select_silentEngine select_afterCalls_stuckCalls hne⟩

/-- **A contribution can prevail over a shipped rule that is just as specific.** Both rules have two
conditions. The contributed one has more positive ones, and this counts before where a rule comes
from. -/
theorem contribution_beats_equally_specific :
    load (.memory silentStore) silentEngine.settings = .ok silentEngine ∧
      silentRule ∈ silentEngine.repository.shipped.rules ∧ silentRule.origin = .shipped ∧
      select false silentEngine.merged stuckFan = some silentRule ∧
      stuckRule ∈
        (KnowledgeBase.ofItems ((silentEngine.acceptedAlong stuckCalls).map Record.item)).rules ∧
      stuckRule.origin = .user ∧
      select false (silentEngine.afterCalls stuckCalls).merged stuckFan = some stuckRule ∧
      stuckRule.positive.size + stuckRule.negative.size =
        silentRule.positive.size + silentRule.negative.size := by
  have hcontributed : stuckRule ∈ (KnowledgeBase.ofItems
      ((silentEngine.acceptedAlong stuckCalls).map Record.item)).rules := by decide
  have hconditions : stuckRule.positive.size + stuckRule.negative.size =
      silentRule.positive.size + silentRule.negative.size := by
    decide
  exact ⟨load_silentStore, List.mem_cons_self, rfl, select_silentEngine, hcontributed, rfl,
    select_afterCalls_stuckCalls, hconditions⟩

end FaultDiagnosis.Engine
