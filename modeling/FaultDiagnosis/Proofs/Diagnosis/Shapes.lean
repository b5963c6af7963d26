import FaultDiagnosis.Diagnosis.Engine
import FaultDiagnosis.Proofs.Diagnosis.Scores
import FaultDiagnosis.Proofs.Diagnosis.Selection
import FaultDiagnosis.Proofs.Knowledge.WellMade

/-!
# The two shapes of a verdict

A verdict has eight parts, and three places in the program fill them in. All the same there are only
two kinds of verdicts. Either a strategy has come to a diagnosis
(`FaultDiagnosis.Verdict.IsDiagnosis`): then there are symptoms that it rests on, all of them
observed and known. Or the fallback has answered (`FaultDiagnosis.Verdict.IsFallback`): then there
is advice, and nothing is claimed. A strategy over closed and well-made knowledge never ends in
between (`FaultDiagnosis.Strategy.isBacked_or_eq_fallback`).

That a diagnosis rests on something takes an argument in each strategy. A rule that is satisfied has
positive conditions. And the total of a score that is high enough is not zero, so that a clue counts
for it; here zero must not be above zero.
-/

namespace FaultDiagnosis

variable {W : Type}

/-- The part of the program that answers for a strategy. -/
def Strategy.resolver : Strategy → Resolver
  | rules => .rules
  | scoring => .scoring

/-! ### Shapes -/

namespace Verdict

/-- **A diagnosis** that a strategy has come to. -/
structure IsDiagnosis (v : Verdict W) (strategy : Strategy) (observed : IdSet) : Prop where
  conclusive : v.conclusive = true
  resolvedBy : v.resolvedBy = strategy.resolver
  origin : v.origin = some .shipped ∨ v.origin = some .user
  confidence : v.confidence.isSome = true ↔ strategy = .scoring
  advice : v.advice = none
  nonempty : ∃ id, id ∈ v.matched
  observed : ∀ id ∈ v.matched, id ∈ observed
  known : ∀ id ∈ v.matched, id ∉ v.unknown

/-- **An answer of the fallback.** -/
structure IsFallback (v : Verdict W) (observed : IdSet) : Prop where
  conclusive : v.conclusive = false
  resolvedBy : v.resolvedBy = .fallback
  diagnosis : v.diagnosis = "no definitive match"
  origin : v.origin = none
  confidence : v.confidence = none
  advice : ∃ advice, v.advice = some advice
  matched : v.matched = observed

variable {v : Verdict W} {strategy : Strategy} {observed : IdSet}

/-- Reporting unknown identifiers leaves a diagnosis one, as long as it does not rest on them. -/
theorem IsDiagnosis.withUnknown (h : v.IsDiagnosis strategy observed) {unknown : List String}
    (hknown : ∀ id ∈ v.matched, id ∉ unknown) :
    { v with unknown := unknown }.IsDiagnosis strategy observed where
  conclusive := h.conclusive
  resolvedBy := h.resolvedBy
  origin := h.origin
  confidence := h.confidence
  advice := h.advice
  nonempty := h.nonempty
  observed := h.observed
  known := hknown

end Verdict

/-- Whatever unknown identifiers are reported with it, the answer of the fallback is one. -/
theorem Fallback.isFallback_evaluate (kb : KnowledgeBase W) (observed : IdSet)
    (unknown : List String) :
    { Fallback.evaluate kb observed with unknown := unknown }.IsFallback observed :=
  ⟨rfl, rfl, rfl, rfl, rfl, ⟨_, rfl⟩, rfl⟩

theorem Origin.some_cases (o : Origin) : some o = some .shipped ∨ some o = some .user := by
  cases o with
  | shipped => exact Or.inl rfl
  | user => exact Or.inr rfl

/-- **A diagnosis that users contributed**: a rule or a clue of a user has it. -/
def KnowledgeBase.HasFromUser (kb : KnowledgeBase W) (diagnosis : String) : Prop :=
  (∃ r ∈ kb.rules, r.origin = .user ∧ r.diagnosis = diagnosis) ∨
    ∃ c ∈ kb.clues, c.origin = .user ∧ c.diagnosis = diagnosis

/-- **A diagnosis with the knowledge behind it**: it rests on symptoms of the knowledge base, and if
it is said to be from users, one of them has contributed it. -/
structure Verdict.IsBacked (v : Verdict W) (strategy : Strategy) (observed : IdSet)
    (kb : KnowledgeBase W) : Prop where
  diagnosis : v.IsDiagnosis strategy observed
  matched : ∀ id ∈ v.matched, id ∈ kb.ids
  contributed : v.origin = some .user → kb.HasFromUser v.diagnosis

variable {kb : KnowledgeBase W} {observed : IdSet}

/-! ### Rules -/

namespace RuleSelection

/-- The verdict of a satisfied rule rests on its positive conditions. -/
theorem isDiagnosis_verdict {r : Rule} (hsensible : r.IsSensible)
    (hsatisfied : r.isSatisfied observed = true) :
    (verdict observed r : Verdict W).IsDiagnosis .rules observed where
  conclusive := rfl
  resolvedBy := rfl
  origin := r.origin.some_cases
  confidence := by simp [verdict]
  advice := rfl
  nonempty := by
    obtain ⟨id, hid⟩ := hsensible.wanted
    have hsubset : r.positive.isSubset observed = true := (Bool.and_eq_true_iff.mp hsatisfied).1
    exact ⟨id, IdSet.mem_inter.mpr ⟨hid, IdSet.isSubset_iff.mp hsubset id hid⟩⟩
  observed := fun _ hid => (IdSet.mem_inter.mp hid).2
  known := fun _ _ => List.not_mem_nil

/-- **Rules end in a diagnosis or with the fallback.** -/
theorem isBacked_or_eq_fallback (hclosed : kb.IsClosed) (hsensible : ∀ r ∈ kb.rules, r.IsSensible)
    (fullCoverage : Bool) :
    (evaluate fullCoverage kb observed).IsBacked .rules observed kb ∨
      evaluate fullCoverage kb observed = Fallback.evaluate kb observed := by
  rw [evaluate]
  cases hselect : select fullCoverage kb observed with
  | none => exact Or.inr rfl
  | some r =>
    obtain ⟨hr, hcandidate⟩ := of_select_eq_some hselect
    refine Or.inl ⟨?_, ?_, ?_⟩
    · exact isDiagnosis_verdict (hsensible r hr) (isSatisfied_of_isCandidate hcandidate)
    · intro id hid
      have hpositive : id ∈ r.positive := (IdSet.mem_inter.mp hid).1
      exact hclosed.rules r hr id (List.mem_append_left _ hpositive)
    · intro horigin
      exact Or.inl ⟨r, hr, Option.some.inj horigin, rfl⟩

end RuleSelection

/-! ### Clues -/

namespace Scoring

theorem mem_matched_iff {s : Score W} {id : String} : id ∈ (verdict kb observed s).matched ↔
    ∃ c ∈ contributing kb observed s.diagnosis, c.symptom = id := by
  rw [verdict, IdSet.mem_ofList, List.mem_map]

/-- The verdict for a score rests on the symptoms of the clues that count for it. -/
theorem isDiagnosis_verdict {s : Score W}
    (hclue : ∃ c, c ∈ contributing kb observed s.diagnosis) :
    (verdict kb observed s).IsDiagnosis .scoring observed where
  conclusive := rfl
  resolvedBy := rfl
  origin := Origin.some_cases _
  confidence := by simp [verdict]
  advice := rfl
  nonempty := by
    obtain ⟨c, hc⟩ := hclue
    exact ⟨c.symptom, mem_matched_iff.mpr ⟨c, hc, rfl⟩⟩
  observed := by
    intro id hid
    obtain ⟨c, hc, rfl⟩ := mem_matched_iff.mp hid
    exact (mem_contributing_iff.mp hc).2.2
  known := fun _ _ => List.not_mem_nil

/-- Knowledge counts as a user's exactly if one of the clues is. -/
theorem originOf_eq_user_iff {cs : List (Clue W)} :
    originOf cs = .user ↔ ∃ c ∈ cs, c.origin = .user := by
  unfold originOf
  split
  · rename_i hany
    obtain ⟨c, hc, horigin⟩ := List.any_eq_true.mp hany
    exact iff_of_true rfl ⟨c, hc, of_decide_eq_true horigin⟩
  · rename_i hany
    refine iff_of_false nofun ?_
    rintro ⟨c, hc, horigin⟩
    exact hany (List.any_eq_true.mpr ⟨c, hc, decide_eq_true horigin⟩)

variable [Weight W]

theorem isTooLow_zero (hzero : Weight.atMost (0 : W) 0 = true) (threshold : W) :
    isTooLow threshold 0 = true := by
  rw [isTooLow, hzero, Bool.true_or]

/-- Behind a best score that is high enough there is a clue for an observed symptom. -/
theorem exists_clue_of_best (hzero : Weight.atMost (0 : W) 0 = true) {threshold : W} {s : Score W}
    (hbest : best (scores kb observed) = some s) (hlow : isTooLow threshold s.total = false) :
    ∃ c, c ∈ contributing kb observed s.diagnosis := by
  refine exists_clue_of_mem_scores (mem_of_best hbest) fun htotal => ?_
  -- a total of zero would be too low
  rw [htotal, isTooLow_zero hzero] at hlow
  cases hlow

/-- **Scoring ends in a diagnosis or with the fallback.** -/
theorem isBacked_or_eq_fallback (hclosed : kb.IsClosed) (hzero : Weight.atMost (0 : W) 0 = true)
    (threshold : W) :
    (evaluate threshold kb observed).IsBacked .scoring observed kb ∨
      evaluate threshold kb observed = Fallback.evaluate kb observed := by
  rcases evaluate_cases threshold kb observed with ⟨s, hbest, hlow, heq⟩ | ⟨-, heq⟩
  · rw [heq]
    refine Or.inl ⟨?_, ?_, ?_⟩
    · exact isDiagnosis_verdict (exists_clue_of_best hzero hbest hlow)
    · intro id hid
      obtain ⟨c, hc, rfl⟩ := mem_matched_iff.mp hid
      exact hclosed.clues c (mem_contributing_iff.mp hc).1
    · intro horigin
      obtain ⟨c, hc, huser⟩ := originOf_eq_user_iff.mp (Option.some.inj horigin)
      obtain ⟨hmem, hdiagnosis, -⟩ := mem_contributing_iff.mp hc
      exact Or.inr ⟨c, hmem, huser, hdiagnosis⟩
  · exact Or.inr heq

end Scoring

/-- **Every strategy ends in a diagnosis with something behind it, or with the fallback.** -/
theorem Strategy.isBacked_or_eq_fallback [Weight W] (hclosed : kb.IsClosed) (hwell : kb.IsWellMade)
    (hzero : Weight.atMost (0 : W) 0 = true) (strategy : Strategy)
    (settings : InferenceSettings W) (observed : IdSet) :
    (strategy.evaluate settings kb observed).IsBacked strategy observed kb ∨
      strategy.evaluate settings kb observed = Fallback.evaluate kb observed := by
  cases strategy with
  | rules => exact RuleSelection.isBacked_or_eq_fallback hclosed hwell.rules settings.fullCoverage
  | scoring => exact Scoring.isBacked_or_eq_fallback hclosed hzero settings.threshold

end FaultDiagnosis
