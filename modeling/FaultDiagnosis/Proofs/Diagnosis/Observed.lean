import FaultDiagnosis.Proofs.Diagnosis.Conclusive
import Mathlib.Data.List.Find

/-!
# What of an observation is looked at

Rules, clues and hints mention symptoms, and they look at an observation only there. In closed
knowledge all of these symptoms are known. So two observations that agree on what is known
(`FaultDiagnosis.IdSet.AgreeOn`) come to the same diagnosis, or both come to none
(`FaultDiagnosis.Strategy.evaluate_congr`). In the second case they even get the same advice, as
long as each of them has two symptoms (`FaultDiagnosis.Fallback.advice_congr`): with fewer, the
number of symptoms itself is looked at.

An observation agrees with what is known of it (`FaultDiagnosis.KnowledgeBase.known`). With full
coverage all of this fails, because a rule then has to explain the unknown symptoms as well.
-/

namespace FaultDiagnosis

variable {W : Type}

/-! ### Sets that agree -/

namespace IdSet

/-- **Two sets agree on identifiers**: each of these is in both sets or in neither. -/
def AgreeOn (ids : List String) (s t : IdSet) : Prop :=
  ∀ id ∈ ids, id ∈ s ↔ id ∈ t

variable {ids : List String} {s t u : IdSet}

theorem AgreeOn.mono (h : AgreeOn ids s t) {fewer : List String} (hfewer : ∀ id ∈ fewer, id ∈ ids) :
    AgreeOn fewer s t :=
  fun id hid => h id (hfewer id hid)

theorem AgreeOn.contains_eq (h : AgreeOn ids s t) {id : String} (hid : id ∈ ids) :
    s.contains id = t.contains id := by
  rw [Bool.eq_iff_iff, contains_iff, contains_iff]
  exact h id hid

theorem AgreeOn.isSubset_eq (h : AgreeOn u.toList s t) : u.isSubset s = u.isSubset t := by
  rw [Bool.eq_iff_iff, isSubset_iff, isSubset_iff]
  exact forall₂_congr h

theorem AgreeOn.isDisjoint_eq (h : AgreeOn u.toList s t) : u.isDisjoint s = u.isDisjoint t := by
  rw [Bool.eq_iff_iff, isDisjoint_iff, isDisjoint_iff]
  exact forall₂_congr fun id hid => not_congr (h id hid)

theorem AgreeOn.inter_eq (h : AgreeOn u.toList s t) : u.inter s = u.inter t := by
  ext id
  rw [mem_inter, mem_inter]
  exact and_congr_right (h id)

end IdSet

/-! ### Rules -/

namespace Rule

variable {r : Rule} {o o' : IdSet}

theorem isSatisfied_congr (h : IdSet.AgreeOn r.referencedIds o o') :
    r.isSatisfied o = r.isSatisfied o' := by
  have hpositive : IdSet.AgreeOn r.positive.toList o o' := h.mono fun _ => List.mem_append_left _
  have hnegative : IdSet.AgreeOn r.negative.toList o o' := h.mono fun _ => List.mem_append_right _
  rw [isSatisfied, isSatisfied, hpositive.isSubset_eq, hnegative.isDisjoint_eq]

theorem matched_congr (h : IdSet.AgreeOn r.referencedIds o o') :
    r.positive.inter o = r.positive.inter o' :=
  (h.mono fun _ => List.mem_append_left _).inter_eq

theorem rank_congr (h : IdSet.AgreeOn r.referencedIds o o') : r.rank o = r.rank o' := by
  rw [rank, rank, coverage, coverage, matched_congr h]

end Rule

variable {kb : KnowledgeBase W} {o o' : IdSet}

namespace RuleSelection

/-- **The same rule is selected**, unless full coverage is asked for. -/
theorem select_congr (hclosed : kb.IsClosed) (h : IdSet.AgreeOn kb.ids o o') :
    select false kb o = select false kb o' := by
  have hmentioned : ∀ r ∈ kb.rules, IdSet.AgreeOn r.referencedIds o o' := fun r hr =>
    h.mono (hclosed.rules r hr)
  -- the same rules may win, and among them the ranks are the same
  have hcandidates :
      kb.rules.filter (isCandidate false o) = kb.rules.filter (isCandidate false o') := by
    refine List.filter_congr fun r hr => ?_
    rw [isCandidate, isCandidate, Rule.isSatisfied_congr (hmentioned r hr)]
    rfl
  rw [select_eq_argmax, select_eq_argmax, hcandidates]
  exact argmax_congr fun r hr => Rule.rank_congr (hmentioned r (List.mem_of_mem_filter hr))

theorem evaluate_congr (hclosed : kb.IsClosed) (h : IdSet.AgreeOn kb.ids o o') :
    evaluate false kb o = evaluate false kb o' ∨
      (evaluate false kb o = Fallback.evaluate kb o ∧
        evaluate false kb o' = Fallback.evaluate kb o') := by
  have hselect := select_congr hclosed h
  rw [evaluate, evaluate, ← hselect]
  cases hr : select false kb o with
  | none => exact Or.inr ⟨rfl, rfl⟩
  | some r =>
    have hmentioned : IdSet.AgreeOn r.referencedIds o o' :=
      h.mono (hclosed.rules r (of_select_eq_some hr).1)
    refine Or.inl ?_
    simp only [verdict, Rule.matched_congr hmentioned]

end RuleSelection

/-! ### Clues -/

namespace Scoring

variable [Weight W]

/-- **All totals are the same.** -/
theorem scores_congr (hclosed : kb.IsClosed) (h : IdSet.AgreeOn kb.ids o o') :
    scores kb o = scores kb o' := by
  refine List.foldl_ext _ _ _ fun ss c hc => ?_
  rw [tally, tally, h.contains_eq (hclosed.clues c hc)]

omit [Weight W] in
theorem verdict_congr (hclosed : kb.IsClosed) (h : IdSet.AgreeOn kb.ids o o') (s : Score W) :
    verdict kb o s = verdict kb o' s := by
  have hclues : contributing kb o s.diagnosis = contributing kb o' s.diagnosis := by
    refine List.filter_congr fun c hc => ?_
    rw [h.contains_eq (hclosed.clues c hc)]
  simp only [verdict, hclues]

theorem evaluate_congr (hclosed : kb.IsClosed) (h : IdSet.AgreeOn kb.ids o o') (threshold : W) :
    evaluate threshold kb o = evaluate threshold kb o' ∨
      (evaluate threshold kb o = Fallback.evaluate kb o ∧
        evaluate threshold kb o' = Fallback.evaluate kb o') := by
  rw [evaluate, evaluate, ← scores_congr hclosed h]
  cases best (scores kb o) with
  | none => exact Or.inr ⟨rfl, rfl⟩
  | some s =>
    cases hlow : isTooLow threshold s.total with
    | true => exact Or.inr ⟨by simp only [hlow, if_true], by simp only [hlow, if_true]⟩
    | false =>
      refine Or.inl ?_
      simp only [hlow, Bool.false_eq_true, if_false]
      exact verdict_congr hclosed h s

end Scoring

/-- **What is not known has no part in a diagnosis.** From two observations that agree on what is
known, a strategy comes to the same verdict, or it leaves both to the fallback. -/
theorem Strategy.evaluate_congr [Weight W] (hclosed : kb.IsClosed) (h : IdSet.AgreeOn kb.ids o o')
    (strategy : Strategy) {settings : InferenceSettings W} (hfull : settings.fullCoverage = false) :
    strategy.evaluate settings kb o = strategy.evaluate settings kb o' ∨
      (strategy.evaluate settings kb o = Fallback.evaluate kb o ∧
        strategy.evaluate settings kb o' = Fallback.evaluate kb o') := by
  cases strategy with
  | rules =>
    rw [Strategy.evaluate, Strategy.evaluate, hfull]
    exact RuleSelection.evaluate_congr hclosed h
  | scoring => exact Scoring.evaluate_congr hclosed h settings.threshold

/-! ### Hints -/

theorem CombinationHint.fits_congr {c : CombinationHint}
    (h : IdSet.AgreeOn c.referencedIds o o') : c.fits o = c.fits o' := by
  have hall : IdSet.AgreeOn c.all.toList o o' := h.mono fun _ hid =>
    List.mem_append_left _ (List.mem_append_left _ hid)
  have hany : IdSet.AgreeOn c.any.toList o o' := h.mono fun _ hid =>
    List.mem_append_left _ (List.mem_append_right _ hid)
  have hnone : IdSet.AgreeOn c.none.toList o o' := h.mono fun _ => List.mem_append_right _
  rw [fits, fits, hall.isSubset_eq, hany.isDisjoint_eq, hnone.isDisjoint_eq]

namespace Fallback

/-- With two symptoms, an observation is not empty. -/
theorem isEmpty_of_two_le (h : 2 ≤ o.size) : o.isEmpty = false := by
  rw [IdSet.isEmpty, List.isEmpty_eq_false_iff, ← List.length_pos_iff, ← IdSet.size]
  omega

/-- Hints for single symptoms are for observations of only one. -/
theorem singleHint?_of_two_le (h : 2 ≤ o.size) : singleHint? kb o = none := by
  unfold singleHint?
  split
  · rename_i id hone
    rw [IdSet.size, hone, List.length_singleton] at h
    omega
  · rfl

theorem combinationHint?_congr (hclosed : kb.IsClosed) (h : IdSet.AgreeOn kb.ids o o')
    (ho : 2 ≤ o.size) (ho' : 2 ≤ o'.size) : combinationHint? kb o = combinationHint? kb o' := by
  have hfind : kb.combinationHints.find? (·.fits o) = kb.combinationHints.find? (·.fits o') := by
    refine List.find?_congr fun c hc => ?_
    exact CombinationHint.fits_congr (h.mono (hclosed.combinationHints c hc))
  rw [combinationHint?, combinationHint?, isEmpty_of_two_le ho, isEmpty_of_two_le ho', hfind]

/-- **The advice is the same as well**, with two symptoms or more. -/
theorem advice_congr (hclosed : kb.IsClosed) (h : IdSet.AgreeOn kb.ids o o') (ho : 2 ≤ o.size)
    (ho' : 2 ≤ o'.size) : advice kb o = advice kb o' := by
  rw [advice, advice, singleHint?_of_two_le ho, singleHint?_of_two_le ho',
    combinationHint?_congr hclosed h ho ho', generalAdvice, generalAdvice, isEmpty_of_two_le ho,
    isEmpty_of_two_le ho']

end Fallback

/-! ### What is known of an observation -/

/-- **What is known of an observation**: the observed symptoms that the knowledge base has. -/
def KnowledgeBase.known (kb : KnowledgeBase W) (observed : IdSet) : IdSet :=
  observed.filter kb.hasSymptom

namespace KnowledgeBase

variable {observed : IdSet} {id : String}

theorem mem_known_iff : id ∈ kb.known observed ↔ id ∈ observed ∧ id ∈ kb.ids := by
  rw [known, IdSet.mem_filter, hasSymptom_iff]

/-- An observation agrees with what is known of it. -/
theorem agreeOn_known (kb : KnowledgeBase W) (observed : IdSet) :
    IdSet.AgreeOn kb.ids observed (kb.known observed) := by
  intro id hid
  rw [mem_known_iff]
  exact (and_iff_left hid).symm

theorem size_known_le (kb : KnowledgeBase W) (observed : IdSet) :
    (kb.known observed).size ≤ observed.size :=
  List.length_filter_le _ _

theorem mem_unknownIds_iff : id ∈ kb.unknownIds observed ↔ id ∈ observed ∧ id ∉ kb.ids := by
  rw [unknownIds, List.mem_filter, Bool.not_eq_true', hasSymptom_eq_false_iff]
  rfl

/-- The unknown identifiers of an observation are those that are left. -/
theorem mem_unknownIds_iff_not_mem_known :
    id ∈ kb.unknownIds observed ↔ id ∈ observed ∧ ¬id ∈ kb.known observed := by
  rw [mem_unknownIds_iff, mem_known_iff, not_and]
  exact and_congr_right fun hid => ⟨fun h _ => h, fun h => h hid⟩

theorem pairwise_unknownIds (kb : KnowledgeBase W) (observed : IdSet) :
    (kb.unknownIds observed).Pairwise (· < ·) :=
  observed.sorted.filter _

end KnowledgeBase

end FaultDiagnosis
