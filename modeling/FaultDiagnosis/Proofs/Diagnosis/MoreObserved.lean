import FaultDiagnosis.Proofs.Diagnosis.FullCoverage
import FaultDiagnosis.Proofs.Diagnosis.Totals

/-!
# When more is observed

A user who goes on looking finds further symptoms. Scoring only gains by them: the same clues are
gone through, and a clue that counted before counts again. So the table of totals has the same
entries in the same order, and no entry has become smaller (`FaultDiagnosis.Scoring.Aligned`). A
clue keeps two tables aligned, whether it counts for both, for the second alone or for neither
(`FaultDiagnosis.Scoring.Aligned.tally`). Another diagnosis may come to lead, but what leads has no
less than what led before (`FaultDiagnosis.Scoring.evaluate_mono`).

Rules are different, because a negative condition is met by what is *not* observed: with more
symptoms, some candidates drop out while others come in. What a rule is ranked by stays the same as
long as it is a candidate at all, since then all of its positive conditions are observed, and so
their number is all that counts (`FaultDiagnosis.Rule.beats_iff_standsAbove`). Therefore a selected
rule that none of the further symptoms speaks against is given up only for a rule that stands above
it; and this one was waiting for one of the further symptoms
(`FaultDiagnosis.RuleSelection.select_of_more_observed`).
-/

namespace FaultDiagnosis

variable {W : Type} {o o' : IdSet}

/-! ### Scoring -/

namespace Scoring

open ExactWeight (value)

variable [ExactWeight W] {kb : KnowledgeBase W} {threshold : W} {ss ss' : List (Score W)}

/-- **Tables side by side**: they list the same diagnoses in the same order, and no total of the
first one is above its neighbour in the second. -/
def Aligned (ss ss' : List (Score W)) : Prop :=
  List.Forall₂ (fun s s' => s'.diagnosis = s.diagnosis ∧ value s.total ≤ value s'.total) ss ss'

/-- What is added to a total, if anything is. -/
def added (weight : Option W) : ℚ :=
  weight.elim 0 value

theorem value_elim_add (weight : Option W) (total : W) :
    value (weight.elim total (total + ·)) = value total + added weight := by
  cases weight with
  | none => exact (add_zero _).symm
  | some w => exact ExactWeight.value_add total w

/-- Tables stay aligned when the second one is added no less to. -/
theorem Aligned.addTo (h : Aligned ss ss') (diagnosis : String) {weight weight' : Option W}
    (hle : added weight ≤ added weight') :
    Aligned (addTo diagnosis weight ss) (addTo diagnosis weight' ss') := by
  induction h with
  | nil =>
    refine .cons ⟨rfl, ?_⟩ .nil
    change value (weight.elim (0 : W) (0 + ·)) ≤ value (weight'.elim (0 : W) (0 + ·))
    rw [value_elim_add, value_elim_add]
    exact add_le_add_right hle _
  | @cons s s' ss ss' hs hrest ih =>
    obtain ⟨hdiagnosis, htotal⟩ := hs
    rw [Scoring.addTo, Scoring.addTo, hdiagnosis]
    by_cases hfound : s.diagnosis = diagnosis
    · rw [if_pos hfound, if_pos hfound]
      refine .cons ⟨rfl, ?_⟩ hrest
      change value (weight.elim s.total (s.total + ·)) ≤
          value (weight'.elim s'.total (s'.total + ·))
      rw [value_elim_add, value_elim_add]
      exact add_le_add htotal hle
    · rw [if_neg hfound, if_neg hfound]
      exact .cons ⟨hdiagnosis, htotal⟩ ih

/-- **The step**: a positive clue keeps tables aligned. If it counts at all with fewer observed
symptoms, it counts with more. -/
theorem Aligned.tally (h : Aligned ss ss') (hmore : ∀ id ∈ o, id ∈ o') {c : Clue W}
    (hc : Weight.isPositive c.weight = true) : Aligned (tally o ss c) (tally o' ss' c) := by
  refine h.addTo c.diagnosis ?_
  by_cases hobserved : c.symptom ∈ o
  · rw [if_pos (IdSet.contains_iff.mpr hobserved),
      if_pos (IdSet.contains_iff.mpr (hmore c.symptom hobserved))]
  · rw [if_neg (mt IdSet.contains_iff.mp hobserved)]
    split
    · exact (ExactWeight.isPositive_iff.mp hc).le
    · exact le_rfl

/-- **All steps**: so do any number of them. -/
theorem Aligned.foldl_tally (hmore : ∀ id ∈ o, id ∈ o') {cs : List (Clue W)}
    (hcs : ∀ c ∈ cs, Weight.isPositive c.weight = true) (h : Aligned ss ss') :
    Aligned (cs.foldl (Scoring.tally o) ss) (cs.foldl (Scoring.tally o') ss') := by
  induction cs generalizing ss ss' with
  | nil => exact h
  | cons c cs ih =>
    obtain ⟨hc, hcs⟩ := List.forall_mem_cons.mp hcs
    exact ih hcs (h.tally hmore hc)

/-- Aligned tables raise scores. -/
theorem Aligned.raises (h : Aligned ss ss') : Raises ss ss' := by
  induction h with
  | nil => exact .refl []
  | @cons s s' ss ss' hs hrest ih =>
    intro t ht
    rcases List.mem_cons.mp ht with rfl | ht
    · exact ⟨s', List.mem_cons_self, hs⟩
    · obtain ⟨t', ht', hle⟩ := ih t ht
      exact ⟨t', List.mem_cons_of_mem _ ht', hle⟩

/-- **The confidence is the greatest total.** -/
theorem exists_greatest_of_conclusive (h : (evaluate threshold kb o).conclusive = true) :
    ∃ s ∈ scores kb o, (∀ t ∈ scores kb o, value t.total ≤ value s.total) ∧
      (evaluate threshold kb o).confidence = some s.total := by
  rcases evaluate_cases threshold kb o with ⟨s, hbest, -, heq⟩ | ⟨-, heq⟩
  · rw [best_eq_argmax] at hbest
    refine ⟨s, List.argmax_mem hbest, fun t ht => ?_, by rw [heq]; rfl⟩
    exact List.le_of_mem_argmax (f := fun s : Score W => value s.total) ht hbest
  · rw [heq] at h
    cases h

/-- **Scoring is monotone in the evidence.** All clues weigh something, and nothing is lost of what
was observed. Then the tables of totals are aligned, and what was conclusive stays conclusive, with
at least the confidence that it had. -/
theorem evaluate_mono (threshold : W)
    (hpositive : ∀ c ∈ kb.clues, Weight.isPositive c.weight = true) (hmore : ∀ id ∈ o, id ∈ o') :
    Aligned (scores kb o) (scores kb o') ∧
      ((evaluate threshold kb o).conclusive = true →
        (evaluate threshold kb o').conclusive = true ∧
          ∃ x x', (evaluate threshold kb o).confidence = some x ∧
            (evaluate threshold kb o').confidence = some x' ∧ value x ≤ value x') := by
  have haligned : Aligned (scores kb o) (scores kb o') :=
    Aligned.foldl_tally hmore hpositive List.Forall₂.nil
  refine ⟨haligned, fun hconclusive => ?_⟩
  have hconclusive' : (evaluate threshold kb o').conclusive = true :=
    haligned.raises.conclusive hconclusive
  obtain ⟨s, hs, -, hconfidence⟩ := exists_greatest_of_conclusive hconclusive
  obtain ⟨t, -, hgreatest, hconfidence'⟩ := exists_greatest_of_conclusive hconclusive'
  obtain ⟨s', hs', -, hle⟩ := haligned.raises s hs
  exact ⟨hconclusive', s.total, t.total, hconfidence, hconfidence', hle.trans (hgreatest s' hs')⟩

/-- A clue that did not count before gives another diagnosis the lead. -/
theorem evaluate_mono_smell :
    let kb : KnowledgeBase Points := { clues := [⟨"fan", "The fan is blocked", ⟨2⟩, .shipped⟩,
      ⟨"smell", "The power supply is worn", ⟨3⟩, .shipped⟩] }
    let fan : IdSet := .ofList ["fan"]
    let both : IdSet := .ofList ["fan", "smell"]
    (∀ c ∈ kb.clues, Weight.isPositive c.weight = true) ∧ (∀ id ∈ fan, id ∈ both) ∧
      Aligned (scores kb fan) (scores kb both) ∧
      (evaluate ⟨1⟩ kb fan).diagnosis = "The fan is blocked" ∧
      (evaluate ⟨1⟩ kb both).diagnosis = "The power supply is worn" ∧
      ∃ x x', (evaluate ⟨1⟩ kb fan).confidence = some x ∧
        (evaluate ⟨1⟩ kb both).confidence = some x' ∧ value x ≤ value x' := by
  intro kb fan both
  have hpositive : ∀ c ∈ kb.clues, Weight.isPositive c.weight = true := by decide +kernel
  have hmore : ∀ id ∈ fan, id ∈ both := IdSet.isSubset_iff.mp (by decide +kernel)
  obtain ⟨haligned, hverdict⟩ := evaluate_mono ⟨1⟩ hpositive hmore
  obtain ⟨-, hconfidence⟩ := hverdict (by decide +kernel)
  exact ⟨hpositive, hmore, haligned, by decide +kernel, by decide +kernel, hconfidence⟩

end Scoring

/-! ### Rules -/

namespace Rule

/-- **The rule at one place stands above the rule at another place**, whatever is observed. Each
reason counts only where those before it make no difference. -/
inductive StandsAbove (place : ℕ) (r : Rule) (place' : ℕ) (s : Rule) : Prop
  /-- It has more conditions, or as many and more positive ones. -/
  | standing (h : s.standing < r.standing)
  /-- It was shipped, and the other one was contributed. -/
  | shipped (hstanding : s.standing = r.standing) (h : r.origin = .shipped ∧ s.origin = .user)
  /-- It was loaded earlier. -/
  | earlier (hstanding : s.standing = r.standing) (horigin : s.origin = r.origin)
    (h : place < place')

variable {r s : Rule} {place place' : ℕ}

/-- **Between satisfied rules, it does not matter what else is observed.** -/
theorem beats_iff_standsAbove (hr : r.isSatisfied o = true) (hs : s.isSatisfied o = true) :
    Beats o place r place' s ↔ StandsAbove place r place' s := by
  have hstanding : s.standing = r.standing ↔
      s.positive.size + s.negative.size = r.positive.size + r.negative.size ∧
        (s.positive.inter o).size = (r.positive.inter o).size := by
    rw [standing, standing, toLex_inj, Prod.mk.injEq, inter_of_isSatisfied hr,
      inter_of_isSatisfied hs]
  have hlt : s.standing < r.standing ↔
      s.positive.size + s.negative.size < r.positive.size + r.negative.size ∨
        s.positive.size + s.negative.size = r.positive.size + r.negative.size ∧
          (s.positive.inter o).size < (r.positive.inter o).size := by
    rw [standing, standing, Prod.Lex.toLex_lt_toLex, inter_of_isSatisfied hr,
      inter_of_isSatisfied hs]
  constructor
  · rintro (h | ⟨hconditions, h⟩ | ⟨hconditions, hobserved, h⟩ | ⟨hmerits, h⟩)
    · exact .standing (hlt.mpr (Or.inl h))
    · exact .standing (hlt.mpr (Or.inr ⟨hconditions, h⟩))
    · exact .shipped (hstanding.mpr ⟨hconditions, hobserved⟩) h
    · obtain ⟨hconditions, hrest⟩ := Prod.mk.inj hmerits
      obtain ⟨hobserved, horigin⟩ := Prod.mk.inj hrest
      exact .earlier (hstanding.mpr ⟨hconditions, hobserved⟩) horigin h
  · rintro (h | ⟨hstand, h⟩ | ⟨hstand, horigin, h⟩)
    · rcases hlt.mp h with h | ⟨hconditions, h⟩
      · exact .moreSpecific h
      · exact .moreObserved hconditions h
    · obtain ⟨hconditions, hobserved⟩ := hstanding.mp hstand
      exact .shipped hconditions hobserved h
    · obtain ⟨hconditions, hobserved⟩ := hstanding.mp hstand
      exact .earlier (by rw [merits, merits, hconditions, hobserved, horigin]) h

end Rule

namespace RuleSelection

variable {fullCoverage : Bool} {kb : KnowledgeBase W} {place place' : ℕ} {r s w : Rule}

theorem Candidate.isSatisfied (h : Candidate fullCoverage kb o place r) : r.isSatisfied o = true :=
  isSatisfied_of_isCandidate (candidate_iff.mp h).2

/-- A candidate stays one when more is observed, unless that speaks against it. -/
theorem Candidate.more (h : Candidate false kb o place r) (hmore : ∀ id ∈ o, id ∈ o')
    (habsent : ∀ id ∈ r.negative, ¬id ∈ o') : Candidate false kb o' place r :=
  ⟨h.loaded, fun id hid => hmore id (h.present id hid), habsent, nofun⟩

/-- A candidate was one before, if it does not want any of the further symptoms. -/
theorem Candidate.fewer (h : Candidate false kb o' place r) (hmore : ∀ id ∈ o, id ∈ o')
    (hpresent : ∀ id ∈ r.positive, id ∈ o) : Candidate false kb o place r :=
  ⟨h.loaded, hpresent, fun id hid hid' => h.absent id hid (hmore id hid'), nofun⟩

/-- **Whatever beats a former winner wants one of the further symptoms.** -/
theorem Wins.exists_further (h : Wins false kb o place w) (hmore : ∀ id ∈ o, id ∈ o')
    (hw : w.isSatisfied o' = true) (hs : Candidate false kb o' place' s)
    (hplace : place' ≠ place) (hbeats : s.Beats o' place' place w) :
    ∃ id ∈ s.positive, ¬id ∈ o := by
  by_contra hnone
  have hpresent : ∀ id ∈ s.positive, id ∈ o := fun id hid =>
    not_not.mp fun hid' => hnone ⟨id, hid, hid'⟩
  have hformer : Candidate false kb o place' s := hs.fewer hmore hpresent
  -- then the former winner had beaten it, and what they are compared by is the same now
  have hlost := h.beats place' s hformer hplace
  rw [Rule.beats_iff_standsAbove h.candidate.isSatisfied hformer.isSatisfied,
    ← Rule.beats_iff_standsAbove hw hs.isSatisfied] at hlost
  exact hlost.not_beats hbeats

/-- **A selected rule is given up only for a rule above it**, if none of the further symptoms is one
of its negative conditions. More is observed, and full coverage is not asked for. Then rules are
conclusive still. What is selected is the same rule, or one that stands above it and wants one of
the further symptoms. -/
theorem select_of_more_observed (hmore : ∀ id ∈ o, id ∈ o')
    (hselect : select false kb o = some w) (habsent : ∀ id ∈ w.negative, ¬id ∈ o') :
    (evaluate false kb o').conclusive = true ∧
      ∃ place w' place', Wins false kb o place w ∧ Wins false kb o' place' w' ∧
        select false kb o' = some w' ∧
        (place' = place ∧ w' = w ∨
          w'.StandsAbove place' place w ∧ ∃ id ∈ w'.positive, ¬id ∈ o) := by
  obtain ⟨place, hwins⟩ := exists_wins_of_select hselect
  have hcandidate : Candidate false kb o' place w := hwins.candidate.more hmore habsent
  obtain ⟨hw, hmay⟩ := exists_candidate_iff.mp ⟨place, hcandidate⟩
  obtain ⟨w', hselect', -⟩ := exists_select hw hmay
  obtain ⟨place', hwins'⟩ := exists_wins_of_select hselect'
  refine ⟨conclusive_iff.mpr ⟨w, hw, hmay⟩, place, w', place', hwins, hwins', hselect', ?_⟩
  by_cases hplace : place' = place
  · subst hplace
    have hsame := hwins'.candidate.loaded.symm.trans hcandidate.loaded
    exact Or.inl ⟨rfl, Option.some.inj hsame⟩
  · have hbeats := hwins'.beats place w hcandidate (Ne.symm hplace)
    refine Or.inr ⟨?_, ?_⟩
    · exact (Rule.beats_iff_standsAbove hwins'.candidate.isSatisfied hcandidate.isSatisfied).mp
        hbeats
    · exact hwins.exists_further hmore hcandidate.isSatisfied hwins'.candidate hplace hbeats

/-- A rule that also wants the smell takes over. It was contributed, but it has as many conditions
and more positive ones. -/
theorem select_of_more_observed_smell :
    let blocked : Rule := ⟨.ofList ["fan"], .ofList ["smoke"], "The fan is blocked", .shipped⟩
    let worn : Rule := ⟨.ofList ["fan", "smell"], ∅, "The power supply is worn", .user⟩
    let kb : KnowledgeBase ℕ := { rules := [blocked, worn] }
    let fan : IdSet := .ofList ["fan"]
    let both : IdSet := .ofList ["fan", "smell"]
    (∀ id ∈ fan, id ∈ both) ∧ select false kb fan = some blocked ∧
      (∀ id ∈ blocked.negative, ¬id ∈ both) ∧ (evaluate false kb both).conclusive = true ∧
      ∃ place place', Wins false kb both place' worn ∧ select false kb both = some worn ∧
        worn.StandsAbove place' place blocked ∧ ∃ id ∈ worn.positive, ¬id ∈ fan := by
  intro blocked worn kb fan both
  have hmore : ∀ id ∈ fan, id ∈ both := IdSet.isSubset_iff.mp (by decide +kernel)
  have habsent : ∀ id ∈ blocked.negative, ¬id ∈ both := IdSet.isDisjoint_iff.mp (by decide +kernel)
  have hselect : select false kb fan = some blocked := by decide +kernel
  have hselect' : select false kb both = some worn := by decide +kernel
  obtain ⟨hconclusive, place, w', place', -, hwins', hw', hcases⟩ :=
    select_of_more_observed hmore hselect habsent
  obtain rfl : worn = w' := Option.some.inj (hselect'.symm.trans hw')
  refine ⟨hmore, hselect, habsent, hconclusive, place, place', hwins', hw', ?_⟩
  rcases hcases with ⟨-, heq⟩ | hcases
  · exact absurd heq (by decide +kernel)
  · exact hcases

-- smoke is what speaks against the first rule, and with it there is nothing left to select
example :
    let blocked : Rule := ⟨.ofList ["fan"], .ofList ["smoke"], "The fan is blocked", .shipped⟩
    (evaluate false ({ rules := [blocked] } : KnowledgeBase ℕ)
      (.ofList ["fan", "smoke"])).conclusive = false := by
  decide +kernel

end RuleSelection

end FaultDiagnosis
