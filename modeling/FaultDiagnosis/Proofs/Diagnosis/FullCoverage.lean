import FaultDiagnosis.Proofs.Diagnosis.Winner

/-!
# Full coverage asks for an exact match

With full coverage, a rule has to explain what was observed, as far as it is not one of its own
negative conditions. This exception is empty: a rule with a negative condition that is observed is
not satisfied. So what is left are the rules that match exactly, with the observed symptoms for
positive conditions (`FaultDiagnosis.RuleSelection.candidate_true_iff`). They differ in nothing but
their negative conditions, their origin and their place, and these decide among them
(`FaultDiagnosis.Rule.Beats.of_matches`).

The candidates with full coverage are some of those without. Fewer candidates can have another
winner, even one that was beaten before by a rule that explains less. But a winner that is still a
candidate still wins (`FaultDiagnosis.RuleSelection.Wins.of_candidate`), and so a winner that
matches exactly wins with full coverage and without it.
-/

namespace FaultDiagnosis

variable {W : Type} {observed : IdSet} {r s : Rule} {place place' : ℕ}

/-! ### Exact matches -/

namespace Rule

/-- **An exact match**: the positive conditions are what was observed, and no negative condition
is. -/
structure Matches (r : Rule) (observed : IdSet) : Prop where
  positive : r.positive = observed
  negative : ∀ id ∈ observed, ¬id ∈ r.negative

/-- **Of two exact matches, the one at the first place is better than the other.** Each reason
counts only where those before it make no difference. -/
inductive BeatsMatch (place : ℕ) (r : Rule) (place' : ℕ) (s : Rule) : Prop
  /-- It has more negative conditions. -/
  | moreNegative (h : s.negative.size < r.negative.size)
  /-- It was shipped, and the other one was contributed. -/
  | shipped (hnegative : s.negative.size = r.negative.size)
    (h : r.origin = .shipped ∧ s.origin = .user)
  /-- It was loaded earlier. -/
  | earlier (hnegative : s.negative.size = r.negative.size) (horigin : s.origin = r.origin)
    (h : place < place')

/-- **Exact matches have all observed symptoms in common**, and the rest decides. -/
theorem Beats.of_matches (h : Beats observed place r place' s) (hr : r.Matches observed)
    (hs : s.Matches observed) : BeatsMatch place r place' s := by
  have hpositive : s.positive = r.positive := hs.positive.trans hr.positive.symm
  rcases h with h | ⟨-, h⟩ | ⟨hconditions, -, h⟩ | ⟨hmerits, h⟩
  · rw [hpositive] at h
    exact .moreNegative (Nat.lt_of_add_lt_add_left h)
  · rw [hpositive] at h
    exact absurd h (lt_irrefl _)
  · rw [hpositive] at hconditions
    exact .shipped (Nat.add_left_cancel hconditions) h
  · obtain ⟨hconditions, hrest⟩ := Prod.mk.inj hmerits
    rw [hpositive] at hconditions
    exact .earlier (Nat.add_left_cancel hconditions) (Prod.mk.inj hrest).2 h

end Rule

/-! ### Candidates with full coverage -/

namespace RuleSelection

variable {fullCoverage : Bool} {kb : KnowledgeBase W} {w : Rule}

/-- **With full coverage, the candidates are the exact matches.** -/
theorem candidate_true_iff : Candidate true kb observed place r ↔
    kb.rules[place]? = some r ∧ r.Matches observed := by
  constructor
  · intro h
    have hnegative : ∀ id ∈ observed, ¬id ∈ r.negative := fun id hid hid' => h.absent id hid' hid
    refine ⟨h.loaded, IdSet.ext fun id => ⟨h.present id, fun hid => ?_⟩, hnegative⟩
    exact h.covering rfl id hid (hnegative id hid)
  · rintro ⟨hloaded, hpositive, hnegative⟩
    refine ⟨hloaded, ?_, fun id hid hid' => hnegative id hid' hid, fun _ id hid _ => ?_⟩
    · rw [hpositive]
      exact fun id hid => hid
    · rw [hpositive]
      exact hid

/-- Without full coverage, less is asked. -/
theorem Candidate.to_false (h : Candidate true kb observed place r) :
    Candidate false kb observed place r :=
  ⟨h.loaded, h.present, h.absent, nofun⟩

/-- **A winner without full coverage that is a candidate with it wins there as well.** -/
theorem Wins.of_candidate (h : Wins false kb observed place r)
    (hcandidate : Candidate true kb observed place r) : Wins true kb observed place r :=
  ⟨hcandidate, fun place' s hs hplace => h.beats place' s hs.to_false hplace⟩

theorem evaluate_of_select (h : select fullCoverage kb observed = some w) :
    evaluate fullCoverage kb observed = verdict observed w := by
  rw [evaluate, h]

/-- Where rules are conclusive, the verdict is that of the winner. -/
theorem exists_wins_of_conclusive (h : (evaluate fullCoverage kb observed).conclusive = true) :
    ∃ place w, Wins fullCoverage kb observed place w ∧
      evaluate fullCoverage kb observed = verdict observed w := by
  obtain ⟨r, hr, hcandidate⟩ := conclusive_iff.mp h
  obtain ⟨w, hselect, -⟩ := exists_select hr hcandidate
  obtain ⟨place, hwins⟩ := exists_wins_of_select hselect
  exact ⟨place, w, hwins, evaluate_of_select hselect⟩

/-- **With full coverage, rules are conclusive exactly if some rule matches exactly.** -/
theorem conclusive_true_iff :
    (evaluate true kb observed).conclusive = true ↔ ∃ r ∈ kb.rules, r.Matches observed := by
  rw [conclusive_iff]
  refine exists_congr fun r => ?_
  rw [← exists_candidate_iff]
  simp only [candidate_true_iff, exists_and_right, ← List.mem_iff_getElem?]

/-- What is conclusive with full coverage is conclusive without it. -/
theorem conclusive_false_of_true (h : (evaluate true kb observed).conclusive = true) :
    (evaluate false kb observed).conclusive = true := by
  obtain ⟨place, w, hwins, -⟩ := exists_wins_of_conclusive h
  obtain ⟨hw, hcandidate⟩ := exists_candidate_iff.mp ⟨place, hwins.candidate.to_false⟩
  exact conclusive_iff.mpr ⟨w, hw, hcandidate⟩

/-- **With full coverage, the verdict is that of the best exact match**, and it rests on everything
that was observed. -/
theorem exists_best_match (h : (evaluate true kb observed).conclusive = true) :
    ∃ place w, kb.rules[place]? = some w ∧ w.Matches observed ∧
      (∀ place' s, kb.rules[place']? = some s → s.Matches observed → place' ≠ place →
        Rule.BeatsMatch place w place' s) ∧
      evaluate true kb observed =
        { diagnosis := w.diagnosis
          matched := observed
          origin := some w.origin
          conclusive := true
          resolvedBy := .rules } := by
  obtain ⟨place, w, hwins, heq⟩ := exists_wins_of_conclusive h
  obtain ⟨hloaded, hw⟩ := candidate_true_iff.mp hwins.candidate
  refine ⟨place, w, hloaded, hw, fun place' s hs hmatches hplace => ?_, ?_⟩
  · have hcandidate := candidate_true_iff.mpr ⟨hs, hmatches⟩
    exact (hwins.beats place' s hcandidate hplace).of_matches hw hmatches
  · rw [heq, verdict, hw.positive, IdSet.inter_self]

/-- **A selected rule that wants what was observed is selected with full coverage as well.** -/
theorem select_true_of_positive (hselect : select false kb observed = some w)
    (hpositive : w.positive = observed) : select true kb observed = some w := by
  obtain ⟨place, hwins⟩ := exists_wins_of_select hselect
  have hmatches : w.Matches observed :=
    ⟨hpositive, fun id hid hid' => hwins.candidate.absent id hid' hid⟩
  have hcandidate : Candidate true kb observed place w :=
    candidate_true_iff.mpr ⟨hwins.candidate.loaded, hmatches⟩
  exact select_eq_some_iff_wins.mpr ⟨place, hwins.of_candidate hcandidate⟩

/-- **Full coverage means exact match.** With it, rules are conclusive exactly if some rule matches
exactly. The verdict is then that of the best of these rules, and it rests on everything that was
observed. Without full coverage, rules are conclusive as well; and where they select a rule whose
positive conditions are what was observed, the verdict is the same. -/
theorem evaluate_fullCoverage (kb : KnowledgeBase W) (observed : IdSet) :
    ((evaluate true kb observed).conclusive = true ↔ ∃ r ∈ kb.rules, r.Matches observed) ∧
      ((evaluate true kb observed).conclusive = true →
        (∃ place w, kb.rules[place]? = some w ∧ w.Matches observed ∧
            (∀ place' s, kb.rules[place']? = some s → s.Matches observed → place' ≠ place →
              Rule.BeatsMatch place w place' s) ∧
            evaluate true kb observed =
              { diagnosis := w.diagnosis
                matched := observed
                origin := some w.origin
                conclusive := true
                resolvedBy := .rules }) ∧
          (evaluate false kb observed).conclusive = true) ∧
      ∀ w, select false kb observed = some w → w.positive = observed →
        evaluate true kb observed = evaluate false kb observed := by
  refine ⟨conclusive_true_iff, fun h => ⟨exists_best_match h, conclusive_false_of_true h⟩, ?_⟩
  intro w hselect hpositive
  rw [evaluate_of_select hselect, evaluate_of_select (select_true_of_positive hselect hpositive)]

-- the rule with more conditions leaves the smell unexplained, so full coverage passes over it
example :
    let kb : KnowledgeBase ℕ := { rules :=
      [⟨.ofList ["fan"], .ofList ["beeps", "smoke"], "The fan is blocked", .shipped⟩,
        ⟨.ofList ["fan", "smell"], ∅, "The power supply is worn", .shipped⟩] }
    let observed : IdSet := .ofList ["fan", "smell"]
    (evaluate false kb observed).diagnosis = "The fan is blocked" ∧
      (evaluate true kb observed).diagnosis = "The power supply is worn" := by
  decide +kernel

end RuleSelection

end FaultDiagnosis
