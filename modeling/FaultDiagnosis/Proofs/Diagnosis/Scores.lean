import FaultDiagnosis.Diagnosis.Scoring

/-!
# What is behind a total

A clue takes note of its diagnosis whether its symptom is observed or not, so the totals list more
diagnoses than there is something to say for. These others have a total of zero, and that is how
they are told apart: behind every other total there is a clue for an observed symptom
(`FaultDiagnosis.Scoring.exists_clue_of_mem_scores`). Nothing is asked of the weights for this, and
doubles will do.
-/

namespace FaultDiagnosis.Scoring

variable {W : Type} [Weight W] {observed : IdSet}

/-! ### The outcome -/

theorem mem_of_foldl_better {ss : List (Score W)} {start : Option (Score W)} {s : Score W}
    (h : ss.foldl better start = some s) : start = some s ∨ s ∈ ss := by
  induction ss generalizing start with
  | nil => exact Or.inl h
  | cons t ss ih =>
    rcases ih h with hbetter | hs
    · cases start with
      | none =>
        rw [better, Option.some.injEq] at hbetter
        exact Or.inr (hbetter ▸ List.mem_cons_self)
      | some best =>
        rw [better] at hbetter
        split at hbetter
        · exact Or.inl hbetter
        · obtain rfl := Option.some.inj hbetter
          exact Or.inr List.mem_cons_self
    · exact Or.inr (List.mem_cons_of_mem _ hs)

/-- The best score is one of the scores. -/
theorem mem_of_best {ss : List (Score W)} {s : Score W} (h : best ss = some s) : s ∈ ss :=
  (mem_of_foldl_better h).resolve_left nofun

/-- **What scoring can come to**: the best score is high enough and it is the verdict, or there is
none, or one that is too low, and the fallback has to do. -/
theorem evaluate_cases (threshold : W) (kb : KnowledgeBase W) (observed : IdSet) :
    (∃ s, best (scores kb observed) = some s ∧ isTooLow threshold s.total = false ∧
        evaluate threshold kb observed = verdict kb observed s) ∨
      ((∀ s, best (scores kb observed) = some s → isTooLow threshold s.total = true) ∧
        evaluate threshold kb observed = Fallback.evaluate kb observed) := by
  rw [evaluate]
  cases hbest : best (scores kb observed) with
  | none => exact Or.inr ⟨nofun, rfl⟩
  | some s =>
    cases hlow : isTooLow threshold s.total with
    | true =>
      refine Or.inr ⟨fun t ht => ?_, by simp [hlow]⟩
      rw [← Option.some.inj ht, hlow]
    | false => exact Or.inl ⟨s, rfl, hlow, by simp [hlow]⟩

/-- Without a diagnosis it is the fallback that answers. -/
theorem evaluate_of_not_conclusive {threshold : W} {kb : KnowledgeBase W}
    (h : (evaluate threshold kb observed).conclusive = false) :
    evaluate threshold kb observed = Fallback.evaluate kb observed := by
  rcases evaluate_cases threshold kb observed with ⟨s, -, -, heq⟩ | ⟨-, heq⟩
  · rw [heq] at h
    cases h
  · exact heq

/-! ### The clues behind a score -/

/-- **Grounded scores**: every total is zero, or one of the clues counts for it. -/
def Grounded (observed : IdSet) (cs : List (Clue W)) (ss : List (Score W)) : Prop :=
  ∀ s ∈ ss, s.total = 0 ∨ ∃ c ∈ cs, c.diagnosis = s.diagnosis ∧ c.symptom ∈ observed

/-- Adding to the total of a diagnosis leaves the other scores alone, and taking note of it leaves
all totals as they are. -/
theorem mem_addTo {diagnosis : String} {weight : Option W} {ss : List (Score W)} {s : Score W}
    (h : s ∈ addTo diagnosis weight ss) :
    s ∈ ss ∨ s.diagnosis = diagnosis ∧ (weight = none → s.total = 0) := by
  induction ss with
  | nil =>
    obtain rfl := List.mem_singleton.mp h
    refine Or.inr ⟨rfl, ?_⟩
    rintro rfl
    rfl
  | cons t ss ih =>
    rw [addTo] at h
    split at h
    · rename_i hdiagnosis
      rcases List.mem_cons.mp h with rfl | hs
      · cases weight with
        | none => exact Or.inl List.mem_cons_self
        | some w => exact Or.inr ⟨hdiagnosis, nofun⟩
      · exact Or.inl (List.mem_cons_of_mem _ hs)
    · rcases List.mem_cons.mp h with rfl | hs
      · exact Or.inl List.mem_cons_self
      · exact (ih hs).imp_left (List.mem_cons_of_mem _)

/-- **The step**: scores stay grounded when one of the clues is taken into account. -/
theorem Grounded.tally {cs : List (Clue W)} {ss : List (Score W)} (h : Grounded observed cs ss)
    {c : Clue W} (hc : c ∈ cs) : Grounded observed cs (tally observed ss c) := by
  intro s hs
  rcases mem_addTo hs with hs | ⟨hdiagnosis, hnone⟩
  · exact h s hs
  · by_cases hobserved : c.symptom ∈ observed
    · exact Or.inr ⟨c, hc, hdiagnosis.symm, hobserved⟩
    · exact Or.inl (hnone (if_neg fun hcontains => hobserved (IdSet.contains_iff.mp hcontains)))

/-- **All steps**: so they do for any number of them. -/
theorem Grounded.foldl_tally {cs taken : List (Clue W)} {ss : List (Score W)}
    (h : Grounded observed cs ss) (htaken : ∀ c ∈ taken, c ∈ cs) :
    Grounded observed cs (taken.foldl (Scoring.tally observed) ss) := by
  induction taken generalizing ss with
  | nil => exact h
  | cons c taken ih =>
    obtain ⟨hc, htaken⟩ := List.forall_mem_cons.mp htaken
    exact ih (h.tally hc) htaken

omit [Weight W] in
theorem mem_contributing_iff {kb : KnowledgeBase W} {diagnosis : String} {c : Clue W} :
    c ∈ contributing kb observed diagnosis ↔
      c ∈ kb.clues ∧ c.diagnosis = diagnosis ∧ c.symptom ∈ observed := by
  rw [contributing, List.mem_filter, Bool.and_eq_true, decide_eq_true_eq, IdSet.contains_iff]

/-- **Behind every total but zero there is a clue for an observed symptom.** -/
theorem exists_clue_of_mem_scores {kb : KnowledgeBase W} {s : Score W}
    (hs : s ∈ scores kb observed) (htotal : s.total ≠ 0) :
    ∃ c, c ∈ contributing kb observed s.diagnosis := by
  have hnone : Grounded observed kb.clues [] := fun _ hs => absurd hs List.not_mem_nil
  have hgrounded : Grounded observed kb.clues (scores kb observed) :=
    hnone.foldl_tally fun _ hc => hc
  obtain ⟨c, hc, hdiagnosis, hobserved⟩ := (hgrounded s hs).resolve_left htotal
  exact ⟨c, mem_contributing_iff.mpr ⟨hc, hdiagnosis, hobserved⟩⟩

end FaultDiagnosis.Scoring
