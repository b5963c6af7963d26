import FaultDiagnosis.Proofs.Diagnosis.Additive
import FaultDiagnosis.Proofs.Diagnosis.Shapes

/-!
# The table of totals

Scoring goes through the clues once and keeps a table. A clue enters its diagnosis at the end,
unless it is there already, and adds its weight, if its symptom is observed. What the table comes to
can be said without following these steps (`FaultDiagnosis.Scoring.Tabulates`): it lists the
diagnoses of the clues, each of them once, in the order in which the clues first mention them; and
beside each stands the sum of the weights that count for it. An entry never moves, and so a step
changes nothing about the order of what is there (`FaultDiagnosis.Scoring.Registers.tally`).

The verdict is read off the table. The score that leads is the first of the greatest ones
(`FaultDiagnosis.Scoring.Leads`), and if it is high enough, the clues that count for it are looked
up a second time to say what the verdict rests on (`FaultDiagnosis.Scoring.evaluate_by_table`).

Contributions are clues behind all others. A diagnosis that only they mention stands at the end of
the table, where it needs more than what stands before it to lead
(`FaultDiagnosis.Scoring.Leads.lt_of_later`).
-/

namespace FaultDiagnosis.Scoring

open ExactWeight (value)

variable {W : Type}

/-! ### The order of the diagnoses -/

/-- The diagnoses that a table lists. -/
def labels (ss : List (Score W)) : List String :=
  ss.map Score.diagnosis

/-- **The place of the first clue that mentions a diagnosis.** -/
def firstMention (cs : List (Clue W)) (diagnosis : String) : ℕ :=
  (cs.map Clue.diagnosis).idxOf diagnosis

/-- **Diagnoses as clues register them**: those that the clues mention, in the order in which they
are mentioned first. -/
structure Registers (cs : List (Clue W)) (ds : List String) : Prop where
  mentioned : ∀ d, d ∈ ds ↔ ∃ c ∈ cs, c.diagnosis = d
  ordered : ds.Pairwise fun d d' => firstMention cs d < firstMention cs d'

variable {cs more : List (Clue W)} {d : String}

theorem firstMention_lt (h : ∃ c ∈ cs, c.diagnosis = d) : firstMention cs d < cs.length := by
  rw [← List.length_map Clue.diagnosis]
  exact List.idxOf_lt_length_iff.mpr (List.mem_map.mpr h)

/-- More clues do not change where a diagnosis is mentioned first. -/
theorem firstMention_append_of_mem (h : ∃ c ∈ cs, c.diagnosis = d) :
    firstMention (cs ++ more) d = firstMention cs d := by
  rw [firstMention, List.map_append, List.idxOf_append_of_mem (List.mem_map.mpr h), firstMention]

/-- A diagnosis that the first clues do not mention is mentioned behind them. -/
theorem le_firstMention_append (h : ¬∃ c ∈ cs, c.diagnosis = d) :
    cs.length ≤ firstMention (cs ++ more) d := by
  rw [firstMention, List.map_append,
    List.idxOf_append_of_notMem fun hd => h (List.mem_map.mp hd), List.length_map]
  exact Nat.le_add_right ..

/-- In the order of first mention, nothing is listed twice. -/
theorem Registers.nodup {ds : List String} (h : Registers cs ds) : ds.Nodup := by
  refine h.ordered.imp fun {d d'} hlt => ?_
  rintro rfl
  exact lt_irrefl _ hlt

section Steps

variable [Weight W] {observed : IdSet} {ss : List (Score W)}

/-- Only a new diagnosis changes what is listed, and it comes last. -/
theorem labels_addTo (weight : Option W) (ss : List (Score W)) :
    labels (addTo d weight ss) = if d ∈ labels ss then labels ss else labels ss ++ [d] := by
  induction ss with
  | nil => rfl
  | cons s ss ih =>
    rw [addTo]
    split
    · rename_i hs
      have hmem : d ∈ labels (s :: ss) := List.mem_cons.mpr (Or.inl hs.symm)
      rw [if_pos hmem]
      rfl
    · rename_i hs
      have hmem : d ∈ labels (s :: ss) ↔ d ∈ labels ss :=
        List.mem_cons.trans (or_iff_right (Ne.symm hs))
      have hcons : labels (s :: addTo d weight ss) = s.diagnosis :: labels (addTo d weight ss) :=
        rfl
      rw [hcons, ih, if_congr hmem rfl rfl]
      split
      · rfl
      · rfl

/-- **The step**: a clue registers its diagnosis. -/
theorem Registers.tally (h : Registers cs (labels ss)) (c : Clue W) :
    Registers (cs ++ [c]) (labels (tally observed ss c)) := by
  have hmention : ∀ d, (∃ c' ∈ cs ++ [c], c'.diagnosis = d) ↔
      (∃ c' ∈ cs, c'.diagnosis = d) ∨ c.diagnosis = d := by
    intro d
    simp only [List.mem_append, List.mem_singleton, or_and_right, exists_or, exists_eq_left]
  -- what is listed already keeps its place among the clues, and so its place in the table
  have hordered : (labels ss).Pairwise fun d d' =>
      firstMention (cs ++ [c]) d < firstMention (cs ++ [c]) d' := by
    refine h.ordered.imp_of_mem fun {d d'} hd hd' hlt => ?_
    rwa [firstMention_append_of_mem ((h.mentioned d).mp hd),
      firstMention_append_of_mem ((h.mentioned d').mp hd')]
  rw [Scoring.tally, labels_addTo]
  by_cases hknown : c.diagnosis ∈ labels ss
  · rw [if_pos hknown]
    refine ⟨fun d => ?_, hordered⟩
    rw [hmention, ← h.mentioned]
    exact ⟨Or.inl, fun hd => hd.elim id fun heq => heq ▸ hknown⟩
  · rw [if_neg hknown]
    refine ⟨fun d => ?_, List.pairwise_append.mpr ⟨hordered, List.pairwise_singleton .., ?_⟩⟩
    · rw [hmention, ← h.mentioned, List.mem_append, List.mem_singleton, eq_comm]
    · intro d hd d' hd'
      obtain rfl := List.mem_singleton.mp hd'
      have hbefore := (h.mentioned d).mp hd
      have hbehind : cs.length ≤ firstMention (cs ++ [c]) c.diagnosis :=
        le_firstMention_append (mt (h.mentioned c.diagnosis).mpr hknown)
      rw [firstMention_append_of_mem hbefore]
      exact (firstMention_lt hbefore).trans_le hbehind

/-- **All steps**: the table lists the diagnoses as the clues register them. -/
theorem registers_scores (kb : KnowledgeBase W) (observed : IdSet) :
    Registers kb.clues (labels (scores kb observed)) := by
  rw [scores]
  induction kb.clues using List.reverseRecOn with
  | nil =>
    refine ⟨fun d => iff_of_false List.not_mem_nil ?_, List.Pairwise.nil⟩
    rintro ⟨c, hc, -⟩
    cases hc
  | append_singleton cs c ih =>
    rw [List.foldl_append]
    exact ih.tally c

end Steps

/-! ### What the table says -/

/-- In a table that lists nothing twice, every score is that of its diagnosis. -/
theorem score?_of_mem {ss : List (Score W)} (hnodup : (labels ss).Nodup) {s : Score W}
    (hs : s ∈ ss) : score? ss s.diagnosis = some s := by
  induction ss with
  | nil => cases hs
  | cons t ss ih =>
    obtain ⟨hnew, hnodup⟩ := List.nodup_cons.mp hnodup
    rcases List.mem_cons.mp hs with rfl | hs
    · exact List.find?_cons_of_pos (decide_eq_true rfl)
    · have hother : t.diagnosis ≠ s.diagnosis :=
        fun heq => hnew (List.mem_map.mpr ⟨s, hs, heq.symm⟩)
      rw [score?, List.find?_cons_of_neg (by simpa using hother)]
      exact ih hnodup hs

section Sums

variable [ExactWeight W] {observed : IdSet} {kb : KnowledgeBase W} {threshold : W}
  {ss before after : List (Score W)} {s : Score W}

/-- **The table of clues**: every diagnosis that they mention is listed once, in the order of first
mention, and beside it the sum of the weights of its clues for observed symptoms. -/
structure Tabulates (ss : List (Score W)) (cs : List (Clue W)) (observed : IdSet) : Prop where
  nodup : (labels ss).Nodup
  registers : Registers cs (labels ss)
  total : ∀ s ∈ ss, value s.total =
    weightSum (cs.filter fun c => c.diagnosis = s.diagnosis && observed.contains c.symptom)

/-- **Scoring tabulates the clues.** -/
theorem tabulates_scores (kb : KnowledgeBase W) (observed : IdSet) :
    Tabulates (scores kb observed) kb.clues observed := by
  have hregisters := registers_scores kb observed
  refine ⟨hregisters.nodup, hregisters, fun s hs => ?_⟩
  have hsum : value (totalOf (scores kb observed) s.diagnosis) =
      weightSum (contributing kb observed s.diagnosis) := value_totalOf_scores kb
  rw [totalOf, score?_of_mem hregisters.nodup hs] at hsum
  exact hsum

/-- **The score that leads**: the first one with the greatest total. -/
structure Leads (before : List (Score W)) (s : Score W) (after : List (Score W)) : Prop where
  above : ∀ t ∈ before, value t.total < value s.total
  notBelow : ∀ t ∈ after, value t.total ≤ value s.total

/-- Of all totals, that of the score that leads is the greatest. -/
theorem Leads.le (h : Leads before s after) {t : Score W} (ht : t ∈ before ++ s :: after) :
    value t.total ≤ value s.total := by
  rcases List.mem_append.mp ht with ht | ht
  · exact (h.above t ht).le
  · rcases List.mem_cons.mp ht with rfl | ht
    · exact le_rfl
    · exact h.notBelow t ht

/-- The score that leads is the best one. -/
theorem best_eq_some_iff :
    best ss = some s ↔ ∃ before after, ss = before ++ s :: after ∧ Leads before s after := by
  rw [best_eq_argmax, argmax_eq_some_iff_append]
  refine exists_congr fun before => exists_congr fun after => and_congr_right fun _ => ?_
  exact ⟨fun ⟨habove, hnotBelow⟩ => ⟨habove, hnotBelow⟩, fun h => ⟨h.above, h.notBelow⟩⟩

/-- **To lead with a diagnosis that only later clues mention takes more than any earlier diagnosis
has.** -/
theorem Leads.lt_of_later {earlier later : List (Clue W)} (h : Leads before s after)
    (htable : Tabulates (before ++ s :: after) (earlier ++ later) observed)
    (hnew : ∀ c ∈ earlier, c.diagnosis ≠ s.diagnosis) {t : Score W}
    (ht : t ∈ before ++ s :: after) (hearlier : ∃ c ∈ earlier, c.diagnosis = t.diagnosis) :
    value t.total < value s.total := by
  have hbehind : earlier.length ≤ firstMention (earlier ++ later) s.diagnosis :=
    le_firstMention_append fun ⟨c, hc, heq⟩ => hnew c hc heq
  have hbefore : firstMention (earlier ++ later) t.diagnosis < earlier.length := by
    rw [firstMention_append_of_mem hearlier]
    exact firstMention_lt hearlier
  rcases List.mem_append.mp ht with ht | ht
  · exact h.above t ht
  · -- neither the score itself nor one behind it is mentioned that early
    exfalso
    rcases List.mem_cons.mp ht with rfl | ht
    · omega
    · have hordered := htable.registers.ordered
      rw [labels, List.map_append, List.map_cons, List.pairwise_append, List.pairwise_cons]
        at hordered
      have hlt := hordered.2.1.1 t.diagnosis (List.mem_map_of_mem ht)
      omega

/-! ### The verdict -/

/-- **A verdict for a score**: it rests on the observed symptoms that have a clue for the diagnosis,
and it is a user's exactly if one of these clues is. -/
structure RestsOn (v : Verdict W) (kb : KnowledgeBase W) (observed : IdSet) (s : Score W) : Prop
    where
  diagnosis : v.diagnosis = s.diagnosis
  confidence : v.confidence = some s.total
  resolvedBy : v.resolvedBy = .scoring
  matched : ∀ id, id ∈ v.matched ↔
    id ∈ observed ∧ ∃ c ∈ kb.clues, c.symptom = id ∧ c.diagnosis = s.diagnosis
  origin : v.origin = some .shipped ∨ v.origin = some .user
  contributed : v.origin = some .user ↔
    ∃ c ∈ kb.clues, c.diagnosis = s.diagnosis ∧ c.symptom ∈ observed ∧ c.origin = .user

omit [ExactWeight W] in
/-- The clues that are looked up for a verdict are those that count for the score. -/
theorem restsOn_verdict (kb : KnowledgeBase W) (observed : IdSet) (s : Score W) :
    RestsOn (verdict kb observed s) kb observed s where
  diagnosis := rfl
  confidence := rfl
  resolvedBy := rfl
  matched := by
    intro id
    rw [mem_matched_iff]
    constructor
    · rintro ⟨c, hc, rfl⟩
      obtain ⟨hmem, hdiagnosis, hobserved⟩ := mem_contributing_iff.mp hc
      exact ⟨hobserved, c, hmem, rfl, hdiagnosis⟩
    · rintro ⟨hobserved, c, hmem, rfl, hdiagnosis⟩
      exact ⟨c, mem_contributing_iff.mpr ⟨hmem, hdiagnosis, hobserved⟩, rfl⟩
  origin := Origin.some_cases _
  contributed := by
    rw [verdict, Option.some.injEq, originOf_eq_user_iff]
    simp only [mem_contributing_iff, and_assoc]

/-- **Scoring by its table.** The table lists every diagnosis that the clues mention, once, in the
order of first mention, with the sum of the weights that count for it. Scoring is conclusive exactly
if the greatest total is above zero and reaches the threshold. Then the verdict is for the first
score with the greatest total; and whatever the first clues mention has a lower total, if they do
not mention the diagnosis of the verdict. -/
theorem evaluate_by_table (threshold : W) (kb : KnowledgeBase W) (observed : IdSet) :
    Tabulates (scores kb observed) kb.clues observed ∧
      ((evaluate threshold kb observed).conclusive = true ↔
        ∃ s ∈ scores kb observed, (∀ t ∈ scores kb observed, value t.total ≤ value s.total) ∧
          0 < value s.total ∧ value threshold ≤ value s.total) ∧
      ((evaluate threshold kb observed).conclusive = true →
        ∃ before s after, scores kb observed = before ++ s :: after ∧ Leads before s after ∧
          RestsOn (evaluate threshold kb observed) kb observed s ∧
          ∀ earlier later, kb.clues = earlier ++ later →
            (∀ c ∈ earlier, c.diagnosis ≠ s.diagnosis) →
            ∀ t ∈ scores kb observed, (∃ c ∈ earlier, c.diagnosis = t.diagnosis) →
              value t.total < value s.total) := by
  have htable := tabulates_scores kb observed
  rcases evaluate_cases threshold kb observed with ⟨s, hbest, hlow, heq⟩ | ⟨hlow, heq⟩
  · obtain ⟨before, after, hsplit, hleads⟩ := best_eq_some_iff.mp hbest
    rw [heq]
    rw [hsplit] at htable ⊢
    refine ⟨htable, iff_of_true rfl ?_, fun _ => ?_⟩
    · exact ⟨s, List.mem_append_right _ List.mem_cons_self, fun t ht => hleads.le ht,
        isTooLow_eq_false_iff.mp hlow⟩
    · refine ⟨before, s, after, rfl, hleads, restsOn_verdict kb observed s, ?_⟩
      intro earlier later hclues hnew t ht hearlier
      rw [hclues] at htable
      exact hleads.lt_of_later htable hnew ht hearlier
  · have hconclusive : ¬(evaluate threshold kb observed).conclusive = true := by
      rw [heq]
      exact nofun
    refine ⟨htable, iff_of_false hconclusive ?_, fun h => absurd h hconclusive⟩
    rintro ⟨s, hs, -, hhigh⟩
    exact hconclusive (conclusive_iff.mpr ⟨s, hs, hhigh⟩)

-- the totals are equal, and the first diagnosis is mentioned first by a clue that does not count
example : (evaluate (⟨1⟩ : Points)
    { clues := [⟨"smell", "The power supply is worn", ⟨5⟩, .shipped⟩,
        ⟨"fan", "The fan is blocked", ⟨2⟩, .shipped⟩,
        ⟨"fan", "The power supply is worn", ⟨2⟩, .user⟩] }
    (.ofList ["fan"])).diagnosis = "The power supply is worn" := by
  decide +kernel

end Sums

end FaultDiagnosis.Scoring
