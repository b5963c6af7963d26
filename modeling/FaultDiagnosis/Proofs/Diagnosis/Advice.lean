import FaultDiagnosis.Proofs.Diagnosis.Conclusive

/-!
# The order of advice

An inconclusive verdict comes with advice, and there is an order in which the advice is looked for:
that for an observation of nothing, the hint for the one observed symptom, the earliest combination
hint that suits, and general advice. `FaultDiagnosis.Fallback.Advised` states the order by itself.
Each case says what the cases before it have left open, so no observation has two kinds of advice
(`FaultDiagnosis.Fallback.Advised.unique`), and the fallback finds the one there is
(`FaultDiagnosis.Fallback.advised_advice`).

| what is observed | what is advised |
|---|---|
| nothing | to select a symptom |
| one symptom that has a hint | that hint |
| anything else that a combination hint suits | the earliest such hint |
| anything else | to contribute |

No rule, no clue and no setting occurs in this. So whatever keeps a strategy from a diagnosis, the
advice is the same (`FaultDiagnosis.Strategy.advice_of_not_conclusive`).
-/

namespace FaultDiagnosis

variable {W : Type}

/-! ### Conditions of a hint -/

theorem IdSet.exists_mem_iff {s : IdSet} : (∃ id, id ∈ s) ↔ s.isEmpty = false := by
  rw [← not_iff_not, not_exists, Bool.not_eq_false, IdSet.isEmpty_iff]

/-- **The combination suits what was observed.** All of the first identifiers were observed, one of
the second if there are any, and none of the third. -/
structure CombinationHint.Suits (c : CombinationHint) (observed : IdSet) : Prop where
  all : ∀ id ∈ c.all, id ∈ observed
  any : (∃ id, id ∈ c.any) → ∃ id ∈ c.any, id ∈ observed
  none : ∀ id ∈ c.none, ¬id ∈ observed

theorem CombinationHint.fits_iff {c : CombinationHint} {observed : IdSet} :
    c.fits observed = true ↔ c.Suits observed := by
  have hany : (c.any.isEmpty || !c.any.isDisjoint observed) = true ↔
      ((∃ id, id ∈ c.any) → ∃ id ∈ c.any, id ∈ observed) := by
    have hmeet : (!c.any.isDisjoint observed) = true ↔ ∃ id ∈ c.any, id ∈ observed := by
      rw [Bool.not_eq_true', ← Bool.not_eq_true, IdSet.isDisjoint_iff]
      simp only [not_forall, not_not, exists_prop]
    rw [Bool.or_eq_true, hmeet, IdSet.exists_mem_iff]
    cases c.any.isEmpty with
    | true => simp
    | false => simp
  rw [fits, Bool.and_eq_true, Bool.and_eq_true, IdSet.isSubset_iff, hany, IdSet.isDisjoint_iff]
  constructor
  · rintro ⟨⟨hall, hany⟩, hnone⟩
    exact ⟨hall, hany, hnone⟩
  · rintro ⟨hall, hany, hnone⟩
    exact ⟨⟨hall, hany⟩, hnone⟩

/-- The identifier is the only one that was observed. -/
def IdSet.IsOnly (observed : IdSet) (id : String) : Prop :=
  ∀ other, other ∈ observed ↔ other = id

theorem IdSet.isOnly_iff {observed : IdSet} {id : String} :
    observed.IsOnly id ↔ observed.toList = [id] := by
  constructor
  · intro h
    have heq : observed = ⟨[id], List.pairwise_singleton _ id⟩ :=
      IdSet.ext fun other => (h other).trans List.mem_singleton.symm
    rw [heq]
  · intro h other
    rw [IdSet.mem_def, h, List.mem_singleton]

theorem IdSet.IsOnly.exists_mem {observed : IdSet} {id : String} (h : observed.IsOnly id) :
    ∃ id, id ∈ observed :=
  ⟨id, (h id).mpr rfl⟩

namespace Fallback

/-! ### The order -/

/-- **The advice on what was observed**, given the hints for single symptoms and for combinations.
-/
inductive Advised (hints : IdMap String) (combinations : List CombinationHint) (observed : IdSet) :
    String → Prop
  | nothing (hnothing : ¬∃ id, id ∈ observed) : Advised hints combinations observed adviceEmpty
  | single {id text : String} (honly : observed.IsOnly id) (hhint : hints.get? id = some text) :
    Advised hints combinations observed text
  | combination {earlier later : List CombinationHint} {c : CombinationHint}
    (hsome : ∃ id, id ∈ observed) (hsingle : ∀ id, observed.IsOnly id → hints.get? id = none)
    (hsplit : combinations = earlier ++ c :: later) (hearlier : ∀ c' ∈ earlier, ¬c'.Suits observed)
    (hsuits : c.Suits observed) : Advised hints combinations observed c.advice
  | generic (hsome : ∃ id, id ∈ observed)
    (hsingle : ∀ id, observed.IsOnly id → hints.get? id = none)
    (hnone : ∀ c ∈ combinations, ¬c.Suits observed) :
    Advised hints combinations observed adviceGeneric

variable {hints : IdMap String} {combinations : List CombinationHint} {observed : IdSet}

/-- Two hints that suit, with none before either that does, are the same. -/
theorem combination_unique {earlier later earlier' later' : List CombinationHint}
    {c c' : CombinationHint} (h : earlier ++ c :: later = earlier' ++ c' :: later')
    (hearlier : ∀ d ∈ earlier, ¬d.Suits observed) (hc : c.Suits observed)
    (hearlier' : ∀ d ∈ earlier', ¬d.Suits observed) (hc' : c'.Suits observed) : c = c' := by
  induction earlier generalizing earlier' with
  | nil =>
    cases earlier' with
    | nil => exact (List.cons.inj h).1
    | cons d earlier' =>
      obtain ⟨rfl, -⟩ := List.cons.inj h
      exact absurd hc (hearlier' c List.mem_cons_self)
  | cons d earlier ih =>
    cases earlier' with
    | nil =>
      obtain ⟨rfl, -⟩ := List.cons.inj h
      exact absurd hc' (hearlier d List.mem_cons_self)
    | cons d' earlier' =>
      exact ih (List.cons.inj h).2 (fun x hx => hearlier x (List.mem_cons_of_mem d hx))
        fun x hx => hearlier' x (List.mem_cons_of_mem d' hx)

/-- **No observation has two kinds of advice.** -/
theorem Advised.unique {text text' : String} (h : Advised hints combinations observed text)
    (h' : Advised hints combinations observed text') : text = text' := by
  cases h with
  | nothing hnothing =>
    cases h' with
    | nothing => rfl
    | single honly => exact absurd honly.exists_mem hnothing
    | combination hsome => exact absurd hsome hnothing
    | generic hsome => exact absurd hsome hnothing
  | @single id _ honly hhint =>
    -- the cases behind this one need that the only symptom has no hint
    have hother : ∀ {P : Prop}, (∀ id, observed.IsOnly id → hints.get? id = none) → P := by
      intro P hsingle
      rw [hsingle id honly] at hhint
      cases hhint
    cases h' with
    | nothing hnothing => exact absurd honly.exists_mem hnothing
    | @single id' _ honly' hhint' =>
      obtain rfl : id = id' := (honly' id).mp ((honly id).mpr rfl)
      exact Option.some.inj (hhint.symm.trans hhint')
    | combination _ hsingle => exact hother hsingle
    | generic _ hsingle => exact hother hsingle
  | combination hsome hsingle hsplit hearlier hsuits =>
    cases h' with
    | nothing hnothing => exact absurd hsome hnothing
    | single honly hhint => cases (hsingle _ honly).symm.trans hhint
    | combination _ _ hsplit' hearlier' hsuits' =>
      rw [combination_unique (hsplit.symm.trans hsplit') hearlier hsuits hearlier' hsuits']
    | generic _ _ hnone =>
      subst hsplit
      exact absurd hsuits (hnone _ (List.mem_append_right _ List.mem_cons_self))
  | generic hsome hsingle hnone =>
    cases h' with
    | nothing hnothing => exact absurd hsome hnothing
    | single honly hhint => cases (hsingle _ honly).symm.trans hhint
    | combination _ _ hsplit _ hsuits =>
      subst hsplit
      exact absurd hsuits (hnone _ (List.mem_append_right _ List.mem_cons_self))
    | generic => rfl

/-! ### What the fallback finds -/

variable (kb : KnowledgeBase W)

theorem singleHint?_eq_some_iff {text : String} :
    singleHint? kb observed = some text ↔
      ∃ id, observed.IsOnly id ∧ kb.hints.get? id = some text := by
  simp only [IdSet.isOnly_iff]
  rw [singleHint?]
  split
  · next id heq =>
    constructor
    · exact fun h => ⟨id, heq, h⟩
    · rintro ⟨id', heq', h⟩
      obtain ⟨rfl, -⟩ := List.cons.inj (heq.symm.trans heq')
      exact h
  · next hother =>
    refine iff_of_false (Option.some_ne_none text).symm ?_
    rintro ⟨id, heq, -⟩
    exact hother id heq

theorem singleHint?_eq_none_iff :
    singleHint? kb observed = none ↔ ∀ id, observed.IsOnly id → kb.hints.get? id = none := by
  simp only [Option.eq_none_iff_forall_ne_some, ne_eq, singleHint?_eq_some_iff, not_exists, not_and]
  exact ⟨fun h id honly text => h text id honly, fun h text id honly => h id honly text⟩

/-- **The fallback gives the advice that the order asks for.** -/
theorem advised_advice : Advised kb.hints kb.combinationHints observed (advice kb observed) := by
  by_cases hsome : ∃ id, id ∈ observed
  · have hnonempty : observed.isEmpty = false := IdSet.exists_mem_iff.mp hsome
    cases hsingle : singleHint? kb observed with
    | some text =>
      obtain ⟨id, honly, hhint⟩ := (singleHint?_eq_some_iff kb).mp hsingle
      simp only [advice, hsingle, Option.some_or, Option.getD_some]
      exact .single honly hhint
    | none =>
      have hnohint := (singleHint?_eq_none_iff kb).mp hsingle
      simp only [advice, hsingle, combinationHint?, hnonempty, Bool.false_eq_true, if_false,
        Option.none_or, generalAdvice]
      cases hfind : kb.combinationHints.find? (·.fits observed) with
      | some c =>
        obtain ⟨hc, earlier, later, hsplit, hearlier⟩ := List.find?_eq_some_iff_append.mp hfind
        refine .combination hsome hnohint hsplit (fun c' hc' hsuits => ?_)
          (CombinationHint.fits_iff.mp hc)
        have hunfit := hearlier c' hc'
        rw [CombinationHint.fits_iff.mpr hsuits] at hunfit
        cases hunfit
      | none =>
        refine .generic hsome hnohint fun c hc hsuits => ?_
        exact List.find?_eq_none.mp hfind c hc (CombinationHint.fits_iff.mpr hsuits)
  · have hempty : observed.isEmpty = true := by
      rw [← Bool.not_eq_false, ← IdSet.exists_mem_iff]
      exact hsome
    have hsingle : singleHint? kb observed = none :=
      (singleHint?_eq_none_iff kb).mpr fun id honly => absurd honly.exists_mem hsome
    simp only [advice, hsingle, combinationHint?, hempty, if_true, Option.none_or, generalAdvice]
    exact .nothing hsome

theorem advised_iff {text : String} :
    Advised kb.hints kb.combinationHints observed text ↔ text = advice kb observed := by
  constructor
  · exact fun h => h.unique (advised_advice kb)
  · rintro rfl
    exact advised_advice kb

end Fallback

/-! ### Whoever does not conclude -/

/-- **The advice of every inconclusive verdict** is the one text that the order of advice asks for,
and it is the same for all that have these hints: for the fallback, for every strategy with any
settings and any other knowledge, and for every engine. -/
theorem Strategy.advice_of_not_conclusive [Weight W] (kb : KnowledgeBase W) (observed : IdSet) :
    ∃ text : String,
      (∀ text', Fallback.Advised kb.hints kb.combinationHints observed text' ↔ text' = text) ∧
      (Fallback.evaluate kb observed).advice = some text ∧
      (∀ kb' : KnowledgeBase W, kb'.hints = kb.hints → kb'.combinationHints = kb.combinationHints →
        ∀ (strategy : Strategy) (settings : InferenceSettings W),
          (strategy.evaluate settings kb' observed).conclusive = false →
          (strategy.evaluate settings kb' observed).advice = some text) ∧
      ∀ e : Engine W, e.merged.hints = kb.hints → e.merged.combinationHints = kb.combinationHints →
        ∀ strategy : Option Strategy, (e.evaluate observed strategy).conclusive = false →
          (e.evaluate observed strategy).advice = some text := by
  have hstrategy : ∀ kb' : KnowledgeBase W, kb'.hints = kb.hints →
      kb'.combinationHints = kb.combinationHints →
      ∀ (strategy : Strategy) (settings : InferenceSettings W),
        (strategy.evaluate settings kb' observed).conclusive = false →
        (strategy.evaluate settings kb' observed).advice = some (Fallback.advice kb observed) := by
    intro kb' hhints hcombinations strategy settings hinconclusive
    rw [evaluate_of_not_conclusive hinconclusive, Fallback.evaluate_congr hhints hcombinations]
    rfl
  refine ⟨Fallback.advice kb observed, fun text' => Fallback.advised_iff kb, rfl, hstrategy, ?_⟩
  intro e hhints hcombinations strategy hinconclusive
  exact hstrategy e.merged hhints hcombinations _ e.settings hinconclusive

/-- Knowledge of a hum: a hint about it alone, one about a hum without a smell, and one about a
smell or smoke. -/
def humKnowledge : KnowledgeBase Float where
  rules := [⟨.ofList ["hum", "dust"], ∅, "Blocked fan", .shipped⟩]
  clues := [⟨"hum", "Loose fan", 0.5, .shipped⟩]
  hints := (∅ : IdMap String).insert "hum" "Listen where the hum comes from."
  combinationHints :=
    [⟨.ofList ["hum"], ∅, .ofList ["smell"], "Clean the fan."⟩,
      ⟨∅, .ofList ["smell", "smoke"], ∅, "Unplug the computer."⟩]

/-- Both strategies fail on a hum with a smell, and both give the advice about the smell. -/
theorem Strategy.advice_of_not_conclusive_hum :
    let observed := IdSet.ofList ["smell", "hum"]
    let settings : InferenceSettings Float := ⟨.rules, 5, true⟩
    (rules.evaluate settings humKnowledge observed).conclusive = false ∧
      (scoring.evaluate settings humKnowledge observed).conclusive = false ∧
      (rules.evaluate settings humKnowledge observed).advice = some "Unplug the computer." ∧
      (scoring.evaluate settings humKnowledge observed).advice = some "Unplug the computer." := by
  intro observed settings
  have hrules : (rules.evaluate settings humKnowledge observed).conclusive = false := by
    decide +kernel
  have hscoring : (scoring.evaluate settings humKnowledge observed).conclusive = false := by
    decide +kernel
  obtain ⟨text, hunique, hfallback, hall, -⟩ :=
    advice_of_not_conclusive humKnowledge observed
  obtain rfl : "Unplug the computer." = text := by
    rw [← Option.some_inj, ← hfallback]
    decide +kernel
  exact ⟨hrules, hscoring, hall _ rfl rfl _ settings hrules, hall _ rfl rfl _ settings hscoring⟩

end FaultDiagnosis
