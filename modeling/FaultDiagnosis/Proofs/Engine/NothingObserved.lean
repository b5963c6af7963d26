import FaultDiagnosis.Proofs.Diagnosis.Shapes
import FaultDiagnosis.Proofs.Engine.Reachable

/-!
# Nothing observed, nothing diagnosed

Where nothing was observed, all that can be said is that a symptom has to be selected first
(`FaultDiagnosis.Verdict.nothingObserved`). Scoring says so always, because no clue counts. But a
rule without positive conditions is satisfied by nothing at all, so the rules say so exactly if each
of them wants something (`FaultDiagnosis.RuleSelection.evaluate_empty_iff`).

The check of shipped knowledge is about references alone and lets such a rule pass. It leaves the
conditions of rules to those who make them: a document is read with care, and so nothing that files
ship has this flaw. What a store in memory ships nobody has looked at. Contributions are looked at
in any case, so they neither bring in a rule of this kind nor make up for one
(`FaultDiagnosis.Repository.GrownFrom.rulesWant_iff`). Altogether it is a matter of what the store
ships (`FaultDiagnosis.Engine.evaluate_nothing_iff`), and there are stores that get it wrong
(`FaultDiagnosis.Engine.nothing_observed_diagnosed`).
-/

namespace FaultDiagnosis

variable {W : Type}

/-- **The verdict on nothing**: the fallback asks for a symptom. -/
def Verdict.nothingObserved : Verdict W where
  diagnosis := "no definitive match"
  matched := ∅
  conclusive := false
  resolvedBy := .fallback
  advice := some "Select at least one symptom to get a diagnosis."

/-- **All rules want something**: each has a positive condition. -/
def KnowledgeBase.RulesWant (kb : KnowledgeBase W) : Prop :=
  ∀ r ∈ kb.rules, ∃ id, id ∈ r.positive

/-! ### The strategies -/

section Strategies

variable {kb : KnowledgeBase W}

/-- No hint is about nothing. -/
theorem Fallback.evaluate_empty (kb : KnowledgeBase W) :
    Fallback.evaluate kb ∅ = Verdict.nothingObserved :=
  rfl

namespace RuleSelection

/-- Where nothing is observed, the rules that may win are those that want nothing. -/
theorem isCandidate_empty_iff {fullCoverage : Bool} {r : Rule} :
    isCandidate fullCoverage ∅ r = true ↔ ¬∃ id, id ∈ r.positive := by
  have hcovers : r.coversAll ∅ = true := rfl
  rw [isCandidate, Rule.isSatisfied, hcovers, Bool.or_true, Bool.and_true, Bool.and_eq_true,
    IdSet.isSubset_iff, IdSet.isDisjoint_iff]
  constructor
  · rintro ⟨hpositive, -⟩ ⟨id, hid⟩
    exact IdSet.not_mem_empty (hpositive id hid)
  · intro h
    exact ⟨fun id hid => absurd ⟨id, hid⟩ h, fun _ _ => IdSet.not_mem_empty⟩

/-- **The rules make nothing of nothing exactly if all of them want something.** -/
theorem evaluate_empty_iff (fullCoverage : Bool) :
    evaluate fullCoverage kb ∅ = Verdict.nothingObserved ↔ kb.RulesWant := by
  have hnone : select fullCoverage kb ∅ = none ↔ kb.RulesWant := by
    rw [select_eq_none_iff]
    refine forall₂_congr fun r _ => ?_
    rw [isCandidate_empty_iff, not_not]
  rw [← hnone, evaluate]
  cases select fullCoverage kb ∅ with
  | none => exact iff_of_true (Fallback.evaluate_empty kb) rfl
  | some r =>
    refine iff_of_false (fun h => ?_) (Option.some_ne_none r)
    cases congrArg Verdict.conclusive h

end RuleSelection

/-- **Scoring makes nothing of nothing.** -/
theorem Scoring.evaluate_empty [Weight W] (hzero : Weight.atMost (0 : W) 0 = true) (threshold : W)
    (kb : KnowledgeBase W) : evaluate threshold kb ∅ = Verdict.nothingObserved := by
  rcases evaluate_cases threshold kb ∅ with ⟨s, hbest, hlow, -⟩ | ⟨-, heq⟩
  · -- behind a total that is high enough there would be an observed symptom
    obtain ⟨c, hc⟩ := exists_clue_of_best hzero hbest hlow
    exact absurd (mem_contributing_iff.mp hc).2.2 IdSet.not_mem_empty
  · rw [heq, Fallback.evaluate_empty]

/-- No strategy reports unknown identifiers. -/
theorem Strategy.unknown_evaluate [Weight W] (strategy : Strategy) (settings : InferenceSettings W)
    (kb : KnowledgeBase W) (observed : IdSet) :
    (strategy.evaluate settings kb observed).unknown = [] := by
  cases strategy with
  | rules =>
    rw [evaluate, RuleSelection.evaluate]
    cases RuleSelection.select settings.fullCoverage kb observed with
    | none => rfl
    | some r => rfl
  | scoring =>
    rw [evaluate]
    rcases Scoring.evaluate_cases settings.threshold kb observed with ⟨s, -, -, heq⟩ | ⟨-, heq⟩
    · rw [heq]
      rfl
    · rw [heq]
      rfl

end Strategies

/-! ### What is shipped decides -/

namespace KnowledgeBase

/-- Marking rules as shipped does not change what they want. -/
theorem rulesWant_asShipped_iff {kb : KnowledgeBase W} : kb.asShipped.RulesWant ↔ kb.RulesWant :=
  List.forall_mem_map

variable [Weight W]

theorem IsWellMade.rulesWant {kb : KnowledgeBase W} (h : kb.IsWellMade) : kb.RulesWant :=
  fun r hr => (h.rules r hr).wanted

/-- **The step**: a rule that fits wants something, and so it changes nothing about the others. -/
theorem rulesWant_add_iff {kb kb' : KnowledgeBase W} {item : Contribution W}
    (hfits : item.Fits kb') : (kb.add item).RulesWant ↔ kb.RulesWant := by
  cases item with
  | symptom s => exact Iff.rfl
  | rule r cs =>
    have hr : ∃ id, id ∈ r.positive := hfits.1.sensible.wanted
    constructor
    · exact fun h x hx => h x (List.mem_append_left _ hx)
    · intro h x hx
      rcases List.mem_append.mp hx with hx | hx
      · exact h x hx
      · rw [List.mem_singleton.mp hx]
        exact hr

end KnowledgeBase

/-- **All steps**: after any number of contributions it is still what was shipped that decides. -/
theorem Repository.GrownFrom.rulesWant_iff [Weight W] {kb : KnowledgeBase W} {r : Repository W}
    (h : GrownFrom kb r) : r.merged.RulesWant ↔ kb.RulesWant := by
  induction h with
  | shipped h =>
    obtain ⟨-, rfl⟩ := ofShipped_eq_ok_iff.mp h
    rw [merged, KnowledgeBase.append_empty, KnowledgeBase.rulesWant_asShipped_iff]
  | add _ hfits ih => rw [merged_add, KnowledgeBase.rulesWant_add_iff hfits, ih]

variable [Weight W] [WeightNotation W] {store : Store W} {e : Engine W}

/-- **A store whose shipped rules all want something.** -/
def Store.RulesWant (store : Store W) : Prop :=
  ∀ kb, store.knowledge = .ok kb → kb.RulesWant

/-- What is read from a document has been looked at. -/
theorem Store.IsDocumented.rulesWant (h : store.IsDocumented) : store.RulesWant :=
  fun kb hkb => (h kb hkb).isWellMade.rulesWant

namespace Engine

/-- With a store in memory, a reachable engine is what its store would load, and the shipped
knowledge never changes. -/
theorem ReachableFrom.exists_isCurrent {s : MemoryStore W} (h : ReachableFrom (.memory s) e) :
    ∃ records, e.IsCurrent s.knowledge records := by
  induction h with
  | load h =>
    obtain ⟨hr, hs, -⟩ := load_eq_ok_iff.mp h
    exact ⟨s.records, ⟨s.refusing, hs⟩, by rw [hs, hr]⟩
  | @act e e' action _ hact ih =>
    obtain ⟨records, hcurrent⟩ := ih
    obtain ⟨e'', hact', hcurrent'⟩ := hcurrent.act action
    obtain rfl : e'' = e' := Except.ok.inj (hact'.symm.trans hact)
    exact ⟨_, hcurrent'⟩

/-- **Whether all rules of a reachable engine want something was settled when the knowledge was
shipped.** -/
theorem ReachableFrom.rulesWant_iff (h : ReachableFrom store e) :
    e.merged.RulesWant ↔ store.RulesWant := by
  cases store with
  | memory s =>
    obtain ⟨records, hcurrent⟩ := h.exists_isCurrent
    obtain ⟨refusing, hs⟩ := hcurrent.store
    obtain ⟨kb, hkb, hgrown⟩ := Repository.exists_grownFrom_of_load hcurrent.loaded
    rw [hs] at hkb
    obtain rfl : s.knowledge = kb := Except.ok.inj hkb
    rw [merged, hgrown.rulesWant_iff]
    constructor
    · intro hwant kb hkb
      rwa [← Except.ok.inj hkb]
    · exact fun hwant => hwant s.knowledge rfl
  | files s =>
    have hdocumented := Store.isDocumented_files (W := W) s
    exact iff_of_true (h.isSound hdocumented).wellMade.rulesWant hdocumented.rulesWant

omit [WeightNotation W] in
/-- What an engine says about nothing is what its strategy says, since there is no unknown
identifier to report. -/
theorem evaluate_empty (e : Engine W) (strategy : Option Strategy) :
    e.evaluate ∅ strategy =
      (strategy.getD e.settings.defaultStrategy).evaluate e.settings e.merged ∅ := by
  have hunknown := (strategy.getD e.settings.defaultStrategy).unknown_evaluate e.settings e.merged ∅
  have hnone : e.merged.unknownIds ∅ = [] := rfl
  rw [evaluate, hnone, ← hunknown]

/-- **Nothing observed, nothing diagnosed, if all shipped rules want something.** An engine can be
reached from a store, in memory or in files, and has any settings. It asks for a symptom where
nothing is observed, by either strategy and by the usual one, exactly if every rule that the store
ships has a positive condition. For files this is always so, and for scoring it does not matter. -/
theorem evaluate_nothing_iff {store : Store Float} {e : Engine Float} (h : ReachableFrom store e) :
    ((∀ strategy, e.evaluate ∅ strategy = Verdict.nothingObserved) ↔ store.RulesWant) ∧
      (∀ s, store = .files s → ∀ strategy, e.evaluate ∅ strategy = Verdict.nothingObserved) ∧
      e.evaluate ∅ (some .scoring) = Verdict.nothingObserved := by
  have hzero : Weight.atMost (0 : Float) 0 = true := by decide
  have hscoring : Strategy.scoring.evaluate e.settings e.merged ∅ = Verdict.nothingObserved :=
    Scoring.evaluate_empty hzero e.settings.threshold e.merged
  have hrules : Strategy.rules.evaluate e.settings e.merged ∅ = Verdict.nothingObserved ↔
      store.RulesWant :=
    (RuleSelection.evaluate_empty_iff e.settings.fullCoverage).trans h.rulesWant_iff
  have hall : (∀ strategy, e.evaluate ∅ strategy = Verdict.nothingObserved) ↔
      store.RulesWant := by
    simp only [evaluate_empty]
    refine ⟨fun hevery => hrules.mp (hevery (some .rules)), fun hwant strategy => ?_⟩
    cases strategy.getD e.settings.defaultStrategy with
    | rules => exact hrules.mpr hwant
    | scoring => exact hscoring
  refine ⟨hall, ?_, ?_⟩
  · rintro s rfl
    exact hall.mpr (Store.isDocumented_files s).rulesWant
  · rw [evaluate_empty]
    exact hscoring

/-- The only rule of the store wants the power to be on, so either strategy asks for a symptom. -/
theorem evaluate_nothing_iff_hum :
    ReachableFrom hummingStore hummingEngine ∧ hummingStore.RulesWant ∧
      (∀ strategy, hummingEngine.evaluate ∅ strategy = Verdict.nothingObserved) ∧
      (∀ s, hummingStore = .files s →
        ∀ strategy, hummingEngine.evaluate ∅ strategy = Verdict.nothingObserved) ∧
      hummingEngine.evaluate ∅ (some .scoring) = Verdict.nothingObserved := by
  have hwant : hummingStore.RulesWant := by
    rintro kb ⟨⟩ r hr
    rw [List.mem_singleton.mp hr]
    exact ⟨"on", IdSet.contains_iff.mp (by decide)⟩
  obtain ⟨hiff, hfiles, hscoring⟩ := evaluate_nothing_iff reachableFrom_hummingEngine
  exact ⟨reachableFrom_hummingEngine, hwant, hiff.mpr hwant, hfiles, hscoring⟩

/-! ### A rule that wants nothing -/

/-- A store in memory that ships a rule without conditions. -/
def unconditionalStore : Store Float :=
  .memory { knowledge := { rules := [⟨∅, ∅, "The power supply is broken", .shipped⟩] } }

/-- The engine of that store. -/
def unconditionalEngine : Engine Float where
  store := unconditionalStore
  repository :=
    { shipped := { rules := [⟨∅, ∅, "The power supply is broken", .shipped⟩] }
      user := ∅ }
  settings := lenientSettings

/-- **A store in memory can be loaded that has a diagnosis for nothing.** Its rule mentions no
symptom, so it passes the check of references, and no observation is needed to satisfy it. -/
theorem nothing_observed_diagnosed :
    ReachableFrom unconditionalStore unconditionalEngine ∧
      (unconditionalEngine.evaluate ∅ (some .rules)).conclusive = true ∧
      (unconditionalEngine.evaluate ∅ (some .rules)).diagnosis = "The power supply is broken" ∧
      unconditionalEngine.evaluate ∅ (some .rules) ≠ Verdict.nothingObserved := by
  have hload : Engine.load unconditionalStore lenientSettings = .ok unconditionalEngine := rfl
  have hconclusive : (unconditionalEngine.evaluate ∅ (some .rules)).conclusive = true := by
    decide +kernel
  refine ⟨.load hload, hconclusive, by decide +kernel, fun h => ?_⟩
  rw [h] at hconclusive
  cases hconclusive

end Engine

end FaultDiagnosis
