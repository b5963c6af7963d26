import FaultDiagnosis.Proofs.Contribution.Fitting
import Mathlib.Data.List.Forall2

/-!
# Well-made knowledge

The types of rules and clues admit items that make no sense: a rule that wants nothing, a clue that
weighs less than nothing. `FaultDiagnosis.KnowledgeBase.IsWellMade` excludes them. Unlike closure it
is a property of each item alone.

There are two ways into a knowledge base, and both keep to it: a document, whose items go through
the smart constructors (`FaultDiagnosis.KnowledgeBase.isWellMade_of_parseDocument`), and a
contribution, whose items are checked (`FaultDiagnosis.KnowledgeBase.IsWellMade.add`).
-/

namespace FaultDiagnosis

open Outcome

variable {W : Type}

/-! ### The knowledge of a document -/

namespace Document

/-- Checking a list of items succeeds exactly when each check does, whatever the numbering. -/
theorem checkItems_eq_ok_iff {α β : Type} {contextOf : Nat → α → String}
    {check : α → Except (Defect W) β} {number : Nat} {as : List α} {bs : List β} :
    checkItems contextOf check number as = .ok bs ↔
      List.Forall₂ (fun a b => check a = .ok b) as bs := by
  induction as generalizing number bs with
  | nil =>
    rw [checkItems, List.forall₂_nil_left_iff]
    exact ⟨fun h => (Except.ok.inj h).symm, fun h => by rw [h]⟩
  | cons a as ih =>
    simp only [checkItems, bind_eq_ok, mapError_eq_ok, pure_eq_ok, ih, List.forall₂_cons_left_iff]
    constructor
    · rintro ⟨b, hb, bs', hbs', rfl⟩
      exact ⟨b, bs', hb, hbs', rfl⟩
    · rintro ⟨b, bs', hb, hbs', rfl⟩
      exact ⟨b, hb, bs', hbs', rfl⟩

/-- **A document is accepted item by item**: the knowledge holds what the entries give, list by list
and in their order. -/
theorem knowledge_eq_ok_iff [Weight W] {d : Document W} {kb : KnowledgeBase W} :
    d.knowledge = .ok kb ↔
      List.Forall₂ (fun e s => SymptomEntry.symptom (W := W) e = .ok s) d.symptoms kb.symptoms ∧
        List.Forall₂ (fun e r => RuleEntry.rule (W := W) e = .ok r) d.rules kb.rules ∧
        List.Forall₂ (fun e c => ClueEntry.clue e = .ok c) d.clues kb.clues ∧
        List.Forall₂ (fun e h => HintEntry.hint (W := W) e = .ok h) d.combinationHints
          kb.combinationHints ∧
        kb.hints = d.singleSymptomHints := by
  simp only [knowledge, bind_eq_ok, checkItems_eq_ok_iff, pure_eq_ok]
  constructor
  · rintro ⟨symptoms, hs, rules, hr, clues, hc, hints, hh, rfl⟩
    exact ⟨hs, hr, hc, hh, rfl⟩
  · rintro ⟨hs, hr, hc, hh, heq⟩
    refine ⟨_, hs, _, hr, _, hc, _, hh, ?_⟩
    rw [← heq]

end Document

/-- The items that a list of checks gives all passed theirs. -/
theorem forall_of_forall₂ {α β : Type} {R : α → β → Prop} {P : β → Prop} {as : List α} {bs : List β}
    (h : List.Forall₂ R as bs) (hP : ∀ a b, R a b → P b) : ∀ b ∈ bs, P b := by
  induction h with
  | nil => exact fun b hb => absurd hb List.not_mem_nil
  | cons hab _ ih => exact List.forall_mem_cons.mpr ⟨hP _ _ hab, ih⟩

/-- Where every item is computed from its source, the items are those computed, and each has to meet
its condition. -/
theorem forall₂_eq_map_iff {α β : Type} {f : α → β} {P : β → Prop} {as : List α} {bs : List β} :
    List.Forall₂ (fun a b => b = f a ∧ P b) as bs ↔ bs = as.map f ∧ ∀ b ∈ bs, P b := by
  constructor
  · intro h
    induction h with
    | nil => exact ⟨rfl, fun b hb => absurd hb List.not_mem_nil⟩
    | cons hab _ ih =>
      obtain ⟨rfl, hP⟩ := hab
      obtain ⟨rfl, hrest⟩ := ih
      exact ⟨rfl, List.forall_mem_cons.mpr ⟨hP, hrest⟩⟩
  · rintro ⟨rfl, hP⟩
    rw [List.forall₂_map_right_iff, List.forall₂_same]
    intro a ha
    exact ⟨rfl, hP (f a) (List.mem_map_of_mem ha)⟩

/-- A category is known by its name, whatever its case and the blanks around it. -/
theorem Category.parse_eq_ok_iff {text : String} {c : Category} :
    Category.parse (W := W) text = .ok c ↔ Text.lowerCase (Text.trim text) = c.name := by
  unfold Category.parse
  generalize Text.lowerCase (Text.trim text) = name
  by_cases hhardware : name = "hardware"
  · rw [hhardware]
    cases c <;> simp [Category.name]
  · by_cases hsoftware : name = "software"
    · rw [hsoftware]
      cases c <;> simp [Category.name]
    · -- there are no other categories, whether or not a name is given at all
      refine iff_of_false ?_ ?_
      · simp only [hhardware, hsoftware, if_false]
        split <;> nofun
      · cases c with
        | hardware => exact hhardware
        | software => exact hsoftware

theorem Clue.ofWeight_eq_ok_iff [Weight W] {symptom diagnosis : String} {weight : W}
    {origin : Origin} {c : Clue W} :
    Clue.ofWeight symptom diagnosis weight origin = .ok c ↔
      c = ⟨symptom, diagnosis, weight, origin⟩ ∧ Weight.isPositive c.weight = true := by
  unfold ofWeight
  split
  · rename_i h
    refine ⟨fun hc => ?_, fun hc => by rw [hc.1]⟩
    obtain rfl := Except.ok.inj hc
    exact ⟨rfl, h⟩
  · rename_i h
    refine ⟨nofun, ?_⟩
    rintro ⟨rfl, hw⟩
    exact absurd hw h

/-! ### Well-made items -/

namespace KnowledgeBase

variable [Weight W]

/-- **A well-made knowledge base**: the conditions of every rule make sense, and every clue has a
positive weight. -/
def IsWellMade (kb : KnowledgeBase W) : Prop :=
  kb.Each (fun _ => True) Rule.IsSensible fun c => Weight.isPositive c.weight = true

theorem isWellMade_of_knowledge {d : Document W} {kb : KnowledgeBase W}
    (h : d.knowledge = .ok kb) : kb.IsWellMade := by
  obtain ⟨-, hrules, hclues, -, -⟩ := Document.knowledge_eq_ok_iff.mp h
  exact ⟨fun _ _ => trivial,
    forall_of_forall₂ hrules fun _ _ hr => (Rule.ofConditions_eq_ok_iff.mp hr).2,
    forall_of_forall₂ hclues fun _ _ hc => (Clue.ofWeight_eq_ok_iff.mp hc).2⟩

/-- **The knowledge of a document is well made.** -/
theorem isWellMade_of_parseDocument [WeightNotation W] {text path : String} {kb : KnowledgeBase W}
    (h : parseDocument text path = .ok kb) : kb.IsWellMade := by
  unfold parseDocument at h
  split at h
  · exact isWellMade_of_knowledge h
  · exact nomatch h

/-- Marking the items as shipped changes neither conditions nor weights. -/
theorem IsWellMade.asShipped {kb : KnowledgeBase W} (h : kb.IsWellMade) :
    kb.asShipped.IsWellMade := by
  refine ⟨fun _ _ => trivial, ?_, ?_⟩
  · intro r hr
    obtain ⟨r', hr', rfl⟩ := List.mem_map.mp hr
    exact ⟨(h.rules r' hr').wanted, (h.rules r' hr').consistent⟩
  · intro c hc
    obtain ⟨c', hc', rfl⟩ := List.mem_map.mp hc
    exact h.clues c' hc'

/-- A contribution that fits is well made. -/
theorem IsWellMade.add {kb kb' : KnowledgeBase W} (h : kb.IsWellMade) {item : Contribution W}
    (hf : item.Fits kb') : (kb.add item).IsWellMade := by
  refine Each.add h ?_
  cases item with
  | symptom s => trivial
  | rule r cs => exact ⟨hf.1.sensible, fun c hc => (hf.2 c hc).weighed⟩

end KnowledgeBase

end FaultDiagnosis
