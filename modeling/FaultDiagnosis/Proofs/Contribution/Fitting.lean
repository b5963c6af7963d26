import FaultDiagnosis.Contribution.Basic
import FaultDiagnosis.Proofs.Knowledge.Closed

/-!
# Contributions that fit a knowledge base

`FaultDiagnosis.Contribution.Fits` lists what a knowledge base asks of a contribution, item by item
and in no order, and `FaultDiagnosis.Contribution.check_eq_ok_iff` says that the check passes
exactly the contributions that fit. Whether a contribution fits depends on the knowledge base only
through the identifiers of its symptoms.

A contribution that fits keeps a closed knowledge base closed
(`FaultDiagnosis.KnowledgeBase.IsClosed.add`). This is the step of every invariant about knowledge
that grows, and it does not matter where the contribution comes from.
-/

namespace FaultDiagnosis

open Outcome

variable {W : Type}

/-! ### What is asked of an item -/

/-- **A new symptom** has an identifier of its own and a label of some length. -/
structure Symptom.Fits (s : Symptom) (kb : KnowledgeBase W) : Prop where
  named : Text.isBlankText s.id = false
  labelled : minLabelLength ≤ trimmedLength s.label
  fresh : s.id ∉ kb.ids

/-- **A new rule** has a diagnosis of some length and sensible conditions on known symptoms. -/
structure Rule.Fits (r : Rule) (kb : KnowledgeBase W) : Prop where
  diagnosed : minDiagnosisLength ≤ trimmedLength r.diagnosis
  sensible : r.IsSensible
  known : ∀ id ∈ r.referencedIds, id ∈ kb.ids

/-- **A new clue** has a positive weight, a known symptom and a diagnosis of some length. -/
structure Clue.Fits [Weight W] (c : Clue W) (kb : KnowledgeBase W) : Prop where
  weighed : Weight.isPositive c.weight = true
  known : c.symptom ∈ kb.ids
  diagnosed : minDiagnosisLength ≤ trimmedLength c.diagnosis

/-- A contribution fits when all of its items do. -/
def Contribution.Fits [Weight W] (kb : KnowledgeBase W) : Contribution W → Prop
  | symptom s => s.Fits kb
  | rule r cs => r.Fits kb ∧ ∀ c ∈ cs, c.Fits kb

/-! ### What the check passes -/

theorem checkLabel_eq_ok_iff {label : String} :
    checkLabel (W := W) label = .ok () ↔ minLabelLength ≤ trimmedLength label := by
  unfold checkLabel
  split
  · rename_i h
    simp [Nat.not_le.mpr h]
  · rename_i h
    simp [Nat.not_lt.mp h]

theorem checkDiagnosis_eq_ok_iff {text : String} :
    checkDiagnosis (W := W) text = .ok () ↔ minDiagnosisLength ≤ trimmedLength text := by
  unfold checkDiagnosis
  split
  · rename_i h
    simp [Nat.not_le.mpr h]
  · rename_i h
    simp [Nat.not_lt.mp h]

namespace Contribution

theorem checkSymptom_eq_ok_iff {s : Symptom} {kb : KnowledgeBase W} :
    checkSymptom s kb = .ok () ↔ s.Fits kb := by
  unfold checkSymptom
  simp only [guard_eq_ok, then_eq_ok, guard_last_eq_ok, checkLabel_eq_ok_iff, Bool.not_eq_true,
    KnowledgeBase.hasSymptom_eq_false_iff]
  exact ⟨fun ⟨h₁, h₂, h₃⟩ => ⟨h₁, h₂, h₃⟩, fun ⟨h₁, h₂, h₃⟩ => ⟨h₁, h₂, h₃⟩⟩

/-- No unknown identifier is found exactly when all are known. -/
theorem find?_unknown_eq_none_iff {kb : KnowledgeBase W} {ids : List String} :
    (ids.find? fun id => !kb.hasSymptom id) = none ↔ ∀ id ∈ ids, id ∈ kb.ids := by
  simp [List.find?_eq_none, KnowledgeBase.hasSymptom_iff]

theorem checkRule_eq_ok_iff {r : Rule} {kb : KnowledgeBase W} :
    checkRule r kb = .ok () ↔ r.Fits kb := by
  unfold checkRule
  rw [then_eq_ok, checkDiagnosis_eq_ok_iff, bind_eq_ok]
  simp only [Rule.ofConditions_eq_ok_iff]
  constructor
  · rintro ⟨hd, _, ⟨rfl, hs⟩, hk⟩
    refine ⟨hd, hs, find?_unknown_eq_none_iff.mp ?_⟩
    split at hk
    · exact absurd hk throw_ne_ok
    · assumption
  · rintro ⟨hd, hs, hk⟩
    refine ⟨hd, r, ⟨rfl, hs⟩, ?_⟩
    rw [find?_unknown_eq_none_iff.mpr hk]
    rfl

variable [Weight W]

theorem checkClue_eq_ok_iff {c : Clue W} {kb : KnowledgeBase W} :
    checkClue kb c = .ok () ↔ c.Fits kb := by
  unfold checkClue
  simp only [guard_eq_ok, checkDiagnosis_eq_ok_iff, Bool.not_eq_true', Bool.not_eq_false,
    KnowledgeBase.hasSymptom_iff]
  exact ⟨fun ⟨h₁, h₂, h₃⟩ => ⟨h₁, h₂, h₃⟩, fun ⟨h₁, h₂, h₃⟩ => ⟨h₁, h₂, h₃⟩⟩

theorem checkClues_eq_ok_iff {cs : List (Clue W)} {kb : KnowledgeBase W} :
    checkClues kb cs = .ok () ↔ ∀ c ∈ cs, c.Fits kb := by
  induction cs with
  | nil => simp [checkClues]
  | cons c cs ih => rw [checkClues, then_eq_ok, checkClue_eq_ok_iff, ih, List.forall_mem_cons]

/-- **The check passes exactly the contributions that fit.** -/
theorem check_eq_ok_iff {item : Contribution W} {kb : KnowledgeBase W} :
    check kb item = .ok () ↔ item.Fits kb := by
  cases item with
  | symptom s => exact checkSymptom_eq_ok_iff
  | rule r cs => rw [check, then_eq_ok, checkRule_eq_ok_iff, checkClues_eq_ok_iff, Fits]

end Contribution

/-! ### Taking a contribution -/

namespace KnowledgeBase

@[simp] theorem symptoms_append (a b : KnowledgeBase W) :
    (a ++ b).symptoms = a.symptoms ++ b.symptoms := rfl

@[simp] theorem rules_append (a b : KnowledgeBase W) : (a ++ b).rules = a.rules ++ b.rules := rfl

@[simp] theorem clues_append (a b : KnowledgeBase W) : (a ++ b).clues = a.clues ++ b.clues := rfl

@[simp] theorem hints_append (a b : KnowledgeBase W) :
    (a ++ b).hints = a.hints.union b.hints := rfl

@[simp] theorem combinationHints_append (a b : KnowledgeBase W) :
    (a ++ b).combinationHints = a.combinationHints ++ b.combinationHints := rfl

@[simp] theorem append_empty (a : KnowledgeBase W) : a ++ ∅ = a := by
  change concat a empty = a
  simp [concat, empty]

theorem ids_add {kb : KnowledgeBase W} {item : Contribution W} :
    (kb.add item).ids = kb.ids ++ match item with
      | .symptom s => [s.id]
      | .rule _ _ => [] := by
  cases item with
  | symptom s => simp [add, ids]
  | rule r cs => simp [add, ids]

theorem ids_subset_add {kb : KnowledgeBase W} (item : Contribution W) {id : String}
    (h : id ∈ kb.ids) : id ∈ (kb.add item).ids := by
  rw [ids_add]
  exact List.mem_append_left _ h

/-- A contribution after everything else is a contribution after the second of two parts. -/
theorem append_add (first second : KnowledgeBase W) (item : Contribution W) :
    first ++ second.add item = (first ++ second).add item := by
  change concat first (second.add item) = (concat first second).add item
  cases item with
  | symptom s => simp [concat, add]
  | rule r cs => simp [concat, add]

/-- **A contribution that fits keeps a closed knowledge base closed.** -/
theorem IsClosed.add [Weight W] {kb : KnowledgeBase W} (h : kb.IsClosed) {item : Contribution W}
    (hf : item.Fits kb) : (kb.add item).IsClosed := by
  have hgrow : ∀ {id}, id ∈ kb.ids → id ∈ (kb.add item).ids := ids_subset_add item
  cases item with
  | symptom s =>
    -- what is mentioned stays the same and more is known; only the identifiers need an argument
    refine ⟨fun id hid => ?_, ?_, fun r hr id hid => hgrow (h.rules r hr id hid),
      fun c hc => hgrow (h.clues c hc), fun id hid => hgrow (h.hints id hid),
      fun c hc id hid => hgrow (h.combinationHints c hc id hid)⟩
    · rw [ids_add] at hid
      rcases List.mem_append.mp hid with hid | hid
      · exact h.notBlank id hid
      · rw [List.mem_singleton.mp hid]
        exact hf.named
    · rw [ids_add]
      refine List.nodup_append.mpr ⟨h.distinct, by simp, fun a ha b hb => ?_⟩
      rintro rfl
      rw [List.mem_singleton.mp hb] at ha
      exact hf.fresh ha
  | rule r cs =>
    -- the identifiers stay the same and more is mentioned
    obtain ⟨hr, hcs⟩ := hf
    refine ⟨h.notBlank, h.distinct, fun x hx id hid => ?_, fun c hc => ?_, h.hints,
      h.combinationHints⟩
    · rcases List.mem_append.mp hx with hx | hx
      · exact h.rules x hx id hid
      · rw [List.mem_singleton.mp hx] at hid
        exact hr.known id hid
    · rcases List.mem_append.mp hc with hc | hc
      · exact h.clues c hc
      · exact (hcs c hc).known

end KnowledgeBase

/-! ### Conditions on single items -/

/-- Every symptom, every rule and every clue of a knowledge base meets a condition of its own. -/
structure KnowledgeBase.Each (kb : KnowledgeBase W) (P : Symptom → Prop) (Q : Rule → Prop)
    (R : Clue W → Prop) : Prop where
  symptoms : ∀ s ∈ kb.symptoms, P s
  rules : ∀ r ∈ kb.rules, Q r
  clues : ∀ c ∈ kb.clues, R c

/-- Every item of a contribution meets the condition of its kind. -/
def Contribution.Each (P : Symptom → Prop) (Q : Rule → Prop) (R : Clue W → Prop) :
    Contribution W → Prop
  | symptom s => P s
  | rule r cs => Q r ∧ ∀ c ∈ cs, R c

variable {P : Symptom → Prop} {Q : Rule → Prop} {R : Clue W → Prop}

theorem KnowledgeBase.each_empty : (∅ : KnowledgeBase W).Each P Q R :=
  ⟨fun _ h => absurd h List.not_mem_nil, fun _ h => absurd h List.not_mem_nil,
    fun _ h => absurd h List.not_mem_nil⟩

/-- **What the old items and the new ones meet, all items meet.** -/
theorem KnowledgeBase.Each.add {kb : KnowledgeBase W} (h : kb.Each P Q R) {item : Contribution W}
    (hi : item.Each P Q R) : (kb.add item).Each P Q R := by
  cases item with
  | symptom s =>
    refine ⟨fun x hx => ?_, h.rules, h.clues⟩
    rcases List.mem_append.mp hx with hx | hx
    · exact h.symptoms x hx
    · rw [List.mem_singleton.mp hx]
      exact hi
  | rule r cs =>
    obtain ⟨hr, hcs⟩ := hi
    refine ⟨h.symptoms, fun x hx => ?_, fun x hx => ?_⟩
    · rcases List.mem_append.mp hx with hx | hx
      · exact h.rules x hx
      · rw [List.mem_singleton.mp hx]
        exact hr
    · exact (List.mem_append.mp hx).elim (h.clues x) (hcs x)

end FaultDiagnosis
