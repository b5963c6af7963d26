import FaultDiagnosis.Knowledge.References
import FaultDiagnosis.Proofs.Outcome

/-!
# Closed knowledge bases

A knowledge base is *closed* when its symptoms can be told apart by their identifiers and nothing
mentions a symptom that is not there. `FaultDiagnosis.KnowledgeBase.IsClosed` says this without
reference to any order of checking, and `FaultDiagnosis.KnowledgeBase.checkReferences_eq_ok_iff`
says that the check of the shipped knowledge accepts exactly the closed knowledge bases.

The conditions of a single rule have a counterpart, `FaultDiagnosis.Rule.IsSensible`: it is what the
smart constructor of rules insists on (`FaultDiagnosis.Rule.ofConditions_eq_ok_iff`).
-/

namespace FaultDiagnosis

open Outcome

variable {W : Type}

/-- The conditions of a rule make sense together: something is wanted present, and nothing is wanted
both present and absent. -/
structure Rule.IsSensible (r : Rule) : Prop where
  wanted : ∃ id, id ∈ r.positive
  consistent : ∀ id ∈ r.positive, ¬id ∈ r.negative

theorem Rule.ofConditions_eq_ok_iff {positive negative : IdSet} {diagnosis : String}
    {origin : Origin} {r : Rule} :
    Rule.ofConditions (W := W) positive negative diagnosis origin = .ok r ↔
      r = ⟨positive, negative, diagnosis, origin⟩ ∧ r.IsSensible := by
  have hempty : positive.isEmpty = true ↔ ¬∃ id, id ∈ positive := by
    rw [IdSet.isEmpty_iff, not_exists]
  unfold Rule.ofConditions
  split
  · rename_i h
    refine ⟨nofun, ?_⟩
    rintro ⟨rfl, hs⟩
    exact absurd hs.wanted (hempty.mp h)
  · rename_i h
    split
    · rename_i hd
      refine ⟨fun hr => ?_, fun hr => by rw [hr.1]⟩
      obtain rfl := Except.ok.inj hr
      exact ⟨rfl, not_not.mp (mt hempty.mpr h), IdSet.isDisjoint_iff.mp hd⟩
    · rename_i hd
      refine ⟨nofun, ?_⟩
      rintro ⟨rfl, hs⟩
      exact absurd (IdSet.isDisjoint_iff.mpr hs.consistent) hd

namespace KnowledgeBase

/-! ### Identifiers -/

/-- A symptom is known exactly when its identifier is listed. -/
theorem hasSymptom_iff {kb : KnowledgeBase W} {id : String} :
    kb.hasSymptom id = true ↔ id ∈ kb.ids := by
  simp [hasSymptom, symptom?, ids, List.find?_isSome]

theorem hasSymptom_eq_false_iff {kb : KnowledgeBase W} {id : String} :
    kb.hasSymptom id = false ↔ id ∉ kb.ids := by
  rw [← hasSymptom_iff, Bool.not_eq_true]

/-- **A closed knowledge base**: identifiers are not blank and tell the symptoms apart, and every
identifier mentioned by a rule, a clue or a hint is that of a symptom. -/
structure IsClosed (kb : KnowledgeBase W) : Prop where
  notBlank : ∀ id ∈ kb.ids, Text.isBlankText id = false
  distinct : kb.ids.Nodup
  rules : ∀ r ∈ kb.rules, ∀ id ∈ r.referencedIds, id ∈ kb.ids
  clues : ∀ c ∈ kb.clues, c.symptom ∈ kb.ids
  hints : ∀ id ∈ kb.hints.keys, id ∈ kb.ids
  combinationHints : ∀ h ∈ kb.combinationHints, ∀ id ∈ h.referencedIds, id ∈ kb.ids

/-! ### What the check accepts -/

/-- The identifiers pass when none is blank, none was seen before and none is repeated. -/
theorem checkIds_eq_ok_iff {before rest : List String} :
    checkIds (W := W) before rest = .ok () ↔
      (∀ id ∈ rest, Text.isBlankText id = false ∧ id ∉ before) ∧ rest.Nodup := by
  induction rest generalizing before with
  | nil => simp [checkIds]
  | cons id rest ih =>
    rw [checkIds]
    split
    · rename_i hb
      simp [hb]
    · rename_i hb
      split
      · rename_i hm
        simp [hm]
      · rename_i hm
        -- from here on the identifier counts as seen, so that it must not occur in the rest
        rw [ih, List.nodup_cons]
        constructor
        · rintro ⟨hrest, hnodup⟩
          have hid : id ∉ rest := fun h => (hrest id h).2 List.mem_cons_self
          refine ⟨fun x hx => ?_, hid, hnodup⟩
          rcases List.mem_cons.mp hx with rfl | hx
          · exact ⟨Bool.not_eq_true _ ▸ hb, hm⟩
          · exact ⟨(hrest x hx).1, fun h => (hrest x hx).2 (List.mem_cons_of_mem _ h)⟩
        · rintro ⟨hall, hid, hnodup⟩
          refine ⟨fun x hx => ?_, hnodup⟩
          have hx' := hall x (List.mem_cons_of_mem _ hx)
          refine ⟨hx'.1, fun h => ?_⟩
          rcases List.mem_cons.mp h with rfl | h
          · exact hid hx
          · exact hx'.2 h

theorem checkMentions_eq_ok_iff {known mentioned : List String} {context : String} :
    checkMentions (W := W) known mentioned context = .ok () ↔ ∀ id ∈ mentioned, id ∈ known := by
  unfold checkMentions
  split
  · rename_i id h
    have hid := List.find?_some h
    have hmem := List.mem_of_find?_eq_some h
    refine ⟨nofun, fun hall => ?_⟩
    simp [hall id hmem] at hid
  · rename_i h
    simpa [List.find?_eq_none] using h

/-- The numbering of the items only serves the messages: what passes does not depend on it. -/
theorem checkEach_eq_ok_iff {α : Type} {known : List String} {mentioned : α → List String}
    {context : Nat → α → String} {number : Nat} {as : List α} :
    checkEach (W := W) known mentioned context number as = .ok () ↔
      ∀ a ∈ as, ∀ id ∈ mentioned a, id ∈ known := by
  induction as generalizing number with
  | nil => simp [checkEach]
  | cons a as ih =>
    rw [checkEach, then_eq_ok, ih, checkMentions_eq_ok_iff, List.forall_mem_cons]

/-- **The check accepts exactly the closed knowledge bases.** -/
theorem checkReferences_eq_ok_iff {kb : KnowledgeBase W} :
    kb.checkReferences = .ok () ↔ kb.IsClosed := by
  simp only [checkReferences, then_eq_ok, checkIds_eq_ok_iff, checkEach_eq_ok_iff]
  constructor
  · rintro ⟨⟨hids, hnodup⟩, hrules, hclues, hhints, hcombinations⟩
    exact ⟨fun id h => (hids id h).1, hnodup, hrules, fun c h => hclues c h _ (by simp),
      fun id h => hhints id h _ (by simp), hcombinations⟩
  · intro h
    refine ⟨⟨fun id hid => ⟨h.notBlank id hid, by simp⟩, h.distinct⟩, h.rules,
      fun c hc id hid => ?_, fun id hid x hx => ?_, h.combinationHints⟩
    · rw [List.mem_singleton.mp hid]
      exact h.clues c hc
    · rw [List.mem_singleton.mp hx]
      exact h.hints id hid

end KnowledgeBase

end FaultDiagnosis
