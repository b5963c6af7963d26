import FaultDiagnosis.Proofs.Contribution.Codec
import FaultDiagnosis.Proofs.Contribution.Subjects
import FaultDiagnosis.Proofs.Store.Merged

/-!
# The records that a replay takes

A replay passes over some records and takes the others (`FaultDiagnosis.Repository.taken`). What
users know afterwards is made of the items of those that were taken, one after the other, and of
nothing else (`FaultDiagnosis.Repository.user_foldl_replay`). It stands behind what was known
before (`FaultDiagnosis.KnowledgeBase.addAll_eq_append`), and it can be counted: each record brings
one symptom, or one rule with its clues.
-/

namespace FaultDiagnosis

variable {W : Type}

/-! ### The items of a contribution -/

namespace Contribution

/-- The symptom of a contribution, if it is one. -/
def symptoms : Contribution W → List Symptom
  | symptom s => [s]
  | rule _ _ => []

/-- The rule of a contribution, if it is one. -/
def rules : Contribution W → List Rule
  | symptom _ => []
  | rule r _ => [r]

variable {item : Contribution W}

@[simp] theorem length_symptoms_asUser : item.asUser.symptoms.length = item.symptoms.length := by
  cases item <;> rfl

@[simp] theorem length_rules_asUser : item.asUser.rules.length = item.rules.length := by
  cases item <;> rfl

@[simp] theorem length_clues_asUser : item.asUser.clues.length = item.clues.length := by
  cases item with
  | symptom s => rfl
  | rule r cs => exact List.length_map _

theorem length_symptoms_add_length_rules : item.symptoms.length + item.rules.length = 1 := by
  cases item <;> rfl

end Contribution

namespace KnowledgeBase

variable {kb : KnowledgeBase W} {item : Contribution W}

theorem symptoms_add : (kb.add item).symptoms = kb.symptoms ++ item.symptoms := by
  cases item with
  | symptom s => rfl
  | rule r cs => exact (List.append_nil _).symm

theorem rules_add : (kb.add item).rules = kb.rules ++ item.rules := by
  cases item with
  | symptom s => exact (List.append_nil _).symm
  | rule r cs => rfl

theorem clues_add : (kb.add item).clues = kb.clues ++ item.clues := by
  cases item with
  | symptom s => exact (List.append_nil _).symm
  | rule r cs => rfl

/-- A contribution never goes unnoticed. -/
theorem add_ne_self : kb.add item ≠ kb := by
  intro h
  cases item with
  | symptom s => simpa [add] using congrArg KnowledgeBase.symptoms h
  | rule r cs => simpa [add] using congrArg KnowledgeBase.rules h

@[simp] theorem symptoms_empty : (∅ : KnowledgeBase W).symptoms = [] := rfl

@[simp] theorem rules_empty : (∅ : KnowledgeBase W).rules = [] := rfl

@[simp] theorem clues_empty : (∅ : KnowledgeBase W).clues = [] := rfl

@[simp] theorem length_symptoms_asShipped : kb.asShipped.symptoms.length = kb.symptoms.length :=
  List.length_map _

@[simp] theorem length_rules_asShipped : kb.asShipped.rules.length = kb.rules.length :=
  List.length_map _

@[simp] theorem length_clues_asShipped : kb.asShipped.clues.length = kb.clues.length :=
  List.length_map _

@[simp] theorem ids_asShipped : kb.asShipped.ids = kb.ids :=
  List.map_map.trans rfl

/-! ### The items of many contributions -/

/-- **The knowledge that contributions consist of**, in their order. None of it is a hint. -/
def ofItems (items : List (Contribution W)) : KnowledgeBase W where
  symptoms := items.flatMap Contribution.symptoms
  rules := items.flatMap Contribution.rules
  clues := items.flatMap Contribution.clues

theorem ofItems_append (items more : List (Contribution W)) :
    ofItems (items ++ more) = ofItems items ++ ofItems more := by
  change _ = concat _ _
  simp only [ofItems, concat, List.flatMap_append, List.append_nil]
  rfl

variable {items : List (Contribution W)}

@[simp] theorem hints_append_ofItems : (kb ++ ofItems items).hints = kb.hints :=
  IdMap.union_empty kb.hints

@[simp] theorem combinationHints_append_ofItems :
    (kb ++ ofItems items).combinationHints = kb.combinationHints :=
  List.append_nil _

/-- **A contribution goes to the end.** -/
theorem add_eq_append (kb : KnowledgeBase W) (item : Contribution W) :
    kb.add item = kb ++ ofItems [item] := by
  change _ = concat kb (ofItems [item])
  simp only [concat, ofItems, List.flatMap_singleton, List.append_nil, IdMap.union_empty,
    ← symptoms_add, ← rules_add, ← clues_add]
  cases item with
  | symptom s => rfl
  | rule r cs => rfl

/-! ### The items of many records -/

/-- The knowledge base with the items of records added as a user's, one after the other. -/
def addAll (kb : KnowledgeBase W) (records : List (Record W)) : KnowledgeBase W :=
  records.foldl (fun kb record => kb.add record.item.asUser) kb

variable {records : List (Record W)}

theorem addAll_concat (record : Record W) :
    kb.addAll (records ++ [record]) = (kb.addAll records).add record.item.asUser := by
  rw [addAll, List.foldl_append]
  rfl

/-- What the records add goes to the end, in their order. -/
theorem addAll_eq_append (kb : KnowledgeBase W) (records : List (Record W)) :
    kb.addAll records = kb ++ ofItems (records.map fun r => r.item.asUser) := by
  induction records generalizing kb with
  | nil => exact (append_empty kb).symm
  | cons record records ih =>
    rw [addAll, List.foldl_cons, ← addAll, ih, add_eq_append, append_assoc, ← ofItems_append]
    rfl

/-- Marking the items as a user's changes none of their numbers. -/
theorem length_symptoms_addAll : (kb.addAll records).symptoms.length =
    kb.symptoms.length + (records.flatMap fun r => r.item.symptoms).length := by
  rw [addAll_eq_append, symptoms_append, List.length_append]
  simp [ofItems, List.length_flatMap, Function.comp_def]

theorem length_rules_addAll : (kb.addAll records).rules.length =
    kb.rules.length + (records.flatMap fun r => r.item.rules).length := by
  rw [addAll_eq_append, rules_append, List.length_append]
  simp [ofItems, List.length_flatMap, Function.comp_def]

theorem length_clues_addAll : (kb.addAll records).clues.length =
    kb.clues.length + (records.flatMap fun r => r.item.clues).length := by
  rw [addAll_eq_append, clues_append, List.length_append]
  simp [ofItems, List.length_flatMap, Function.comp_def]

/-- **Every record brings one symptom or one rule.** -/
theorem length_symptoms_add_length_rules (records : List (Record W)) :
    (records.flatMap fun r => r.item.symptoms).length +
      (records.flatMap fun r => r.item.rules).length = records.length := by
  induction records with
  | nil => rfl
  | cons record records ih =>
    have hone := record.item.length_symptoms_add_length_rules
    rw [List.flatMap_cons, List.flatMap_cons, List.length_append, List.length_append,
      List.length_cons]
    omega

end KnowledgeBase

/-! ### Replaying -/

namespace Repository

/-- After a contribution, what was known is known, and so is the identifier that it brings. -/
theorem mem_ids_merged_add {r : Repository W} {item : Contribution W} {id : String} :
    id ∈ (r.add item).merged.ids ↔ id ∈ r.merged.ids ∨ id ∈ item.newIds := by
  rw [merged_add, KnowledgeBase.mem_ids_add]

variable [Weight W]

/-- **The records that a replay takes**: those whose items fit what is known by then. -/
def taken (r : Repository W) : List (Record W) → List (Record W)
  | [] => []
  | record :: records =>
    match r.vet record.item with
    | .ok item => record :: (r.add item).taken records
    | .error _ => r.taken records

theorem taken_cons_of_fits {r : Repository W} {record : Record W}
    (h : record.item.asUser.Fits r.merged) (records : List (Record W)) :
    r.taken (record :: records) = record :: (r.replay record).taken records := by
  rw [taken, vet_eq_ok_iff.mpr ⟨h, rfl⟩, replay_of_fits h]

theorem taken_cons_of_not_fits {r : Repository W} {record : Record W}
    (h : ¬record.item.asUser.Fits r.merged) (records : List (Record W)) :
    r.taken (record :: records) = (r.replay record).taken records := by
  rw [taken, replay_of_not_fits h]
  split
  · rename_i hvet
    exact absurd (vet_eq_ok_iff.mp hvet).1 h
  · rfl

/-- Later records are judged by what the earlier ones have left. -/
theorem taken_append (r : Repository W) (records more : List (Record W)) :
    r.taken (records ++ more) = r.taken records ++ (records.foldl replay r).taken more := by
  induction records generalizing r with
  | nil => rfl
  | cons record records ih =>
    rw [List.cons_append, List.foldl_cons]
    by_cases h : record.item.asUser.Fits r.merged
    · rw [taken_cons_of_fits h, taken_cons_of_fits h, ih, List.cons_append]
    · rw [taken_cons_of_not_fits h, taken_cons_of_not_fits h, ih]

/-- **What users know after a replay** is what the records say that were taken. -/
theorem user_foldl_replay (r : Repository W) (records : List (Record W)) :
    (records.foldl replay r).user = r.user.addAll (r.taken records) := by
  induction records generalizing r with
  | nil => rfl
  | cons record records ih =>
    rw [List.foldl_cons, ih]
    by_cases h : record.item.asUser.Fits r.merged
    · rw [taken_cons_of_fits h, replay_of_fits h]
      rfl
    · rw [taken_cons_of_not_fits h, replay_of_not_fits h]

end Repository

end FaultDiagnosis
