import FaultDiagnosis.Proofs.Store.Replay

/-!
# Knowledge put together

Knowledge comes in two parts: what was shipped, and what users have contributed since. Four of the
five components of a knowledge base are lists, of which the second part's stand behind the first's.
The fifth is a table, where the first part's entries stay and the second's only fill the gaps.

| component | put together by | without effect |
|---|---|---|
| symptoms, rules, clues, combination hints | `++` | `[]` |
| hints for single symptoms | `FaultDiagnosis.IdMap.union` | `∅` |

Both ways are associative, so it does not matter which parts are put together first. This is what
loading and contributing rest on. They add to the part of the users alone, and the next contribution
is judged by the whole: it has to be the same as adding to the whole
(`FaultDiagnosis.KnowledgeBase.append_foldl_add`).
-/

namespace FaultDiagnosis

variable {W : Type}

namespace KnowledgeBase

/-! ### Parts -/

theorem append_assoc (a b c : KnowledgeBase W) : a ++ b ++ c = a ++ (b ++ c) := by
  change concat (concat a b) c = concat a (concat b c)
  simp only [concat, List.append_assoc, IdMap.union_assoc]

@[simp] theorem empty_append (a : KnowledgeBase W) : ∅ ++ a = a := by
  change concat empty a = a
  simp [concat, empty]

/-! ### Look-ups -/

/-- **A symptom is looked for in the first part first.** -/
theorem symptom?_append (a b : KnowledgeBase W) (id : String) :
    (a ++ b).symptom? id = (a.symptom? id).or (b.symptom? id) := by
  rw [symptom?, symptoms_append, List.find?_append]
  rfl

/-- **A hint is looked for in the first part first.** -/
theorem get?_hints_append (a b : KnowledgeBase W) (id : String) :
    (a ++ b).hints.get? id = (a.hints.get? id).or (b.hints.get? id) := by
  rw [hints_append, IdMap.get?_union]

/-! ### Contributions -/

/-- **Adding to the second part is adding to the whole**, contribution by contribution. -/
theorem append_foldl_add (first second : KnowledgeBase W) (items : List (Contribution W)) :
    first ++ items.foldl add second = items.foldl add (first ++ second) := by
  -- Only the second part grows along the way. One step of it is `append_add`.
  induction items generalizing second with
  | nil => rfl
  | cons item items ih => rw [List.foldl_cons, List.foldl_cons, ih, append_add]

end KnowledgeBase

/-- A repository takes contributions into the part of the users, and its shipped part stays. -/
theorem Repository.foldl_add (r : Repository W) (items : List (Contribution W)) :
    items.foldl add r = { r with user := items.foldl KnowledgeBase.add r.user } := by
  induction items generalizing r with
  | nil => rfl
  | cons item items ih =>
    rw [List.foldl_cons, ih]
    rfl

/-- **Knowledge may be put together in any parts.** It does not matter which parts are put together
first, and an empty part does not matter at all. Symptoms and hints for single symptoms are those of
the first part, and those of the second where the first has none. So a repository that takes
contributions into the part of its users, one by one, knows in the end what it would know if they
had been added to all that it knew, where to add a contribution is to have it in addition. -/
theorem Repository.merged_in_parts (W : Type) :
    (∀ a b c : KnowledgeBase W, a ++ b ++ c = a ++ (b ++ c)) ∧
    (∀ a : KnowledgeBase W, ∅ ++ a = a ∧ a ++ ∅ = a) ∧
    (∀ (a b : KnowledgeBase W) (id : String),
      (a ++ b).symptom? id = (a.symptom? id).or (b.symptom? id) ∧
        (a ++ b).hints.get? id = (a.hints.get? id).or (b.hints.get? id)) ∧
    (∀ (a : KnowledgeBase W) (item : Contribution W), a.Gains item (a.add item)) ∧
    ∀ (r : Repository W) (items : List (Contribution W)),
      (items.foldl add r).merged = r.shipped ++ items.foldl KnowledgeBase.add r.user ∧
        (items.foldl add r).merged = items.foldl KnowledgeBase.add r.merged := by
  refine ⟨KnowledgeBase.append_assoc, fun a => ⟨a.empty_append, a.append_empty⟩,
    fun a b id => ⟨a.symptom?_append b id, a.get?_hints_append b id⟩, KnowledgeBase.gains_add,
    fun r items => ?_⟩
  have huser : (items.foldl add r).merged = r.shipped ++ items.foldl KnowledgeBase.add r.user := by
    rw [foldl_add]
    rfl
  exact ⟨huser, huser.trans (KnowledgeBase.append_foldl_add r.shipped r.user items)⟩

end FaultDiagnosis
