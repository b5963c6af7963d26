import FaultDiagnosis.Diagnosis.RuleSelection
import FaultDiagnosis.Proofs.Contribution.Fitting
import Mathlib.Data.List.MinMax
import Mathlib.Data.Prod.Lex

/-!
# The first rule of the highest rank

Among the rules that may win, the one selected is the first of the highest rank
(`FaultDiagnosis.RuleSelection.select_eq_argmax`). The rank is lexicographic: specificity, then the
positive conditions that are observed, then shipped knowledge before contributions. Since of equal
ranks the first one wins, a rule that is loaded later is selected only if its rank is higher than
that of every rule before it (`FaultDiagnosis.RuleSelection.select_append_cases`).

All positive conditions of a rule that may win are observed. So its specificity and the number of
its positive conditions, its *standing*, are all of its rank that another contribution can exceed
(`FaultDiagnosis.Rule.standing_lt_of_rank_lt`).
-/

namespace FaultDiagnosis

/-- Of a list that goes on, the first greatest element is that of its beginning, or it is one of the
later elements and greater than everything at the beginning. -/
theorem argmax_append_cases {α β : Type} [LinearOrder β] (f : α → β) (xs ys : List α) :
    (xs ++ ys).argmax f = xs.argmax f ∨
      ∃ y ∈ ys, (xs ++ ys).argmax f = some y ∧ ∀ x ∈ xs, f x < f y := by
  induction ys using List.reverseRecOn with
  | nil => exact Or.inl (by rw [List.append_nil])
  | append_singleton ys y ih =>
    have hy : y ∈ ys ++ [y] := List.mem_append_right _ List.mem_cons_self
    rw [← List.append_assoc, List.argmax_concat]
    rcases ih with heq | ⟨z, hz, heq, hbefore⟩
    · rw [heq]
      cases hxs : xs.argmax f with
      | none =>
        obtain rfl : xs = [] := List.argmax_eq_none.mp hxs
        exact Or.inr ⟨y, hy, rfl, fun x hx => absurd hx List.not_mem_nil⟩
      | some x =>
        by_cases hlt : f x < f y
        · refine Or.inr ⟨y, hy, if_pos hlt, fun x' hx' => ?_⟩
          exact lt_of_le_of_lt (List.le_of_mem_argmax hx' hxs) hlt
        · exact Or.inl (if_neg hlt)
    · rw [heq]
      by_cases hlt : f z < f y
      · exact Or.inr ⟨y, hy, if_pos hlt, fun x hx => (hbefore x hx).trans hlt⟩
      · exact Or.inr ⟨z, List.mem_append_left _ hz, if_neg hlt, hbefore⟩

/-- The first greatest element does not depend on values that are not compared. -/
theorem argmax_congr {α β : Type} [LinearOrder β] {f g : α → β} {xs : List α}
    (h : ∀ x ∈ xs, f x = g x) : xs.argmax f = xs.argmax g := by
  induction xs using List.reverseRecOn with
  | nil => rfl
  | append_singleton xs x ih =>
    have hx : f x = g x := h x (List.mem_append_right _ List.mem_cons_self)
    rw [List.argmax_concat, List.argmax_concat, ih fun y hy => h y (List.mem_append_left _ hy)]
    cases hbest : xs.argmax g with
    | none => rfl
    | some best =>
      have hmem : best ∈ xs := List.argmax_mem hbest
      have hbest : f best = g best := h best (List.mem_append_left _ hmem)
      simp only [hx, hbest]

/-- **The first greatest element** of a list is greater than everything before it, and nothing
behind it is greater. -/
theorem argmax_eq_some_iff_append {α β : Type} [LinearOrder β] {f : α → β} {xs : List α} {m : α} :
    xs.argmax f = some m ↔ ∃ before after, xs = before ++ m :: after ∧
      (∀ x ∈ before, f x < f m) ∧ ∀ x ∈ after, f x ≤ f m := by
  classical
  rw [List.argmax_eq_some_iff]
  constructor
  · rintro ⟨hm, hle, hfirst⟩
    obtain ⟨before, after, rfl, hnew⟩ := List.eq_append_cons_of_mem hm
    refine ⟨before, after, rfl, fun x hx => ?_, fun x hx => ?_⟩
    · -- if it were as great, it would be found before
      by_contra hlt
      have hidx := hfirst x (List.mem_append_left _ hx) (not_lt.mp hlt)
      have hplace : before.idxOf x < before.length := List.idxOf_lt_length_iff.mpr hx
      rw [List.idxOf_append_of_mem hx, List.idxOf_append_of_notMem hnew] at hidx
      omega
    · exact hle x (List.mem_append_right _ (List.mem_cons_of_mem _ hx))
  · rintro ⟨before, after, rfl, hbefore, hafter⟩
    have hnew : m ∉ before := fun hm => lt_irrefl _ (hbefore m hm)
    refine ⟨List.mem_append_right _ List.mem_cons_self, fun x hx => ?_, fun x hx hle => ?_⟩
    · rcases List.mem_append.mp hx with hx | hx
      · exact (hbefore x hx).le
      · rcases List.mem_cons.mp hx with rfl | hx
        · exact le_rfl
        · exact hafter x hx
    · have hnot : x ∉ before := fun hx => absurd hle (hbefore x hx).not_ge
      rw [List.idxOf_append_of_notMem hnew, List.idxOf_append_of_notMem hnot,
        List.idxOf_cons_self]
      omega

/-- Among the elements that meet a condition, the first greatest one is compared with these only. -/
theorem argmax_filter_eq_some_iff {α β : Type} [LinearOrder β] {f : α → β} {p : α → Bool}
    {xs : List α} {m : α} :
    (xs.filter p).argmax f = some m ↔ ∃ before after, xs = before ++ m :: after ∧ p m = true ∧
      (∀ x ∈ before, p x = true → f x < f m) ∧ ∀ x ∈ after, p x = true → f x ≤ f m := by
  rw [argmax_eq_some_iff_append]
  constructor
  · rintro ⟨before, after, hsplit, hbefore, hafter⟩
    obtain ⟨start, rest, rfl, rfl, hrest⟩ := List.filter_eq_append_iff.mp hsplit
    obtain ⟨gap, finish, rfl, hgap, hm, rfl⟩ := List.filter_eq_cons_iff.mp hrest
    refine ⟨start ++ gap, finish, (List.append_assoc ..).symm, hm, fun x hx hp => ?_,
      fun x hx hp => hafter x (List.mem_filter.mpr ⟨hx, hp⟩)⟩
    rcases List.mem_append.mp hx with hx | hx
    · exact hbefore x (List.mem_filter.mpr ⟨hx, hp⟩)
    · exact absurd hp (hgap x hx)
  · rintro ⟨before, after, rfl, hm, hbefore, hafter⟩
    refine ⟨before.filter p, after.filter p, ?_, fun x hx => ?_, fun x hx => ?_⟩
    · rw [List.filter_append, List.filter_cons_of_pos hm]
    · obtain ⟨hx, hp⟩ := List.mem_filter.mp hx
      exact hbefore x hx hp
    · obtain ⟨hx, hp⟩ := List.mem_filter.mp hx
      exact hafter x hx hp

variable {W : Type}

/-- Contributions come last. -/
theorem Origin.rank_le_user (o : Origin) : o.rank ≤ Origin.user.rank := by
  cases o <;> decide

namespace Rule

variable {observed : IdSet} {r s : Rule}

/-- **The rank of a rule**, by which candidates are compared. -/
def rank (observed : IdSet) (r : Rule) : ℕ ×ₗ ℕ ×ₗ ℕᵒᵈ :=
  toLex (r.specificity, toLex (r.coverage observed, OrderDual.toDual r.origin.rank))

theorem outranks_iff : r.outranks observed s = true ↔ s.rank observed < r.rank observed := by
  simp only [rank, Prod.Lex.toLex_lt_toLex, OrderDual.toDual_lt_toDual]
  unfold outranks
  split
  · rename_i hspecificity
    rw [decide_eq_true_eq]
    exact ⟨Or.inl, fun h => h.resolve_right fun h => hspecificity h.1.symm⟩
  · rename_i hspecificity
    rw [not_not] at hspecificity
    simp only [hspecificity, lt_irrefl, true_and, false_or]
    split
    · rename_i hcoverage
      rw [decide_eq_true_eq]
      exact ⟨Or.inl, fun h => h.resolve_right fun h => hcoverage h.1.symm⟩
    · rename_i hcoverage
      rw [not_not] at hcoverage
      simp only [hcoverage, lt_irrefl, true_and, false_or, decide_eq_true_eq]

/-- **The standing of a rule**: the number of its conditions, and that of the positive ones. -/
def standing (r : Rule) : ℕ ×ₗ ℕ :=
  toLex (r.positive.size + r.negative.size, r.positive.size)

/-- All positive conditions of a satisfied rule are observed. -/
theorem inter_of_isSatisfied (h : r.isSatisfied observed = true) :
    r.positive.inter observed = r.positive := by
  have hsubset : r.positive.isSubset observed = true := (Bool.and_eq_true_iff.mp h).1
  ext id
  rw [IdSet.mem_inter]
  exact and_iff_left_of_imp fun hid => IdSet.isSubset_iff.mp hsubset id hid

/-- **A contribution has a higher rank only by a higher standing.** -/
theorem standing_lt_of_rank_lt (hr : r.isSatisfied observed = true)
    (hs : s.isSatisfied observed = true) (hsorigin : s.origin = .user)
    (h : r.rank observed < s.rank observed) : r.standing < s.standing := by
  rw [standing, standing, Prod.Lex.toLex_lt_toLex]
  simp only [rank, specificity, coverage, Prod.Lex.toLex_lt_toLex, OrderDual.toDual_lt_toDual,
    inter_of_isSatisfied hr, inter_of_isSatisfied hs, hsorigin] at h
  refine h.imp_right (And.imp_right fun h => ?_)
  exact h.resolve_right fun horigin => absurd horigin.2 r.origin.rank_le_user.not_gt

/-- A rule of a higher rank has at least as many conditions. -/
theorem conditions_le_of_rank_le (h : r.rank observed ≤ s.rank observed) :
    r.positive.size + r.negative.size ≤ s.positive.size + s.negative.size := by
  rw [rank, rank, Prod.Lex.toLex_le_toLex] at h
  exact h.elim le_of_lt fun h => h.1.le

end Rule

namespace RuleSelection

variable {fullCoverage : Bool} {observed : IdSet} {kb : KnowledgeBase W}

theorem isSatisfied_of_isCandidate {r : Rule} (h : isCandidate fullCoverage observed r = true) :
    r.isSatisfied observed = true :=
  (Bool.and_eq_true_iff.mp h).1

/-- **The selected rule is the first of the highest rank.** -/
theorem select_eq_argmax : select fullCoverage kb observed =
    (kb.rules.filter (isCandidate fullCoverage observed)).argmax (Rule.rank observed) := by
  have hbetter : Rule.better observed =
      List.argAux fun r s : Rule => s.rank observed < r.rank observed := by
    funext best r
    cases best with
    | none => rfl
    | some best =>
      rw [Rule.better, List.argAux]
      exact if_congr Rule.outranks_iff rfl rfl
  rw [select, List.argmax, hbetter]

/-- What is selected is a rule that may win. -/
theorem of_select_eq_some {w : Rule} (h : select fullCoverage kb observed = some w) :
    w ∈ kb.rules ∧ isCandidate fullCoverage observed w = true := by
  rw [select_eq_argmax] at h
  exact List.mem_filter.mp (List.argmax_mem h)

/-- A rule is selected if any may win. -/
theorem select_eq_none_iff : select fullCoverage kb observed = none ↔
    ∀ r ∈ kb.rules, ¬isCandidate fullCoverage observed r = true := by
  rw [select_eq_argmax, List.argmax_eq_none, List.filter_eq_nil_iff]

/-- Where a rule may win, the one that is selected has at least its rank. -/
theorem exists_select {r : Rule} (hr : r ∈ kb.rules)
    (h : isCandidate fullCoverage observed r = true) :
    ∃ w, select fullCoverage kb observed = some w ∧ r.rank observed ≤ w.rank observed := by
  have hcandidate := List.mem_filter.mpr ⟨hr, h⟩
  cases hselect : select fullCoverage kb observed with
  | none => exact absurd h (select_eq_none_iff.mp hselect r hr)
  | some w =>
    rw [select_eq_argmax] at hselect
    exact ⟨w, rfl, List.le_of_mem_argmax hcandidate hselect⟩

/-- **A sensible rule may win on its own positive conditions**: they are all that it wants present,
and it explains each of them. -/
theorem isCandidate_positive {r : Rule} (h : r.IsSensible) (fullCoverage : Bool) :
    isCandidate fullCoverage r.positive r = true := by
  have hsatisfied : r.isSatisfied r.positive = true := by
    rw [Rule.isSatisfied, Bool.and_eq_true, IdSet.isSubset_iff, IdSet.isDisjoint_iff]
    exact ⟨fun id hid => hid, fun id hid hid' => h.consistent id hid' hid⟩
  have hcovers : r.coversAll r.positive = true := by
    rw [Rule.coversAll, List.all_eq_true]
    intro id hid
    rw [IdSet.contains_iff.mpr hid, Bool.or_true]
  rw [isCandidate, hsatisfied, hcovers, Bool.or_true, Bool.and_true]

/-- **Rules are conclusive when one of them may win.** -/
theorem conclusive_iff : (evaluate fullCoverage kb observed).conclusive = true ↔
    ∃ r ∈ kb.rules, isCandidate fullCoverage observed r = true := by
  rw [evaluate]
  cases hselect : select fullCoverage kb observed with
  | none =>
    have hnone := select_eq_none_iff.mp hselect
    exact iff_of_false nofun fun ⟨r, hr, hcandidate⟩ => hnone r hr hcandidate
  | some w =>
    refine iff_of_true rfl (by_contra fun h => ?_)
    have hnone : select fullCoverage kb observed = none :=
      select_eq_none_iff.mpr fun r hr hcandidate => h ⟨r, hr, hcandidate⟩
    rw [hselect] at hnone
    cases hnone

/-- Without a rule it is the fallback that answers. -/
theorem evaluate_of_not_conclusive (h : (evaluate fullCoverage kb observed).conclusive = false) :
    evaluate fullCoverage kb observed = Fallback.evaluate kb observed := by
  rw [evaluate] at h ⊢
  cases hselect : select fullCoverage kb observed with
  | none => rfl
  | some w =>
    rw [hselect] at h
    cases h

/-- **A later rule is selected only above all earlier ones.** With more knowledge at the end, the
same rule is selected as without it, or it is a rule from there and its rank is higher than that of
every earlier rule that may win. -/
theorem select_append_cases (fullCoverage : Bool) (kb more : KnowledgeBase W) (observed : IdSet) :
    select fullCoverage (kb ++ more) observed = select fullCoverage kb observed ∨
      ∃ w ∈ more.rules, select fullCoverage (kb ++ more) observed = some w ∧
        isCandidate fullCoverage observed w = true ∧
        ∀ r ∈ kb.rules, isCandidate fullCoverage observed r = true →
          r.rank observed < w.rank observed := by
  rw [select_eq_argmax, select_eq_argmax, KnowledgeBase.rules_append, List.filter_append]
  rcases argmax_append_cases (Rule.rank observed) (kb.rules.filter _) (more.rules.filter _) with
    heq | ⟨w, hw, heq, hbefore⟩
  · exact Or.inl heq
  · obtain ⟨hmore, hcandidate⟩ := List.mem_filter.mp hw
    exact Or.inr ⟨w, hmore, heq, hcandidate,
      fun r hr hr' => hbefore r (List.mem_filter.mpr ⟨hr, hr'⟩)⟩

end RuleSelection

end FaultDiagnosis
