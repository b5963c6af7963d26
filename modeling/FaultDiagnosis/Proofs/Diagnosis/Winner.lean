import FaultDiagnosis.Proofs.Diagnosis.Selection

/-!
# One winner among the candidates

The same rule may be loaded twice. So what competes is a rule together with its place in the load
order: a *candidate* (`FaultDiagnosis.RuleSelection.Candidate`). A candidate beats another one by
more conditions, or else by more observed ones among the positive conditions, or else as shipped
knowledge against a contribution, or else by its place (`FaultDiagnosis.Rule.Beats`). Since places
differ, of two candidates exactly one beats the other, and there is at most one that beats all
others: the *winner* (`FaultDiagnosis.RuleSelection.Wins`).

Selection goes through the rules in load order and never compares places. It lets go of a rule only
for one of a higher rank, so what it ends with outranks everything before it, and nothing behind it
outranks it. That is what beating all others comes to
(`FaultDiagnosis.RuleSelection.select_eq_some_iff_wins`).

Loading the rules in another order changes their places and nothing else. The winner is then a rule
of the same merits, and it is the same rule if no other candidate has these
(`FaultDiagnosis.RuleSelection.select_is_winner`).
-/

namespace FaultDiagnosis

variable {W : Type}

/-! ### Which candidate is better -/

theorem Origin.rank_injective {o o' : Origin} (h : o.rank = o'.rank) : o = o' := by
  cases o with
  | shipped =>
    cases o' with
    | shipped => rfl
    | user => cases h
  | user =>
    cases o' with
    | shipped => cases h
    | user => rfl

namespace Rule

/-- **What a rule is ranked by**, apart from load order: the number of its conditions, how many of
the positive ones are observed, and where it comes from. -/
def merits (observed : IdSet) (r : Rule) : ℕ × ℕ × Origin :=
  (r.positive.size + r.negative.size, (r.positive.inter observed).size, r.origin)

/-- **The rule at one place beats the rule at another place.** Each reason counts only where those
before it make no difference. -/
inductive Beats (observed : IdSet) (place : ℕ) (r : Rule) (place' : ℕ) (s : Rule) : Prop
  /-- It has more conditions. -/
  | moreSpecific (h : s.positive.size + s.negative.size < r.positive.size + r.negative.size)
  /-- More of its positive conditions are observed. -/
  | moreObserved
    (hconditions : s.positive.size + s.negative.size = r.positive.size + r.negative.size)
    (h : (s.positive.inter observed).size < (r.positive.inter observed).size)
  /-- It was shipped, and the other one was contributed. -/
  | shipped
    (hconditions : s.positive.size + s.negative.size = r.positive.size + r.negative.size)
    (hobserved : (s.positive.inter observed).size = (r.positive.inter observed).size)
    (h : r.origin = .shipped ∧ s.origin = .user)
  /-- It was loaded earlier. -/
  | earlier (hmerits : s.merits observed = r.merits observed) (h : place < place')

variable {observed : IdSet} {r s : Rule} {place place' : ℕ}

/-- Rules of the same rank have the same merits. -/
theorem rank_eq_iff :
    s.rank observed = r.rank observed ↔ s.merits observed = r.merits observed := by
  simp only [rank, specificity, coverage, merits, Prod.mk.injEq, toLex_inj, OrderDual.toDual_inj]
  refine and_congr_right fun _ => and_congr_right fun _ => ?_
  exact ⟨Origin.rank_injective, congrArg Origin.rank⟩

theorem origin_rank_lt_iff {o o' : Origin} : o.rank < o'.rank ↔ o = .shipped ∧ o' = .user := by
  cases o <;> cases o' <;> decide

/-- **To beat is to have the higher rank, or the same rank and the earlier place.** -/
theorem beats_iff : Beats observed place r place' s ↔
    s.rank observed < r.rank observed ∨
      s.rank observed = r.rank observed ∧ place < place' := by
  -- specificity and coverage are the two numbers
  have hlt : s.rank observed < r.rank observed ↔
      s.specificity < r.specificity ∨ s.specificity = r.specificity ∧
        (s.coverage observed < r.coverage observed ∨
          s.coverage observed = r.coverage observed ∧ r.origin.rank < s.origin.rank) := by
    simp only [rank, Prod.Lex.toLex_lt_toLex, OrderDual.toDual_lt_toDual]
  rw [hlt, rank_eq_iff, origin_rank_lt_iff]
  constructor
  · rintro (h | ⟨hconditions, h⟩ | ⟨hconditions, hobserved, h⟩ | ⟨hmerits, h⟩)
    · exact Or.inl (Or.inl h)
    · exact Or.inl (Or.inr ⟨hconditions, Or.inl h⟩)
    · exact Or.inl (Or.inr ⟨hconditions, Or.inr ⟨hobserved, h⟩⟩)
    · exact Or.inr ⟨hmerits, h⟩
  · rintro ((h | ⟨hconditions, h | ⟨hobserved, h⟩⟩) | ⟨hmerits, h⟩)
    · exact .moreSpecific h
    · exact .moreObserved hconditions h
    · exact .shipped hconditions hobserved h
    · exact .earlier hmerits h

/-- Of two rules at most one beats the other. -/
theorem Beats.not_beats (h : Beats observed place r place' s) :
    ¬Beats observed place' s place r := by
  rw [beats_iff] at h
  rw [beats_iff]
  rintro (hlt | ⟨heq, hplace⟩)
  · rcases h with h | ⟨h, -⟩
    · exact lt_asymm h hlt
    · exact absurd h hlt.ne'
  · rcases h with h | ⟨-, hplace'⟩
    · exact absurd heq h.ne'
    · omega

end Rule

/-! ### The candidates -/

namespace RuleSelection

/-- **A candidate**: a rule that was loaded at a place. All of its positive conditions and none of
its negative ones are observed; and with full coverage, what is observed and not one of its negative
conditions is one of its positive ones. -/
structure Candidate (fullCoverage : Bool) (kb : KnowledgeBase W) (observed : IdSet) (place : ℕ)
    (r : Rule) : Prop where
  loaded : kb.rules[place]? = some r
  present : ∀ id ∈ r.positive, id ∈ observed
  absent : ∀ id ∈ r.negative, ¬id ∈ observed
  covering : fullCoverage = true → ∀ id ∈ observed, ¬id ∈ r.negative → id ∈ r.positive

/-- **The winner**: a candidate that beats every other one. -/
structure Wins (fullCoverage : Bool) (kb : KnowledgeBase W) (observed : IdSet) (place : ℕ)
    (r : Rule) : Prop where
  candidate : Candidate fullCoverage kb observed place r
  beats : ∀ place' s, Candidate fullCoverage kb observed place' s → place' ≠ place →
    r.Beats observed place place' s

variable {fullCoverage : Bool} {kb : KnowledgeBase W} {observed : IdSet} {place place' : ℕ}
  {r s w : Rule}

/-- What is asked of a rule itself does not depend on its place. -/
theorem isCandidate_iff : isCandidate fullCoverage observed r = true ↔
    (∀ id ∈ r.positive, id ∈ observed) ∧ (∀ id ∈ r.negative, ¬id ∈ observed) ∧
      (fullCoverage = true → ∀ id ∈ observed, ¬id ∈ r.negative → id ∈ r.positive) := by
  have hcovers : r.coversAll observed = true ↔
      ∀ id ∈ observed, ¬id ∈ r.negative → id ∈ r.positive := by
    rw [Rule.coversAll, List.all_eq_true]
    refine forall₂_congr fun id _ => ?_
    rw [Bool.or_eq_true, IdSet.contains_iff, IdSet.contains_iff, or_iff_not_imp_left]
  rw [isCandidate, Rule.isSatisfied, Bool.and_eq_true, Bool.and_eq_true, IdSet.isSubset_iff,
    IdSet.isDisjoint_iff, and_assoc, Bool.or_eq_true, Bool.not_eq_true', hcovers]
  cases fullCoverage with
  | false => simp
  | true => simp

theorem candidate_iff : Candidate fullCoverage kb observed place r ↔
    kb.rules[place]? = some r ∧ isCandidate fullCoverage observed r = true := by
  rw [isCandidate_iff]
  exact ⟨fun h => ⟨h.loaded, h.present, h.absent, h.covering⟩,
    fun ⟨hloaded, hpresent, habsent, hcovering⟩ => ⟨hloaded, hpresent, habsent, hcovering⟩⟩

/-- The rules that may win are those of the candidates. -/
theorem exists_candidate_iff : (∃ place, Candidate fullCoverage kb observed place r) ↔
    r ∈ kb.rules ∧ isCandidate fullCoverage observed r = true := by
  simp only [candidate_iff, exists_and_right, List.mem_iff_getElem?]

/-! ### The winner -/

/-- **There is only one winner.** -/
theorem Wins.unique (h : Wins fullCoverage kb observed place r)
    (h' : Wins fullCoverage kb observed place' s) : place' = place ∧ s = r := by
  by_cases hplace : place' = place
  · subst hplace
    exact ⟨rfl, Option.some.inj (h'.candidate.loaded.symm.trans h.candidate.loaded)⟩
  · -- each of the two would beat the other
    have hbeats := h.beats place' s h'.candidate hplace
    exact absurd (h'.beats place r h.candidate (Ne.symm hplace)) hbeats.not_beats

/-- The selected rule is the winner. -/
theorem exists_wins_of_select (h : select fullCoverage kb observed = some w) :
    ∃ place, Wins fullCoverage kb observed place w := by
  rw [select_eq_argmax, argmax_filter_eq_some_iff] at h
  obtain ⟨before, after, hrules, hw, hbefore, hafter⟩ := h
  have hloaded : kb.rules[before.length]? = some w := by
    rw [hrules, List.getElem?_append_right le_rfl, Nat.sub_self, List.getElem?_cons_zero]
  refine ⟨before.length, candidate_iff.mpr ⟨hloaded, hw⟩, fun place s hs hplace => ?_⟩
  obtain ⟨hs, hcandidate⟩ := candidate_iff.mp hs
  rw [hrules] at hs
  rw [Rule.beats_iff]
  rcases lt_or_gt_of_ne hplace with hlt | hgt
  · -- loaded before it, and outranked by it
    rw [List.getElem?_append_left hlt] at hs
    exact Or.inl (hbefore s (List.mem_of_getElem? hs) hcandidate)
  · -- loaded behind it, and of no higher rank
    obtain ⟨k, hk⟩ : ∃ k, place - before.length = k + 1 := ⟨place - before.length - 1, by omega⟩
    rw [List.getElem?_append_right (by omega), hk, List.getElem?_cons_succ] at hs
    have hle := hafter s (List.mem_of_getElem? hs) hcandidate
    exact hle.lt_or_eq.imp_right fun heq => ⟨heq, hgt⟩

/-- **A rule is selected exactly if it is the winner.** -/
theorem select_eq_some_iff_wins : select fullCoverage kb observed = some w ↔
    ∃ place, Wins fullCoverage kb observed place w := by
  refine ⟨exists_wins_of_select, ?_⟩
  rintro ⟨place, hwins⟩
  obtain ⟨hmem, hcandidate⟩ := exists_candidate_iff.mp ⟨place, hwins.candidate⟩
  obtain ⟨w', hselect, -⟩ := exists_select hmem hcandidate
  obtain ⟨place', hwins'⟩ := exists_wins_of_select hselect
  rw [hselect, (hwins.unique hwins').2]

/-- Nothing is selected exactly if there is no candidate. -/
theorem select_eq_none_iff_candidate : select fullCoverage kb observed = none ↔
    ∀ place r, ¬Candidate fullCoverage kb observed place r := by
  rw [select_eq_none_iff]
  constructor
  · intro h place r hcandidate
    obtain ⟨hmem, hmay⟩ := exists_candidate_iff.mp ⟨place, hcandidate⟩
    exact h r hmem hmay
  · intro h r hmem hmay
    obtain ⟨place, hcandidate⟩ := exists_candidate_iff.mpr ⟨hmem, hmay⟩
    exact h place r hcandidate

/-- **Where there is a candidate, there is exactly one winner.** -/
theorem existsUnique_wins (h : ∃ place r, Candidate fullCoverage kb observed place r) :
    ∃! c : ℕ × Rule, Wins fullCoverage kb observed c.1 c.2 := by
  obtain ⟨place, r, hcandidate⟩ := h
  cases hselect : select fullCoverage kb observed with
  | none => exact absurd hcandidate (select_eq_none_iff_candidate.mp hselect place r)
  | some w =>
    obtain ⟨place', hwins⟩ := select_eq_some_iff_wins.mp hselect
    refine ⟨(place', w), hwins, fun c hc => ?_⟩
    obtain ⟨hplace, hrule⟩ := hwins.unique hc
    exact Prod.ext hplace hrule

/-! ### Rules in another order -/

/-- **The order of the rules does not influence the merits that win.** -/
theorem merits_select_of_perm {kb' : KnowledgeBase W} (hperm : kb'.rules.Perm kb.rules) :
    (select fullCoverage kb' observed).map (Rule.merits observed) =
      (select fullCoverage kb observed).map (Rule.merits observed) := by
  cases hselect : select fullCoverage kb observed with
  | none =>
    have hnone : select fullCoverage kb' observed = none :=
      select_eq_none_iff.mpr fun r hr => select_eq_none_iff.mp hselect r (hperm.mem_iff.mp hr)
    rw [hnone]
  | some w =>
    -- each of the two winners is a candidate in the other order as well
    obtain ⟨hw, hcandidate⟩ := of_select_eq_some hselect
    obtain ⟨w', hselect', hle⟩ := exists_select (hperm.mem_iff.mpr hw) hcandidate
    obtain ⟨hw', hcandidate'⟩ := of_select_eq_some hselect'
    obtain ⟨w'', hselect'', hge⟩ := exists_select (hperm.mem_iff.mp hw') hcandidate'
    obtain rfl : w = w'' := Option.some.inj (hselect.symm.trans hselect'')
    have hmerits : w'.merits observed = w.merits observed :=
      Rule.rank_eq_iff.mp (le_antisymm hge hle)
    rw [hselect', Option.map_some, Option.map_some, hmerits]

/-- A winner that has its merits alone wins in any order. -/
theorem select_of_perm {kb' : KnowledgeBase W} (hperm : kb'.rules.Perm kb.rules)
    (h : select fullCoverage kb observed = some w)
    (halone : ∀ place r, Candidate fullCoverage kb observed place r →
      r.merits observed = w.merits observed → r = w) :
    select fullCoverage kb' observed = some w := by
  have hmerits : (select fullCoverage kb' observed).map (Rule.merits observed) =
      some (w.merits observed) := by
    rw [merits_select_of_perm hperm, h, Option.map_some]
  obtain ⟨w', hselect', hsame⟩ := Option.map_eq_some_iff.mp hmerits
  obtain ⟨hw', hcandidate'⟩ := of_select_eq_some hselect'
  obtain ⟨place, hplace⟩ := exists_candidate_iff.mpr ⟨hperm.mem_iff.mp hw', hcandidate'⟩
  rw [hselect', halone place w' hplace hsame]

/-- **Selection finds the one winner.** Nothing is selected exactly if there is no candidate. If
there is one, exactly one candidate beats every other, and its rule is selected. With the rules in
any other order, the merits of what is selected are the same; and it is the same rule, unless
another candidate has the merits of the winner. -/
theorem select_is_winner (fullCoverage : Bool) (kb : KnowledgeBase W) (observed : IdSet) :
    (select fullCoverage kb observed = none ↔
        ∀ place r, ¬Candidate fullCoverage kb observed place r) ∧
      (∀ w, select fullCoverage kb observed = some w ↔
        ∃ place, Wins fullCoverage kb observed place w) ∧
      ((∃ place r, Candidate fullCoverage kb observed place r) →
        ∃! c : ℕ × Rule, Wins fullCoverage kb observed c.1 c.2) ∧
      ∀ kb' : KnowledgeBase W, kb'.rules.Perm kb.rules →
        (select fullCoverage kb' observed).map (Rule.merits observed) =
            (select fullCoverage kb observed).map (Rule.merits observed) ∧
          ∀ w, select fullCoverage kb observed = some w →
            (∀ place r, Candidate fullCoverage kb observed place r →
              r.merits observed = w.merits observed → r = w) →
            select fullCoverage kb' observed = some w := by
  refine ⟨select_eq_none_iff_candidate, ?_, existsUnique_wins, fun kb' hperm => ⟨?_, ?_⟩⟩
  · exact fun w => select_eq_some_iff_wins
  · exact merits_select_of_perm hperm
  · exact fun w => select_of_perm hperm

-- rules of the same merits: here it is the order that decides
example :
    let r : Rule := ⟨.ofList ["fan"], ∅, "The fan is blocked", .shipped⟩
    let s : Rule := ⟨.ofList ["smell"], ∅, "The power supply is worn", .shipped⟩
    let kb : KnowledgeBase ℕ := { rules := [r, s] }
    let kb' : KnowledgeBase ℕ := { rules := [s, r] }
    let observed : IdSet := .ofList ["fan", "smell"]
    select false kb observed = some r ∧ select false kb' observed = some s := by
  decide +kernel

end RuleSelection

end FaultDiagnosis
