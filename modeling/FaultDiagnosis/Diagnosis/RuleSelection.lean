import FaultDiagnosis.Diagnosis.Fallback

/-!
# Diagnosis by rules

A rule is *satisfied* when all of its positive conditions are observed and none of its negative ones
is; what was not observed counts as absent. Of the satisfied rules the most specific one is
selected. Between equally specific ones more positive conditions win, then shipped knowledge wins
over contributions, and then the rule that was loaded first.

With full coverage, a rule has to explain every observed symptom to be a candidate at all.
-/

namespace FaultDiagnosis

variable {W : Type}

namespace Rule

/-- Do the observed symptoms meet the conditions? -/
def isSatisfied (r : Rule) (observed : IdSet) : Bool :=
  r.positive.isSubset observed && r.negative.isDisjoint observed

/-- The number of positive conditions that are observed. -/
def coverage (r : Rule) (observed : IdSet) : Nat :=
  (r.positive.inter observed).size

/-- Is every observed symptom one that the rule mentions? -/
def coversAll (r : Rule) (observed : IdSet) : Bool :=
  observed.toList.all fun id => r.negative.contains id || r.positive.contains id

/-- **Does the first rule strictly precede the second in rank?** Load order is not part of it. -/
def outranks (observed : IdSet) (r s : Rule) : Bool :=
  if r.specificity ≠ s.specificity then decide (s.specificity < r.specificity)
  else if r.coverage observed ≠ s.coverage observed then
    decide (s.coverage observed < r.coverage observed)
  else decide (r.origin.rank < s.origin.rank)

/-- The rule of the higher rank; of two of the same rank the one met first. -/
def better (observed : IdSet) : Option Rule → Rule → Option Rule
  | none, r => some r
  | some best, r => if r.outranks observed best then some r else some best

end Rule

namespace RuleSelection

/-- May the rule win? -/
def isCandidate (fullCoverage : Bool) (observed : IdSet) (r : Rule) : Bool :=
  r.isSatisfied observed && (!fullCoverage || r.coversAll observed)

/-- **The selected rule**, if any may win. -/
def select (fullCoverage : Bool) (kb : KnowledgeBase W) (observed : IdSet) : Option Rule :=
  (kb.rules.filter (isCandidate fullCoverage observed)).foldl (Rule.better observed) none

/-- The verdict of a selected rule. -/
def verdict (observed : IdSet) (r : Rule) : Verdict W where
  diagnosis := r.diagnosis
  matched := r.positive.inter observed
  origin := some r.origin
  conclusive := true
  resolvedBy := .rules

/-- **The verdict by rules.** -/
def evaluate (fullCoverage : Bool) (kb : KnowledgeBase W) (observed : IdSet) : Verdict W :=
  match select fullCoverage kb observed with
  | some r => verdict observed r
  | none => Fallback.evaluate kb observed

end RuleSelection

end FaultDiagnosis
