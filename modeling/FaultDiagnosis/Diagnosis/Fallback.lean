import FaultDiagnosis.Diagnosis.Verdict

/-!
# When nothing definite can be said

The fallback never names a cause. It gives the advice of a hint where one fits, and general advice
otherwise: first the hint for the only observed symptom, then the earliest combination hint that
fits, then a request to contribute what is missing. Where nothing was observed it asks for a
symptom.
-/

namespace FaultDiagnosis.Fallback

variable {W : Type}

/-- What an inconclusive verdict has for a diagnosis. -/
def diagnosis : String := "no definitive match"

/-- The advice when nothing was observed. -/
def adviceEmpty : String := "Select at least one symptom to get a diagnosis."

/-- The advice when nothing is known about what was observed. -/
def adviceGeneric : String :=
  "The selected symptoms do not match a known fault. " ++
    "Describe the problem as a contribution so it can be added to the knowledge base."

/-- The verdict that gives advice and names no cause. -/
def inconclusive (observed : IdSet) (advice : String) : Verdict W where
  diagnosis := diagnosis
  matched := observed
  conclusive := false
  resolvedBy := .fallback
  advice := some advice

/-- The advice that needs no knowledge. -/
def generalAdvice (observed : IdSet) : String :=
  if observed.isEmpty then adviceEmpty else adviceGeneric

/-- The verdict that needs no knowledge. -/
def resolve (observed : IdSet) : Verdict W :=
  inconclusive observed (generalAdvice observed)

/-- The hint for the observed symptom, if there is exactly one. -/
def singleHint? (kb : KnowledgeBase W) (observed : IdSet) : Option String :=
  match observed.toList with
  | [id] => kb.hints.get? id
  | _ => none

/-- The advice of the earliest combination hint that fits. -/
def combinationHint? (kb : KnowledgeBase W) (observed : IdSet) : Option String :=
  if observed.isEmpty then none
  else (kb.combinationHints.find? (·.fits observed)).map (·.advice)

/-- The best advice that the knowledge has for what was observed. -/
def advice (kb : KnowledgeBase W) (observed : IdSet) : String :=
  ((singleHint? kb observed).or (combinationHint? kb observed)).getD (generalAdvice observed)

/-- **The verdict where no strategy came to a diagnosis.** -/
def evaluate (kb : KnowledgeBase W) (observed : IdSet) : Verdict W :=
  inconclusive observed (advice kb observed)

end FaultDiagnosis.Fallback
