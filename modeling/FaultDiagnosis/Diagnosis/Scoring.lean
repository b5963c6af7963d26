import FaultDiagnosis.Diagnosis.Fallback

/-!
# Diagnosis by scoring

Every clue whose symptom is observed adds its weight to the total of its diagnosis. The diagnosis
with the greatest total is the verdict, provided that the total is above zero and reaches the
threshold; of equal totals the diagnosis that is mentioned first wins. The total is given along as
the confidence, in the same unit as the threshold.
-/

namespace FaultDiagnosis

/-- The total weight of a diagnosis. -/
structure Score (W : Type) where
  diagnosis : String
  total : W
  deriving DecidableEq, Repr

namespace Scoring

variable {W : Type} [Weight W]

/-- Adds a weight to the total of a diagnosis, or only takes note of the diagnosis where there is no
weight to add. A new diagnosis comes last and starts from zero. -/
def addTo (diagnosis : String) (weight : Option W) : List (Score W) → List (Score W)
  | [] => [⟨diagnosis, weight.elim 0 (0 + ·)⟩]
  | s :: ss =>
    if s.diagnosis = diagnosis then { s with total := weight.elim s.total (s.total + ·) } :: ss
    else s :: addTo diagnosis weight ss

/-- Takes one clue into account. -/
def tally (observed : IdSet) (scores : List (Score W)) (c : Clue W) : List (Score W) :=
  addTo c.diagnosis (if observed.contains c.symptom then some c.weight else none) scores

/-- **The totals of all diagnoses**, in the order in which the clues first mention them. -/
def scores (kb : KnowledgeBase W) (observed : IdSet) : List (Score W) :=
  kb.clues.foldl (tally observed) []

/-- The greater of the best score so far and the next one. -/
def better : Option (Score W) → Score W → Option (Score W)
  | none, s => some s
  | some best, s => if Weight.atMost s.total best.total then some best else some s

/-- The first of the scores with the greatest total. -/
def best (scores : List (Score W)) : Option (Score W) :=
  scores.foldl better none

/-- The clues that count for a diagnosis. -/
def contributing (kb : KnowledgeBase W) (observed : IdSet) (diagnosis : String) : List (Clue W) :=
  kb.clues.filter fun c => c.diagnosis = diagnosis && observed.contains c.symptom

/-- Knowledge that a user contributed to is a user's. -/
def originOf (clues : List (Clue W)) : Origin :=
  if clues.any (·.origin = .user) then .user else .shipped

/-- The verdict for a diagnosis that scored high enough. -/
def verdict (kb : KnowledgeBase W) (observed : IdSet) (s : Score W) : Verdict W :=
  let clues := contributing kb observed s.diagnosis
  { diagnosis := s.diagnosis
    matched := .ofList (clues.map (·.symptom))
    confidence := some s.total
    origin := some (originOf clues)
    conclusive := true
    resolvedBy := .scoring }

/-- Is a total too small for a diagnosis? -/
def isTooLow (threshold total : W) : Bool :=
  Weight.atMost total 0 || Weight.below total threshold

/-- **The verdict by scoring.** -/
def evaluate (threshold : W) (kb : KnowledgeBase W) (observed : IdSet) : Verdict W :=
  match best (scores kb observed) with
  | none => Fallback.evaluate kb observed
  | some s =>
    if isTooLow threshold s.total then Fallback.evaluate kb observed else verdict kb observed s

end Scoring

end FaultDiagnosis
