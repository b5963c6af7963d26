import FaultDiagnosis.Knowledge.Wording

/-!
# Contributions

Users add to the knowledge at run time: a symptom, or a rule together with clues that let scoring
know of it. `Contribution.check` says whether a knowledge base can take a contribution, and
`KnowledgeBase.add` takes it. What this does to the lists of the knowledge base is spelled out in
`KnowledgeBase.Gains`.

The check repeats what the smart constructors already refuse, because contributions also come from
the log file, whose content nobody has checked.
-/

namespace FaultDiagnosis

variable {W : Type}

/-- **Something that a user adds.** -/
inductive Contribution (W : Type)
  | symptom (symptom : Symptom)
  | rule (rule : Rule) (clues : List (Clue W))
  deriving DecidableEq

namespace Contribution

/-- The contribution with all its items marked as a user's, whatever it says itself. -/
def asUser : Contribution W → Contribution W
  | symptom s => symptom { s with origin := .user }
  | rule r cs => rule { r with origin := .user } (cs.map fun c => { c with origin := .user })

/-- The length to which a diagnosis is cut where it names a contribution. -/
def descriptionLength : Nat := 40

/-- A few words to name the contribution by. -/
def describe : Contribution W → String
  | symptom s => "symptom '" ++ s.id ++ "'"
  | rule r _ => "rule '" ++ preview descriptionLength r.diagnosis ++ "'"

/-- A new symptom needs an identifier of its own and a label. -/
def checkSymptom (s : Symptom) (kb : KnowledgeBase W) : Except (Defect W) Unit := do
  if Text.isBlankText s.id then throw .emptySymptomId
  checkLabel s.label
  if kb.hasSymptom s.id then throw (.duplicateSymptom s.id)

/-- A new rule needs a diagnosis, sensible conditions, and symptoms that are known. -/
def checkRule (r : Rule) (kb : KnowledgeBase W) : Except (Defect W) Unit := do
  checkDiagnosis r.diagnosis
  let _ ← Rule.ofConditions r.positive r.negative r.diagnosis r.origin
  match r.referencedIds.find? fun id => !kb.hasSymptom id with
  | some id => throw (.unknownSymptom id)
  | none => pure ()

/-- A new clue needs a weight, a symptom that is known, and a diagnosis. -/
def checkClue [Weight W] (kb : KnowledgeBase W) (c : Clue W) : Except (Defect W) Unit := do
  if !Weight.isPositive c.weight then throw (.nonPositiveWeight c.weight)
  if !kb.hasSymptom c.symptom then throw (.unknownSymptom c.symptom)
  checkDiagnosis c.diagnosis

/-- All clues of a list have to pass. -/
def checkClues [Weight W] (kb : KnowledgeBase W) : List (Clue W) → Except (Defect W) Unit
  | [] => .ok ()
  | c :: cs => do
    checkClue kb c
    checkClues kb cs

/-- **Can the knowledge base take the contribution?** -/
def check [Weight W] (kb : KnowledgeBase W) : Contribution W → Except (Defect W) Unit
  | symptom s => checkSymptom s kb
  | rule r cs => do
    checkRule r kb
    checkClues kb cs

end Contribution

/-- The knowledge base with a contribution after everything else. -/
def KnowledgeBase.add (kb : KnowledgeBase W) : Contribution W → KnowledgeBase W
  | .symptom s => { kb with symptoms := kb.symptoms ++ [s] }
  | .rule r cs => { kb with rules := kb.rules ++ [r], clues := kb.clues ++ cs }

/-- **One contribution more**: a symptom behind the others, or a rule behind the others and its
clues behind the others. Nothing else is different. -/
inductive KnowledgeBase.Gains (kb : KnowledgeBase W) : Contribution W → KnowledgeBase W → Prop
  | symptom (s : Symptom) : Gains kb (.symptom s) { kb with symptoms := kb.symptoms ++ [s] }
  | rule (r : Rule) (cs : List (Clue W)) :
    Gains kb (.rule r cs) { kb with rules := kb.rules ++ [r], clues := kb.clues ++ cs }

/-- **To add a contribution is to have it in addition.** -/
theorem KnowledgeBase.gains_iff {kb kb' : KnowledgeBase W} {item : Contribution W} :
    kb.Gains item kb' ↔ kb' = kb.add item := by
  constructor
  · rintro (s | ⟨r, cs⟩)
    · rfl
    · rfl
  · rintro rfl
    cases item with
    | symptom s => exact .symptom s
    | rule r cs => exact .rule r cs

theorem KnowledgeBase.gains_add (kb : KnowledgeBase W) (item : Contribution W) :
    kb.Gains item (kb.add item) :=
  gains_iff.mpr rfl

end FaultDiagnosis
