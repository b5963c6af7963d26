import FaultDiagnosis.Text.Quoted
import FaultDiagnosis.Weight

/-!
# What can be wrong with a piece of knowledge

A `Defect` says why a symptom, a rule, a clue or a hint is not accepted. A contribution with a
defect is turned away; a defect in the shipped knowledge stops the program (`LoadFault`). Every
defect has a short code for programs and a message for people.
-/

namespace FaultDiagnosis

/-- The fewest characters of a symptom label. -/
def minLabelLength : Nat := 10

/-- The fewest characters of a diagnosis text. -/
def minDiagnosisLength : Nat := 20

/-- Why a piece of knowledge is not accepted. -/
inductive Defect (W : Type)
  /-- A label of the given length, which is too short. -/
  | labelTooShort (length : Nat)
  /-- A diagnosis of the given length, which is too short. -/
  | diagnosisTooShort (length : Nat)
  | missingCategory
  | unknownCategory (name : String)
  | emptySymptomId
  | emptyPositive
  /-- Identifiers that a rule wants both present and absent. -/
  | overlappingConditions (ids : List String)
  | unknownSymptom (id : String)
  | duplicateSymptom (id : String)
  | nonPositiveWeight (weight : W)
  | emptyHintConditions
  deriving DecidableEq, Repr

namespace Defect

variable {W : Type}

/-- The code by which a program tells defects apart. -/
def code : Defect W → String
  | labelTooShort _ => "label_too_short"
  | diagnosisTooShort _ => "diagnosis_too_short"
  | missingCategory => "missing_category"
  | unknownCategory _ => "unknown_category"
  | emptySymptomId => "empty_symptom_id"
  | emptyPositive => "empty_positive"
  | overlappingConditions _ => "overlapping_conditions"
  | unknownSymptom _ => "unknown_symptom"
  | duplicateSymptom _ => "duplicate_symptom"
  | nonPositiveWeight _ => "non_positive_weight"
  | emptyHintConditions => "empty_hint_conditions"

/-- The defect in words. -/
def message [WeightNotation W] : Defect W → String
  | labelTooShort length =>
    "Symptom label has " ++ Numeral.text (.ofNat length) ++ " characters, at least "
      ++ Numeral.text (.ofNat minLabelLength) ++ " required"
  | diagnosisTooShort length =>
    "Diagnosis text has " ++ Numeral.text (.ofNat length) ++ " characters, at least "
      ++ Numeral.text (.ofNat minDiagnosisLength) ++ " required"
  | missingCategory => "Symptom category is required"
  | unknownCategory name =>
    "Unknown symptom category '" ++ name ++ "' (expected hardware or software)"
  | emptySymptomId => "Symptom id is empty"
  | emptyPositive => "Rule has no positive conditions"
  | overlappingConditions ids =>
    "Rule lists " ++ Text.quotedList ids ++ " as both positive and negative conditions"
  | unknownSymptom id => "Unknown symptom id '" ++ id ++ "'"
  | duplicateSymptom id => "Symptom id '" ++ id ++ "' already exists"
  | nonPositiveWeight weight =>
    "Clue weight must be a positive number, got " ++ WeightNotation.text weight
  | emptyHintConditions => "Combination hint needs at least one required symptom"

end Defect

/-- Why the knowledge at hand could not be loaded. -/
inductive LoadFault (W : Type)
  /-- There is no file at the path. -/
  | missing (path : String)
  /-- The file at the path cannot be read as text. -/
  | unreadable (path : String)
  /-- The text at the path is not a knowledge document. -/
  | malformed (path : String)
  /-- An item of the document, named by the context, has a defect. -/
  | invalid (context : String) (defect : Defect W)
  deriving DecidableEq, Repr

/-- The message of a file that is not there. -/
def LoadFault.missingMessage (path : String) : String :=
  "Knowledge base not found: " ++ path

/-- The message of a defect in a document. -/
def LoadFault.invalidMessage {W : Type} [WeightNotation W] (context : String) (defect : Defect W) :
    String :=
  "Invalid knowledge base (" ++ context ++ "): " ++ defect.message

end FaultDiagnosis
