import FaultDiagnosis.Knowledge.Basic
import FaultDiagnosis.Text.Alphanumeric

/-!
# Labels, diagnoses and identifiers as users write them

Users write labels and diagnoses in their own words. A text has to have some length to be of use to
others, where blanks at its ends do not count. An identifier can be derived from a label: its words
in lower case, joined by underscores.
-/

namespace FaultDiagnosis

variable {W : Type}

/-- The number of characters of a text, not counting blanks at its ends. -/
def trimmedLength (text : String) : Nat :=
  (Text.trim text).length

/-- A symptom label needs ten characters. -/
def checkLabel (label : String) : Except (Defect W) Unit :=
  if trimmedLength label < minLabelLength then .error (.labelTooShort (trimmedLength label))
  else .ok ()

/-- A diagnosis needs twenty characters. -/
def checkDiagnosis (text : String) : Except (Defect W) Unit :=
  if trimmedLength text < minDiagnosisLength then
    .error (.diagnosisTooShort (trimmedLength text))
  else .ok ()

/-- The words of a text: its longest stretches of letters and numbers. -/
def words (text : String) : List String :=
  ((text.toList.splitBy fun a b => Text.isAlphanumeric a == Text.isAlphanumeric b).filter
    (·.any Text.isAlphanumeric)).map String.ofList

/-- What every derived identifier starts with. -/
def derivedIdStart : String := "user_"

/-- The identifier derived from a label. A label without any word has none. -/
def deriveId (label : String) : Except (Defect W) String :=
  match words label with
  | [] => .error .emptySymptomId
  | ws => .ok (derivedIdStart ++ "_".intercalate (ws.map Text.lowerCase))

/-- The first characters of a text, to name it by. -/
def preview (length : Nat) (text : String) : String :=
  String.ofList (text.toList.take length)

end FaultDiagnosis
