import FaultDiagnosis.Diagnosis.Verdict

/-!
# Reports for people

Verdicts and symptom lists as they are shown on a terminal. Styles are switched on and off by escape
sequences, whether or not the terminal understands them.
-/

namespace FaultDiagnosis.Report

variable {W : Type}

/-! ### Styles -/

/-- The escape sequence that sets a display attribute. -/
def setAttribute (code : Nat) : String :=
  "\x1b[" ++ Numeral.text (.ofNat code) ++ "m"

/-- A text with a style that is reset after it. -/
def styled (code : Nat) (text : String) : String :=
  setAttribute code ++ text ++ setAttribute 0

/-- A bold text. -/
def bold (text : String) : String := styled 1 text

/-- A faint text. -/
def faint (text : String) : String := styled 2 text

/-- An italic text. -/
def italic (text : String) : String := styled 3 text

/-- The foreground colours in use. -/
inductive Colour
  | red
  | green
  | yellow
  | cyan

/-- The display attribute of a colour. -/
def Colour.code : Colour → Nat
  | red => 31
  | green => 32
  | yellow => 33
  | cyan => 36

/-- A text in a colour, with the usual colour after it. -/
def coloured (c : Colour) (text : String) : String :=
  setAttribute c.code ++ text ++ setAttribute 39

/-! ### Verdicts -/

/-- What a resolver is called. -/
def resolverName : Resolver → String
  | .rules => "rule engine"
  | .scoring => "weighted scoring"
  | .fallback => "fallback"

/-- A line of details. -/
def detail (heading text : String) : String :=
  "  " ++ heading ++ " " ++ text ++ "\n"

/-- The first line of a report. -/
def headline (v : Verdict W) : String :=
  (if v.conclusive then bold (coloured .green "Diagnosis:")
    else bold (coloured .yellow "Inconclusive:")) ++ " " ++ v.diagnosis ++ "\n"

/-- **A verdict for people.** -/
def verdict [WeightNotation W] (v : Verdict W) : String :=
  headline v
  ++ detail (faint "Resolved by:") (resolverName v.resolvedBy)
  ++ v.confidence.elim "" (fun w => detail (faint "Score:") (WeightNotation.rounded w))
  ++ (if v.matched.isEmpty then ""
    else detail (faint "Symptoms:") (", ".intercalate v.matched.toList))
  ++ v.advice.elim "" (detail (coloured .cyan "Advice:"))
  ++ if v.unknown.isEmpty then ""
    else detail (coloured .red "Unknown ids ignored:") (", ".intercalate v.unknown)

/-! ### Symptom lists -/

/-- The width of the column of identifiers. -/
def idWidth : Nat := 20

/-- A text filled up with spaces to a width. A longer text stays as it is. -/
def padded (width : Nat) (text : String) : String :=
  text ++ String.ofList (List.replicate (width - text.length) ' ')

/-- The line of a symptom. Contributed symptoms are in italics. -/
def symptomLine (s : Symptom) : String :=
  "  " ++ padded idWidth s.id ++ " "
    ++ (match s.origin with
      | .shipped => s.displayLabel
      | .user => italic s.displayLabel) ++ "\n"

/-- The heading of a category. -/
def heading (c : Category) : String :=
  bold (String.ofList (c.name.toList.map Char.toUpper)) ++ "\n"

/-- Symptoms under the categories that they have, by the rank of the categories. -/
abbrev Groups := List (Category × List Symptom)

/-- The groups with one more symptom. It goes behind the others of its category; where it is the
first of them, its category gets a group of its own. -/
def Groups.place (s : Symptom) : Groups → Groups
  | [] => [(s.category, [s])]
  | (c, members) :: groups =>
    if s.category = c then (c, members ++ [s]) :: groups
    else if s.category.rank < c.rank then (s.category, [s]) :: (c, members) :: groups
    else (c, members) :: place s groups

/-- The symptoms of a list in groups. -/
def Groups.ofList (symptoms : List Symptom) : Groups :=
  symptoms.foldl (fun groups s => groups.place s) []

/-- A heading with the symptoms under it. -/
def group (c : Category) (members : List Symptom) : String :=
  heading c ++ String.join (members.map symptomLine)

/-- **A list of symptoms for people**: one heading per category, and the symptoms under it in the
order of the list. -/
def symptoms (symptoms : List Symptom) : String :=
  String.join ((Groups.ofList symptoms).map fun g => group g.1 g.2)

end FaultDiagnosis.Report
