import FaultDiagnosis.Contribution.Record

/-!
# The contribution log

Accepted contributions are kept in a text file with one record per line. A line that is blank or
that is no record is passed over when the log is read, so damage to a line costs that line only.
-/

namespace FaultDiagnosis.Log

variable {W : Type}

/-- The lines of a text, where `line` holds the characters of the current line, last one first. A
line feed ends a line, together with a carriage return before it. There is no line after the last
line feed. -/
def linesFrom (line : List Char) : List Char → List String
  | [] => if line.isEmpty then [] else [String.ofList line.reverse]
  | '\n' :: rest =>
    let line := match line with
      | '\r' :: line => line
      | line => line
    String.ofList line.reverse :: linesFrom [] rest
  | c :: rest => linesFrom (c :: line) rest

/-- The lines of a text. -/
def lines (text : String) : List String :=
  linesFrom [] text.toList

/-- The record on a line, if there is one. -/
def record? [WeightNotation W] (line : String) : Option (Record W) :=
  if Text.isBlankText line then none
  else (Record.decoder (Json.Reading.ofText line)).toOption

/-- **The records in a log**, oldest first. -/
def records [WeightNotation W] (text : String) : List (Record W) :=
  (lines text).filterMap record?

/-- The text by which a record is added to a log. -/
def entry [WeightNotation W] (r : Record W) : String :=
  r.toJson.compact ++ "\n"

end FaultDiagnosis.Log
