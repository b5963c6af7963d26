import FaultDiagnosis.Json.Reading
import FaultDiagnosis.Toml.Basic
import FaultDiagnosis.Timestamp

/-!
# Single values in TOML

Texts, numbers, truth values, and dates and times. Each reader takes the characters from the start
of the value and gives the value with what follows it, or nothing where it is not well written.
-/

namespace FaultDiagnosis.Toml

/-- A reader: a value and the rest of the text. -/
abbrev Reader (α : Type) := List Char → Option (α × List Char)

/-! ### Characters -/

/-- A space or a tab. -/
def isSpace (c : Char) : Bool :=
  c = ' ' || c = '\t'

/-- May the character stand in a line as it is? Controls other than the tab may not. -/
def isPlain (c : Char) : Bool :=
  c = '\t' || decide (0x20 ≤ c.toNat) && c ≠ '\x7f'

/-- The rest after spaces and tabs. -/
def skipSpaces (cs : List Char) : List Char :=
  cs.dropWhile isSpace

/-- The rest after a line break, if there is one. -/
def newline? : List Char → Option (List Char)
  | '\n' :: rest => some rest
  | '\r' :: '\n' :: rest => some rest
  | _ => none

/-- The rest without a line break at its start. -/
def skipNewline (cs : List Char) : List Char :=
  (newline? cs).getD cs

/-! ### Texts -/

/-- The character that a letter after a backslash stands for. -/
def escapeChar? (c : Char) : Option Char :=
  match c with
  | 'b' => some '\x08'
  | 't' => some '\t'
  | 'n' => some '\n'
  | 'f' => some '\x0c'
  | 'r' => some '\r'
  | '"' => some '"'
  | '\\' => some '\\'
  | _ => none

/-- The character with the number that hexadecimal digits name. -/
def escapedPoint (digits : List Char) : Option Char := do
  let n ← (digits.mapM Json.Reading.hexValue?).map fun ds => ds.foldl (fun n d => 16 * n + d) 0
  if n.isValidChar then some (Char.ofNat n) else none

/-- A text between quotation marks, from after the opening one. `read` holds the characters so far,
last one first. -/
def basicBody (read : List Char) : Reader (List Char)
  | '"' :: rest => some (read.reverse, rest)
  | '\\' :: 'u' :: a :: b :: c :: d :: rest =>
    match escapedPoint [a, b, c, d] with
    | some x => basicBody (x :: read) rest
    | none => none
  | '\\' :: 'U' :: a :: b :: c :: d :: e :: f :: g :: h :: rest =>
    match escapedPoint [a, b, c, d, e, f, g, h] with
    | some x => basicBody (x :: read) rest
    | none => none
  | '\\' :: c :: rest =>
    match escapeChar? c with
    | some x => basicBody (x :: read) rest
    | none => none
  | c :: rest => if isPlain c then basicBody (c :: read) rest else none
  | [] => none

/-- Does the line end here, but for spaces? -/
def isLineEnd (cs : List Char) : Bool :=
  (newline? (skipSpaces cs)).isSome

/-- A text between triple quotation marks, from after the opening ones. Up to two quotation marks
may stand in the text, also right before the closing ones. A backslash at the end of a line drops
the line break and all blanks after it; while that happens, `dropping` is set. -/
def multilineBody (read : List Char) (dropping : Bool) : Reader (List Char)
  | '"' :: '"' :: '"' :: '"' :: '"' :: rest => some (('"' :: '"' :: read).reverse, rest)
  | '"' :: '"' :: '"' :: '"' :: rest => some (('"' :: read).reverse, rest)
  | '"' :: '"' :: '"' :: rest => some (read.reverse, rest)
  | '\\' :: 'u' :: a :: b :: c :: d :: rest =>
    match escapedPoint [a, b, c, d] with
    | some x => multilineBody (x :: read) false rest
    | none => none
  | '\\' :: 'U' :: a :: b :: c :: d :: e :: f :: g :: h :: rest =>
    match escapedPoint [a, b, c, d, e, f, g, h] with
    | some x => multilineBody (x :: read) false rest
    | none => none
  | '\\' :: c :: rest =>
    match escapeChar? c with
    | some x => multilineBody (x :: read) false rest
    | none => if isLineEnd (c :: rest) then multilineBody read true (c :: rest) else none
  | '\r' :: '\n' :: rest => multilineBody (if dropping then read else '\n' :: read) dropping rest
  | '\n' :: rest => multilineBody (if dropping then read else '\n' :: read) dropping rest
  | c :: rest =>
    if dropping && isSpace c then multilineBody read true rest
    else if isPlain c then multilineBody (c :: read) false rest
    else none
  | [] => none

/-- A text between apostrophes, from after the opening one. Nothing is escaped in it. -/
def literalBody (read : List Char) : Reader (List Char)
  | '\x27' :: rest => some (read.reverse, rest)
  | c :: rest => if isPlain c then literalBody (c :: read) rest else none
  | [] => none

/-- A text between triple apostrophes, from after the opening ones. -/
def multilineLiteralBody (read : List Char) : Reader (List Char)
  | '\x27' :: '\x27' :: '\x27' :: '\x27' :: '\x27' :: rest =>
    some (('\x27' :: '\x27' :: read).reverse, rest)
  | '\x27' :: '\x27' :: '\x27' :: '\x27' :: rest => some (('\x27' :: read).reverse, rest)
  | '\x27' :: '\x27' :: '\x27' :: rest => some (read.reverse, rest)
  | '\r' :: '\n' :: rest => multilineLiteralBody ('\n' :: read) rest
  | '\n' :: rest => multilineLiteralBody ('\n' :: read) rest
  | c :: rest => if isPlain c then multilineLiteralBody (c :: read) rest else none
  | [] => none

/-- A text on one line, with either kind of marks. -/
def lineText : Reader String
  | '"' :: rest => (basicBody [] rest).map fun (cs, rest) => (String.ofList cs, rest)
  | '\x27' :: rest => (literalBody [] rest).map fun (cs, rest) => (String.ofList cs, rest)
  | _ => none

/-- A text of any kind. A line break right after triple marks is dropped. -/
def text : Reader String
  | '"' :: '"' :: '"' :: rest =>
    (multilineBody [] false (skipNewline rest)).map fun (cs, rest) => (String.ofList cs, rest)
  | '\x27' :: '\x27' :: '\x27' :: rest =>
    (multilineLiteralBody [] (skipNewline rest)).map fun (cs, rest) => (String.ofList cs, rest)
  | cs => lineText cs

/-! ### Numbers -/

/-- Digits with single underscores between them. `read` holds the digits so far, last one first. -/
def groupedDigits {α : Type} (digit? : Char → Option α) (read : List α) : Reader (List α)
  | '_' :: c :: rest =>
    match digit? c with
    | some d => if read.isEmpty then none else groupedDigits digit? (d :: read) rest
    | none => none
  | c :: rest =>
    match digit? c with
    | some d => groupedDigits digit? (d :: read) rest
    | none => if read.isEmpty || c = '_' then none else some (read.reverse, c :: rest)
  | [] => if read.isEmpty then none else some (read.reverse, [])

/-- The value of a digit in a base up to sixteen. -/
def digitInBase (base : Nat) (c : Char) : Option Nat :=
  (Json.Reading.hexValue? c).filter (· < base)

/-- Does the number fit into 64 bits with a sign? -/
def isInRange (n : Int) : Bool :=
  decide (-(twoTo 63 : Int) ≤ n ∧ n < twoTo 63)

/-- An integer as a value. -/
def integerValue (n : Int) (rest : List Char) : Option (Toml × List Char) :=
  if isInRange n then some (.integer n, rest) else none

/-- An integer in a base other than ten, from after its mark. -/
def basedInteger (base : Nat) : Reader Toml := fun cs => do
  let (ds, rest) ← groupedDigits (digitInBase base) [] cs
  integerValue (ds.foldl (fun n d => base * n + d) 0 : Nat) rest

/-- The digits before the point: a zero alone, or digits that do not start with one. -/
def wholeDigits : Reader (List Digit)
  | '0' :: rest => some ([.zero], rest)
  | cs => groupedDigits Digit.ofChar? [] cs

/-- The digits after the point, if there is one. -/
def fractionDigits : Reader (List Digit)
  | '.' :: rest => groupedDigits Digit.ofChar? [] rest
  | cs => some ([], cs)

/-- The digits of an exponent after its sign. -/
def exponentDigits (negative : Bool) : Reader (Option Exponent) := fun cs =>
  (groupedDigits Digit.ofChar? [] cs).map fun (ds, rest) => (some ⟨negative, ds⟩, rest)

/-- The exponent, if there is one. -/
def exponentPart : Reader (Option Exponent)
  | c :: cs =>
    if c = 'e' ∨ c = 'E' then
      match cs with
      | '-' :: cs => exponentDigits true cs
      | '+' :: cs => exponentDigits false cs
      | cs => exponentDigits false cs
    else some (none, c :: cs)
  | [] => some (none, [])

/-- A number with a point or an exponent as a value. It may not be too large. -/
def floatValue (n : Numeral) (rest : List Char) : Option (Toml × List Char) :=
  let x := n.nearest
  if x.isInf && !n.negative then none else some (.float x, rest)

/-- A number in base ten, from after its sign. -/
def decimalNumber (negative : Bool) : Reader Toml := fun cs => do
  let (whole, cs) ← wholeDigits cs
  let (fraction, cs) ← fractionDigits cs
  let (exponent, cs) ← exponentPart cs
  let n : Numeral := { negative, whole, fraction, exponent }
  if n.isInteger then
    integerValue (if negative then -(n.coefficient : Int) else n.coefficient) cs
  else floatValue n cs

/-- A number from after its sign; what is infinite and what is none have names. -/
def signedNumber (negative : Bool) : Reader Toml
  | 'i' :: 'n' :: 'f' :: rest => some (.float (if negative then -(1 / 0) else 1 / 0), rest)
  | 'n' :: 'a' :: 'n' :: rest => some (.float (0 / 0), rest)
  | cs => decimalNumber negative cs

/-- A number. -/
def number : Reader Toml
  | '0' :: 'x' :: rest => basedInteger 16 rest
  | '0' :: 'o' :: rest => basedInteger 8 rest
  | '0' :: 'b' :: rest => basedInteger 2 rest
  | '-' :: rest => signedNumber true rest
  | '+' :: rest => signedNumber false rest
  | cs => signedNumber false cs

/-! ### Dates and times -/

/-- A number of two digits within bounds. -/
def twoDigits (least greatest : Nat) : Reader Nat := fun cs => do
  let (n, rest) ← Timestamp.twoDigits cs
  if least ≤ n ∧ n ≤ greatest then some (n, rest) else none

/-- The rest after a character. -/
def after (c : Char) : List Char → Option (List Char)
  | x :: rest => if x = c then some rest else none
  | [] => none

/-- The rest after the digits of a fraction, if a point is there. -/
def skipFraction : List Char → Option (List Char)
  | '.' :: rest =>
    match Digit.takeDigits rest with
    | ([], _) => none
    | (_, rest) => some rest
  | cs => some cs

/-- The rest after the minutes and seconds of a time. -/
def minutesOnward (cs : List Char) : Option (List Char) := do
  let (_, cs) ← twoDigits 0 59 cs
  let (_, cs) ← twoDigits 0 60 (← after ':' cs)
  skipFraction cs

/-- The rest after the hour of a time and the colon after it, if a time starts here. -/
def hour? (cs : List Char) : Option (List Char) := do
  let (_, cs) ← twoDigits 0 23 cs
  after ':' cs

/-- The rest after an offset from universal time, if there is one. -/
def skipOffset : List Char → Option (List Char)
  | 'Z' :: rest | 'z' :: rest => some rest
  | '+' :: rest | '-' :: rest => do
    let (_, cs) ← twoDigits 0 23 rest
    let (_, cs) ← twoDigits 0 59 (← after ':' cs)
    return cs
  | cs => some cs

/-- The rest after the year of a date and the hyphen after it, if a date starts here. -/
def year? (cs : List Char) : Option (Nat × List Char) := do
  let (century, cs) ← Timestamp.twoDigits cs
  let (year, cs) ← Timestamp.twoDigits cs
  return (100 * century + year, ← after '-' cs)

/-- The rest after the time that may follow a date. -/
def skipTime : List Char → Option (List Char)
  | c :: cs =>
    if c = 'T' ∨ c = 't' ∨ c = ' ' then
      match hour? cs with
      | some cs => do skipOffset (← minutesOnward cs)
      | none => some (c :: cs)
    else some (c :: cs)
  | [] => some []

/-- The rest of a date after its year, with the time that may follow it. -/
def monthOnward (year : Nat) (cs : List Char) : Option (List Char) := do
  let (month, cs) ← twoDigits 1 12 cs
  let (_, cs) ← twoDigits 1 (Timestamp.daysInMonth year month) (← after '-' cs)
  skipTime cs

/-- A number, a date or a time. What starts as a date or a time has to be one. -/
def numberOrTime : Reader Toml := fun cs =>
  match year? cs with
  | some (year, rest) => (monthOnward year rest).map (.dateTime, ·)
  | none =>
    match hour? cs with
    | some rest => (minutesOnward rest).map (.dateTime, ·)
    | none => number cs

/-- The rest after a word. -/
def word (letters : String) (value : Toml) : Reader Toml := fun cs =>
  if letters.toList.isPrefixOf cs then some (value, cs.drop letters.length) else none

end FaultDiagnosis.Toml
