import FaultDiagnosis.Decimal.Numeral
import FaultDiagnosis.Text.Blank

/-!
# Points in time

Contributions are stamped with the time at which they were accepted. A `Timestamp` counts seconds
since the beginning of 1970 in universal time. It is written as `2024-02-29T23:59:59.5Z`, with as
many digits after the point as are needed, in groups of three.

`Timestamp.parse` is generous: it takes any offset from universal time, blanks between most parts,
and one-digit months, days and hours. A leap second, written with the seconds `60`, is kept as a
second more than a billion nanoseconds long.
-/

namespace FaultDiagnosis

/-- A point in time. The nanoseconds go beyond a billion inside a leap second. -/
structure Timestamp where
  seconds : Int
  nanoseconds : Nat
  deriving DecidableEq, Repr

namespace Timestamp

/-! ### Calendar -/

/-- Is the year a leap year? -/
def isLeapYear (year : Int) : Bool :=
  year % 4 = 0 && (year % 100 ≠ 0 || year % 400 = 0)

/-- The number of days of a month. -/
def daysInMonth (year : Int) (month : Nat) : Nat :=
  match month with
  | 2 => if isLeapYear year then 29 else 28
  | 4 | 6 | 9 | 11 => 30
  | _ => 31

/-- The days from the beginning of 1970 to a date. Years are counted from March on, so that the leap
day is the last of its year, and the days of an era of 400 years are always the same. -/
def daysFromDate (year : Int) (month day : Nat) : Int :=
  let shifted := if month ≤ 2 then year - 1 else year
  let era := shifted.fdiv 400
  let yearOfEra := shifted - era * 400
  let monthFromMarch : Int := if month ≤ 2 then month + 9 else (month : Int) - 3
  let dayOfYear := (153 * monthFromMarch + 2) / 5 + day - 1
  let dayOfEra := yearOfEra * 365 + yearOfEra / 4 - yearOfEra / 100 + dayOfYear
  era * 146097 + dayOfEra - 719468

/-- The year, month and day of a number of days from the beginning of 1970. -/
def dateFromDays (days : Int) : Int × Nat × Nat :=
  let shifted := days + 719468
  let era := shifted.fdiv 146097
  let dayOfEra := shifted - era * 146097
  let yearOfEra := (dayOfEra - dayOfEra / 1460 + dayOfEra / 36524 - dayOfEra / 146096) / 365
  let dayOfYear := dayOfEra - (365 * yearOfEra + yearOfEra / 4 - yearOfEra / 100)
  let monthFromMarch := (5 * dayOfYear + 2) / 153
  let day := dayOfYear - (153 * monthFromMarch + 2) / 5 + 1
  let month := if monthFromMarch < 10 then monthFromMarch + 3 else monthFromMarch - 9
  let year := yearOfEra + era * 400
  (if month ≤ 2 then year + 1 else year, month.toNat, day.toNat)

/-- The first and the last year of the calendar. -/
def firstYear : Int := -262143

/-- The last year of the calendar. -/
def lastYear : Int := 262142

/-! ### Writing -/

/-- A number with at least the given count of digits. -/
def padded (width n : Nat) : List Char :=
  let ds := Digit.ofNat n
  Digit.chars (List.replicate (width - ds.length) Digit.zero ++ ds)

/-- A year: four digits, or more with a sign outside the years that have four. -/
def yearChars (year : Int) : List Char :=
  if 0 ≤ year ∧ year ≤ 9999 then padded 4 year.toNat
  else (if year < 0 then '-' else '+') :: padded 4 year.natAbs

/-- The fraction of a second, in as few groups of three digits as name it. -/
def fractionChars (nanoseconds : Nat) : List Char :=
  if nanoseconds = 0 then []
  else if nanoseconds % 1000000 = 0 then '.' :: padded 3 (nanoseconds / 1000000)
  else if nanoseconds % 1000 = 0 then '.' :: padded 6 (nanoseconds / 1000)
  else '.' :: padded 9 nanoseconds

/-- The nanoseconds of a second. -/
def billion : Nat := 1000000000

/-- The seconds of a day. -/
def daySeconds : Nat := 86400

/-- **The text of a point in time.** -/
def text (t : Timestamp) : String :=
  let days := t.seconds.fdiv daySeconds
  let ofDay := (t.seconds - days * daySeconds).toNat
  let (year, month, day) := dateFromDays days
  let isLeapSecond := billion ≤ t.nanoseconds
  let second := ofDay % 60 + if isLeapSecond then 1 else 0
  let fraction := if isLeapSecond then t.nanoseconds - billion else t.nanoseconds
  String.ofList (yearChars year ++ '-' :: padded 2 month ++ '-' :: padded 2 day ++ 'T' ::
    padded 2 (ofDay / 3600) ++ ':' :: padded 2 (ofDay / 60 % 60) ++ ':' :: padded 2 second
    ++ fractionChars fraction ++ ['Z'])

/-! ### Reading -/

/-- At least one digit and at most `limit` of them, after blanks. -/
def number (limit : Nat) (cs : List Char) : Option (Nat × List Char) :=
  let cs := Text.trimStart cs
  match (Digit.takeDigits (cs.take limit)).1 with
  | [] => none
  | ds => some (Digit.value ds, cs.drop ds.length)

/-- A year: up to four digits, or any number of them after a sign. -/
def yearNumber (cs : List Char) : Option (Int × List Char) :=
  match Text.trimStart cs with
  | '-' :: cs => (signed cs).map fun (n, rest) => (-(n : Int), rest)
  | '+' :: cs => (signed cs).map fun (n, rest) => ((n : Int), rest)
  | cs => (number 4 cs).map fun (n, rest) => ((n : Int), rest)
where
  /-- The digits after a sign, which they have to follow at once. -/
  signed (cs : List Char) : Option (Nat × List Char) :=
    match Digit.takeDigits cs with
    | ([], _) => none
    | (ds, rest) => some (Digit.value ds, rest)

/-- The given character, after blanks. -/
def mark (c : Char) (cs : List Char) : Option (List Char) :=
  match Text.trimStart cs with
  | x :: rest => if x = c then some rest else none
  | [] => none

/-- The fraction of a second, if a point is there, in nanoseconds. Digits beyond the ninth are
dropped. -/
def fraction : List Char → Option (Nat × List Char)
  | '.' :: cs =>
    match Digit.takeDigits cs with
    | ([], _) => none
    | (ds, rest) =>
      let kept := ds.take 9
      some (Digit.value kept * tenTo (9 - kept.length), rest)
  | cs => some (0, cs)

/-- Two digits. -/
def twoDigits : List Char → Option (Nat × List Char)
  | a :: b :: rest =>
    match Digit.ofChar? a, Digit.ofChar? b with
    | some a, some b => some (10 * a.val + b.val, rest)
    | _, _ => none
  | _ => none

/-- The seconds by which a clock is ahead of universal time: hours and minutes after a sign. -/
def offset (cs : List Char) : Option (Int × List Char) :=
  match cs with
  | 'Z' :: rest | 'z' :: rest => some (0, rest)
  | '+' :: rest => ahead rest
  | '-' :: rest | '\u2212' :: rest => (ahead rest).map fun (n, rest) => (-n, rest)
  | _ => none
where
  /-- Hours and minutes, with colons and blanks between them. -/
  ahead (cs : List Char) : Option (Int × List Char) := do
    let (hours, cs) ← twoDigits cs
    let (minutes, cs) ← twoDigits (cs.dropWhile fun c => c = ':' || Text.isBlank c)
    if minutes < 60 then return ((hours * 3600 + minutes * 60 : Nat), cs) else none

/-- The offset of a time, which the letters `UTC` in any case may stand for. -/
def zone (cs : List Char) : Option (Int × List Char) :=
  match Text.trimStart cs with
  | u :: t :: c :: rest =>
    if [u, t, c].map Char.toUpper = ['U', 'T', 'C'] then some (0, rest)
    else offset (u :: t :: c :: rest)
  | cs => offset cs

/-- **The point in time that a text names.** -/
def parse (text : String) : Option Timestamp := do
  let (year, cs) ← yearNumber text.toList
  let (month, cs) ← number 2 (← mark '-' cs)
  let (day, cs) ← number 2 (← mark '-' cs)
  let cs ← match cs with
    | 'T' :: cs | 't' :: cs | ' ' :: cs => some cs
    | _ => none
  let (hour, cs) ← number 2 cs
  let (minute, cs) ← number 2 (← mark ':' cs)
  let (second, cs) ← number 2 (← mark ':' cs)
  let (nanoseconds, cs) ← fraction cs
  let (ahead, cs) ← zone cs
  let isDate := decide (firstYear ≤ year ∧ year ≤ lastYear ∧ 1 ≤ month ∧ month ≤ 12 ∧ 1 ≤ day
    ∧ day ≤ daysInMonth year month)
  let isTime := decide (hour < 24 ∧ minute < 60 ∧ second ≤ 60 ∧ ahead.natAbs < daySeconds)
  if !(isDate && isTime && cs.all Text.isBlank) then none
  let isLeapSecond := second = 60
  let ofDay := hour * 3600 + minute * 60 + if isLeapSecond then 59 else second
  let days := daysFromDate year month day
  let seconds := days * daySeconds + ofDay - ahead
  let lastDays := daysFromDate lastYear 12 31
  let firstDays := daysFromDate firstYear 1 1
  if seconds < firstDays * daySeconds ∨ (lastDays + 1) * daySeconds ≤ seconds then none
  return { seconds, nanoseconds := nanoseconds + if isLeapSecond then billion else 0 }

end Timestamp

end FaultDiagnosis
