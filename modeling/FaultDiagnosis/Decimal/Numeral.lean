/-!
# Written numbers

A `Numeral` is a number as it is written down: a sign, the digits before and after the point, and
an exponent with a sign and digits of its own. Nothing is rounded or normalised, so a numeral that
is written and read again is the same numeral; what number it names is left to its readers.
-/

namespace FaultDiagnosis

/-- A power of two. -/
def twoTo (n : Nat) : Nat :=
  Nat.pow 2 n

/-- A power of ten. -/
def tenTo (n : Nat) : Nat :=
  Nat.pow 10 n

/-- A decimal digit. -/
abbrev Digit := Fin 10

namespace Digit

/-- The digit that stands for nothing. -/
def zero : Digit :=
  ⟨0, by decide⟩

/-- The digit that a character stands for. -/
def ofChar? (c : Char) : Option Digit :=
  match c with
  | '0' => some 0 | '1' => some 1 | '2' => some 2 | '3' => some 3 | '4' => some 4
  | '5' => some 5 | '6' => some 6 | '7' => some 7 | '8' => some 8 | '9' => some 9
  | _ => none

/-- The character that a digit is written with. -/
def toChar (d : Digit) : Char :=
  match d with
  | 0 => '0' | 1 => '1' | 2 => '2' | 3 => '3' | 4 => '4'
  | 5 => '5' | 6 => '6' | 7 => '7' | 8 => '8' | 9 => '9'

@[simp]
theorem ofChar?_toChar (d : Digit) : ofChar? d.toChar = some d := by
  revert d; decide

/-- The digits of a number, most significant first and at least one. -/
def ofNat (n : Nat) : List Digit :=
  if n < 10 then [Fin.ofNat 10 n] else ofNat (n / 10) ++ [Fin.ofNat 10 n]

/-- The number that a row of digits names. -/
def value (ds : List Digit) : Nat :=
  ds.foldl (fun n d => 10 * n + d.val) 0

/-- The digits at the start of a text, and what follows them. -/
def takeDigits : List Char → List Digit × List Char
  | [] => ([], [])
  | c :: cs =>
    match ofChar? c with
    | some d => let (ds, rest) := takeDigits cs; (d :: ds, rest)
    | none => ([], c :: cs)

/-- A row of digits as text. -/
def chars (ds : List Digit) : List Char :=
  ds.map toChar

/-- Written digits are read back up to whatever follows, provided that no digit does. -/
theorem takeDigits_chars_append (ds : List Digit) {rest : List Char}
    (h : ∀ c cs, rest = c :: cs → ofChar? c = none) :
    takeDigits (chars ds ++ rest) = (ds, rest) := by
  induction ds with
  | nil =>
    cases rest with
    | nil => rfl
    | cons c cs => simp [chars, takeDigits, h c cs rfl]
  | cons d ds ih =>
    simp only [chars, List.map_cons, List.cons_append, takeDigits, ofChar?_toChar]
    rw [show List.map toChar ds ++ rest = chars ds ++ rest from rfl, ih]

end Digit

/-- The power of ten that a numeral is scaled by, with its sign as written. -/
structure Exponent where
  negative : Bool
  digits : List Digit
  deriving DecidableEq, Repr

/-- The scaling as an integer. -/
def Exponent.value (e : Exponent) : Int :=
  if e.negative then -(Digit.value e.digits : Int) else Digit.value e.digits

/-- A number as it is written: sign, digits before the point, digits after it, exponent. -/
structure Numeral where
  negative : Bool
  whole : List Digit
  fraction : List Digit
  exponent : Option Exponent
  deriving DecidableEq, Repr

namespace Numeral

/-- The numeral of a natural number. -/
def ofNat (n : Nat) : Numeral :=
  { negative := false, whole := Digit.ofNat n, fraction := [], exponent := none }

/-- The number that the digits name when the point is left out. -/
def coefficient (n : Numeral) : Nat :=
  Digit.value (n.whole ++ n.fraction)

/-- The power of ten by which the coefficient is to be scaled. -/
def scale (n : Numeral) : Int :=
  (n.exponent.map Exponent.value).getD 0 - n.fraction.length

/-- Is the numeral written as an integer, without point and exponent? -/
def isInteger (n : Numeral) : Bool :=
  n.fraction.isEmpty && n.exponent.isNone

/-- The numeral as text: a minus sign where it is negative, the point only where digits follow it,
and the sign of an exponent always. -/
def chars (n : Numeral) : List Char :=
  (if n.negative then ['-'] else []) ++ Digit.chars n.whole
    ++ (if n.fraction.isEmpty then [] else '.' :: Digit.chars n.fraction)
    ++ match n.exponent with
      | none => []
      | some e => 'e' :: (if e.negative then '-' else '+') :: Digit.chars e.digits

/-- The numeral as text. -/
def text (n : Numeral) : String :=
  String.ofList n.chars

end Numeral

end FaultDiagnosis
