import FaultDiagnosis.Decimal.Reading

/-!
# Numbers as people enter them

On a command line a number is written more freely than in a document: with either sign, with digits
on one side of the point only, with leading zeros, and infinities and what is not a number have
names in any case of letters. `Binary64.ofEntered?` reads the whole of a text in this form.
-/

namespace FaultDiagnosis

namespace Numeral

/-- The digits before and after the point, of which there has to be one, and the rest. -/
def enteredDigits (cs : List Char) : Option ((List Digit × List Digit) × List Char) :=
  let (whole, rest) := Digit.takeDigits cs
  let (fraction, rest) := match rest with
    | '.' :: rest => Digit.takeDigits rest
    | rest => ([], rest)
  if whole.isEmpty && fraction.isEmpty then none else some ((whole, fraction), rest)

/-- A sign, if there is one: whether it is negative, and the rest. -/
def enteredSign : List Char → Bool × List Char
  | '-' :: rest => (true, rest)
  | '+' :: rest => (false, rest)
  | cs => (false, cs)

/-- The exponent that the rest of a number consists of, if there is any rest. -/
def enteredExponent : List Char → Option (Option Exponent)
  | [] => some none
  | c :: cs =>
    let (negative, cs) := enteredSign cs
    match Digit.takeDigits cs with
    | (d :: ds, []) => if c = 'e' ∨ c = 'E' then some (some ⟨negative, d :: ds⟩) else none
    | _ => none

/-- A number from after its sign. -/
def ofEntered? (negative : Bool) (cs : List Char) : Option Numeral := do
  let ((whole, fraction), rest) ← enteredDigits cs
  let exponent ← enteredExponent rest
  return { negative, whole, fraction, exponent }

end Numeral

namespace Binary64

/-- The number that a name in small letters stands for. -/
def named? (name : String) : Option Float :=
  if name = "inf" ∨ name = "infinity" then some (1 / 0)
  else if name = "nan" then some (0 / 0)
  else none

/-- **The double that a text names**, if it names one. -/
def ofEntered? (text : String) : Option Float :=
  let (negative, cs) := Numeral.enteredSign text.toList
  match named? (String.ofList (cs.map Char.toLower)) with
  | some x => some (if negative then -x else x)
  | none => (Numeral.ofEntered? negative cs).map Numeral.nearest

end Binary64

end FaultDiagnosis
