import FaultDiagnosis.Decimal.Shortest

/-!
# Notations for doubles

Three ways to write a double down. The *positional* one never has an exponent and no point after a
whole number. The *mixed* one keeps a digit after the point and takes an exponent where the number
is very large or very small. Both use the fewest digits that name the double. The one with a *fixed*
number of places rounds the exact value.
-/

namespace FaultDiagnosis.Notation

open Binary64 Shortest

/-- The digits of a finite double and the place of the point before or after them: the magnitude is
`0.d₁d₂… * 10 ^ point`. Zero has a single digit and its point after it. -/
def layout (tie : Tie) (x : Parts) : List Digit × Int :=
  if x.mantissa = 0 then ([Digit.zero], 1)
  else
    let d := Shortest.digits tie x.mantissa x.exponent
    let ds := Digit.ofNat d.digits
    (ds, ds.length + d.exponent)

/-- The digits before and after the point, with zeros in the gap between digits and point. -/
def split (ds : List Digit) (point : Int) : List Digit × List Digit :=
  if point ≤ 0 then ([Digit.zero], List.replicate point.natAbs Digit.zero ++ ds)
  else (ds.take point.natAbs ++ List.replicate (point.natAbs - ds.length) Digit.zero,
    ds.drop point.natAbs)

/-- A finite double without an exponent, however long that is. Of two nearest decimals the larger
one is taken. -/
def positional (x : Parts) : Numeral :=
  let (ds, point) := layout .up x
  let (whole, fraction) := split ds point
  { negative := x.negative, whole, fraction, exponent := none }

/-- A finite double with at least one digit after the point. From `10 ^ 16` on, and below
`10 ^ (-5)`, the point stands after the first digit and an exponent follows. Of two nearest decimals
the even one is taken. -/
def mixed (x : Parts) : Numeral :=
  let (ds, point) := layout .toEven x
  if -5 < point ∧ point ≤ 16 then
    let (whole, fraction) := split ds point
    { negative := x.negative, whole, fraction := if fraction.isEmpty then [.zero] else fraction
      exponent := none }
  else
    { negative := x.negative, whole := ds.take 1, fraction := ds.drop 1
      exponent := some ⟨decide (point ≤ 0), Digit.ofNat (point - 1).natAbs⟩ }

/-- A finite double with a fixed number of places after the point. The exact value is rounded, and a
half goes to the even neighbour. -/
def fixed (places : Nat) (x : Parts) : Numeral :=
  let scaled := x.mantissa * tenTo places
  let units :=
    if x.exponent < 0 then roundHalfEven scaled (twoTo x.exponent.natAbs)
    else scaled * twoTo x.exponent.natAbs
  let ds := Digit.ofNat units
  let ds := List.replicate (places + 1 - ds.length) Digit.zero ++ ds
  { negative := x.negative, whole := ds.take (ds.length - places)
    fraction := ds.drop (ds.length - places), exponent := none }

/-- The text of a double, given how to write a finite one. -/
def text (finite : Parts → Numeral) (x : Float) : String :=
  match toParts x with
  | some d => (finite d).text
  | none => if x.isNaN then "NaN" else if x < 0 then "-inf" else "inf"

end FaultDiagnosis.Notation
