import FaultDiagnosis.Decimal.Binary64

/-!
# Numerals read as doubles

Two readings of a numeral. `Numeral.nearest` is exact: the double nearest to the number written.
`Numeral.scaled` is the quick reading of the JSON documents: it keeps the leading digits that fit
into 64 bits and scales them by one power of ten in floating arithmetic, so the last bit may differ
from the nearest double. Both give an infinity for a number beyond the largest double.
-/

namespace FaultDiagnosis

namespace Digit

/-- Do the digits gathered so far and one more still fit into 64 bits? -/
def fits (n : Nat) (d : Digit) : Bool :=
  decide (10 * n + d.val < twoTo 64)

/-- Appends digits to a number as long as it fits into 64 bits. Gives the number and how many of the
digits were left out. -/
def gather : List Digit → Nat → Nat × Nat
  | [], n => (n, 0)
  | d :: ds, n => if fits n d then gather ds (10 * n + d.val) else (n, ds.length + 1)

end Digit

namespace Numeral

/-- The largest power of ten that a double can be multiplied or divided by at once. -/
def greatestPower : Nat := 308

/-- Divides by `10 ^ n` in steps of the greatest power. -/
def divideByPower (x : Float) (n : Nat) : Float :=
  if n ≤ greatestPower then x / Binary64.powerOfTen n
  else if x == 0 then x
  else divideByPower (x / Binary64.powerOfTen greatestPower) (n - greatestPower)
termination_by n
decreasing_by
  have : greatestPower = 308 := rfl
  omega

/-- The leading digits that fit into 64 bits and the power of ten that scales them. Digits of the
whole part that do not fit raise the power; those of the fraction are ignored. -/
def leading (n : Numeral) : Nat × Int :=
  let (whole, dropped) := Digit.gather n.whole 0
  let (all, ignored) := Digit.gather n.fraction whole
  (all, dropped - (n.fraction.length - ignored : Nat) + (n.exponent.map Exponent.value).getD 0)

/-- **The quick reading**: the leading digits, scaled in floating arithmetic. -/
def scaled (n : Numeral) : Float :=
  let (digits, power) := n.leading
  let x := Binary64.ofFraction false digits 1
  let magnitude :=
    if power < 0 then divideByPower x power.natAbs
    else if power.natAbs ≤ greatestPower then x * Binary64.powerOfTen power.natAbs
    else if digits = 0 then x
    else Binary64.ofFraction false (tenTo 400) 1
  if n.negative then -magnitude else magnitude

/-- Is the number written beyond what the quick reading can represent? -/
def isTooLarge (n : Numeral) : Bool :=
  n.scaled.isInf

/-- Magnitudes from `10 ^ magnitudeLimit` on are infinite, and those below `10 ^ (-magnitudeLimit)`
are zero, whatever their digits. -/
def magnitudeLimit : Nat := 400

/-- **The exact reading**: the double nearest to the number written. -/
def nearest (n : Numeral) : Float :=
  let c := n.coefficient
  let power := n.scale
  let length : Int := (Digit.ofNat c).length
  if c = 0 ∨ length + power < -magnitudeLimit then Binary64.ofFraction n.negative 0 1
  else if magnitudeLimit < length + power then
    Binary64.ofFraction n.negative (tenTo magnitudeLimit) 1
  else if power < 0 then Binary64.ofFraction n.negative c (tenTo power.natAbs)
  else Binary64.ofFraction n.negative (c * tenTo power.natAbs) 1

end Numeral

end FaultDiagnosis
