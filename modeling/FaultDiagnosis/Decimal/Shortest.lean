import FaultDiagnosis.Decimal.Binary64

/-!
# The fewest digits that name a double

Every decimal close enough to a double is rounded to it. `Shortest.digits` gives the one with the
fewest digits, and of those the nearest: it tries one digit, then two, and so on, and at each length
looks at the two decimals around the double. Seventeen digits always suffice.
-/

namespace FaultDiagnosis.Shortest

open Binary64

/-- A positive number as digits times a power of ten. -/
structure Decimal where
  digits : Nat
  exponent : Int
  deriving DecidableEq, Repr

/-- Which of two equally near decimals is taken. -/
inductive Tie
  /-- The one whose last digit is even. -/
  | toEven
  /-- The larger one. -/
  | up
  deriving DecidableEq, Repr

/-- A positive double and the ends of the interval that rounds to it, all in units of a quarter of
the last place, together with that unit's binary exponent. The ends themselves belong to the
interval when `closed`. -/
structure Neighbourhood where
  low : Nat
  mid : Nat
  high : Nat
  closed : Bool
  exponent : Int

/-- The neighbourhood of a positive double. Below a power of two the doubles are twice as dense. -/
def neighbourhood (mantissa : Nat) (exponent : Int) : Neighbourhood :=
  { low := if mantissa = twoTo fractionBits ∧ leastExponent < exponent then 4 * mantissa - 1
      else 4 * mantissa - 2
    mid := 4 * mantissa
    high := 4 * mantissa + 2
    closed := mantissa % 2 = 0
    exponent := exponent - 2 }

/-- The two factors that put the units of a neighbourhood and those of the decimal grid
`10 ^ place` on a common scale: the first multiplies the neighbourhood, the second the grid. -/
def commonScale (exponent place : Int) : Nat × Nat :=
  let two := twoTo exponent.natAbs
  let ten := tenTo place.natAbs
  match decide (exponent < 0), decide (place < 0) with
  | true, true => (ten, two)
  | true, false => (1, ten * two)
  | false, true => (two * ten, 1)
  | false, false => (two, ten)

/-- Of the two multiples of `10 ^ place` around the double, the one that names it and is nearest. -/
def onGrid (tie : Tie) (nb : Neighbourhood) (place : Int) : Option Nat :=
  let (a, b) := commonScale nb.exponent place
  let within (n : Nat) : Bool :=
    if nb.closed then decide (nb.low * a ≤ n * b ∧ n * b ≤ nb.high * a)
    else decide (nb.low * a < n * b ∧ n * b < nb.high * a)
  let below := nb.mid * a / b
  let above := below + 1
  let rest := nb.mid * a % b
  if within below && within above then
    if 2 * rest < b then some below
    else if b < 2 * rest then some above
    else match tie with
      | .toEven => some (if below % 2 = 0 then below else above)
      | .up => some above
  else if within below && below ≠ 0 then some below
  else if within above then some above
  else none

/-- The number of digits of a number. -/
def digitCount (n : Nat) : Nat :=
  (Digit.ofNat n).length

/-- The place of the point: the least power of ten above the double, or one more than it. -/
def pointPlace (nb : Neighbourhood) : Int :=
  if nb.exponent < 0 then
    let whole := nb.mid / twoTo nb.exponent.natAbs
    if whole ≠ 0 then digitCount whole
    else
      let inverse := twoTo nb.exponent.natAbs / nb.mid
      1 - (digitCount inverse : Int)
  else digitCount (nb.mid * twoTo nb.exponent.natAbs)

/-- Tries grids of growing fineness, `fuel` of them, starting at `10 ^ place`. -/
def search (tie : Tie) (nb : Neighbourhood) : Nat → Int → Option Decimal
  | 0, _ => none
  | fuel + 1, place =>
    match onGrid tie nb place with
    | some n => some ⟨n, place⟩
    | none => search tie nb fuel (place - 1)

/-- Drops the zeros at the end of a positive number, `fuel` of them at most. -/
def dropZeros : Nat → Decimal → Decimal
  | 0, d => d
  | fuel + 1, d =>
    if d.digits % 10 = 0 then dropZeros fuel ⟨d.digits / 10, d.exponent + 1⟩ else d

/-- The most digits that naming a double can take, and two grids to spare at the coarse end. -/
def gridCount : Nat := 20

/-- **The shortest decimal that names a positive double** `mantissa * 2 ^ exponent`. -/
def digits (tie : Tie) (mantissa : Nat) (exponent : Int) : Decimal :=
  let nb := neighbourhood mantissa exponent
  let found := (search tie nb gridCount (pointPlace nb)).getD ⟨0, 0⟩
  dropZeros gridCount found

end FaultDiagnosis.Shortest
