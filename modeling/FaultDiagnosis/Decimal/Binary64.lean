import FaultDiagnosis.Decimal.Numeral

/-!
# Doubles and exact fractions

A finite double is a whole number times a power of two. `Binary64.ofFraction` rounds an exact
fraction to the nearest double, a half going to the even neighbour, and `Binary64.toParts` takes a
double apart again. All of the arithmetic is on whole numbers; `Float` is only the carrier.
-/

namespace FaultDiagnosis.Binary64

/-- The number `mantissa * 2 ^ exponent`, with a sign of its own so that zero keeps one. -/
structure Parts where
  negative : Bool
  mantissa : Nat
  exponent : Int
  deriving DecidableEq, Repr

/-- The number of bits of a mantissa after the leading one. -/
def fractionBits : Nat := 52

/-- The exponent of the smallest positive double. -/
def leastExponent : Int := -1074

/-- The bits of positive infinity, which every finite magnitude stays below. -/
def infinityBits : Nat := 0x7FF * twoTo fractionBits

/-- The quotient rounded to the nearest whole number, a half to the even one. -/
def roundHalfEven (num den : Nat) : Nat :=
  let q := num / den
  let r := 2 * (num % den)
  if r < den then q else if den < r then q + 1 else if q % 2 = 0 then q else q + 1

/-- The numerator and denominator of `num / den` divided by `2 ^ e`. -/
def scaleDown (num den : Nat) (e : Int) : Nat × Nat :=
  if e < 0 then (num * twoTo e.natAbs, den) else (num, den * twoTo e.natAbs)

/-- The exponent that gives a positive fraction a mantissa of full length, or the least exponent
where that one is larger. -/
def exponentOf (num den : Nat) : Int :=
  let guess : Int := (num.log2 : Int) - (den.log2 : Int) - (fractionBits : Int)
  let (n, d) := scaleDown num den guess
  max leastExponent (if n / d < twoTo fractionBits then guess - 1 else guess)

/-- The bits of the nearest double to a non-negative fraction. A mantissa that rounds up to the next
power of two carries into the exponent, and a magnitude beyond the largest double is infinite. -/
def magnitudeBits (num den : Nat) : Nat :=
  if num = 0 then 0
  else
    let e := exponentOf num den
    let (n, d) := scaleDown num den e
    min infinityBits ((e - leastExponent).toNat * twoTo fractionBits + roundHalfEven n d)

/-- **The nearest double to a fraction**, with the given sign. -/
def ofFraction (negative : Bool) (num den : Nat) : Float :=
  Float.ofBits (UInt64.ofNat (magnitudeBits num den + if negative then twoTo 63 else 0))

/-- The exact value of a double, or `none` for an infinity and for what is not a number. -/
def toParts (x : Float) : Option Parts :=
  let bits := x.toBits.toNat
  let negative := decide (twoTo 63 ≤ bits)
  let field : Nat := bits / twoTo fractionBits % twoTo 11
  let fraction : Nat := bits % twoTo fractionBits
  if field = 0x7FF then none
  else if field = 0 then some ⟨negative, fraction, leastExponent⟩
  else some ⟨negative, twoTo fractionBits + fraction, leastExponent + (field : Int) - 1⟩

/-- The double of a power of ten with a non-negative exponent. -/
def powerOfTen (n : Nat) : Float :=
  ofFraction false (tenTo n) 1

end FaultDiagnosis.Binary64
