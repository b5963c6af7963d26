import FaultDiagnosis.Weight
import Mathlib.Data.Rat.Defs
import Mathlib.Algebra.Order.Ring.Unbundled.Rat

/-!
# Exact weights

Doubles round, and what scoring does to them is only nearly what it means to do. Where weights are
*exact* (`FaultDiagnosis.ExactWeight`) nothing is rounded: every weight has a value, which is a
rational number, and weights are added and compared as their values are. What is said of scoring is
said of exact weights. `FaultDiagnosis.Points` are weights of this kind, and documents can have them
as well: a numeral is read as the number that it names, and a number is written with as many places
as it takes, if it does not take infinitely many.
-/

namespace FaultDiagnosis

/-- **Exact weights**: every weight has a value, and the arithmetic of weights is that of values. -/
class ExactWeight (W : Type) extends Weight W where
  /-- The number that a weight stands for. -/
  value : W → ℚ
  value_zero : value 0 = 0
  value_add : ∀ x y : W, value (x + y) = value x + value y
  atMost_iff : ∀ x y : W, atMost x y = true ↔ value x ≤ value y
  below_iff : ∀ x y : W, below x y = true ↔ value x < value y
  isFinite_eq : ∀ x : W, isFinite x = true

/-- A weight is positive when its value is. -/
theorem ExactWeight.isPositive_iff {W : Type} [ExactWeight W] {w : W} :
    Weight.isPositive w = true ↔ 0 < value w := by
  rw [Weight.isPositive, isFinite_eq, Bool.true_and, below_iff, value_zero]

/-- A number of points, which need not be whole. -/
structure Points where
  value : ℚ
  deriving DecidableEq

instance : ExactWeight Points where
  zero := ⟨0⟩
  add x y := ⟨x.value + y.value⟩
  atMost x y := decide (x.value ≤ y.value)
  below x y := decide (x.value < y.value)
  isFinite _ := true
  value := Points.value
  value_zero := rfl
  value_add _ _ := rfl
  atMost_iff _ _ := decide_eq_true_iff
  below_iff _ _ := decide_eq_true_iff
  isFinite_eq _ := rfl

namespace Points

/-- The number that a numeral names. -/
def ofNumeral (n : Numeral) : Points :=
  let magnitude := mkRat (n.coefficient * tenTo n.scale.toNat) (tenTo (-n.scale).toNat)
  ⟨if n.negative then -magnitude else magnitude⟩

/-- The number with the given places after the point. What goes beyond them is rounded, and a half
goes to the even neighbour. -/
def decimal (places : Nat) (p : Points) : Numeral :=
  let ds := Digit.ofNat (Binary64.roundHalfEven (p.value.num.natAbs * tenTo places) p.value.den)
  let ds := List.replicate (places + 1 - ds.length) Digit.zero ++ ds
  { negative := decide (p.value < 0), whole := ds.take (ds.length - places)
    fraction := ds.drop (ds.length - places), exponent := none }

/-- The numeral of a number, unless it has infinitely many places. A number has no more places than
its denominator has binary digits. -/
def numeral? (p : Points) : Option Numeral :=
  let places := Nat.log2 p.value.den
  if tenTo places % p.value.den = 0 then some (p.decimal places) else none

instance : WeightNotation Points where
  read := ofNumeral
  write := numeral?
  text p := match p.numeral? with
    | some n => n.text
    | none => toString p.value
  rounded p := (p.decimal 1).text

-- two places are enough for a quarter, and no number of places is for a third
example : ((⟨1 / 4⟩ : Points).numeral?.map fun n => ofNumeral n) = some ⟨1 / 4⟩ ∧
    (⟨1 / 3⟩ : Points).numeral? = none := by
  decide +kernel

end Points

end FaultDiagnosis
