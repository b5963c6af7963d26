import FaultDiagnosis.Decimal.Notation
import FaultDiagnosis.Decimal.Reading

/-!
# Clue weights

Scoring adds weights and compares the totals; reading and writing knowledge turns weights into
numerals and back. The two are kept apart. `Weight` is the arithmetic: it is all that inference
needs, and exact numbers have it as well as doubles. `WeightNotation` is the written form: texts
need it, and inference does not. The program itself runs on doubles.
-/

namespace FaultDiagnosis

/-- **The arithmetic of weights**: zero, sums, and the comparisons that ranking needs. The
comparisons answer `false` where two weights cannot be compared. -/
class Weight (W : Type) extends Zero W, Add W where
  /-- Is the first weight at most the second? -/
  atMost : W → W → Bool
  /-- Is the first weight less than the second? -/
  below : W → W → Bool
  /-- Is the weight an actual number? -/
  isFinite : W → Bool

/-- A clue has to weigh something: its weight is an actual number above zero. -/
def Weight.isPositive {W : Type} [Weight W] (w : W) : Bool :=
  Weight.isFinite w && Weight.below 0 w

/-- **The written form of weights.** -/
class WeightNotation (W : Type) where
  /-- The weight that a numeral names. -/
  read : Numeral → W
  /-- The numeral that a weight is stored as, if it has one. -/
  write : W → Option Numeral
  /-- The weight in a message. -/
  text : W → String
  /-- The weight in a report, with one digit after the point. -/
  rounded : W → String

instance : Weight Float where
  zero := 0
  add := (· + ·)
  atMost x y := x ≤ y
  below x y := x < y
  isFinite := Float.isFinite

instance : WeightNotation Float where
  read := Numeral.scaled
  write x := (Binary64.toParts x).map Notation.mixed
  text := Notation.text Notation.positional
  rounded := Notation.text (Notation.fixed 1)

end FaultDiagnosis
