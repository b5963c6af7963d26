import FaultDiagnosis.Text.Ranges

/-!
# Blank characters and trimming

A character is *blank* when it has the property `White_Space`. `trim` drops the blanks at both ends
of a text; a text with nothing left is *blank* itself, and so is the empty one.
-/

namespace FaultDiagnosis.Text

/-- The characters with the property `White_Space`. -/
def blankRanges : Ranges :=
  [
    (0x9, 0xD), (0x20, 0x20), (0x85, 0x85), (0xA0, 0xA0), (0x1680, 0x1680), (0x2000, 0x200A),
    (0x2028, 0x2029), (0x202F, 0x202F), (0x205F, 0x205F), (0x3000, 0x3000)
  ]

/-- Is the character blank? -/
def isBlank (c : Char) : Bool :=
  blankRanges.mem c.toNat

/-- The characters without the blanks in front. -/
def trimStart (cs : List Char) : List Char :=
  cs.dropWhile isBlank

/-- The characters without the blanks at the end. -/
def trimEnd (cs : List Char) : List Char :=
  (cs.reverse.dropWhile isBlank).reverse

/-- The text without the blanks at either end. -/
def trim (s : String) : String :=
  String.ofList (trimEnd (trimStart s.toList))

/-- Does the text hold no character other than blanks? -/
def isBlankText (s : String) : Bool :=
  s.toList.all isBlank

end FaultDiagnosis.Text
