/-!
# Characters from bytes

Bytes that should be a text in UTF-8 and may not be. Every longest beginning of a character that is
not continued properly, and every byte that cannot begin a character, is a *stray* piece. Who wants
a text in any case takes a replacement character for each stray piece.
-/

namespace FaultDiagnosis.Text

/-- What stands for a stray piece in a text. -/
def replacementChar : Char := '\ufffd'

/-- Is the byte one that continues a character? -/
def isContinuation (b : Nat) : Bool :=
  decide (0x80 ≤ b ∧ b < 0xC0)

/-- May the second byte follow the first in a character of three or four bytes? The bounds exclude
overlong forms, surrogates and numbers beyond the last character. -/
def mayFollow (first second : Nat) : Bool :=
  let least := if first = 0xE0 then 0xA0 else if first = 0xF0 then 0x90 else 0x80
  let greatest := if first = 0xED then 0x9F else if first = 0xF4 then 0x8F else 0xBF
  decide (least ≤ second ∧ second ≤ greatest)

/-- The bits that a continuing byte adds to those before it. -/
def extend (n b : Nat) : Nat :=
  n * 64 + b % 64

/-- The first character of bytes that start with `a`, and how many bytes it takes besides `a`. Where
there is none, the stray piece takes the bytes that could have begun one. -/
def firstChar? (a : Nat) (rest : List Nat) : Option Char × Nat :=
  if a < 0x80 then (some (Char.ofNat a), 0)
  else if 0xC2 ≤ a ∧ a < 0xE0 then
    match rest with
    | b :: _ =>
      if isContinuation b then (some (Char.ofNat (extend (a % 32) b)), 1) else (none, 0)
    | _ => (none, 0)
  else if 0xE0 ≤ a ∧ a < 0xF0 then
    match rest with
    | b :: c :: _ =>
      if !mayFollow a b then (none, 0)
      else if isContinuation c then (some (Char.ofNat (extend (extend (a % 16) b) c)), 2)
      else (none, 1)
    | [b] => (none, if mayFollow a b then 1 else 0)
    | [] => (none, 0)
  else if 0xF0 ≤ a ∧ a < 0xF5 then
    match rest with
    | b :: c :: d :: _ =>
      if !mayFollow a b then (none, 0)
      else if !isContinuation c then (none, 1)
      else if isContinuation d then
        (some (Char.ofNat (extend (extend (extend (a % 8) b) c) d)), 3)
      else (none, 2)
    | [b, c] => (none, if !mayFollow a b then 0 else if isContinuation c then 2 else 1)
    | [b] => (none, if mayFollow a b then 1 else 0)
    | [] => (none, 0)
  else (none, 0)

/-- **The characters of bytes**, with nothing for each stray piece. -/
def readUtf8 : List Nat → List (Option Char)
  | [] => []
  | a :: rest => (firstChar? a rest).1 :: readUtf8 (rest.drop (firstChar? a rest).2)
termination_by bytes => bytes.length
decreasing_by
  simp only [List.length_cons, List.length_drop]
  omega

/-- The characters of bytes, with replacement characters for the stray pieces. -/
def decodeUtf8 (bytes : List Nat) : List Char :=
  (readUtf8 bytes).map fun c => c.getD replacementChar

end FaultDiagnosis.Text
