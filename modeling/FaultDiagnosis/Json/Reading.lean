import FaultDiagnosis.Json.Basic
import FaultDiagnosis.Decimal.Reading
import FaultDiagnosis.Text.Utf8

/-!
# Reading JSON texts

`Reading` is what a text yields when it is read as JSON, also where it is not JSON: then the tree
goes as far as the text does, and the array or object in which it broke off is marked as not closed.
The tree further records the values that are written correctly and yet name nothing: a text with an
unpaired surrogate escape, and a number beyond the largest double. Whether such a value matters
depends on who asks. One that is only passed over does no harm, and one that is used is an error.

Because a tree never stops short of the first error, decoding it from left to right meets the faults
of the text and those of its content in the order in which they stand there.

* `Reading.ofText` reads a whole text.
* `Reading.ofPrefix` reads the value at the start of a text and ignores what follows.
* `Reading.ofBytes` does the same with bytes, which may be no text. Inside a quoted text a stray
  piece matters as little and as much as an unpaired surrogate does; anywhere else it is no JSON.
-/

namespace FaultDiagnosis.Json

/-- What reading a text as JSON yields. -/
inductive Reading
  | null
  | bool (b : Bool)
  /-- A number that some double is near to. -/
  | number (n : Numeral)
  /-- A number beyond the largest double. -/
  | tooLarge
  | string (s : String)
  /-- A text with the escape of a surrogate that is not part of a pair. -/
  | unpaired
  /-- The items read, and whether the closing bracket was. -/
  | array (items : List Reading) (closed : Bool)
  /-- The members read, and whether the closing brace was. A key is missing where it is a text with
  an unpaired surrogate. -/
  | object (members : List (Option String × Reading)) (closed : Bool)
  /-- No value is written here. -/
  | broken
  deriving Inhabited

namespace Reading

/-! ### The parts of a text -/

/-- The four characters that may stand between tokens. -/
def isBlank (c : Char) : Bool :=
  c = ' ' || c = '\t' || c = '\n' || c = '\r'

/-- The rest of a text from its first character that is not blank. -/
def skipBlanks (cs : List Char) : List Char :=
  cs.dropWhile isBlank

/-- The value of a hexadecimal digit. -/
def hexValue? (c : Char) : Option Nat :=
  if '0' ≤ c ∧ c ≤ '9' then some (c.toNat - '0'.toNat)
  else if 'a' ≤ c ∧ c ≤ 'f' then some (c.toNat - 'a'.toNat + 10)
  else if 'A' ≤ c ∧ c ≤ 'F' then some (c.toNat - 'A'.toNat + 10)
  else none

/-- The number that four hexadecimal digits name. -/
def hexUnit? (a b c d : Char) : Option Nat := do
  return ((← hexValue? a) * 16 + (← hexValue? b)) * 256 + (← hexValue? c) * 16 + (← hexValue? d)

/-- Is the number the first half of a surrogate pair? -/
def isHighSurrogate (n : Nat) : Bool :=
  decide (0xD800 ≤ n ∧ n < 0xDC00)

/-- Is the number the second half of a surrogate pair? -/
def isLowSurrogate (n : Nat) : Bool :=
  decide (0xDC00 ≤ n ∧ n < 0xE000)

/-- The character of a surrogate pair. -/
def pairedChar (high low : Nat) : Char :=
  Char.ofNat (0x10000 + (high - 0xD800) * 0x400 + (low - 0xDC00))

/-- The character that a letter after a backslash stands for. -/
def escapeChar? (c : Char) : Option Char :=
  match c with
  | '"' => some '"'
  | '\\' => some '\\'
  | '/' => some '/'
  | 'b' => some '\x08'
  | 'f' => some '\x0c'
  | 'n' => some '\n'
  | 'r' => some '\r'
  | 't' => some '\t'
  | _ => none

/-- What a text is written from: characters, and halves of surrogate pairs, which only an escape can
put there. -/
inductive TextUnit
  | char (c : Char)
  | half (n : Nat)

/-- What the number of an escape stands for. -/
def TextUnit.ofNat (n : Nat) : TextUnit :=
  if isHighSurrogate n || isLowSurrogate n then .half n else .char (Char.ofNat n)

/-- Reads the units of a text from after its opening quotation mark to its closing one, and gives
what follows that mark. `read` holds the units so far, last one first. Gives `none` where the text
is not well written. -/
def stringBody (read : List TextUnit) : List Char → Option (List TextUnit × List Char)
  | [] => none
  | '"' :: rest => some (read.reverse, rest)
  | '\\' :: 'u' :: a :: b :: c :: d :: rest =>
    match hexUnit? a b c d with
    | none => none
    | some n => stringBody (.ofNat n :: read) rest
  | '\\' :: c :: rest =>
    match escapeChar? c with
    | none => none
    | some e => stringBody (.char e :: read) rest
  | c :: rest => if c.toNat < 0x20 then none else stringBody (.char c :: read) rest

/-- Joins the halves of surrogate pairs. `joined` holds the characters so far, last one first. Gives
`none` where a half stands alone. -/
def joinUnits (joined : List Char) : List TextUnit → Option (List Char)
  | [] => some joined.reverse
  | .char c :: us => joinUnits (c :: joined) us
  | .half h :: .half l :: us =>
    if isHighSurrogate h && isLowSurrogate l then joinUnits (pairedChar h l :: joined) us else none
  | .half _ :: _ => none

/-- Reads a text from after its opening quotation mark. Gives the text, or nothing where a surrogate
is unpaired, and what follows the closing mark. -/
def quotedText (cs : List Char) : Option (Option String × List Char) :=
  match stringBody [] cs with
  | none => none
  | some (units, rest) => some ((joinUnits [] units).map String.ofList, rest)

/-- The digits of a whole part: a zero alone, or digits that do not start with one. -/
def wholePart (cs : List Char) : Option (List Digit × List Char) :=
  match Digit.takeDigits cs with
  | ([], _) => none
  | (d :: ds, rest) => if d.val = 0 ∧ ds ≠ [] then none else some (d :: ds, rest)

/-- The digits of a fraction, if a point is there; at least one has to follow it. -/
def fractionPart : List Char → Option (List Digit × List Char)
  | '.' :: cs =>
    match Digit.takeDigits cs with
    | ([], _) => none
    | (ds, rest) => some (ds, rest)
  | cs => some ([], cs)

/-- The digits of an exponent after its sign; at least one has to be there. -/
def exponentDigits (negative : Bool) (cs : List Char) : Option (Option Exponent × List Char) :=
  match Digit.takeDigits cs with
  | ([], _) => none
  | (ds, rest) => some (some ⟨negative, ds⟩, rest)

/-- The exponent, if a letter for one is there. -/
def exponentPart : List Char → Option (Option Exponent × List Char)
  | c :: cs =>
    if c = 'e' ∨ c = 'E' then
      match cs with
      | '-' :: cs => exponentDigits true cs
      | '+' :: cs => exponentDigits false cs
      | cs => exponentDigits false cs
    else some (none, c :: cs)
  | [] => some (none, [])

/-- Reads a number from after its sign. -/
def unsignedNumeral (negative : Bool) (cs : List Char) : Option (Numeral × List Char) := do
  let (whole, cs) ← wholePart cs
  let (fraction, cs) ← fractionPart cs
  let (exponent, cs) ← exponentPart cs
  return (⟨negative, whole, fraction, exponent⟩, cs)

/-- Reads a number. -/
def numeral : List Char → Option (Numeral × List Char)
  | '-' :: cs => unsignedNumeral true cs
  | cs => unsignedNumeral false cs

/-- The value of a numeral that was read. -/
def ofNumeral (n : Numeral) : Reading :=
  if n.isTooLarge then .tooLarge else .number n

/-- The value of a text that was read. -/
def ofString : Option String → Reading
  | some s => .string s
  | none => .unpaired

/-- Reads the given word, of which the first letter has been seen. -/
def word (letters : List Char) (value : Reading) (cs : List Char) :
    Reading × Option (List Char) :=
  if letters.isPrefixOf cs then (value, some (cs.drop letters.length)) else (.broken, none)

/-! ### Values -/

mutual

/-- Reads a value. Gives what there is of it and the rest of the text, or no rest where the text
broke off in the value. `fuel` bounds the number of steps. -/
def value : Nat → List Char → Reading × Option (List Char)
  | 0, _ => (.broken, none)
  | fuel + 1, cs =>
    match skipBlanks cs with
    | [] => (.broken, none)
    | c :: cs =>
      match c with
      | '"' =>
        match quotedText cs with
        | some (s, rest) => (ofString s, some rest)
        | none => (.broken, none)
      | '[' =>
        match skipBlanks cs with
        | ']' :: rest => (.array [] true, some rest)
        | cs =>
          let (items, rest) := items fuel cs
          (.array items rest.isSome, rest)
      | '\x7b' =>
        match skipBlanks cs with
        | '\x7d' :: rest => (.object [] true, some rest)
        | cs =>
          let (members, rest) := members fuel cs
          (.object members rest.isSome, rest)
      | 'n' => word "ull".toList .null cs
      | 't' => word "rue".toList (.bool true) cs
      | 'f' => word "alse".toList (.bool false) cs
      | c =>
        match numeral (c :: cs) with
        | some (n, rest) => (ofNumeral n, some rest)
        | none => (.broken, none)

/-- Reads the items of an array, at least one, up to the closing bracket. -/
def items : Nat → List Char → List Reading × Option (List Char)
  | 0, _ => ([], none)
  | fuel + 1, cs =>
    match value fuel cs with
    | (v, none) => ([v], none)
    | (v, some rest) =>
      match skipBlanks rest with
      | ',' :: rest =>
        let (vs, rest) := items fuel rest
        (v :: vs, rest)
      | ']' :: rest => ([v], some rest)
      | _ => ([v], none)

/-- Reads the members of an object, at least one, up to the closing brace. -/
def members : Nat → List Char → List (Option String × Reading) × Option (List Char)
  | 0, _ => ([], none)
  | fuel + 1, cs =>
    match skipBlanks cs with
    | '"' :: cs =>
      match quotedText cs with
      | none => ([], none)
      | some (key, cs) =>
        match skipBlanks cs with
        | ':' :: cs =>
          match value fuel cs with
          | (v, none) => ([(key, v)], none)
          | (v, some rest) =>
            match skipBlanks rest with
            | ',' :: rest =>
              let (ms, rest) := members fuel rest
              ((key, v) :: ms, rest)
            | '\x7d' :: rest => ([(key, v)], some rest)
            | _ => ([(key, v)], none)
        | _ => ([(key, .broken)], none)
    | _ => ([], none)

end

/-- Steps enough for any text: a value takes two steps per character at most. -/
def fuelFor (cs : List Char) : Nat :=
  2 * cs.length + 2

/-- Reads the value at the start of a text and ignores what follows it. -/
def ofPrefix (text : String) : Reading :=
  (value (fuelFor text.toList) text.toList).1

/-- The characters that are read for a stray piece. Inside a quoted text they are the escapes of two
second halves of surrogate pairs, and the second of them is unpaired whatever stands around it.
Behind a backslash they are an escape that does not exist. -/
def strayChars (escaped : Bool) : List Char :=
  if escaped then ['?'] else "\\udc00\\udc00".toList

/-- Characters to read, where some are stray pieces. `escaped` tells whether a backslash stands in
front that is not itself escaped. -/
def standIn (escaped : Bool) : List (Option Char) → List Char
  | [] => []
  | some c :: cs => c :: standIn (c = '\\' && !escaped) cs
  | none :: cs => strayChars escaped ++ standIn false cs

/-- Reads the value at the start of bytes and ignores what follows it. -/
def ofBytes (bytes : ByteArray) : Reading :=
  match String.fromUTF8? bytes with
  | some text => ofPrefix text
  | none =>
    ofPrefix (String.ofList (standIn false (Text.readUtf8 (bytes.toList.map UInt8.toNat))))

/-- Reads a whole text. Only blanks may follow the value. -/
def ofText (text : String) : Reading :=
  match value (fuelFor text.toList) text.toList with
  | (v, some rest) => if (skipBlanks rest).isEmpty then v else .broken
  | (v, none) => v

end Reading

end FaultDiagnosis.Json
