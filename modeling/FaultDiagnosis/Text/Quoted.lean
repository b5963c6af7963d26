import FaultDiagnosis.Text.Unprintable

/-!
# Quoted texts

A message that cites an identifier or a path may put it between quotation marks. Inside them the
quotation mark and the backslash are escaped, the common controls have names, and other characters
without a form of their own are given by their number in hexadecimal. Paths escape the apostrophe as
well.
-/

namespace FaultDiagnosis.Text

/-- Is the apostrophe escaped inside the quotation marks? -/
inductive Apostrophe
  | plain
  | escaped
  deriving DecidableEq, Repr

/-- The lower-case hexadecimal digits of a number. -/
def hexDigits (n : Nat) : List Char :=
  Nat.toDigits 16 n

/-- A character between quotation marks. -/
def quotedChar (apostrophe : Apostrophe) (c : Char) : List Char :=
  match c with
  | '\x00' => ['\\', '0']
  | '\t' => ['\\', 't']
  | '\r' => ['\\', 'r']
  | '\n' => ['\\', 'n']
  | '\\' => ['\\', '\\']
  | '"' => ['\\', '"']
  | c =>
    if c = '\x27' then
      match apostrophe with
      | .plain => [c]
      | .escaped => ['\\', c]
    else if isUnprintable c then ['\\', 'u', '\x7b'] ++ hexDigits c.toNat ++ ['\x7d']
    else [c]

/-- A text between quotation marks. -/
def quoted (apostrophe : Apostrophe) (s : String) : String :=
  String.ofList ('"' :: s.toList.flatMap (quotedChar apostrophe) ++ ['"'])

/-- A list of texts between brackets, each between quotation marks. -/
def quotedList (items : List String) : String :=
  "[" ++ ", ".intercalate (items.map (quoted .plain)) ++ "]"

end FaultDiagnosis.Text
