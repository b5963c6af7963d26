import FaultDiagnosis.Decimal.Numeral

/-!
# JSON values and their text

`Json` is a value to be written. An object keeps its members in the order in which they are to
appear, and a number is kept as the numeral that is to be written. `Json.compact` writes a value
without any blanks; `Json.pretty` puts every item and member on a line of its own, indented by two
spaces per level.

Inside a text the quotation mark, the backslash and the control characters are escaped, and every
other character stands for itself. In particular no line break is ever written inside a text.
-/

namespace FaultDiagnosis

/-- A JSON value to be written. -/
inductive Json
  | null
  | bool (b : Bool)
  | number (n : Numeral)
  | string (s : String)
  | array (items : List Json)
  | object (members : List (String × Json))
  deriving Inhabited

namespace Json

/-- A list of texts. -/
def texts (items : List String) : Json :=
  .array (items.map .string)

/-- A natural number. -/
def nat (n : Nat) : Json :=
  .number (.ofNat n)

/-! ### Texts -/

/-- The lower-case hexadecimal digit of a number below sixteen. -/
def hexDigit (n : Nat) : Char :=
  Nat.digitChar n

/-- A character as it stands between the quotation marks of a text. -/
def escapedChar (c : Char) : List Char :=
  match c with
  | '"' => ['\\', '"']
  | '\\' => ['\\', '\\']
  | '\x08' => ['\\', 'b']
  | '\t' => ['\\', 't']
  | '\n' => ['\\', 'n']
  | '\x0c' => ['\\', 'f']
  | '\r' => ['\\', 'r']
  | c =>
    if c.toNat < 0x20 then
      ['\\', 'u', '0', '0', hexDigit (c.toNat / 16), hexDigit (c.toNat % 16)]
    else [c]

/-- A text with its quotation marks. -/
def stringChars (s : String) : List Char :=
  '"' :: s.toList.flatMap escapedChar ++ ['"']

/-! ### Compact text -/

mutual

/-- The value without blanks. -/
def chars : Json → List Char
  | .null => "null".toList
  | .bool b => if b then "true".toList else "false".toList
  | .number n => n.chars
  | .string s => stringChars s
  | .array items => '[' :: itemsChars items
  | .object members => '\x7b' :: membersChars members

/-- The items of an array up to and including the closing bracket. -/
def itemsChars : List Json → List Char
  | [] => [']']
  | v :: vs => chars v ++ itemsTail vs

/-- What follows an item: a comma and the next item, or the closing bracket. -/
def itemsTail : List Json → List Char
  | [] => [']']
  | v :: vs => ',' :: chars v ++ itemsTail vs

/-- The members of an object up to and including the closing brace. -/
def membersChars : List (String × Json) → List Char
  | [] => ['\x7d']
  | (k, v) :: ms => stringChars k ++ ':' :: chars v ++ membersTail ms

/-- What follows a member: a comma and the next member, or the closing brace. -/
def membersTail : List (String × Json) → List Char
  | [] => ['\x7d']
  | (k, v) :: ms => ',' :: stringChars k ++ ':' :: chars v ++ membersTail ms

end

/-- The text of a value, without blanks. -/
def compact (j : Json) : String :=
  String.ofList j.chars

/-! ### Indented text -/

/-- A line break and the indentation of a level. -/
def lineBreak (level : Nat) : List Char :=
  '\n' :: List.replicate (2 * level) ' '

mutual

/-- The value with one item or member per line, at the given level. -/
def prettyChars (level : Nat) : Json → List Char
  | .null => "null".toList
  | .bool b => if b then "true".toList else "false".toList
  | .number n => n.chars
  | .string s => stringChars s
  | .array [] => ['[', ']']
  | .array (v :: vs) =>
    '[' :: lineBreak (level + 1) ++ prettyChars (level + 1) v ++ prettyItems level vs
  | .object [] => ['\x7b', '\x7d']
  | .object ((k, v) :: ms) =>
    '\x7b' :: lineBreak (level + 1) ++ stringChars k ++ ':' :: ' ' :: prettyChars (level + 1) v
      ++ prettyMembers level ms

/-- What follows an item: the other items, then the closing bracket on a line of its own. -/
def prettyItems (level : Nat) : List Json → List Char
  | [] => lineBreak level ++ [']']
  | v :: vs => ',' :: lineBreak (level + 1) ++ prettyChars (level + 1) v ++ prettyItems level vs

/-- What follows a member: the other members, then the closing brace on a line of its own. -/
def prettyMembers (level : Nat) : List (String × Json) → List Char
  | [] => lineBreak level ++ ['\x7d']
  | (k, v) :: ms =>
    ',' :: lineBreak (level + 1) ++ stringChars k ++ ':' :: ' ' :: prettyChars (level + 1) v
      ++ prettyMembers level ms

end

/-- The text of a value, one item or member per line. -/
def pretty (j : Json) : String :=
  String.ofList (j.prettyChars 0)

end Json

end FaultDiagnosis
