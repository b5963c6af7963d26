import FaultDiagnosis.Toml.Basic

/-!
# What a TOML value says

The reader of a value knows what it wants: a text, a number, one of several names, or a group of
further values. Each view gives what it wants where the value has it, and nothing where it does not.
-/

namespace FaultDiagnosis.Toml

/-- The text of a value. -/
def text? : Toml → Option String
  | .string s => some s
  | _ => none

/-- The truth value of a value. -/
def flag? : Toml → Option Bool
  | .boolean b => some b
  | _ => none

/-- The number of a value. An integer is rounded to the nearest double. -/
def number? : Toml → Option Float
  | .integer n => some (Binary64.ofFraction (decide (n < 0)) n.natAbs 1)
  | .float x => some x
  | _ => none

/-- Is the value a table or an array without content? -/
def isVoid : Toml → Bool
  | .table _ entries => entries.isEmpty
  | .array items => items.isEmpty
  | .tables ts => ts.isEmpty
  | _ => false

/-- The name that a value chooses: a text, or the only key of a table that has nothing under it. -/
def choice? : Toml → Option String
  | .string s => some s
  | .table _ [(name, v)] => if v.isVoid then some name else none
  | _ => none

/-- The members of a group of values. A group is a table, or an array of its members in the order of
their names, which may end early and may go on beyond them. A date is a group without members. -/
def members? (names : List String) : Toml → Option Entries
  | .table _ entries => some entries
  | .array items => some (names.zip items)
  | .tables ts => some (names.zip (ts.map (.table .defined)))
  | .dateTime => some []
  | _ => none

/-- **The value of a key, over a default.** Where the key is there, its value counts, and there is
nothing if it cannot be viewed; where it is not, the default counts. -/
def Entries.setting {α : Type} (entries : Entries) (key : String) (view : Toml → Option α)
    (default : α) : Option α :=
  match entries.lookup key with
  | some v => view v
  | none => some default

end FaultDiagnosis.Toml
