import FaultDiagnosis.Decimal.Reading

/-!
# TOML documents

A TOML document is a tree of tables. How a table came about decides what may still be added to it:
a table with a header of its own is complete after its section, one that is only implied by the
header of a table inside it may still get a header, and one made by a dotted key takes further
dotted keys. `Entries.insertAt` and `Entries.openTable` add to a tree under these rules and give
nothing where they are broken.

Values can be told apart (`Toml.isSame`), as deep as they are nested.
-/

namespace FaultDiagnosis

namespace Toml

/-- How a table came about. -/
inductive TableKind
  /-- It has a header, or it is the document itself. -/
  | defined
  /-- A header mentions it on the way to a table inside it. -/
  | implied
  /-- A dotted key mentions it. -/
  | dotted
  /-- It is written between braces. -/
  | inline
  deriving DecidableEq, Repr

/-- May a dotted key add to the table? -/
def TableKind.isOpen : TableKind → Bool
  | .implied | .dotted => true
  | .defined | .inline => false

end Toml

/-- **A TOML value.** Dates and times are not told apart. -/
inductive Toml
  | string (s : String)
  | integer (n : Int)
  | float (x : Float)
  | boolean (b : Bool)
  | dateTime
  | array (items : List Toml)
  | table (kind : Toml.TableKind) (entries : List (String × Toml))
  /-- Tables that share a header between double brackets. -/
  | tables (tables : List (List (String × Toml)))
  deriving Inhabited

namespace Toml

/-! ### Comparing values -/

mutual

/-- Are the values the same? -/
def isSame : Toml → Toml → Bool
  | .string s, .string t => s = t
  | .integer n, .integer m => n = m
  | .float x, .float y => x = y
  | .boolean b, .boolean c => b = c
  | .dateTime, .dateTime => true
  | .array vs, .array ws => areSame vs ws
  | .table kind es, .table kind' es' => kind = kind' && areSameEntries es es'
  | .tables ts, .tables ts' => areSameTables ts ts'
  | _, _ => false

/-- Are the values of two lists the same? -/
def areSame : List Toml → List Toml → Bool
  | [], [] => true
  | v :: vs, w :: ws => isSame v w && areSame vs ws
  | _, _ => false

/-- Are the entries of two tables the same? -/
def areSameEntries : List (String × Toml) → List (String × Toml) → Bool
  | [], [] => true
  | (key, v) :: es, (key', w) :: es' => key = key' && isSame v w && areSameEntries es es'
  | _, _ => false

/-- Are the tables of two lists the same? -/
def areSameTables : List (List (String × Toml)) → List (List (String × Toml)) → Bool
  | [], [] => true
  | t :: ts, t' :: ts' => areSameEntries t t' && areSameTables ts ts'
  | _, _ => false

end

mutual

/-- **Values that hold the same are the same.** -/
theorem isSame_iff (v w : Toml) : v.isSame w = true ↔ v = w := by
  cases v <;> cases w <;> simp [isSame, areSame_iff, areSameEntries_iff, areSameTables_iff]
termination_by structural v

theorem areSame_iff : ∀ vs ws : List Toml, areSame vs ws = true ↔ vs = ws
  | [], [] | [], _ :: _ | _ :: _, [] => by simp [areSame]
  | v :: vs, w :: ws => by
    rw [areSame, Bool.and_eq_true, isSame_iff v w, areSame_iff vs ws, List.cons.injEq]

theorem areSameEntries_iff : ∀ es es' : List (String × Toml),
    areSameEntries es es' = true ↔ es = es'
  | [], [] | [], _ :: _ | _ :: _, [] => by simp [areSameEntries]
  | (key, v) :: es, (key', w) :: es' => by
    rw [areSameEntries, Bool.and_eq_true, Bool.and_eq_true, decide_eq_true_iff, isSame_iff v w,
      areSameEntries_iff es es', List.cons.injEq, Prod.mk.injEq]

theorem areSameTables_iff : ∀ ts ts' : List (List (String × Toml)),
    areSameTables ts ts' = true ↔ ts = ts'
  | [], [] | [], _ :: _ | _ :: _, [] => by simp [areSameTables]
  | t :: ts, t' :: ts' => by
    rw [areSameTables, Bool.and_eq_true, areSameEntries_iff t t', areSameTables_iff ts ts',
      List.cons.injEq]

end

instance : DecidableEq Toml := fun v w => decidable_of_iff _ (isSame_iff v w)

/-! ### Tables -/

/-- The keys of a table with their values, in the order in which they were added. -/
abbrev Entries := List (String × Toml)

namespace Entries

/-- The entries with the value of a key replaced. -/
def replace (entries : Entries) (key : String) (v : Toml) : Entries :=
  entries.map fun e => if e.1 = key then (key, v) else e

/-- The entries with a value for a new key. -/
def insert? (entries : Entries) (key : String) (v : Toml) : Option Entries :=
  if (entries.lookup key).isSome then none else some (entries ++ [(key, v)])

/-- Who goes along a path of keys: a dotted key, or a header. -/
inductive Walker
  | dottedKey
  | header
  deriving DecidableEq, Repr

/-- The kind of a table that a walker creates on its way. -/
def Walker.creates : Walker → TableKind
  | .dottedKey => .dotted
  | .header => .implied

/-- Changes the table at the end of a path, creating the tables that are missing on the way. A path
leads through the last of several tables that share a header. A dotted key does not lead into a
table that is complete, and nothing leads into a value. -/
def updateAt (walker : Walker) (change : TableKind → Entries → Option Entries) :
    List String → TableKind → Entries → Option Entries
  | [], kind, entries => change kind entries
  | key :: path, _, entries =>
    match entries.lookup key with
    | none => do
      let inner ← updateAt walker change path walker.creates []
      return entries ++ [(key, .table walker.creates inner)]
    | some (.table kind inner) => do
      if kind = .inline then none
      if walker = .dottedKey ∧ !kind.isOpen then none
      let inner ← updateAt walker change path kind inner
      return replace entries key (.table kind inner)
    | some (.tables ts) =>
      match ts.getLast? with
      | none => none
      | some last => do
        let last ← updateAt walker change path .defined last
        return replace entries key (.tables (ts.dropLast ++ [last]))
    | some _ => none

/-- Adds a value under a dotted key. The last table on the way has to be one that the dotted key may
add to: the current one for a single key, and one made by dotted keys for a longer one. -/
def insertAt (path : List String) (key : String) (v : Toml) (kind : TableKind)
    (entries : Entries) : Option Entries :=
  updateAt .dottedKey
    (fun kind entries =>
      if (kind = .dotted) = path.isEmpty then none else entries.insert? key v)
    path kind entries

/-- Gives a table its header. It is a new one, or one that was only implied so far. -/
def openTable (path : List String) (key : String) (entries : Entries) : Option Entries :=
  updateAt .header
    (fun _ entries =>
      match entries.lookup key with
      | none => some (entries ++ [(key, .table .defined [])])
      | some (.table .implied inner) => some (replace entries key (.table .defined inner))
      | some _ => none)
    path .defined entries

/-- Adds a table to those that share a header. -/
def openSharedTable (path : List String) (key : String) (entries : Entries) : Option Entries :=
  updateAt .header
    (fun _ entries =>
      match entries.lookup key with
      | none => some (entries ++ [(key, .tables [[]])])
      | some (.tables ts) => some (replace entries key (.tables (ts ++ [[]])))
      | some _ => none)
    path .defined entries

end Entries

end Toml

end FaultDiagnosis
