import FaultDiagnosis.IdSet
import FaultDiagnosis.Json.Reading
import FaultDiagnosis.Weight

/-!
# Decoding what was read

A `Decoder` turns a reading into a value of a type, or names the first fault in the order of the
text: either the text is no JSON at that place, or it is and has the wrong shape.

A structure is decoded from an object, whose members may come in any order, or from an array of its
fields in the order in which they are declared. Members that are not fields are passed over: their
text has to be JSON and need not mean anything. A repeated field is a fault, and a missing one is a
fault unless it has a default. `Fields` describes the fields of a structure, and
`Decoder.record` decodes them.
-/

namespace FaultDiagnosis.Json

/-- Why a text was not decoded. -/
inductive Fault
  /-- The text is not JSON, or uses a value that names nothing. -/
  | notJson
  /-- The text is JSON of another shape. -/
  | wrongShape
  deriving DecidableEq, Repr

/-- Makes a value of what was read. -/
abbrev Decoder (α : Type) := Reading → Except Fault α

namespace Reading

/-- The fault of a reading that is not of the wanted shape: where it names nothing, the text is at
fault. -/
def mismatch : Reading → Fault
  | .broken | .unpaired | .tooLarge => .notJson
  | _ => .wrongShape

/-- Is the text of the value complete, whatever it means? -/
def isComplete : Reading → Bool
  | .broken => false
  | .array _ closed => closed
  | .object _ closed => closed
  | _ => true

/-- Can the whole value be used, if arrays and objects may be nested `depth` deep? -/
def isUsable : Nat → Reading → Bool
  | _, .broken => false
  | _, .unpaired => false
  | _, .tooLarge => false
  | 0, .array _ _ => false
  | 0, .object _ _ => false
  | depth + 1, .array items closed => items.all (isUsable depth) && closed
  | depth + 1, .object members closed =>
    members.all (fun m => m.1.isSome && isUsable depth m.2) && closed
  | _, _ => true

/-- How deep arrays and objects may be nested in a value that is used. -/
def depthLimit : Nat := 127

end Reading

namespace Decoder

/-! ### Single values -/

/-- A text. -/
def text : Decoder String
  | .string s => .ok s
  | r => .error r.mismatch

/-- A truth value. -/
def flag : Decoder Bool
  | .bool b => .ok b
  | r => .error r.mismatch

/-- A weight, from any number. -/
def weight {W : Type} [WeightNotation W] : Decoder W
  | .number n => .ok (WeightNotation.read n)
  | r => .error r.mismatch

/-- A value that may be null. -/
def nullable {α : Type} (d : Decoder α) : Decoder (Option α)
  | .null => .ok none
  | r => some <$> d r

/-- A list of values. -/
def list {α : Type} (d : Decoder α) : Decoder (List α)
  | .array items closed => do
    let values ← items.mapM d
    if closed then return values else throw .notJson
  | r => .error r.mismatch

/-- A set of identifiers, from a list of texts. -/
def idSet : Decoder IdSet :=
  fun r => IdSet.ofList <$> list text r

/-- Whether a value is decoded while its text is read, or only after the object around it has been
read to its end. -/
inductive Moment
  | atOnce
  | afterwards
  deriving DecidableEq, Repr

/-- The value of a name. -/
def named {α : Type} (names : List (String × α)) (name : String) : Except Fault α :=
  match names.lookup name with
  | some a => .ok a
  | none => .error .wrongShape

/-- May the reading stand for the missing content of a name? After the fact an empty object does as
well as null. -/
def isNoContent (moment : Moment) : Reading → Except Fault Unit
  | .null => .ok ()
  | .object [] true => if moment = .afterwards then .ok () else .error .wrongShape
  | r => .error r.mismatch

/-- One of several names: written as a text, or as an object that gives the name no content. -/
def oneOf {α : Type} (names : List (String × α)) (moment : Moment) : Decoder α
  | .string s => named names s
  | .object members closed =>
    match members with
    | [(some name, content)] => do
      let a ← named names name
      isNoContent moment content
      if closed then return a else throw .notJson
    | (some name, content) :: _ => do
      let _ ← named names name
      isNoContent moment content
      throw .notJson
    | _ => .error .notJson
  | _ => .error .notJson

/-! ### Structures -/

end Decoder

/-- The fields of a structure: how each is checked, in the order of declaration, and how the
structure is put together from the fields that were found. -/
structure Fields (α : Type) where
  checks : List (String × (Reading → Except Fault Unit))
  build : List (String × Reading) → Except Fault α

namespace Fields

/-- A field that has to be there. -/
def required {α : Type} (name : String) (d : Decoder α) : Fields α where
  checks := [(name, fun r => (fun _ => ()) <$> d r)]
  build found :=
    match found.lookup name with
    | some r => d r
    | none => .error .wrongShape

/-- A field with a default. -/
def withDefault {α : Type} (name : String) (d : Decoder α) (default : α) : Fields α where
  checks := [(name, fun r => (fun _ => ()) <$> d r)]
  build found :=
    match found.lookup name with
    | some r => d r
    | none => .ok default

/-- A field that may be missing or null. -/
def optional {α : Type} (name : String) (d : Decoder α) : Fields (Option α) :=
  withDefault name d.nullable none

instance : Functor Fields where
  map f a := { checks := a.checks, build := fun found => f <$> a.build found }

instance : Seq Fields where
  seq f a :=
    { checks := f.checks ++ (a ()).checks
      build := fun found => do
        let g ← f.build found
        g <$> (a ()).build found }

end Fields

namespace Decoder

/-- Goes through the members of an object and gathers the fields, checking each where it stands. -/
def gather (checks : List (String × (Reading → Except Fault Unit))) :
    List (String × Reading) → List (Option String × Reading) →
      Except Fault (List (String × Reading))
  | found, [] => .ok found
  | _, (none, _) :: _ => .error .notJson
  | found, (some name, r) :: ms =>
    match checks.lookup name with
    | none => if r.isComplete then gather checks found ms else .error .notJson
    | some check => do
      if (found.lookup name).isSome then throw .wrongShape
      check r
      gather checks ((name, r) :: found) ms

/-- Goes through the items of an array as the fields in their order. Items beyond the last field are
a fault. -/
def gatherItems : List (String × (Reading → Except Fault Unit)) → List (String × Reading) →
    List Reading → Except Fault (List (String × Reading))
  | _, found, [] => .ok found
  | [], _, _ :: _ => .error .notJson
  | (name, check) :: checks, found, r :: rs => do
    check r
    gatherItems checks ((name, r) :: found) rs

/-- **A structure**, from an object or from an array. -/
def record {α : Type} (fields : Fields α) : Decoder α
  | .object members closed => do
    let found ← gather fields.checks [] members
    if closed then fields.build found else throw .notJson
  | .array items closed => do
    let found ← gatherItems fields.checks [] items
    if closed then fields.build found else throw .notJson
  | r => .error r.mismatch

/-- Decodes a value that is first read to its end, inside `depth` arrays and objects. -/
def afterReading {α : Type} (depth : Nat) (d : Decoder α) : Decoder α :=
  fun r => if r.isUsable (Reading.depthLimit - depth) then d r else .error .notJson

end Decoder

end FaultDiagnosis.Json
