import FaultDiagnosis.Contribution.Basic
import FaultDiagnosis.Knowledge.Wire
import FaultDiagnosis.Timestamp

/-!
# Records of contributions

An accepted contribution is kept as a record, which adds the time at which it was accepted. A record
is a single JSON object: the time, the kind of the contribution, and the fields of a contribution of
that kind. It is read to its end before the kind is known, so all of its members have to make sense
as values, also those that are not used.
-/

namespace FaultDiagnosis

open Json (Decoder Fields Reading Fault)
open Json.Decoder (Moment)

variable {W : Type}

/-- **An accepted contribution**, with the time of its acceptance. -/
structure Record (W : Type) where
  contributedAt : Timestamp
  item : Contribution W
  deriving DecidableEq

/-! ### Writing -/

/-- The members that describe a contribution. -/
def Contribution.members [WeightNotation W] : Contribution W → List (String × Json)
  | symptom s => [("kind", .string "symptom"), ("symptom", s.toJson)]
  | rule r cs =>
    [("kind", .string "rule"), ("rule", r.toJson), ("clues", .array (cs.map Clue.toJson))]

/-- A contribution as JSON. -/
def Contribution.toJson [WeightNotation W] (item : Contribution W) : Json :=
  .object item.members

/-- A record as JSON. -/
def Record.toJson [WeightNotation W] (r : Record W) : Json :=
  .object (("contributed_at", .string r.contributedAt.text) :: r.item.members)

/-! ### Reading -/

namespace Contribution

/-- The kinds of contributions. -/
inductive Kind
  | symptom
  | rule
  deriving DecidableEq, Repr

/-- The kind, by its name or by its number. -/
def kindDecoder (moment : Moment) : Decoder Kind
  | .string "symptom" => .ok .symptom
  | .string "rule" => .ok .rule
  | .number n =>
    if moment = .afterwards ∧ n.isInteger ∧ n.negative = false then
      match n.coefficient with
      | 0 => .ok .symptom
      | 1 => .ok .rule
      | _ => .error .wrongShape
    else .error .wrongShape
  | r => .error r.mismatch

/-- The fields of a contribution of a kind. -/
def fields [WeightNotation W] : Kind → Fields (Contribution W)
  | .symptom => symptom <$> Fields.required "symptom" (Symptom.decoder .afterwards)
  | .rule => rule
    <$> Fields.required "rule" (Rule.decoder .afterwards)
    <*> Fields.withDefault "clues" (.list (Clue.decoder .afterwards)) []

/-- The readings under a key. -/
def under (key : String) (members : List (Option String × Reading)) : List Reading :=
  (members.filter fun m => m.1 == some key).map Prod.snd

/-- A contribution from the members of an object, which has exactly one kind. -/
def ofMembers [WeightNotation W] (moment : Moment) (members : List (Option String × Reading)) :
    Except Fault (Contribution W) :=
  match under "kind" members with
  | [k] => do
    let kind ← kindDecoder moment k
    Decoder.record (fields kind) (.object (members.filter fun m => m.1 != some "kind") true)
  | _ => .error .wrongShape

/-- A contribution from JSON: an object, or an array of the kind and the fields. -/
def decoder [WeightNotation W] : Decoder (Contribution W)
  | .object members true => ofMembers .atOnce members
  | .array (k :: items) true => do
    let kind ← kindDecoder .atOnce k
    Decoder.record (fields kind) (.array items true)
  | r => .error r.mismatch

end Contribution

namespace Record

/-- A point in time from JSON. -/
def timeDecoder : Decoder Timestamp
  | .string s =>
    match Timestamp.parse s with
    | some t => .ok t
    | none => .error .wrongShape
  | r => .error r.mismatch

/-- The key of the time. -/
def timeKey : String := "contributed_at"

/-- A record from the members of an object. -/
def ofMembers [WeightNotation W] (members : List (Option String × Reading)) :
    Except Fault (Record W) :=
  match Contribution.under timeKey members with
  | [t] => do
    let contributedAt ← timeDecoder t
    let item ← Contribution.ofMembers .afterwards (members.filter fun m => m.1 != some timeKey)
    return { contributedAt, item }
  | _ => .error .wrongShape

/-- **A record from JSON.** -/
def decoder [WeightNotation W] : Decoder (Record W) :=
  .afterReading 0 fun
    | .object members _ => ofMembers members
    | r => .error r.mismatch

end Record

end FaultDiagnosis
