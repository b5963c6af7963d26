import FaultDiagnosis.Json.Decoder
import FaultDiagnosis.Knowledge.Basic

/-!
# Knowledge as JSON

How categories, origins, symptoms, rules, clues and combination hints are written as JSON values and
decoded from them. Objects are written with their members in the order of the fields.
-/

namespace FaultDiagnosis

open Json (Decoder Fields)
open Json.Decoder (Moment)

variable {W : Type}

/-- A category as JSON. -/
def Category.toJson (c : Category) : Json :=
  .string c.name

/-- A category, by its exact name. -/
def Category.decoder (moment : Moment) : Decoder Category :=
  .oneOf (Category.all.map fun c => (c.name, c)) moment

/-- An origin as JSON. -/
def Origin.toJson (o : Origin) : Json :=
  .string o.name

/-- An origin, by its exact name. -/
def Origin.decoder (moment : Moment) : Decoder Origin :=
  .oneOf ([Origin.shipped, Origin.user].map fun o => (o.name, o)) moment

/-- A set of identifiers as JSON. -/
def IdSet.toJson (s : IdSet) : Json :=
  .texts s.toList

/-- A weight as JSON. What is not a number is written as null. -/
def weightJson [WeightNotation W] (w : W) : Json :=
  match WeightNotation.write w with
  | some n => .number n
  | none => .null

/-- A symptom as JSON. -/
def Symptom.toJson (s : Symptom) : Json :=
  .object [("id", .string s.id), ("label", .string s.label), ("category", s.category.toJson),
    ("origin", s.origin.toJson)]

/-- A symptom from JSON. -/
def Symptom.decoder (moment : Moment) : Decoder Symptom :=
  .record <| Symptom.mk
    <$> Fields.required "id" .text
    <*> Fields.required "label" .text
    <*> Fields.required "category" (Category.decoder moment)
    <*> Fields.required "origin" (Origin.decoder moment)

/-- A rule as JSON. -/
def Rule.toJson (r : Rule) : Json :=
  .object [("positive", r.positive.toJson), ("negative", r.negative.toJson),
    ("diagnosis", .string r.diagnosis), ("origin", r.origin.toJson)]

/-- A rule from JSON. Its conditions are taken as they are. -/
def Rule.decoder (moment : Moment) : Decoder Rule :=
  .record <| Rule.mk
    <$> Fields.required "positive" .idSet
    <*> Fields.required "negative" .idSet
    <*> Fields.required "diagnosis" .text
    <*> Fields.required "origin" (Origin.decoder moment)

/-- A clue as JSON. -/
def Clue.toJson [WeightNotation W] (c : Clue W) : Json :=
  .object [("symptom", .string c.symptom), ("diagnosis", .string c.diagnosis),
    ("weight", weightJson c.weight), ("origin", c.origin.toJson)]

/-- A clue from JSON. Its weight is taken as it is. -/
def Clue.decoder [WeightNotation W] (moment : Moment) : Decoder (Clue W) :=
  .record <| Clue.mk
    <$> Fields.required "symptom" .text
    <*> Fields.required "diagnosis" .text
    <*> Fields.required "weight" .weight
    <*> Fields.required "origin" (Origin.decoder moment)

/-- A combination hint as JSON. -/
def CombinationHint.toJson (h : CombinationHint) : Json :=
  .object [("all", h.all.toJson), ("any", h.any.toJson), ("none", h.none.toJson),
    ("advice", .string h.advice)]

/-- A combination hint from JSON. Each of its conditions may be left out. -/
def CombinationHint.decoder : Decoder CombinationHint :=
  .record <| CombinationHint.mk
    <$> Fields.withDefault "all" .idSet ∅
    <*> Fields.withDefault "any" .idSet ∅
    <*> Fields.withDefault "none" .idSet ∅
    <*> Fields.required "advice" .text

end FaultDiagnosis
