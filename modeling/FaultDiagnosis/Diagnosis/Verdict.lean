import FaultDiagnosis.Json.Decoder
import FaultDiagnosis.Knowledge.Wire

/-!
# Verdicts

A `Verdict` is the outcome of an evaluation: a diagnosis with the symptoms it rests on, or the
statement that nothing definite can be said, with advice instead. It also says which part of the
program came to it and where the knowledge behind it comes from.
-/

namespace FaultDiagnosis

open Json (Decoder Fields)

/-- How a diagnosis is looked for. -/
inductive Strategy
  /-- By rules whose conditions all hold. -/
  | rules
  /-- By adding up the weights of clues. -/
  | scoring
  deriving DecidableEq, Repr

namespace Strategy

/-- The strategies. -/
def all : List Strategy := [.rules, .scoring]

/-- The name of a strategy. -/
def name : Strategy → String
  | rules => "rules"
  | scoring => "scoring"

/-- The strategy for lack of another. -/
def usual : Strategy := .rules

/-- The strategy that a user names. Blanks around the name and its case do not matter; a name that
is none is given back as it was understood. -/
def parse (text : String) : Except String Strategy :=
  let name := Text.lowerCase (Text.trim text)
  if name = "rules" then .ok rules
  else if name = "scoring" then .ok scoring
  else .error name

/-- The message for a name that is not one of a strategy. -/
def unknownMessage (name : String) : String :=
  "unknown strategy '" ++ name ++ "' (expected rules or scoring)"

/-- A strategy, by its exact name. -/
def decoder (moment : Decoder.Moment) : Decoder Strategy :=
  .oneOf (all.map fun s => (s.name, s)) moment

end Strategy

/-- The part of the program that came to a verdict. -/
inductive Resolver
  | rules
  | scoring
  | fallback
  deriving DecidableEq, Repr

/-- The name of a resolver. -/
def Resolver.name : Resolver → String
  | rules => "rules"
  | scoring => "scoring"
  | fallback => "fallback"

/-- A resolver, by its exact name. -/
def Resolver.decoder : Decoder Resolver :=
  .oneOf ([Resolver.rules, .scoring, .fallback].map fun r => (r.name, r)) .atOnce

/-- **The outcome of an evaluation.** -/
structure Verdict (W : Type) where
  diagnosis : String
  matched : IdSet
  /-- The total weight behind a diagnosis found by scoring. -/
  confidence : Option W := none
  /-- Where the knowledge behind a diagnosis comes from. -/
  origin : Option Origin := none
  conclusive : Bool
  resolvedBy : Resolver
  advice : Option String := none
  /-- The observed identifiers that no symptom has. -/
  unknown : List String := []
  deriving DecidableEq

namespace Verdict

variable {W : Type}

/-- The name of the origin of the knowledge behind a verdict, if there is any. -/
def originName : Option Origin → String
  | some o => o.name
  | none => "none"

/-- The origin of the knowledge behind a verdict, by its exact name. -/
def originDecoder : Decoder (Option Origin) :=
  .oneOf ([some Origin.shipped, some .user, none].map fun o => (originName o, o)) .atOnce

/-- A member that is written only where there is something to write. -/
def optionalMember {α : Type} (key : String) (toJson : α → Json) : Option α → List (String × Json)
  | some a => [(key, toJson a)]
  | none => []

/-- A verdict as JSON. What is absent is left out, and so is an empty list of unknown
identifiers. -/
def toJson [WeightNotation W] (v : Verdict W) : Json :=
  .object (
    [("diagnosis", .string v.diagnosis), ("matchedSymptoms", v.matched.toJson)]
    ++ optionalMember "confidence" weightJson v.confidence
    ++ [("ruleOrigin", .string (originName v.origin)), ("conclusive", .bool v.conclusive),
      ("resolvedBy", .string v.resolvedBy.name)]
    ++ optionalMember "advice" .string v.advice
    ++ if v.unknown.isEmpty then [] else [("unknownSymptoms", .texts v.unknown)])

/-- A verdict from JSON. -/
def decoder [WeightNotation W] : Decoder (Verdict W) :=
  .record <| Verdict.mk
    <$> Fields.required "diagnosis" .text
    <*> Fields.required "matchedSymptoms" .idSet
    <*> Fields.optional "confidence" .weight
    <*> Fields.required "ruleOrigin" originDecoder
    <*> Fields.required "conclusive" .flag
    <*> Fields.required "resolvedBy" Resolver.decoder
    <*> Fields.optional "advice" .text
    <*> Fields.withDefault "unknownSymptoms" (.list .text) []

end Verdict

end FaultDiagnosis
