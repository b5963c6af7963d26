import FaultDiagnosis.Contribution.Basic
import FaultDiagnosis.Knowledge.Wire

/-!
# Requests to contribute

A user asks for a contribution in a form of its own, with less to fill in: the identifier of a
symptom may be left out, and a single weight makes a clue of every positive condition of a rule.
`Request.contribution` turns the request into a contribution. Blanks at the ends of what the user
wrote are dropped first, so that nothing depends on them.

As JSON a request is an object with a `kind` and a `payload`, in either order, or an array of the
two. A payload that comes before its kind is read to the end before it is known what it should be.
-/

namespace FaultDiagnosis

open Json (Decoder Fields Reading Fault)

variable {W : Type}

/-- A symptom as a user asks for it. -/
structure SymptomRequest where
  id : Option String
  label : String
  category : Option String
  deriving DecidableEq, Repr

/-- A rule as a user asks for it. -/
structure RuleRequest (W : Type) where
  positive : List String
  negative : List String
  diagnosis : String
  weight : Option W
  deriving DecidableEq, Repr

/-- **What a user asks to have added.** -/
inductive Request (W : Type)
  | symptom (request : SymptomRequest)
  | rule (request : RuleRequest W)
  deriving DecidableEq, Repr

/-! ### From a request to a contribution -/

/-- The identifier that a symptom gets: the one asked for, or one derived from the label. -/
def SymptomRequest.chosenId (r : SymptomRequest) (label : String) : Except (Defect W) String :=
  match r.id.map Text.trim with
  | some id => if id = "" then deriveId label else .ok id
  | none => deriveId label

/-- The category that a symptom gets. -/
def SymptomRequest.chosenCategory (r : SymptomRequest) : Except (Defect W) Category :=
  match r.category with
  | some name => Category.parse name
  | none => .error .missingCategory

/-- The symptom asked for. -/
def SymptomRequest.contribution (r : SymptomRequest) : Except (Defect W) (Contribution W) := do
  let label := Text.trim r.label
  checkLabel label
  let category ← r.chosenCategory
  let id ← r.chosenId label
  return .symptom { id, label, category, origin := .user }

/-- The clues of a rule: one of the given weight for every positive condition. -/
def Rule.cluesOfWeight [Weight W] (r : Rule) (weight : Option W) :
    Except (Defect W) (List (Clue W)) :=
  match weight with
  | some w => r.positive.toList.mapM fun id => Clue.ofWeight id r.diagnosis w .user
  | none => .ok []

/-- The rule asked for, with its clues. -/
def RuleRequest.contribution [Weight W] (r : RuleRequest W) :
    Except (Defect W) (Contribution W) := do
  let diagnosis := Text.trim r.diagnosis
  checkDiagnosis diagnosis
  let rule ← Rule.ofConditions (.ofList (r.positive.map Text.trim))
    (.ofList (r.negative.map Text.trim)) diagnosis .user
  let clues ← rule.cluesOfWeight r.weight
  return .rule rule clues

/-- **The contribution asked for**, or the first defect of the request itself. -/
def Request.contribution [Weight W] : Request W → Except (Defect W) (Contribution W)
  | symptom r => r.contribution
  | rule r => r.contribution

/-! ### Requests as JSON -/

namespace Request

/-- The two kinds of requests. -/
inductive Kind
  | symptom
  | rule
  deriving DecidableEq, Repr

/-- The kind of a request. -/
def kind : Request W → Kind
  | symptom _ => .symptom
  | rule _ => .rule

/-- The kind of an accepted request, as it is reported back. -/
def Kind.reportName : Kind → String
  | symptom => "symptom"
  | rule => "diagnosis_rule"

/-- An optional value as JSON. -/
def optionalJson {α : Type} (toJson : α → Json) : Option α → Json
  | some a => toJson a
  | none => .null

/-- A request as JSON. What is absent is written as null. -/
def toJson [WeightNotation W] : Request W → Json
  | symptom r =>
    .object [("kind", .string "symptom"), ("payload", .object [
      ("id", optionalJson .string r.id), ("label", .string r.label),
      ("category", optionalJson .string r.category)])]
  | rule r =>
    .object [("kind", .string "rule"), ("payload", .object [
      ("positive", .texts r.positive), ("negative", .texts r.negative),
      ("diagnosis", .string r.diagnosis), ("weight", optionalJson weightJson r.weight)])]

/-- A kind, by its name. -/
def Kind.decoder : Decoder Kind :=
  .oneOf [("symptom", .symptom), ("rule", .rule)] .atOnce

/-- The payload of a symptom request. -/
def symptomDecoder : Decoder SymptomRequest :=
  .record <| SymptomRequest.mk
    <$> Fields.optional "id" .text
    <*> Fields.required "label" .text
    <*> Fields.optional "category" .text

/-- The payload of a rule request. -/
def ruleDecoder [WeightNotation W] : Decoder (RuleRequest W) :=
  .record <| RuleRequest.mk
    <$> Fields.required "positive" (.list .text)
    <*> Fields.withDefault "negative" (.list .text) []
    <*> Fields.required "diagnosis" .text
    <*> Fields.optional "weight" .weight

/-- The payload of a request of a known kind. -/
def payloadDecoder [WeightNotation W] : Kind → Decoder (Request W)
  | .symptom => fun r => symptom <$> symptomDecoder r
  | .rule => fun r => rule <$> ruleDecoder r

/-- How much of a request has been found while going through its members. -/
inductive Progress (W : Type)
  | nothing
  | kind (k : Kind)
  | payload (r : Reading)
  | both (request : Request W)

/-- Takes one member into account. Members other than `kind` and `payload` are passed over, and
neither of the two may be repeated. -/
def Progress.step [WeightNotation W] (p : Progress W) :
    Option String × Reading → Except Fault (Progress W)
  | (none, _) => .error .notJson
  | (some "kind", r) =>
    match p with
    | .nothing => .kind <$> Kind.decoder r
    | .payload r' => do
      let k ← Kind.decoder r
      .both <$> payloadDecoder k r'
    | .kind _ | .both _ => .error .wrongShape
  | (some "payload", r) =>
    match p with
    | .nothing => .payload <$> Decoder.afterReading 1 .ok r
    | .kind k => .both <$> payloadDecoder k r
    | .payload _ | .both _ => .error .wrongShape
  | (some _, r) => if r.isComplete then .ok p else .error .notJson

/-- The request, when all members have been seen. -/
def Progress.result : Progress W → Except Fault (Request W)
  | .both request => .ok request
  | _ => .error .wrongShape

/-- Decodes an array of a kind and a payload. -/
def ofItems [WeightNotation W] : List Reading → Bool → Except Fault (Request W)
  | [], closed => .error (if closed then .wrongShape else .notJson)
  | [k], closed => do
    let _ ← Kind.decoder k
    .error (if closed then .wrongShape else .notJson)
  | k :: r :: more, closed => do
    let kind ← Kind.decoder k
    let request ← payloadDecoder kind r
    if more.isEmpty && closed then return request else throw .notJson

/-- **A request from JSON.** -/
def decoder [WeightNotation W] : Decoder (Request W)
  | .object members closed => do
    let progress ← members.foldlM Progress.step .nothing
    if closed then progress.result else throw .notJson
  | .array items closed => ofItems items closed
  | r => .error r.mismatch

end Request

end FaultDiagnosis
