import FaultDiagnosis.Diagnosis.Engine
import FaultDiagnosis.Service.MediaType
import FaultDiagnosis.Service.Target

/-!
# The service

The engine as a service over HTTP. There are five resources: the state of the service, the
categories, the symptoms, verdicts on observed symptoms, and contributions. The first three are
read, and the other two are asked by sending a JSON document.

`Service.respond` answers one request, and gives the engine to go on with. A request is looked at in
a fixed order: the announced length of the body, the path, the method, the media type, the actual
length of the body, its text, its shape, and only then its content.
-/

namespace FaultDiagnosis.Service

open Json (Decoder Fields Fault)

variable {W : Type}

/-! ### Requests and responses -/

/-- A request. -/
structure HttpRequest where
  method : String
  target : String
  headers : List (String × String)
  body : ByteArray

/-- A response. Some have no body, or one for people only. -/
structure Response where
  status : Nat
  body : Option Json

/-- What the service knows of time: the time now, and the seconds since it was started. -/
structure Clock where
  now : Timestamp
  uptime : Nat

/-- The most bytes that a body may have. -/
def maxBodyBytes : Nat := 64 * 1024

/-- A response without a body for programs. -/
def Response.ofStatus (status : Nat) : Response :=
  ⟨status, none⟩

/-- The response to a request with a known fault. -/
def Response.ofFault (status : Nat) (code message : String) : Response :=
  ⟨status, some (.object [("error", .string message), ("code", .string code)])⟩

/-- The value of a header. Names are compared without regard to case. -/
def HttpRequest.header? (r : HttpRequest) (name : String) : Option String :=
  (r.headers.find? fun h => h.1.toList.map Char.toLower == name.toList).map Prod.snd

/-- The length of the body that the headers announce. -/
def HttpRequest.announcedLength? (r : HttpRequest) : Option Nat := do
  let text ← r.header? "content-length"
  let digits := match text.toList with
    | '+' :: cs => cs
    | cs => cs
  match Digit.takeDigits digits with
  | (d :: ds, []) => let n := Digit.value (d :: ds); if n < twoTo 64 then some n else none
  | _ => none

/-- Do the headers announce a body that is too long? -/
def HttpRequest.announcesTooMuch (r : HttpRequest) : Bool :=
  r.announcedLength?.any fun n => decide (maxBodyBytes < n)

/-- The most bytes that are read of a body: no more than were announced. -/
def HttpRequest.bodyLimit (r : HttpRequest) : Nat :=
  match r.announcedLength? with
  | some n => min maxBodyBytes n
  | none => maxBodyBytes

/-- Do the headers announce JSON? -/
def HttpRequest.announcesJson (r : HttpRequest) : Bool :=
  match r.header? "content-type" with
  | some text => ((MediaType.ofString? text).map MediaType.isJson).getD false
  | none => false

/-- The document in the body of a request, or the response that says what is wrong with it. -/
def HttpRequest.document {α : Type} (r : HttpRequest) (decoder : Decoder α) : Except Response α :=
  if !r.announcesJson then .error (.ofStatus 415)
  else if r.bodyLimit < r.body.size then .error (.ofStatus 413)
  else
    match decoder (Json.Reading.ofBytes r.body) with
    | .ok a => .ok a
    | .error .notJson => .error (.ofStatus 400)
    | .error .wrongShape => .error (.ofStatus 422)

/-! ### The resources -/

/-- The state of the service. -/
def health (e : Engine W) (uptime : Nat) : Response :=
  ⟨200, some (.object [("status", .string "ok"), ("version", .string programVersion),
    ("uptime_seconds", .nat uptime), ("symptoms", .nat e.merged.symptoms.length),
    ("rules", .nat e.merged.rules.length), ("clues", .nat e.merged.clues.length),
    ("contributions",
      .nat (e.repository.user.symptoms.length + e.repository.user.rules.length))])⟩

/-- The categories. -/
def categories (e : Engine W) : Response :=
  ⟨200, some (.object [("categories", .array (e.listCategories.map Category.toJson))])⟩

/-- A symptom as clients see it. -/
def symptomJson (s : Symptom) : Json :=
  .object [("id", .string s.id), ("label", .string s.label),
    ("display_label", .string s.displayLabel), ("category", s.category.toJson),
    ("origin", s.origin.toJson)]

/-- The list of symptoms. -/
def symptomList (e : Engine W) (category : Option Category) : Response :=
  ⟨200, some (.object [("symptoms", .array ((e.listSymptoms category).map symptomJson))])⟩

/-- The symptoms of the category that the query asks for, or all. The query may ask once. -/
def symptoms [WeightNotation W] (e : Engine W) (query : String) : Response :=
  match (formPairs query).filter fun p => p.1 = "category" with
  | [] => symptomList e none
  | [(_, name)] =>
    match (Category.parse name : Except (Defect W) Category) with
    | .ok c => symptomList e (some c)
    | .error d => .ofFault 400 d.code d.message
  | _ => .ofStatus 400

/-- What is asked for in a request for a verdict. -/
structure DiagnoseRequest where
  symptoms : IdSet
  strategy : Option Strategy

/-- A request for a verdict, from JSON. -/
def DiagnoseRequest.decoder : Decoder DiagnoseRequest :=
  .record <| DiagnoseRequest.mk
    <$> Fields.required "symptoms" .idSet
    <*> Fields.optional "strategy" (Strategy.decoder .atOnce)

/-- A verdict. -/
def diagnose [Weight W] [WeightNotation W] (e : Engine W) (r : HttpRequest) : Response :=
  match r.document DiagnoseRequest.decoder with
  | .ok request => ⟨200, some (e.evaluate request.symptoms request.strategy).toJson⟩
  | .error response => response

/-- The response to an accepted contribution. -/
def accepted (kind : Request.Kind) (record : Record W) : Response :=
  ⟨201, some (.object ([("kind", .string kind.reportName),
    ("contributed_at", .string record.contributedAt.text)]
    ++ match record.item with
      | .symptom s => [("symptom_id", .string s.id)]
      | .rule _ _ => []))⟩

/-- The response to a contribution that was not accepted. -/
def rejected [WeightNotation W] : ContributionFault W → Response
  | .defect d => .ofFault 422 d.code d.message
  | .notStored f => .ofFault 500 "persistence" (ContributionFault.notStored (W := W) f).message

/-- A contribution. -/
def contribute [Weight W] [WeightNotation W] (e : Engine W) (now : Timestamp) (r : HttpRequest) :
    Response × Engine W :=
  match r.document (Request.decoder (W := W)) with
  | .error response => (response, e)
  | .ok request =>
    match e.submit now request with
    | (.ok record, e) => (accepted request.kind record, e)
    | (.error fault, e) => (rejected fault, e)

/-! ### Routing -/

/-- Answers a reader. Who asks for the head only gets the status. -/
def read (method : String) (response : Response) : Response :=
  if method = "GET" then response
  else if method = "HEAD" then .ofStatus response.status
  else .ofStatus 405

/-- **Answers a request**, and gives the engine to go on with. -/
def respond [Weight W] [WeightNotation W] (e : Engine W) (clock : Clock) (r : HttpRequest) :
    Response × Engine W :=
  let target := Target.ofString r.target
  if r.announcesTooMuch then (.ofStatus 413, e)
  else
    match target.path with
    | "/v1/health" => (read r.method (health e clock.uptime), e)
    | "/v1/categories" => (read r.method (categories e), e)
    | "/v1/symptoms" => (read r.method (symptoms e target.query), e)
    | "/v1/diagnose" =>
      if r.method = "POST" then (diagnose e r, e) else (.ofStatus 405, e)
    | "/v1/contributions" =>
      if r.method = "POST" then contribute e clock.now r else (.ofStatus 405, e)
    | _ => (.ofStatus 404, e)

end FaultDiagnosis.Service
