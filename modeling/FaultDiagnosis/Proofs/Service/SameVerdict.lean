import FaultDiagnosis.CommandLine.Program
import FaultDiagnosis.Proofs.Diagnosis.Codec
import FaultDiagnosis.Proofs.Engine.Reachable
import FaultDiagnosis.Proofs.Store.FileTree
import FaultDiagnosis.Service.Response
import Mathlib.Data.String.Basic

/-!
# The service and the command line agree

A verdict can be had in two ways: the command line prints it as indented JSON, and the service sends
it as compact JSON. Each collects the symptoms and the strategy by itself, the one from its
arguments and the other from a document. Both keep the symptoms as a set, so that neither their
order nor repetitions count, and both leave the strategy to the engine if none is given. As the
layout of a text does not matter to who reads it, the two texts mean the same value
(`FaultDiagnosis.Service.same_verdict_as_command_line`).

There is one difference. The service does not read documents beyond a length
(`FaultDiagnosis.Service.HttpRequest.IsTooLong`), and the command line has no such limit. A list of
symptoms can be repeated until it is too long for the service
(`FaultDiagnosis.Service.three_mul_length_le_size_body`).
-/

namespace FaultDiagnosis

open Json (Decoder Fields Layout Reading laidOut)

/-- **A body that holds a value is read as this value**, in whatever layout. -/
theorem Json.Reading.ofBytes_laidOut (l : Layout) {j : Json} (h : j.IsLegible) :
    ofBytes (String.ofList (laidOut l 0 j)).toUTF8 = j.asRead := by
  have hread := ofPrefix_laidOut l 0 h endsNumeral_nil
  rw [List.append_nil] at hread
  rw [ofBytes, FileTree.fromUTF8?_toUTF8]
  exact hread

theorem Strategy.decoder_name (moment : Decoder.Moment) (s : Strategy) :
    Strategy.decoder moment (.string s.name) = .ok s := by
  cases s <;> rfl

namespace Service

variable {ids : List String} {strategy : Option Strategy} {r : HttpRequest}

/-! ### Requests for a verdict -/

/-- A document that asks for a verdict. -/
def diagnoseDocument (ids : List String) (strategy : Option Strategy) : Json :=
  .object [("symptoms", .texts ids),
    ("strategy", Request.optionalJson (fun s => .string s.name) strategy)]

theorem decoder_diagnoseDocument (ids : List String) (strategy : Option Strategy) :
    DiagnoseRequest.decoder (diagnoseDocument ids strategy).asRead =
      .ok ⟨.ofList ids, strategy⟩ := by
  have hids : Decoder.idSet (Json.texts ids).asRead = .ok (.ofList ids) := by
    rw [Decoder.idSet, Decoder.list_text_asRead]
    rfl
  cases strategy
  all_goals
    simp [diagnoseDocument, Request.optionalJson, Json.asRead, Json.membersAsRead,
      DiagnoseRequest.decoder, Decoder.record, Fields.required, Fields.optional,
      Fields.withDefault, Decoder.gather, Decoder.nullable, hids, Strategy.decoder_name,
      List.lookup_cons, Bind.bind, Except.bind, Functor.map, Except.map]

theorem isLegible_diagnoseDocument (ids : List String) (strategy : Option Strategy) :
    (diagnoseDocument ids strategy).IsLegible := by
  refine ⟨Json.isLegible_texts ids, ?_, trivial⟩
  cases strategy with
  | none => trivial
  | some s => trivial

/-- **A request for a verdict** on the given symptoms by the given strategy. Its document may be
written in any way that means them. -/
structure HttpRequest.AsksFor (r : HttpRequest) (ids : List String) (strategy : Option Strategy) :
    Prop where
  method : r.method = "POST"
  path : (Target.ofString r.target).path = "/v1/diagnose"
  json : r.announcesJson = true
  document : DiagnoseRequest.decoder (Reading.ofBytes r.body) = .ok ⟨.ofList ids, strategy⟩

/-- A request with a document in the given layout. -/
def diagnosePost (l : Layout) (ids : List String) (strategy : Option Strategy) : HttpRequest where
  method := "POST"
  target := "/v1/diagnose"
  headers := [("Content-Type", "application/json")]
  body := (String.ofList (laidOut l 0 (diagnoseDocument ids strategy))).toUTF8

/-- **Every verdict can be asked for.** -/
theorem asksFor_diagnosePost (l : Layout) (ids : List String) (strategy : Option Strategy) :
    (diagnosePost l ids strategy).AsksFor ids strategy where
  method := rfl
  path := by
    change (Target.ofString "/v1/diagnose").path = "/v1/diagnose"
    decide +kernel
  json := rfl
  document := by
    rw [diagnosePost, Reading.ofBytes_laidOut l (isLegible_diagnoseDocument ids strategy),
      decoder_diagnoseDocument]

/-! ### Requests that are too long -/

/-- **A request is too long** if its body is longer than the service allows or than its headers
announce, or if these announce more than the service allows. -/
def HttpRequest.IsTooLong (r : HttpRequest) : Prop :=
  maxBodyBytes < r.body.size ∨
    ∃ n, r.announcedLength? = some n ∧ (maxBodyBytes < n ∨ n < r.body.size)

theorem isTooLong_iff :
    r.IsTooLong ↔ r.announcesTooMuch = true ∨ r.bodyLimit < r.body.size := by
  rw [HttpRequest.IsTooLong, HttpRequest.announcesTooMuch, HttpRequest.bodyLimit]
  cases r.announcedLength? with
  | none => simp
  | some n =>
    simp only [Option.some.injEq, exists_eq_left', Option.any_some, decide_eq_true_eq]
    omega

/-- A list of symptoms takes three characters for each of them: two quotes and what separates it
from the next one. -/
theorem three_mul_length_le_itemsAfter (l : Layout) (level : Nat) (ids : List String) :
    3 * ids.length ≤ (Json.itemsAfter l level (ids.map .string)).length := by
  induction ids with
  | nil => exact Nat.zero_le _
  | cons id ids ih =>
    have hquotes : 2 ≤ (Json.stringChars id).length := by
      rw [Json.stringChars, List.length_append, List.length_cons, List.length_singleton]
      omega
    rw [List.map_cons, Json.itemsAfter, laidOut, List.length_cons, List.length_cons,
      List.length_append, List.length_append]
    omega

/-- Every character takes a byte at least. -/
theorem length_le_utf8Len (cs : List Char) : cs.length ≤ String.utf8Len cs := by
  induction cs with
  | nil => exact Nat.zero_le _
  | cons c cs ih =>
    have hpos := c.utf8Size_pos
    rw [String.utf8Len_cons, List.length_cons]
    omega

/-- **The document grows with the list of symptoms**, also where it repeats itself. -/
theorem three_mul_length_le_size_body (l : Layout) (ids : List String)
    (strategy : Option Strategy) : 3 * ids.length ≤ (diagnosePost l ids strategy).body.size := by
  have hsize : (diagnosePost l ids strategy).body.size =
      String.utf8Len (laidOut l 0 (diagnoseDocument ids strategy)) := by
    rw [← String.utf8ByteSize_ofList]
    exact String.size_toByteArray
  have hbytes := length_le_utf8Len (laidOut l 0 (diagnoseDocument ids strategy))
  have hitems : 3 * ids.length ≤
      (laidOut l 0 (diagnoseDocument ids strategy)).length := by
    cases ids with
    | nil => exact Nat.zero_le _
    | cons id ids =>
      have hrest := three_mul_length_le_itemsAfter l (0 + 1) ids
      rw [List.length_cons]
      simp only [diagnoseDocument, laidOut, Json.laidOutMembers, Json.texts, List.map_cons,
        Json.laidOutItems, Json.stringChars, List.length_cons, List.length_append]
      omega
  omega

/-! ### The response -/

variable {W : Type} [Weight W] [WeightNotation W]

/-- What is answered to a request for a verdict is up to its length. -/
theorem respond_of_asksFor (e : Engine W) (clock : Clock) (h : r.AsksFor ids strategy) :
    (¬r.IsTooLong →
        respond e clock r = (⟨200, some (e.evaluate (.ofList ids) strategy).toJson⟩, e)) ∧
      (r.IsTooLong → respond e clock r = (.ofStatus 413, e)) := by
  rw [isTooLong_iff, respond, h.method, h.path]
  simp only [diagnose, HttpRequest.document, h.json, h.document]
  constructor
  · intro hshort
    obtain ⟨hannounced, hlimit⟩ := not_or.mp hshort
    simp only [hannounced, hlimit]
    rfl
  · intro hlong
    rcases hlong with hannounced | hlimit
    · rw [if_pos hannounced]
    · simp only [hlimit]
      split
      · rfl
      · rfl

/-! ### The same verdict -/

open CommandLine (Command diagnosisText)

/-- **What is printed is read as the verdict.** The line feed behind it makes no difference. -/
theorem ofText_diagnosisText (e : Engine Float) (ids : List String) (strategy : Option Strategy) :
    Reading.ofText (diagnosisText e ids strategy true) =
      (e.evaluate (.ofList ids) strategy).toJson.asRead := by
  have hlegible := Verdict.isLegible_toJson (e.evaluate (.ofList ids) strategy)
  have hbreak : "\n".toList = ['\n'] := rfl
  refine Reading.ofText_pretty_append hlegible fun c hc => ?_
  rw [hbreak, List.mem_singleton] at hc
  rw [hc]
  rfl

/-- **The command line and the service give the same verdict.** An engine knows anything, and a
verdict is asked for on some symptoms, in any order and with repetitions, and by some strategy or by
none in particular. What the command line prints as JSON is read as one value, that of the verdict.
A request to the service for the same is answered with a body that is read as this value, unless the
request is too long; then it is refused. And there are such requests in every layout. -/
theorem same_verdict_as_command_line (e : Engine Float) (ids : List String)
    (strategy : Option Strategy) :
    ∃ members, (e.evaluate (.ofList ids) strategy).toJson.asRead = .object members true ∧
      ∀ ids', (∀ id, id ∈ ids' ↔ id ∈ ids) →
        (∀ now, ∃ text, (Command.diagnose ids' strategy true).execute e now = (.success text, e) ∧
          Reading.ofText text = .object members true) ∧
        (∀ clock r, r.AsksFor ids' strategy →
          (¬r.IsTooLong → ∃ body, respond e clock r = (⟨200, some body⟩, e) ∧
            Reading.ofText body.compact = .object members true) ∧
          (r.IsTooLong → respond e clock r = (.ofStatus 413, e))) ∧
        ∀ l, (diagnosePost l ids' strategy).AsksFor ids' strategy := by
  have hlegible := Verdict.isLegible_toJson (e.evaluate (.ofList ids) strategy)
  obtain ⟨members, hvalue⟩ : ∃ members,
      (e.evaluate (.ofList ids) strategy).toJson.asRead = .object members true := ⟨_, rfl⟩
  refine ⟨members, hvalue, fun ids' hsame => ?_⟩
  -- both see the symptoms as the same set, and so they come to the same verdict
  have hset : IdSet.ofList ids' = .ofList ids := IdSet.ofList_congr hsame
  refine ⟨fun now => ⟨_, rfl, ?_⟩, fun clock r h => ?_,
    fun l => asksFor_diagnosePost l ids' strategy⟩
  · rw [ofText_diagnosisText, hset, hvalue]
  · obtain ⟨hshort, hlong⟩ := respond_of_asksFor e clock h
    rw [hset] at hshort
    refine ⟨fun hlength => ⟨_, hshort hlength, ?_⟩, hlong⟩
    rw [Reading.ofText_compact hlegible, hvalue]

/-! ### Short and long requests -/

open Engine (ReachableFrom hummingEngine hummingStore reachableFrom_hummingEngine)

/-- A short request whose list of symptoms is in another order and repeats itself. -/
theorem same_verdict_as_command_line_hum :
    (diagnosePost .indented ["zombie", "hum", "zombie"] (some .scoring)).AsksFor
        ["zombie", "hum", "zombie"] (some .scoring) ∧
      ∃ text body,
        (Command.diagnose ["hum", "zombie"] (some .scoring) true).execute hummingEngine ⟨5, 0⟩ =
          (.success text, hummingEngine) ∧
        respond hummingEngine ⟨⟨5, 0⟩, 1⟩
            (diagnosePost .indented ["zombie", "hum", "zombie"] (some .scoring)) =
          (⟨200, some body⟩, hummingEngine) ∧
        Reading.ofText text = Reading.ofText body.compact := by
  obtain ⟨members, -, hsame⟩ :=
    same_verdict_as_command_line hummingEngine ["hum", "zombie"] (some .scoring)
  obtain ⟨text, hprinted, htext⟩ := (hsame ["hum", "zombie"] fun _ => Iff.rfl).1 ⟨5, 0⟩
  have hids : ∀ id, id ∈ ["zombie", "hum", "zombie"] ↔ id ∈ ["hum", "zombie"] := by
    intro id
    simp only [List.mem_cons, List.not_mem_nil, or_false]
    grind
  obtain ⟨-, hanswered, hasks⟩ := hsame ["zombie", "hum", "zombie"] hids
  have hshort :
      ¬(diagnosePost .indented ["zombie", "hum", "zombie"] (some .scoring)).IsTooLong := by
    rintro (hsize | ⟨n, hannounced, -⟩)
    · exact absurd hsize (by decide +kernel)
    · cases hannounced
  obtain ⟨body, hresponse, hbody⟩ := (hanswered ⟨⟨5, 0⟩, 1⟩ _ (hasks .indented)).1 hshort
  exact ⟨hasks .indented, text, body, hprinted, hresponse, htext.trans hbody.symm⟩

/-- **The service refuses what the command line answers.** A list that repeats one symptom is too
long for it, though it means no more than the symptom alone. -/
theorem long_request_refused :
    ReachableFrom hummingStore hummingEngine ∧
      (diagnosePost .compact (List.replicate 22000 "hum") none).AsksFor
        (List.replicate 22000 "hum") none ∧
      respond hummingEngine ⟨⟨5, 0⟩, 1⟩ (diagnosePost .compact (List.replicate 22000 "hum") none) =
        (.ofStatus 413, hummingEngine) ∧
      ∃ text, (Command.diagnose (List.replicate 22000 "hum") none true).execute hummingEngine
          ⟨5, 0⟩ = (.success text, hummingEngine) ∧
        Reading.ofText text =
          (hummingEngine.evaluate (.ofList ["hum"]) none).toJson.asRead := by
  have hasks := asksFor_diagnosePost .compact (List.replicate 22000 "hum") none
  have hlong : (diagnosePost .compact (List.replicate 22000 "hum") none).IsTooLong := by
    have hsize := three_mul_length_le_size_body .compact (List.replicate 22000 "hum") none
    rw [List.length_replicate] at hsize
    refine Or.inl ?_
    rw [maxBodyBytes]
    omega
  have hset : IdSet.ofList (List.replicate 22000 "hum") = .ofList ["hum"] := by
    refine IdSet.ofList_congr fun id => ?_
    rw [List.mem_replicate, List.mem_singleton]
    exact and_iff_right (by decide)
  refine ⟨reachableFrom_hummingEngine, hasks, (respond_of_asksFor _ _ hasks).2 hlong, _, rfl, ?_⟩
  rw [ofText_diagnosisText, hset]

end Service

end FaultDiagnosis
