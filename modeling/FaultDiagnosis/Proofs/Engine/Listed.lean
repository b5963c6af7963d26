import FaultDiagnosis.Proofs.Engine.Reachable
import FaultDiagnosis.Proofs.Engine.Submission

/-!
# Rules about listed symptoms

A client that offers a form for rules fills it with the symptoms that an engine lists, and sends
back the identifiers as it got them. On their way in they are trimmed. This changes nothing as long
as an identifier has no blanks at its ends. But only what users submit is trimmed: a document, a
record in a log and a contribution that is added directly may name a symptom with blanks around, and
then the trimmed identifier belongs to another symptom or to none.

So the rule that is stored is about the symptoms that were sent exactly if trimming leaves these
alone, one by one (`FaultDiagnosis.RuleRequest.wants_as_written_iff`). Whoever takes listed symptoms
gets the rule asked for under just this condition (`FaultDiagnosis.Engine.submit_listed_iff`).
-/

namespace FaultDiagnosis

variable {W : Type}

/-! ### Identifiers as they are written -/

theorem Text.map_trim_eq_self {ids : List String} (h : ∀ id ∈ ids, trim id = id) :
    ids.map trim = ids :=
  (List.map_congr_left h).trans (List.map_id ids)

/-- **Trimming keeps a set of texts exactly if it keeps each of them.** -/
theorem IdSet.ofList_map_trim_eq_iff {ids : List String} :
    IdSet.ofList (ids.map Text.trim) = .ofList ids ↔ ∀ id ∈ ids, Text.trim id = id := by
  constructor
  · intro h id hid
    -- the text is the trimmed form of some text, and so its own
    have htrimmed : id ∈ IdSet.ofList (ids.map Text.trim) := by
      rw [h]
      exact mem_ofList.mpr hid
    obtain ⟨source, -, rfl⟩ := List.mem_map.mp (mem_ofList.mp htrimmed)
    exact Text.trim_trim source
  · intro h
    rw [Text.map_trim_eq_self h]

/-- **The rule asked for has the conditions that were written exactly if none has blanks at its
ends.** -/
theorem RuleRequest.wants_as_written_iff {r : RuleRequest W} :
    r.wantedRule.positive = .ofList r.positive ∧ r.wantedRule.negative = .ofList r.negative ↔
      ∀ id ∈ r.positive ++ r.negative, Text.trim id = id := by
  rw [wantedRule, IdSet.ofList_map_trim_eq_iff, IdSet.ofList_map_trim_eq_iff]
  exact List.forall_mem_append.symm

/-- A request in which nothing is to be trimmed is acceptable as it is written. -/
theorem RuleRequest.isAcceptable_as_written [Weight W] {r : RuleRequest W} {kb : KnowledgeBase W}
    (htrimmed : ∀ id ∈ r.positive ++ r.negative, Text.trim id = id)
    (hknown : ∀ id ∈ r.positive ++ r.negative, id ∈ kb.ids) (hwanted : r.positive ≠ [])
    (hapart : ∀ id ∈ r.positive, id ∉ r.negative) (hlong : 20 ≤ trimmedLength r.diagnosis)
    (hweight : ∀ w ∈ r.weight, Weight.isPositive w = true) : r.IsAcceptable kb := by
  obtain ⟨hpositive, hnegative⟩ := List.forall_mem_append.mp htrimmed
  have hp : r.positive.map Text.trim = r.positive := Text.map_trim_eq_self hpositive
  have hn : r.negative.map Text.trim = r.negative := Text.map_trim_eq_self hnegative
  refine ⟨hlong, ?_, ?_, ?_, ?_⟩
  · rw [hp]
    exact List.exists_mem_of_ne_nil r.positive hwanted
  · rw [hp, hn]
    exact hapart
  · intro w hw
    exact Bool.and_eq_true_iff.mp (hweight w hw)
  · rw [hp, hn]
    exact hknown

/-! ### Identifiers as they are listed -/

namespace Engine

variable [Weight W] [WeightNotation W] {e : Engine W}

omit [Weight W] [WeightNotation W] in
/-- Without a category, all symptoms are listed. -/
theorem map_id_listSymptoms (e : Engine W) : (e.listSymptoms none).map (·.id) = e.merged.ids := by
  have hall : e.listSymptoms none = e.merged.symptoms := List.filter_true _
  rw [hall, KnowledgeBase.ids]

/-- **A rule about listed symptoms is stored as it is asked for exactly if no blanks are at the ends
of their identifiers.** An engine has a store that takes records, and a rule is submitted that wants
some listed symptoms present and others absent. Its diagnosis is long enough, and its weight is
positive if it has one. -/
theorem submit_listed_iff (hstore : e.store.TakesRecords) (now : Timestamp)
    (request : RuleRequest W)
    (hlisted : ∀ id ∈ request.positive ++ request.negative, id ∈ (e.listSymptoms none).map (·.id))
    (hwanted : request.positive ≠ []) (hapart : ∀ id ∈ request.positive, id ∉ request.negative)
    (hlong : 20 ≤ trimmedLength request.diagnosis)
    (hweight : ∀ w ∈ request.weight, Weight.isPositive w = true) :
    (∃ record e' rule clues, e.submit now (.rule request) = (.ok record, e') ∧
        record.item = .rule rule clues ∧ rule.positive = .ofList request.positive ∧
        rule.negative = .ofList request.negative) ↔
      ∀ id ∈ request.positive ++ request.negative, Text.trim id = id := by
  rw [map_id_listSymptoms] at hlisted
  constructor
  · rintro ⟨record, e', rule, clues, haccepted, hitem, hpositive, hnegative⟩
    obtain ⟨item, hrequest, -, rfl, -⟩ := of_submit_ok haccepted
    obtain ⟨-, -, -, rfl⟩ := RuleRequest.contribution_eq_ok_iff.mp hrequest
    -- what is stored is the rule with the trimmed identifiers
    rw [RuleRequest.asUser_wanted] at hitem
    obtain ⟨rfl, -⟩ := Contribution.rule.inj hitem
    exact RuleRequest.wants_as_written_iff.mp ⟨hpositive, hnegative⟩
  · intro htrimmed
    have hacceptable : request.IsAcceptable e.merged :=
      RuleRequest.isAcceptable_as_written htrimmed hlisted hwanted hapart hlong hweight
    obtain ⟨item, hrequest, hfits⟩ := RuleRequest.exists_fits_iff.mpr hacceptable
    obtain ⟨-, -, -, rfl⟩ := RuleRequest.contribution_eq_ok_iff.mp hrequest
    have hjudge : e.repository.judge (.rule request) =
        .ok (.rule request.wantedRule request.wantedClues) :=
      Repository.judge_eq_ok_iff.mpr ⟨_, hrequest, hfits, request.asUser_wanted.symm⟩
    obtain ⟨e', haccepted, -⟩ := exists_submit_of_judge_ok hstore hjudge now
    obtain ⟨hpositive, hnegative⟩ := RuleRequest.wants_as_written_iff.mpr htrimmed
    exact ⟨_, e', _, _, haccepted, rfl, hpositive, hnegative⟩

/-! ### Symptoms with blanks around them -/

/-- A document whose second symptom differs from the first in a blank, and with another symptom that
has a blank in front. -/
def unevenDocument : Document Float where
  symptoms := [⟨"fan", "Fan does not turn", "hardware"⟩, ⟨"fan ", "Fan rattles loudly", "hardware"⟩,
    ⟨" hum", "Speakers hum all the time", "hardware"⟩]
  rules := []
  clues := []
  singleSymptomHints := ∅
  combinationHints := []

/-- The knowledge of the document. -/
def unevenKnowledge : KnowledgeBase Float where
  symptoms := [⟨"fan", "Fan does not turn", .hardware, .shipped⟩,
    ⟨"fan ", "Fan rattles loudly", .hardware, .shipped⟩,
    ⟨" hum", "Speakers hum all the time", .hardware, .shipped⟩]

/-- A store with that knowledge. -/
def unevenStore : Store Float :=
  .memory { knowledge := unevenKnowledge }

/-- The engine of that store. -/
def unevenEngine : Engine Float where
  store := unevenStore
  repository := { shipped := unevenKnowledge, user := ∅ }
  settings := lenientSettings

/-- A request for a rule that wants one symptom present and perhaps others absent. -/
def wornOutRequest (id : String) (absent : List String) : RuleRequest Float where
  positive := [id]
  negative := absent
  diagnosis := "The fan bearing is worn out"
  weight := none

theorem reachableFrom_unevenEngine : ReachableFrom unevenStore unevenEngine := by
  have hload : Engine.load unevenStore lenientSettings = .ok unevenEngine := rfl
  exact .load hload

theorem isDocumented_unevenStore : unevenStore.IsDocumented := by
  have hweights : ∀ e ∈ unevenDocument.clues, WeightNotation.ReadsBack e.weight := nofun
  exact Store.isDocumented_memory (Document.isDocumented_knowledge hweights rfl)

/-- The symptom without blanks gets its rule, and the other two cannot have one. -/
theorem submit_listed_iff_uneven :
    unevenEngine.store.TakesRecords ∧
      (∃ record e' rule clues, unevenEngine.submit ⟨5, 0⟩ (.rule (wornOutRequest "fan" [])) =
          (.ok record, e') ∧ record.item = .rule rule clues ∧
        rule.positive = .ofList ["fan"] ∧ rule.negative = .ofList []) ∧
      ¬∃ record e' rule clues, unevenEngine.submit ⟨5, 0⟩
          (.rule (wornOutRequest "fan" ["fan ", " hum"])) = (.ok record, e') ∧
        record.item = .rule rule clues ∧ rule.positive = .ofList ["fan"] ∧
        rule.negative = .ofList ["fan ", " hum"] := by
  have hstore : unevenEngine.store.TakesRecords := Store.takesRecords_memory rfl
  have hfan := submit_listed_iff hstore ⟨5, 0⟩ (wornOutRequest "fan" []) (by decide +kernel)
    (by decide) (by decide +kernel) (by decide +kernel) nofun
  have hall := submit_listed_iff hstore ⟨5, 0⟩ (wornOutRequest "fan" ["fan ", " hum"])
    (by decide +kernel) (by decide) (by decide +kernel) (by decide +kernel) nofun
  refine ⟨hstore, hfan.mpr (by decide +kernel), fun h => ?_⟩
  exact absurd (hall.mp h) (by decide +kernel)

/-- **A listed symptom may have no rule of its own.** A rule about the rattling fan is stored for
the fan that does not turn, and one about the hum is turned away, for a symptom nobody named. -/
theorem listed_symptoms_not_usable :
    ReachableFrom unevenStore unevenEngine ∧ unevenStore.IsDocumented ∧
      unevenEngine.store.TakesRecords ∧
      (unevenEngine.listSymptoms none).map (·.id) = ["fan", "fan ", " hum"] ∧
      (∃ record e', unevenEngine.submit ⟨5, 0⟩ (.rule (wornOutRequest "fan " [])) =
          (.ok record, e') ∧
        record.item = .rule ⟨.ofList ["fan"], ∅, "The fan bearing is worn out", .user⟩ []) ∧
      IdSet.ofList ["fan"] ≠ .ofList ["fan "] ∧
      unevenEngine.submit ⟨5, 0⟩ (.rule (wornOutRequest " hum" [])) =
        (.error (.defect (.unknownSymptom "hum")), unevenEngine) := by
  have hrattle : unevenEngine.repository.judge (.rule (wornOutRequest "fan " [])) =
      .ok (.rule ⟨.ofList ["fan"], ∅, "The fan bearing is worn out", .user⟩ []) := by
    decide +kernel
  have hhum : unevenEngine.repository.judge (.rule (wornOutRequest " hum" [])) =
      .error (.unknownSymptom "hum") := by
    decide +kernel
  have hstore : unevenEngine.store.TakesRecords := Store.takesRecords_memory rfl
  obtain ⟨e', haccepted, -⟩ := exists_submit_of_judge_ok hstore hrattle ⟨5, 0⟩
  exact ⟨reachableFrom_unevenEngine, isDocumented_unevenStore, hstore, by decide +kernel,
    ⟨_, e', haccepted, rfl⟩, by decide +kernel, submit_of_judge_error hhum⟩

end Engine

end FaultDiagnosis
