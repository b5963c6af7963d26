import FaultDiagnosis.Knowledge.Document
import FaultDiagnosis.Proofs.Contribution.Codec

/-!
# Documents can be written

The program only reads documents; people write them. Still every document has a text, which is that
of its entries one by one (`FaultDiagnosis.Document.toJson`), and this text is read as the document
(`FaultDiagnosis.Document.decoder_asRead`). As with records, the weights have to be written in a
way that names them. So knowledge comes from a text as soon as it is the knowledge of a document
(`FaultDiagnosis.Document.parseDocument_toJson`).
-/

namespace FaultDiagnosis

open Json (Decoder Fields Reading areLegible_map isLegible_texts asRead membersAsRead)

variable {W : Type}

/-- A table is the table of its entries. -/
theorem IdMap.ofList_toList {α : Type} (t : IdMap α) : IdMap.ofList t.toList = t := by
  ext1 id
  exact (get?_foldl_insert t.sorted).trans Option.or_none

namespace Document

/-! ### Entries as JSON -/

/-- A symptom entry as JSON. -/
def SymptomEntry.toJson (e : SymptomEntry) : Json :=
  .object [("id", .string e.id), ("label", .string e.label), ("category", .string e.category)]

/-- A rule entry as JSON. -/
def RuleEntry.toJson (e : RuleEntry) : Json :=
  .object [("diagnosis", .string e.diagnosis), ("positive", .texts e.positive),
    ("negative", .texts e.negative), ("conditions", .texts e.conditions)]

/-- A clue entry as JSON. -/
def ClueEntry.toJson [WeightNotation W] (e : ClueEntry W) : Json :=
  .object [("symptom", .string e.symptom), ("diagnosis", .string e.diagnosis),
    ("weight", weightJson e.weight)]

/-- A hint entry as JSON. -/
def HintEntry.toJson (e : HintEntry) : Json :=
  .object [("all", .texts e.all), ("any", .texts e.any), ("none", .texts e.none),
    ("advice", .string e.advice)]

/-- A table of texts as JSON. -/
def tableJson (t : IdMap String) : Json :=
  .object (t.toList.map fun e => (e.1, .string e.2))

/-- **A document as JSON.** -/
def toJson [WeightNotation W] (d : Document W) : Json :=
  .object [("symptoms", .array (d.symptoms.map SymptomEntry.toJson)),
    ("rules", .array (d.rules.map RuleEntry.toJson)),
    ("clues", .array (d.clues.map ClueEntry.toJson)),
    ("single_symptom_hints", tableJson d.singleSymptomHints),
    ("combination_hints", .array (d.combinationHints.map HintEntry.toJson))]

/-! ### Entries are read back -/

theorem SymptomEntry.decoder_asRead (e : SymptomEntry) :
    SymptomEntry.decoder e.toJson.asRead = .ok e := by
  simp only [toJson, asRead, membersAsRead]
  simp [SymptomEntry.decoder, Decoder.record, Fields.required, Decoder.gather, Decoder.text,
    List.lookup_cons, Bind.bind, Except.bind, Functor.map, Except.map]

theorem RuleEntry.decoder_asRead (e : RuleEntry) : RuleEntry.decoder e.toJson.asRead = .ok e := by
  simp only [toJson, asRead, membersAsRead]
  simp [RuleEntry.decoder, Decoder.record, Fields.required, Fields.withDefault, Decoder.gather,
    Decoder.text, Decoder.list_text_asRead, List.lookup_cons, Bind.bind, Except.bind, Functor.map,
    Except.map]

theorem HintEntry.decoder_asRead (e : HintEntry) : HintEntry.decoder e.toJson.asRead = .ok e := by
  simp only [toJson, asRead, membersAsRead]
  simp [HintEntry.decoder, Decoder.record, Fields.required, Fields.withDefault, Decoder.gather,
    Decoder.text, Decoder.list_text_asRead, List.lookup_cons, Bind.bind, Except.bind, Functor.map,
    Except.map]

theorem SymptomEntry.isLegible_toJson (e : SymptomEntry) : e.toJson.IsLegible :=
  ⟨trivial, trivial, trivial, trivial⟩

theorem RuleEntry.isLegible_toJson (e : RuleEntry) : e.toJson.IsLegible :=
  ⟨trivial, isLegible_texts _, isLegible_texts _, isLegible_texts _, trivial⟩

theorem HintEntry.isLegible_toJson (e : HintEntry) : e.toJson.IsLegible :=
  ⟨isLegible_texts _, isLegible_texts _, isLegible_texts _, trivial, trivial⟩

theorem isLegible_tableJson (t : IdMap String) : (tableJson t).IsLegible := by
  have hentries : ∀ es : List (String × String),
      Json.MembersLegible (es.map fun e => (e.1, Json.string e.2)) := by
    intro es
    induction es with
    | nil => trivial
    | cons e es ih => exact ⟨trivial, ih⟩
  exact hentries t.toList

theorem tableDecoder_asRead (t : IdMap String) : tableDecoder (tableJson t).asRead = .ok t := by
  have hentries : ∀ es : List (String × String),
      (membersAsRead (es.map fun e => (e.1, Json.string e.2))).mapM tableEntry = .ok es := by
    intro es
    induction es with
    | nil => rfl
    | cons e es ih =>
      rw [List.map_cons, membersAsRead, List.mapM_cons, ih]
      rfl
  rw [tableJson, asRead, tableDecoder, hentries]
  exact congrArg Except.ok t.ofList_toList

variable [WeightNotation W]

theorem ClueEntry.decoder_asRead {e : ClueEntry W} (h : WeightNotation.ReadsBack e.weight) :
    ClueEntry.decoder e.toJson.asRead = .ok e := by
  simp only [toJson, asRead, membersAsRead]
  simp [ClueEntry.decoder, Decoder.record, Fields.required, Decoder.gather, Decoder.text,
    h.decoder_asRead, List.lookup_cons, Bind.bind, Except.bind, Functor.map, Except.map]

theorem ClueEntry.isLegible_toJson {e : ClueEntry W} (h : WeightNotation.ReadsBack e.weight) :
    e.toJson.IsLegible :=
  ⟨trivial, trivial, h.isLegible, trivial⟩

/-! ### Documents are read back -/

variable {d : Document W}

/-- **A document is read from what it is written as.** -/
theorem decoder_asRead (h : ∀ e ∈ d.clues, WeightNotation.ReadsBack e.weight) :
    Document.decoder d.toJson.asRead = .ok d := by
  have hsymptoms := Decoder.list_itemsAsRead fun e (_ : e ∈ d.symptoms) => e.decoder_asRead
  have hrules := Decoder.list_itemsAsRead fun e (_ : e ∈ d.rules) => e.decoder_asRead
  have hclues := Decoder.list_itemsAsRead fun e he => ClueEntry.decoder_asRead (h e he)
  have hhints := Decoder.list_itemsAsRead fun e (_ : e ∈ d.combinationHints) => e.decoder_asRead
  simp only [toJson, asRead, membersAsRead]
  simp [Document.decoder, Decoder.record, Fields.required, Fields.withDefault, Decoder.gather,
    hsymptoms, hrules, hclues, hhints, tableDecoder_asRead, List.lookup_cons, Bind.bind,
    Except.bind, Functor.map, Except.map]

/-- Nothing in the text is too large or no literal. -/
theorem isLegible_toJson (h : ∀ e ∈ d.clues, WeightNotation.ReadsBack e.weight) :
    d.toJson.IsLegible :=
  ⟨areLegible_map fun e _ => e.isLegible_toJson, areLegible_map fun e _ => e.isLegible_toJson,
    areLegible_map fun e he => ClueEntry.isLegible_toJson (h e he), isLegible_tableJson _,
    areLegible_map fun e _ => e.isLegible_toJson, trivial⟩

/-- **Every document has a text.** -/
theorem parseDocument_toJson [Weight W] (h : ∀ e ∈ d.clues, WeightNotation.ReadsBack e.weight)
    (path : String) : parseDocument d.toJson.compact path = d.knowledge := by
  rw [parseDocument, Reading.ofText_compact (isLegible_toJson h), decoder_asRead h]

end Document

end FaultDiagnosis
