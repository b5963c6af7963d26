import FaultDiagnosis.Proofs.Engine.Submission
import FaultDiagnosis.Proofs.Store.Log
import FaultDiagnosis.Proofs.Text.Alike

/-!
# Requests that differ in spelling only

What a user writes is brought into shape before anything is made of it: texts are trimmed,
conditions become sets, and the name of a category is lowered. So a request may be spelled in many
ways (`FaultDiagnosis.Request.Respells`), and the engine answers to all of them alike
(`FaultDiagnosis.Engine.submit_respelled`), whenever they come.

There is one trace of the spelling. Where no category of the given name is known, the answer quotes
the name as it is lowered, and in lower case a name may still be spelled in more than one way: a
small sigma at the end of a word has a form of its own if it was a capital one before
(`FaultDiagnosis.Engine.quoted_sigmas_differ`).
-/

namespace FaultDiagnosis

variable {W : Type}

/-! ### Categories -/

/-- **Two computations fail for two names of no category**, and these names are alike but for the
forms of their small sigmas. -/
def QuoteAlike {α : Type} (x y : Except (Defect W) α) : Prop :=
  ∃ name name', x = .error (.unknownCategory name) ∧ y = .error (.unknownCategory name') ∧
    Text.AlikeButSigmas name name'

/-- **The case of a category does not matter**, but for how it is quoted when there is none. -/
theorem Category.parse_of_alike {s t : String} (h : Text.AlikeButCase s t) :
    Category.parse (W := W) s = Category.parse t ∨
      QuoteAlike (Category.parse (W := W) s) (Category.parse t) := by
  have hname := h.lowerCase
  have hempty := hname.eq_iff (u := "") (by decide) (by decide)
  have hhardware := hname.eq_iff (u := "hardware") (by decide) (by decide)
  have hsoftware := hname.eq_iff (u := "software") (by decide) (by decide)
  simp only [parse, hempty, hhardware, hsoftware]
  split
  · exact Or.inl rfl
  · split
    · exact Or.inl rfl
    · split
      · exact Or.inl rfl
      · exact Or.inr ⟨_, _, rfl, rfl, hname⟩

/-! ### Requests -/

/-- **Two lists name the same identifiers**, in any order, with repetitions and with blanks around
them. -/
def AlikeAsSets (ids ids' : List String) : Prop :=
  (∀ id ∈ ids, ∃ id' ∈ ids', Text.AlikeButBlanks id id') ∧
    ∀ id' ∈ ids', ∃ id ∈ ids, Text.AlikeButBlanks id id'

theorem AlikeAsSets.ofList_eq {ids ids' : List String} (h : AlikeAsSets ids ids') :
    IdSet.ofList (ids.map Text.trim) = .ofList (ids'.map Text.trim) := by
  refine IdSet.ofList_congr fun id => ?_
  rw [List.mem_map, List.mem_map]
  constructor
  · rintro ⟨id, hid, rfl⟩
    obtain ⟨id', hid', halike⟩ := h.1 id hid
    exact ⟨id', hid', halike.trim_eq.symm⟩
  · rintro ⟨id', hid', rfl⟩
    obtain ⟨id, hid, halike⟩ := h.2 id' hid'
    exact ⟨id, hid, halike.trim_eq⟩

/-- **Two requests for a symptom that differ in spelling only**: in blanks around what they give,
and in the case of the category. -/
structure SymptomRequest.Respells (r r' : SymptomRequest) : Prop where
  id : Option.Rel Text.AlikeButBlanks r.id r'.id
  label : Text.AlikeButBlanks r.label r'.label
  category : Option.Rel Text.AlikeButCase r.category r'.category

/-- **Two requests for a rule that differ in spelling only**: in blanks around what they give, and
in the order and the repetition of conditions. -/
structure RuleRequest.Respells (r r' : RuleRequest W) : Prop where
  positive : AlikeAsSets r.positive r'.positive
  negative : AlikeAsSets r.negative r'.negative
  diagnosis : Text.AlikeButBlanks r.diagnosis r'.diagnosis
  weight : r.weight = r'.weight

/-- **Two requests that differ in spelling only.** -/
inductive Request.Respells : Request W → Request W → Prop
  | symptom {r r' : SymptomRequest} (h : r.Respells r') : Respells (.symptom r) (.symptom r')
  | rule {r r' : RuleRequest W} (h : r.Respells r') : Respells (.rule r) (.rule r')

/-! ### What they give -/

namespace SymptomRequest

variable {r r' : SymptomRequest}

theorem Respells.chosenId_eq (h : r.Respells r') (label : String) :
    r.chosenId (W := W) label = r'.chosenId label := by
  have htrim : ∀ {id id' : Option String}, Option.Rel Text.AlikeButBlanks id id' →
      id.map Text.trim = id'.map Text.trim := fun hrel => by
    cases hrel with
    | some halike => rw [Option.map_some, Option.map_some, halike.trim_eq]
    | none => rfl
  rw [chosenId, chosenId, htrim h.id]

theorem Respells.chosenCategory (h : r.Respells r') :
    r.chosenCategory (W := W) = r'.chosenCategory ∨
      QuoteAlike (r.chosenCategory (W := W)) r'.chosenCategory := by
  have hrel := h.category
  unfold SymptomRequest.chosenCategory
  generalize r.category = name at hrel
  generalize r'.category = name' at hrel
  cases hrel with
  | some halike => exact Category.parse_of_alike halike
  | none => exact Or.inl rfl

theorem Respells.contribution (h : r.Respells r') :
    r.contribution (W := W) = r'.contribution ∨
      QuoteAlike (r.contribution (W := W)) r'.contribution := by
  simp only [SymptomRequest.contribution, h.label.trim_eq, h.chosenId_eq]
  cases checkLabel (W := W) (Text.trim r'.label) with
  | error defect => exact Or.inl rfl
  | ok =>
    rcases h.chosenCategory (W := W) with heq | ⟨name, name', hname, hname', halike⟩
    · rw [heq]
      exact Or.inl rfl
    · rw [hname, hname']
      exact Or.inr ⟨name, name', rfl, rfl, halike⟩

end SymptomRequest

variable [Weight W]

theorem RuleRequest.Respells.contribution {r r' : RuleRequest W} (h : r.Respells r') :
    r.contribution = r'.contribution := by
  simp only [RuleRequest.contribution, h.positive.ofList_eq, h.negative.ofList_eq,
    h.diagnosis.trim_eq, h.weight]

/-- **Requests that differ in spelling only give the same contribution**, or the same defect but for
a quoted name. -/
theorem Request.Respells.contribution {request request' : Request W}
    (h : request.Respells request') :
    request.contribution = request'.contribution ∨
      QuoteAlike request.contribution request'.contribution := by
  cases h with
  | symptom h => exact h.contribution
  | rule h => exact Or.inl h.contribution

/-- **One clue for every positive condition**, however often it is listed, if there is a weight. -/
theorem RuleRequest.clues_of_contribution {r : RuleRequest W} {item : Contribution W}
    (h : r.contribution = .ok item) :
    (item.clues.map Clue.symptom).Nodup ∧ ∀ id, id ∈ item.clues.map Clue.symptom ↔
      r.weight.isSome = true ∧ id ∈ r.positive.map Text.trim := by
  obtain ⟨-, -, -, rfl⟩ := contribution_eq_ok_iff.mp h
  change (r.wantedClues.map Clue.symptom).Nodup ∧ ∀ id, id ∈ r.wantedClues.map Clue.symptom ↔ _
  unfold wantedClues
  cases r.weight with
  | none => simp
  | some w =>
    have hsymptoms : (r.wantedRule.positive.toList.map fun id =>
        (⟨id, r.wantedRule.diagnosis, w, .user⟩ : Clue W)).map Clue.symptom =
          r.wantedRule.positive.toList := by
      rw [List.map_map]
      exact List.map_id _
    rw [hsymptoms]
    have hdistinct : ∀ {id id' : String}, id < id' → id ≠ id' := fun hlt heq =>
      String.lt_irrefl _ (heq ▸ hlt)
    refine ⟨r.wantedRule.positive.sorted.imp hdistinct, fun id => ?_⟩
    rw [Option.isSome_some, eq_self, true_and]
    exact IdSet.mem_ofList

/-! ### The answer of the store -/

variable [WeightNotation W]

omit [Weight W] in
/-- **Whether a store takes a record does not depend on the record.** -/
theorem Store.attempt_answer_eq (store : Store W) (r r' : Record W) :
    (store.attempt r).1 = (store.attempt r').1 := by
  cases store with
  | memory s =>
    rw [attempt, attempt]
    split
    · rfl
    · rfl
  | files s => exact s.attempt_answer_eq r r'

namespace Engine

variable {request request' : Request W}

/-- A request counts only by what it gives. -/
theorem submit_congr (e : Engine W) (now : Timestamp)
    (h : request.contribution = request'.contribution) :
    e.submit now request = e.submit now request' := by
  rw [submit, submit, Repository.submit, Repository.submit, h]

/-- **It does not matter when a request comes.** -/
theorem submit_any_time (e : Engine W) (now now' : Timestamp) (request : Request W) :
    (e.submit now request).1.map Record.item = (e.submit now' request).1.map Record.item ∧
      (e.submit now request).2.merged = (e.submit now' request).2.merged := by
  simp only [submit, Repository.submit]
  cases request.contribution with
  | error defect => exact ⟨rfl, rfl⟩
  | ok item =>
    simp only [Repository.contribute]
    cases e.repository.vet item with
    | error defect => exact ⟨rfl, rfl⟩
    | ok item =>
      have hsame := e.store.attempt_answer_eq ⟨now, item⟩ ⟨now', item⟩
      rcases h : e.store.attempt ⟨now, item⟩ with ⟨answer, store⟩
      rcases h' : e.store.attempt ⟨now', item⟩ with ⟨answer', store'⟩
      rw [h, h'] at hsame
      obtain rfl : answer = answer' := hsame
      simp only [h, h']
      cases answer with
      | error fault => exact ⟨rfl, rfl⟩
      | ok => exact ⟨rfl, rfl⟩

/-- What is stored of an accepted request for a rule has one clue for every positive condition. -/
theorem clues_of_accepted {e : Engine W} {now : Timestamp} {r : RuleRequest W} {record : Record W}
    (h : (e.submit now (.rule r)).1 = .ok record) :
    (record.item.clues.map Clue.symptom).Nodup ∧ ∀ id, id ∈ record.item.clues.map Clue.symptom ↔
      r.weight.isSome = true ∧ id ∈ r.positive.map Text.trim := by
  rcases hsubmit : e.submit now (.rule r) with ⟨answer, e'⟩
  rw [hsubmit] at h
  obtain rfl : answer = .ok record := h
  obtain ⟨item, hitem, -, rfl, -⟩ := of_submit_ok hsubmit
  rw [(Request.asksFor_of_contribution hitem).2]
  exact RuleRequest.clues_of_contribution hitem

/-- **The spelling of a request does not matter.** Two requests differ in spelling only, and they
are made to the same engine, at any times. Then the engine knows the same afterwards. It gives the
same item or the same fault, or else no category of the given name is known, and the two names are
quoted alike but for the forms of their small sigmas. And a rule that is accepted comes with clues
if a weight was given: one for each of the positive conditions, however often it was listed. -/
theorem submit_respelled (e : Engine W) (h : request.Respells request') (now now' : Timestamp) :
    (e.submit now request).2.merged = (e.submit now' request').2.merged ∧
      ((e.submit now request).1.map Record.item = (e.submit now' request').1.map Record.item ∨
        ∃ name name', (e.submit now request).1 = .error (.defect (.unknownCategory name)) ∧
          (e.submit now' request').1 = .error (.defect (.unknownCategory name')) ∧
          Text.AlikeButSigmas name name') ∧
      ∀ r record, request = .rule r → (e.submit now request).1 = .ok record →
        (record.item.clues.map Clue.symptom).Nodup ∧
          ∀ id, id ∈ record.item.clues.map Clue.symptom ↔
            r.weight.isSome = true ∧ id ∈ r.positive.map Text.trim := by
  refine and_assoc.mp ⟨?_, fun r record hrule haccepted => ?_⟩
  swap
  · rw [hrule] at haccepted
    exact clues_of_accepted haccepted
  rcases h.contribution with heq | ⟨name, name', hname, hname', halike⟩
  · obtain ⟨hanswers, hmerged⟩ := submit_any_time e now now' request'
    rw [← submit_congr e now heq] at hanswers hmerged
    exact ⟨hmerged, Or.inl hanswers⟩
  · have hturned : e.submit now request = (.error (.defect (.unknownCategory name)), e) :=
      submit_of_defect hname
    have hturned' : e.submit now' request' = (.error (.defect (.unknownCategory name')), e) :=
      submit_of_defect hname'
    rw [hturned, hturned']
    exact ⟨rfl, Or.inr ⟨name, name', rfl, rfl, halike⟩⟩

/-! ### Spelled in two ways -/

/-- A request for the rule of `wornFanRequest`, with nothing around what it gives, and in another
order. -/
def plainFanRequest : RuleRequest Float where
  positive := ["no_power", "fan"]
  negative := []
  diagnosis := "The fan of the power supply is worn"
  weight := some 7.5

theorem respells_plainFanRequest : wornFanRequest.Respells plainFanRequest where
  positive := by
    have hfan : Text.AlikeButBlanks " fan " "fan" :=
      Text.Pads.alike ⟨[' '], [' '], List.all_eq_true.mp (by decide), by decide⟩
    constructor
    · intro id hid
      simp only [wornFanRequest, List.mem_cons, List.not_mem_nil, or_false] at hid
      rcases hid with rfl | rfl | rfl
      · exact ⟨"fan", by decide, hfan⟩
      · exact ⟨"no_power", by decide, .refl _⟩
      · exact ⟨"fan", by decide, .refl _⟩
    · intro id hid
      simp only [plainFanRequest, List.mem_cons, List.not_mem_nil, or_false] at hid
      rcases hid with rfl | rfl
      · exact ⟨"no_power", by decide, .refl _⟩
      · exact ⟨"fan", by decide, .refl _⟩
  negative := ⟨nofun, nofun⟩
  diagnosis := Text.Pads.alike ⟨[' ', ' '], [' '], List.all_eq_true.mp (by decide), by decide⟩
  weight := rfl

/-- Both are accepted, and there are two clues either way. -/
theorem submit_respelled_wornFan :
    (Request.rule wornFanRequest).Respells (.rule plainFanRequest) ∧
      (grindingEngine.submit ⟨5, 0⟩ (.rule wornFanRequest)).1.map Record.item =
        (grindingEngine.submit ⟨9, 0⟩ (.rule plainFanRequest)).1.map Record.item ∧
      (grindingEngine.submit ⟨5, 0⟩ (.rule wornFanRequest)).1.map
        (fun record => record.item.clues.map Clue.symptom) = .ok ["fan", "no_power"] := by
  have hrespells : (Request.rule wornFanRequest).Respells (.rule plainFanRequest) :=
    .rule respells_plainFanRequest
  have haccepted : (grindingEngine.submit ⟨5, 0⟩ (.rule wornFanRequest)).1.map
      (fun record => record.item.clues.map Clue.symptom) = .ok ["fan", "no_power"] := by
    decide +kernel
  obtain ⟨-, hanswers, -⟩ := submit_respelled grindingEngine hrespells ⟨5, 0⟩ ⟨9, 0⟩
  refine ⟨hrespells, hanswers.resolve_right ?_, haccepted⟩
  rintro ⟨name, name', hname, -⟩
  rw [hname] at haccepted
  cases haccepted

/-- A request for a symptom of the given category. -/
def discRequest (category : String) : SymptomRequest where
  id := none
  label := "The disc cannot be read"
  category := some category

/-- **The forms of small sigmas are quoted.** Two names of a category are alike but for the case of
their last letter, and as there is no such category, each of them is quoted as it is lowered: the
capital sigma becomes a final one, and the small sigma stays. -/
theorem quoted_sigmas_differ :
    load (.memory grindingStore) strictSettings = .ok grindingEngine ∧
      (Request.symptom (discRequest "ΔΊΣΚΟΣ") : Request Float).Respells
        (.symptom (discRequest "ΔΊΣΚΟσ")) ∧
      (grindingEngine.submit ⟨5, 0⟩ (.symptom (discRequest "ΔΊΣΚΟΣ"))).1 =
        .error (.defect (.unknownCategory "δίσκος")) ∧
      (grindingEngine.submit ⟨5, 0⟩ (.symptom (discRequest "ΔΊΣΚΟσ"))).1 =
        .error (.defect (.unknownCategory "δίσκοσ")) := by
  have hletters : Text.letters "ΔΊΣΚΟΣ" = Text.letters "ΔΊΣΚΟσ" := by decide +kernel
  refine ⟨rfl, .symptom ⟨.none, .refl _, .some ⟨_, _, .refl _, .refl _, hletters⟩⟩, ?_, ?_⟩
  · decide +kernel
  · decide +kernel

end Engine

end FaultDiagnosis
