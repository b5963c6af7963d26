import FaultDiagnosis.Proofs.Contribution.Requested
import FaultDiagnosis.Proofs.Text.Trimmed
import Mathlib.Data.List.SplitBy

/-!
# Acceptable requests

A request is judged twice. First it is turned into a contribution, which may fail on what the
request itself says; then the contribution is checked against what is known, as one from a log would
be. `FaultDiagnosis.Request.IsAcceptable` says in one place what a user has to observe, in terms of
what the user wrote, and `FaultDiagnosis.Request.exists_fits_iff` says that this is what the two
judgements amount to. The second one repeats much of the first, and it never fails where the first
has passed but for what is known: an identifier that is taken, or one that is missing.

What an acceptable request asks for is determined by it (`FaultDiagnosis.Request.AsksFor`), but for
the spelling of a category.
-/

namespace FaultDiagnosis

open Outcome

variable {W : Type}

/-- Measuring a text does the trimming by itself. -/
theorem trimmedLength_trim (text : String) :
    trimmedLength (Text.trim text) = trimmedLength text := by
  rw [trimmedLength, Text.trim_trim]
  rfl

/-! ### Identifiers derived from labels -/

/-- The identifier derived from a label that has words. -/
def derivedId (label : String) : String :=
  derivedIdStart ++ "_".intercalate ((words label).map Text.lowerCase)

/-- A text has no words exactly if it has neither letters nor numbers. -/
theorem words_eq_nil_iff {text : String} :
    words text = [] ↔ ¬∃ c ∈ text.toList, Text.isAlphanumeric c = true := by
  -- every character is in one of the stretches that the text is cut into
  have hstretches := List.flatten_splitBy
    (fun a b => Text.isAlphanumeric a == Text.isAlphanumeric b) text.toList
  rw [words, List.map_eq_nil_iff, List.filter_eq_nil_iff]
  constructor
  · rintro hnone ⟨c, hc, halnum⟩
    rw [← hstretches, List.mem_flatten] at hc
    obtain ⟨stretch, hstretch, hc⟩ := hc
    exact hnone stretch hstretch (List.any_eq_true.mpr ⟨c, hc, halnum⟩)
  · intro hnone stretch hstretch hany
    obtain ⟨c, hc, halnum⟩ := List.any_eq_true.mp hany
    refine hnone ⟨c, ?_, halnum⟩
    rw [← hstretches, List.mem_flatten]
    exact ⟨stretch, hstretch, hc⟩

theorem deriveId_eq_ok_iff {label id : String} : deriveId (W := W) label = .ok id ↔
    (∃ c ∈ label.toList, Text.isAlphanumeric c = true) ∧ id = derivedId label := by
  unfold deriveId
  split
  · rename_i hwords
    exact iff_of_false nofun fun h => words_eq_nil_iff.mp hwords h.1
  · rename_i hwords
    have hsome : ∃ c ∈ label.toList, Text.isAlphanumeric c = true :=
      not_not.mp (mt words_eq_nil_iff.mpr hwords)
    rw [Except.ok.injEq]
    exact ⟨fun h => ⟨hsome, h.symm⟩, fun h => h.2.symm⟩

/-- What every derived identifier starts with keeps it from being blank. -/
theorem isBlankText_derivedId (label : String) : Text.isBlankText (derivedId label) = false := by
  have hstart : derivedIdStart.toList.all Text.isBlank = false := by decide
  rw [Text.isBlankText, derivedId, String.toList_append, List.all_append, hstart, Bool.false_and]

/-! ### Symptoms -/

namespace SymptomRequest

/-- The identifier that is given, without blanks at its ends. It is empty if none is given. -/
def givenId (r : SymptomRequest) : String :=
  Text.trim (r.id.getD "")

/-- The identifier that the symptom is to have: the one that is given, or else the one derived from
the label. Which of the two it is does not compute for an unknown request, so this is unfolded only
where it is asked. -/
@[irreducible] def wantedId (r : SymptomRequest) : String :=
  if r.givenId = "" then derivedId (Text.trim r.label) else r.givenId

/-- Does the request name the category? -/
def Names (r : SymptomRequest) (c : Category) : Prop :=
  ∃ name, r.category = some name ∧ Text.lowerCase (Text.trim name) = c.name

/-- The symptom asked for. -/
def wanted (r : SymptomRequest) (c : Category) : Symptom :=
  { id := r.wantedId, label := Text.trim r.label, category := c, origin := .user }

@[simp] theorem wanted_id (r : SymptomRequest) (c : Category) : (r.wanted c).id = r.wantedId :=
  rfl

@[simp] theorem wanted_label (r : SymptomRequest) (c : Category) :
    (r.wanted c).label = Text.trim r.label :=
  rfl

/-- A symptom asked for is a user's as it stands. -/
theorem asUser_wanted (r : SymptomRequest) (c : Category) :
    (Contribution.symptom (r.wanted c) : Contribution W).asUser = .symptom (r.wanted c) :=
  rfl

/-- **An acceptable request for a symptom**: the label has ten characters, a category is named, and
the identifier is not taken. If it has to be derived from the label, this has a letter or a number.
-/
structure IsAcceptable (r : SymptomRequest) (kb : KnowledgeBase W) : Prop where
  labelled : 10 ≤ trimmedLength r.label
  categorised : ∃ c, r.Names c
  derivable : r.givenId = "" → ∃ c ∈ r.label.toList, Text.isAlphanumeric c = true
  fresh : r.wantedId ∉ kb.ids

variable {r : SymptomRequest} {c : Category}

theorem chosenCategory_eq_ok_iff : r.chosenCategory (W := W) = .ok c ↔ r.Names c := by
  unfold chosenCategory Names
  split
  · rename_i name hname
    simp only [hname, Option.some.injEq, exists_eq_left', Category.parse_eq_ok_iff]
  · rename_i hname
    simp only [hname, reduceCtorEq, false_and, exists_false]

theorem chosenId_eq_ok_iff {id : String} : r.chosenId (W := W) (Text.trim r.label) = .ok id ↔
    (r.givenId = "" → ∃ c ∈ r.label.toList, Text.isAlphanumeric c = true) ∧ id = r.wantedId := by
  have hderived : deriveId (W := W) (Text.trim r.label) = .ok id ↔
      (∃ c ∈ r.label.toList, Text.isAlphanumeric c = true) ∧
        id = derivedId (Text.trim r.label) := by
    rw [deriveId_eq_ok_iff, Text.exists_isAlphanumeric_trim_iff]
  unfold chosenId wantedId givenId
  cases r.id with
  | none =>
    have hnone : Text.trim "" = "" := by decide
    simp only [Option.map_none, Option.getD_none, hnone, hderived, forall_const, if_true]
  | some given =>
    simp only [Option.map_some, Option.getD_some]
    by_cases hgiven : Text.trim given = ""
    · simp only [hgiven, hderived, forall_const, if_true]
    · simp only [hgiven, if_false, false_imp_iff, true_and, Except.ok.injEq]
      exact eq_comm

/-- **What a symptom request gives.** -/
theorem contribution_eq_ok_iff {item : Contribution W} : r.contribution = .ok item ↔
    10 ≤ trimmedLength r.label ∧
      (r.givenId = "" → ∃ c ∈ r.label.toList, Text.isAlphanumeric c = true) ∧
      ∃ c, r.Names c ∧ item = .symptom (r.wanted c) := by
  simp only [contribution]
  rw [then_eq_ok, checkLabel_eq_ok_iff, trimmedLength_trim]
  refine and_congr_right fun _ => ?_
  simp only [bind_eq_ok, chosenCategory_eq_ok_iff, chosenId_eq_ok_iff, pure_eq_ok, wanted]
  constructor
  · rintro ⟨c, hc, id, ⟨hderivable, hid⟩, hitem⟩
    refine ⟨hderivable, c, hc, ?_⟩
    rw [← hitem, hid]
  · rintro ⟨hderivable, c, hc, hitem⟩
    exact ⟨c, hc, r.wantedId, ⟨hderivable, rfl⟩, hitem.symm⟩

/-- The identifier of a symptom asked for is never blank. -/
theorem isBlankText_wantedId (r : SymptomRequest) : Text.isBlankText r.wantedId = false := by
  unfold wantedId
  split
  · exact isBlankText_derivedId _
  · rename_i hgiven
    have hnot : ¬Text.isBlankText (r.id.getD "") = true := mt Text.trim_eq_empty_iff.mpr hgiven
    rw [givenId, Text.isBlankText_trim]
    exact Bool.eq_false_iff.mpr hnot

/-- A symptom asked for fits as soon as its label is long enough and its identifier is free. -/
theorem fits_wanted_iff {kb : KnowledgeBase W} :
    (r.wanted c).Fits kb ↔ 10 ≤ trimmedLength r.label ∧ r.wantedId ∉ kb.ids := by
  have hlabel : trimmedLength (r.wanted c).label = trimmedLength r.label := by
    rw [wanted_label, trimmedLength_trim]
  constructor
  · intro h
    have hlabelled := h.labelled
    rw [hlabel] at hlabelled
    exact ⟨hlabelled, h.fresh⟩
  · rintro ⟨hlabelled, hfresh⟩
    rw [← hlabel] at hlabelled
    exact ⟨r.isBlankText_wantedId, hlabelled, hfresh⟩

/-- **A symptom asked for is taken exactly if the request for it is acceptable.** -/
theorem exists_fits_iff [Weight W] {kb : KnowledgeBase W} :
    (∃ item : Contribution W, r.contribution = .ok item ∧ item.asUser.Fits kb) ↔
      r.IsAcceptable kb := by
  constructor
  · rintro ⟨item, hitem, hfits⟩
    obtain ⟨hlabelled, hderivable, c, hc, rfl⟩ := contribution_eq_ok_iff.mp hitem
    rw [asUser_wanted] at hfits
    obtain ⟨-, hfresh⟩ := fits_wanted_iff.mp hfits
    exact ⟨hlabelled, ⟨c, hc⟩, hderivable, hfresh⟩
  · intro h
    obtain ⟨c, hc⟩ := h.categorised
    refine ⟨.symptom (r.wanted c), ?_, ?_⟩
    · exact contribution_eq_ok_iff.mpr ⟨h.labelled, h.derivable, c, hc, rfl⟩
    · rw [asUser_wanted]
      exact fits_wanted_iff.mpr ⟨h.labelled, h.fresh⟩

end SymptomRequest

/-! ### Rules -/

namespace RuleRequest

/-- The rule asked for. -/
def wantedRule (r : RuleRequest W) : Rule where
  positive := .ofList (r.positive.map Text.trim)
  negative := .ofList (r.negative.map Text.trim)
  diagnosis := Text.trim r.diagnosis
  origin := .user

/-- The clues asked for: if a weight is given, one of this weight for every positive condition. -/
def wantedClues (r : RuleRequest W) : List (Clue W) :=
  match r.weight with
  | none => []
  | some weight => r.wantedRule.positive.toList.map fun id =>
      { symptom := id, diagnosis := r.wantedRule.diagnosis, weight, origin := .user }

variable [Weight W]

/-- **An acceptable request for a rule**: the diagnosis has twenty characters, something is wanted
present, nothing is wanted both present and absent, the weight is a positive number if there is one,
and all symptoms are known. -/
structure IsAcceptable (r : RuleRequest W) (kb : KnowledgeBase W) : Prop where
  diagnosed : 20 ≤ trimmedLength r.diagnosis
  wanted : ∃ id, id ∈ r.positive.map Text.trim
  consistent : ∀ id ∈ r.positive.map Text.trim, id ∉ r.negative.map Text.trim
  weighed : ∀ w ∈ r.weight, Weight.isFinite w = true ∧ Weight.below 0 w = true
  known : ∀ id ∈ r.positive.map Text.trim ++ r.negative.map Text.trim, id ∈ kb.ids

variable {r : RuleRequest W}

omit [Weight W] in
theorem isSensible_wantedRule_iff : r.wantedRule.IsSensible ↔
    (∃ id, id ∈ r.positive.map Text.trim) ∧
      ∀ id ∈ r.positive.map Text.trim, id ∉ r.negative.map Text.trim := by
  constructor
  · rintro ⟨⟨id, hid⟩, hconsistent⟩
    refine ⟨⟨id, IdSet.mem_ofList.mp hid⟩, fun id hid hid' => ?_⟩
    exact hconsistent id (IdSet.mem_ofList.mpr hid) (IdSet.mem_ofList.mpr hid')
  · rintro ⟨⟨id, hid⟩, hconsistent⟩
    refine ⟨⟨id, IdSet.mem_ofList.mpr hid⟩, fun id hid hid' => ?_⟩
    exact hconsistent id (IdSet.mem_ofList.mp hid) (IdSet.mem_ofList.mp hid')

omit [Weight W] in
theorem mem_referencedIds_wantedRule_iff {id : String} : id ∈ r.wantedRule.referencedIds ↔
    id ∈ r.positive.map Text.trim ++ r.negative.map Text.trim := by
  rw [Rule.referencedIds, List.mem_append, List.mem_append]
  exact or_congr IdSet.mem_ofList IdSet.mem_ofList

/-- As there is a positive condition, the weight is looked at if there is one. -/
theorem cluesOfWeight_wantedRule_iff {cs : List (Clue W)} (hsensible : r.wantedRule.IsSensible) :
    r.wantedRule.cluesOfWeight r.weight = .ok cs ↔
      (∀ w ∈ r.weight, Weight.isPositive w = true) ∧ cs = r.wantedClues := by
  rw [Rule.cluesOfWeight_eq_ok_iff, wantedClues]
  cases r.weight with
  | none =>
    simp only [Option.not_mem_none, false_imp_iff, implies_true, true_and]
  | some w =>
    simp only [Option.mem_some_iff, forall_eq', forall₂_eq_map_iff]
    rw [and_comm]
    refine and_congr_left ?_
    rintro rfl
    constructor
    · intro hall
      obtain ⟨id, hid⟩ := hsensible.wanted
      exact hall _ (List.mem_map_of_mem hid)
    · intro hw c hc
      obtain ⟨id, -, rfl⟩ := List.mem_map.mp hc
      exact hw

/-- **What a rule request gives.** -/
theorem contribution_eq_ok_iff {item : Contribution W} : r.contribution = .ok item ↔
    20 ≤ trimmedLength r.diagnosis ∧ r.wantedRule.IsSensible ∧
      (∀ w ∈ r.weight, Weight.isPositive w = true) ∧
      item = .rule r.wantedRule r.wantedClues := by
  simp only [contribution]
  rw [then_eq_ok, checkDiagnosis_eq_ok_iff, trimmedLength_trim]
  refine and_congr_right fun _ => ?_
  simp only [bind_eq_ok, Rule.ofConditions_eq_ok_iff, pure_eq_ok]
  constructor
  · rintro ⟨rule, ⟨rfl, hsensible⟩, cs, hcs, rfl⟩
    obtain ⟨hweighed, rfl⟩ := (cluesOfWeight_wantedRule_iff hsensible).mp hcs
    exact ⟨hsensible, hweighed, rfl⟩
  · rintro ⟨hsensible, hweighed, rfl⟩
    refine ⟨r.wantedRule, ⟨rfl, hsensible⟩, r.wantedClues, ?_, rfl⟩
    exact (cluesOfWeight_wantedRule_iff hsensible).mpr ⟨hweighed, rfl⟩

omit [Weight W] in
/-- A clue asked for belongs to the rule: it is for one of its positive conditions, with its
diagnosis and the weight that is given. -/
theorem of_mem_wantedClues {c : Clue W} (hc : c ∈ r.wantedClues) :
    c.symptom ∈ r.wantedRule.positive ∧ c.diagnosis = r.wantedRule.diagnosis ∧
      c.weight ∈ r.weight ∧ c.origin = .user := by
  unfold wantedClues at hc
  split at hc
  · cases hc
  · rename_i w hw
    obtain ⟨id, hid, rfl⟩ := List.mem_map.mp hc
    exact ⟨hid, rfl, hw, rfl⟩

omit [Weight W] in
/-- A rule asked for is a user's as it stands. -/
theorem asUser_wanted (r : RuleRequest W) :
    (Contribution.rule r.wantedRule r.wantedClues).asUser = .rule r.wantedRule r.wantedClues := by
  have hclues : r.wantedClues.map (fun c => { c with origin := .user }) = r.wantedClues := by
    refine (List.map_congr_left fun c hc => ?_).trans (List.map_id _)
    rw [id, ← (of_mem_wantedClues hc).2.2.2]
  rw [Contribution.asUser, hclues]
  rfl

/-- A rule asked for fits as soon as it makes sense and its symptoms are known: its clues are about
no others. -/
theorem fits_wanted_iff {kb : KnowledgeBase W}
    (hweighed : ∀ w ∈ r.weight, Weight.isPositive w = true) :
    (Contribution.rule r.wantedRule r.wantedClues).Fits kb ↔
      20 ≤ trimmedLength r.diagnosis ∧ r.wantedRule.IsSensible ∧
        ∀ id ∈ r.positive.map Text.trim ++ r.negative.map Text.trim, id ∈ kb.ids := by
  have hdiagnosis : trimmedLength r.wantedRule.diagnosis = trimmedLength r.diagnosis :=
    trimmedLength_trim r.diagnosis
  constructor
  · rintro ⟨hrule, -⟩
    have hdiagnosed := hrule.diagnosed
    rw [hdiagnosis] at hdiagnosed
    refine ⟨hdiagnosed, hrule.sensible, fun id hid => ?_⟩
    exact hrule.known id (mem_referencedIds_wantedRule_iff.mpr hid)
  · rintro ⟨hdiagnosed, hsensible, hknown⟩
    rw [← hdiagnosis] at hdiagnosed
    have hreferenced : ∀ id ∈ r.wantedRule.referencedIds, id ∈ kb.ids := fun id hid =>
      hknown id (mem_referencedIds_wantedRule_iff.mp hid)
    refine ⟨⟨hdiagnosed, hsensible, hreferenced⟩, fun c hc => ?_⟩
    obtain ⟨hsymptom, hsame, hweight, -⟩ := of_mem_wantedClues hc
    refine ⟨hweighed c.weight hweight, ?_, ?_⟩
    · exact hreferenced c.symptom (List.mem_append_left _ hsymptom)
    · rw [hsame]
      exact hdiagnosed

/-- **A rule asked for is taken exactly if the request for it is acceptable.** -/
theorem exists_fits_iff {kb : KnowledgeBase W} :
    (∃ item, r.contribution = .ok item ∧ item.asUser.Fits kb) ↔ r.IsAcceptable kb := by
  have hpositive : (∀ w ∈ r.weight, Weight.isPositive w = true) ↔
      ∀ w ∈ r.weight, Weight.isFinite w = true ∧ Weight.below 0 w = true := by
    simp only [Weight.isPositive, Bool.and_eq_true]
  constructor
  · rintro ⟨item, hitem, hfits⟩
    obtain ⟨hdiagnosed, hsensible, hweighed, rfl⟩ := contribution_eq_ok_iff.mp hitem
    rw [asUser_wanted] at hfits
    obtain ⟨-, -, hknown⟩ := (fits_wanted_iff hweighed).mp hfits
    obtain ⟨hwanted, hconsistent⟩ := isSensible_wantedRule_iff.mp hsensible
    exact ⟨hdiagnosed, hwanted, hconsistent, hpositive.mp hweighed, hknown⟩
  · intro h
    have hsensible : r.wantedRule.IsSensible :=
      isSensible_wantedRule_iff.mpr ⟨h.wanted, h.consistent⟩
    have hweighed := hpositive.mpr h.weighed
    refine ⟨.rule r.wantedRule r.wantedClues, ?_, ?_⟩
    · exact contribution_eq_ok_iff.mpr ⟨h.diagnosed, hsensible, hweighed, rfl⟩
    · rw [asUser_wanted]
      exact (fits_wanted_iff hweighed).mpr ⟨h.diagnosed, hsensible, h.known⟩

end RuleRequest

/-! ### Requests -/

namespace Request

/-- **The contribution asked for**: a symptom in a category that the request names, or a rule with
its clues. -/
def AsksFor : Request W → Contribution W → Prop
  | symptom r, item => ∃ c, r.Names c ∧ item = .symptom (r.wanted c)
  | rule r, item => item = .rule r.wantedRule r.wantedClues

variable [Weight W]

/-- **An acceptable request**, in view of what is known. -/
def IsAcceptable (kb : KnowledgeBase W) : Request W → Prop
  | symptom r => r.IsAcceptable kb
  | rule r => r.IsAcceptable kb

variable {request : Request W} {item : Contribution W}

/-- What a request gives is what it asks for, and it is a user's as it stands. -/
theorem asksFor_of_contribution (h : request.contribution = .ok item) :
    request.AsksFor item ∧ item.asUser = item := by
  cases request with
  | symptom r =>
    obtain ⟨-, -, c, hc, rfl⟩ := SymptomRequest.contribution_eq_ok_iff.mp h
    exact ⟨⟨c, hc, rfl⟩, r.asUser_wanted c⟩
  | rule r =>
    obtain ⟨-, -, -, rfl⟩ := RuleRequest.contribution_eq_ok_iff.mp h
    exact ⟨rfl, r.asUser_wanted⟩

/-- **The two judgements come to this**: a request gives a contribution that fits exactly if it is
acceptable. -/
theorem exists_fits_iff {kb : KnowledgeBase W} :
    (∃ item, request.contribution = .ok item ∧ item.asUser.Fits kb) ↔ request.IsAcceptable kb := by
  cases request with
  | symptom r => exact SymptomRequest.exists_fits_iff
  | rule r => exact RuleRequest.exists_fits_iff

end Request

end FaultDiagnosis
