import FaultDiagnosis.Diagnosis.Verdict
import FaultDiagnosis.Proofs.Knowledge.Written

/-!
# Verdicts are read back

A verdict is sent as JSON, and whoever gets it decodes the text. What is absent in a verdict is left
out of the text and filled in again, and all names, sets and texts come back as they were. The
confidence is the exception. It is a sum of weights, and a sum may be too large for a double even
where no weight is; then no numeral is written for it, but null, and null is read as an absent
confidence. So what arrives is the verdict without a confidence that has no numeral
(`FaultDiagnosis.Verdict.transmitted`), and this is the same for the compact text and for the
indented one (`FaultDiagnosis.Verdict.decoder_ofText`). Nothing is lost exactly if the confidence,
where there is one, is written (`FaultDiagnosis.Verdict.transmitted_eq_self_iff`).
-/

namespace FaultDiagnosis

open Json (Decoder Fields Reading asRead membersAsRead)

variable {W : Type}

/-! ### Weights that are written -/

namespace WeightNotation

/-- A weight that there is a numeral for. -/
def isWritten [WeightNotation W] (w : W) : Bool :=
  (write w).isSome

/-- Of the doubles, these are the finite ones. -/
theorem isWritten_eq_isFinite (x : Float) : isWritten x = x.isFinite := by
  have hparts : isWritten x = (Binary64.toParts x).isSome := Option.isSome_map
  rw [hparts]
  cases hx : x.isFinite with
  | false => rw [Binary64.toParts_eq_none_iff.mpr hx, Option.isSome_none]
  | true =>
    rw [Option.isSome_iff_ne_none, Ne, Binary64.toParts_eq_none_iff, hx]
    exact Bool.noConfusion

variable [WeightNotation W] {w : W}

/-- Null is written where there is no numeral. -/
theorem weightJson_of_not_isWritten (h : isWritten w = false) : weightJson w = .null := by
  rw [isWritten, Option.isSome_eq_false_iff, Option.isNone_iff_eq_none] at h
  rw [weightJson, h]

/-- As a value that may be null, a weight is read back if it is written, and absent if not. -/
theorem nullable_asRead (h : isWritten w = true → ReadsBack w) :
    Decoder.nullable Decoder.weight (weightJson w).asRead = .ok ((some w).filter isWritten) := by
  cases hwritten : isWritten w with
  | true =>
    rw [Option.filter_some_pos hwritten]
    obtain ⟨n, hwrite, -, hlarge, hread⟩ := h hwritten
    rw [weightJson, hwrite, asRead, Reading.ofNumeral_of_not_isTooLarge hlarge]
    exact congrArg (fun w => Except.ok (some w)) hread
  | false =>
    rw [Option.filter_some_neg hwritten, weightJson_of_not_isWritten hwritten]
    rfl

theorem isLegible_weightJson_of_readsBack (h : isWritten w = true → ReadsBack w) :
    (weightJson w).IsLegible := by
  cases hwritten : isWritten w with
  | true => exact (h hwritten).isLegible
  | false =>
    rw [weightJson_of_not_isWritten hwritten]
    trivial

/-- A double is legible in any case. -/
theorem isLegible_weightJson (x : Float) : (weightJson x).IsLegible := by
  rw [weightJson]
  split
  · next n hn =>
    obtain ⟨parts, -, rfl⟩ := Option.map_eq_some_iff.mp hn
    exact Notation.isLiteral_mixed parts
  · trivial

end WeightNotation

/-! ### Verdicts -/

open WeightNotation (isWritten)

theorem Resolver.decoder_name (r : Resolver) : Resolver.decoder (.string r.name) = .ok r := by
  cases r <;> rfl

namespace Verdict

theorem originDecoder_originName (o : Option Origin) :
    originDecoder (.string (originName o)) = .ok o := by
  rcases o with - | (- | -)
  all_goals rfl

theorem nullable_text (s : String) :
    Decoder.nullable Decoder.text (.string s) = .ok (some s) := rfl

variable [WeightNotation W]

/-- **A verdict that is read back**: its confidence is, if it is written at all. -/
def ReadsBack (v : Verdict W) : Prop :=
  ∀ w ∈ v.confidence, isWritten w = true → WeightNotation.ReadsBack w

/-- **What arrives of a verdict**: all of it, but for a confidence that is not written. -/
def transmitted (v : Verdict W) : Verdict W :=
  { v with confidence := v.confidence.filter isWritten }

/-- A verdict but for its confidence. -/
def withoutConfidence (v : Verdict W) : Verdict W :=
  { v with confidence := none }

variable {v : Verdict W}

/-- A confidence that is not written is lost. -/
theorem transmitted_eq_withoutConfidence {w : W} (hconfidence : v.confidence = some w)
    (hwritten : isWritten w = false) : v.transmitted = v.withoutConfidence := by
  rw [transmitted, hconfidence, Option.filter_some_neg hwritten, withoutConfidence]

/-- **Nothing is lost exactly if the confidence is written.** -/
theorem transmitted_eq_self_iff :
    v.transmitted = v ↔ ∀ w ∈ v.confidence, isWritten w = true := by
  constructor
  · intro h w hw
    have hkept : v.confidence.filter isWritten = some w := (congrArg confidence h).trans hw
    exact (Option.filter_eq_some_iff.mp hkept).2
  · intro h
    have hkept : v.confidence.filter isWritten = v.confidence := by
      cases hconfidence : v.confidence with
      | none => rfl
      | some w => exact Option.filter_some_pos (h w hconfidence)
    rw [transmitted, hkept]

/-- **What is decoded** from the JSON value of a verdict. -/
theorem decoder_asRead (h : v.ReadsBack) : decoder v.toJson.asRead = .ok v.transmitted := by
  have hconfidence : ∀ w ∈ v.confidence, Decoder.nullable Decoder.weight (weightJson w).asRead =
      .ok ((some w).filter isWritten) := fun w hw => WeightNotation.nullable_asRead (h w hw)
  obtain ⟨diagnosis, matched, confidence, origin, conclusive, resolvedBy, advice, unknown⟩ := v
  -- whichever of the optional members are there, the fields are found one after the other
  cases confidence
  all_goals cases advice
  all_goals cases unknown
  all_goals
    simp [toJson, transmitted, optionalMember, asRead, membersAsRead, decoder, Decoder.record,
      Fields.required, Fields.optional, Fields.withDefault, Decoder.gather, Decoder.text,
      Decoder.flag, nullable_text, hconfidence, Json.Decoder.list_text_asRead,
      IdSet.decoder_asRead, originDecoder_originName, Resolver.decoder_name, List.lookup_cons,
      Bind.bind, Except.bind, Functor.map, Except.map]

/-- The text of a verdict is legible if its confidence is. -/
theorem isLegible_toJson_of_confidence
    (h : ∀ w ∈ v.confidence, (weightJson w).IsLegible) : v.toJson.IsLegible := by
  have hmatched : v.matched.toJson.IsLegible := Json.isLegible_texts _
  obtain ⟨diagnosis, matched, confidence, origin, conclusive, resolvedBy, advice, unknown⟩ := v
  cases confidence
  all_goals cases advice
  all_goals cases unknown
  all_goals
    simp_all [toJson, optionalMember, Json.IsLegible, Json.MembersLegible,
      Json.isLegible_texts]

/-- **What is decoded from the two texts of a verdict.** -/
theorem decoder_ofText (h : v.ReadsBack) :
    decoder (Reading.ofText v.toJson.compact) = .ok v.transmitted ∧
      decoder (Reading.ofText v.toJson.pretty) = .ok v.transmitted := by
  have hlegible : v.toJson.IsLegible := isLegible_toJson_of_confidence fun w hw =>
    WeightNotation.isLegible_weightJson_of_readsBack (h w hw)
  have hpretty : Reading.ofText (v.toJson.pretty ++ "") = v.toJson.asRead :=
    Reading.ofText_pretty_append hlegible nofun
  rw [String.append_empty] at hpretty
  rw [Reading.ofText_compact hlegible, hpretty]
  exact ⟨decoder_asRead h, decoder_asRead h⟩

/-- **A verdict survives** if it is decoded from either of its texts as it was. -/
def Survives (v : Verdict W) : Prop :=
  decoder (Reading.ofText v.toJson.compact) = .ok v ∧
    decoder (Reading.ofText v.toJson.pretty) = .ok v

theorem survives_iff (h : v.ReadsBack) : v.Survives ↔ ∀ w ∈ v.confidence, isWritten w = true := by
  obtain ⟨hcompact, hpretty⟩ := decoder_ofText h
  rw [Survives, hcompact, hpretty, and_self, Except.ok.injEq, transmitted_eq_self_iff]

/-- The texts of a verdict with doubles are legible, whatever its confidence is. -/
theorem isLegible_toJson (v : Verdict Float) : v.toJson.IsLegible :=
  isLegible_toJson_of_confidence fun w _ => WeightNotation.isLegible_weightJson w

end Verdict

end FaultDiagnosis
