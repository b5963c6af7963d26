import FaultDiagnosis.Proofs.Contribution.Acceptable
import FaultDiagnosis.Proofs.Engine.Restart

/-!
# Which requests are accepted

As long as the store takes records, what becomes of a request is decided by the request and by the
symptoms that are known: it is accepted exactly if it is acceptable
(`FaultDiagnosis.Engine.submit_accepts_iff`). No other state of the engine plays a part, so that a
client can tell beforehand. And what is known has gained what was asked for
(`FaultDiagnosis.KnowledgeBase.Gains`), with nothing left out and nothing else changed.

The request goes through two judgements on its way
(`FaultDiagnosis.Request.exists_fits_iff`), and behind them the store has the last word; with a
store that refuses records, none is accepted.
-/

namespace FaultDiagnosis

variable {W : Type} [WeightNotation W]

/-- **A store that takes records**, whatever they are. -/
def Store.TakesRecords (store : Store W) : Prop :=
  ∀ record, ∃ store', store.attempt record = (.ok (), store')

/-- A store in memory takes records unless it was told to refuse them. -/
theorem Store.takesRecords_memory {s : MemoryStore W} (h : s.refusing = false) :
    (Store.memory s).TakesRecords := fun _ =>
  ⟨_, attempt_memory_eq_ok_iff.mpr ⟨h, rfl⟩⟩

namespace Engine

variable [Weight W] {e : Engine W} {now : Timestamp} {request : Request W}

/-- A request that is judged to be defective is turned away with its defect. -/
theorem submit_of_judge_error {defect : Defect W}
    (h : e.repository.judge request = .error defect) :
    e.submit now request = (.error (.defect defect), e) := by
  rw [submit, Repository.submit_of_judge_error h]

/-- Any other is accepted, if the store takes it. -/
theorem exists_submit_of_judge_ok {item : Contribution W} (hstore : e.store.TakesRecords)
    (h : e.repository.judge request = .ok item) (now : Timestamp) :
    ∃ e', e.submit now request = (.ok ⟨now, item⟩, e') ∧ e.merged.Gains item e'.merged := by
  obtain ⟨store', hstored⟩ := hstore ⟨now, item⟩
  refine ⟨{ e with repository := e.repository.add item, store := store' }, ?_, ?_⟩
  · rw [submit, Repository.submit_of_judge_ok h hstored]
  · exact KnowledgeBase.gains_iff.mpr (Repository.merged_add e.repository item)

/-- **Exactly the acceptable requests are accepted.** An engine with any knowledge has a store that
takes records. It accepts a request if and only if this is acceptable in view of what the engine
knows. Then the record has the time of the request and the contribution asked for, and this is what
the engine knows in addition: a symptom behind all others, or a rule behind all others and its clues
behind all others. -/
theorem submit_accepts_iff (hstore : e.store.TakesRecords) (now : Timestamp)
    (request : Request W) :
    ((∃ record e', e.submit now request = (.ok record, e')) ↔ request.IsAcceptable e.merged) ∧
      ∀ record e', e.submit now request = (.ok record, e') →
        record.contributedAt = now ∧ request.AsksFor record.item ∧
          e.merged.Gains record.item e'.merged := by
  rw [← Request.exists_fits_iff]
  cases hjudge : e.repository.judge request with
  | error defect =>
    have hturned : e.submit now request = (.error (.defect defect), e) :=
      submit_of_judge_error hjudge
    rw [hturned]
    refine ⟨iff_of_false ?_ ?_, ?_⟩
    · rintro ⟨record, e', h⟩
      cases h
    · -- a contribution that fits would have been judged to do so
      rintro ⟨asked, hasked, hfits⟩
      cases hjudge.symm.trans (Repository.judge_eq_ok_iff.mpr ⟨asked, hasked, hfits, rfl⟩)
    · intro record e' h
      cases h
  | ok item =>
    obtain ⟨asked, hasked, hfits, rfl⟩ := Repository.judge_eq_ok_iff.mp hjudge
    obtain ⟨e₁, haccepted, hgains⟩ := exists_submit_of_judge_ok hstore hjudge now
    rw [haccepted]
    refine ⟨iff_of_true ⟨_, e₁, rfl⟩ ⟨asked, hasked, hfits⟩, ?_⟩
    intro record e' h
    obtain ⟨hrecord, rfl⟩ := Prod.mk.inj h
    obtain rfl := Except.ok.inj hrecord
    obtain ⟨hasks, huser⟩ := Request.asksFor_of_contribution hasked
    rw [huser] at hgains ⊢
    exact ⟨rfl, hasks, hgains⟩

/-! ### Two requests -/

/-- A request for a rule with a weight. It names one symptom twice, and all with blanks around
them. -/
def wornFanRequest : RuleRequest Float where
  positive := [" fan ", "no_power", "fan"]
  negative := []
  diagnosis := "  The fan of the power supply is worn "
  weight := some 7.5

/-- A request for a symptom, with blanks around its label and no identifier. -/
def burningRequest : SymptomRequest where
  id := none
  label := " Burning smell! "
  category := some " Hardware"

/-- A request for a symptom whose identifier is taken. -/
def secondFanRequest : SymptomRequest where
  id := some " fan"
  label := "The fan again, by another user"
  category := some "HARDWARE"

/-- What is asked for in the category that the request names. -/
theorem asksFor_burningRequest {item : Contribution Float}
    (h : (Request.symptom burningRequest).AsksFor item) :
    item = .symptom ⟨"user_burning_smell", "Burning smell!", .hardware, .user⟩ := by
  obtain ⟨c, ⟨name, hname, hlower⟩, rfl⟩ := h
  obtain rfl : " Hardware" = name := Option.some.inj hname
  cases c with
  | hardware => decide +kernel
  | software => exact absurd hlower (by decide +kernel)

/-- The rule and the new symptom are accepted, each with all that it brings, and the symptom whose
identifier is taken is not. -/
theorem submit_accepts_iff_wornFan :
    grindingEngine.store.TakesRecords ∧
      (Request.rule wornFanRequest).IsAcceptable grindingEngine.merged ∧
      (Request.symptom burningRequest).IsAcceptable grindingEngine.merged ∧
      (∃ record e', grindingEngine.submit ⟨5, 0⟩ (.rule wornFanRequest) = (.ok record, e') ∧
        e'.merged = { grindingEngine.merged with
          rules := [⟨.ofList ["fan", "no_power"], ∅, "The fan of the power supply is worn", .user⟩]
          clues := [⟨"fan", "The fan of the power supply is worn", 7.5, .user⟩,
            ⟨"no_power", "The fan of the power supply is worn", 7.5, .user⟩] }) ∧
      (∃ record e', grindingEngine.submit ⟨5, 0⟩ (.symptom burningRequest) = (.ok record, e') ∧
        e'.merged = { grindingEngine.merged with
          symptoms := [⟨"no_power", "PC does not power on", .hardware, .shipped⟩,
            ⟨"fan", "Fan makes a grinding noise", .hardware, .user⟩,
            ⟨"user_burning_smell", "Burning smell!", .hardware, .user⟩] }) ∧
      ¬∃ record e',
        grindingEngine.submit ⟨5, 0⟩ (.symptom secondFanRequest) = (.ok record, e') := by
  have hstore : grindingEngine.store.TakesRecords := Store.takesRecords_memory rfl
  have hrule := submit_accepts_iff hstore ⟨5, 0⟩ (.rule wornFanRequest)
  have hnew := submit_accepts_iff hstore ⟨5, 0⟩ (.symptom burningRequest)
  have htaken := submit_accepts_iff hstore ⟨5, 0⟩ (.symptom secondFanRequest)
  have hacceptable : (Request.rule wornFanRequest).IsAcceptable grindingEngine.merged := by
    refine ⟨by decide +kernel, ⟨"fan", by decide +kernel⟩, by decide +kernel, ?_,
      by decide +kernel⟩
    intro w hw
    obtain rfl : (7.5 : Float) = w := Option.some.inj hw
    decide +kernel
  have hacceptable' : (Request.symptom burningRequest).IsAcceptable grindingEngine.merged :=
    ⟨by decide +kernel, ⟨.hardware, _, rfl, by decide +kernel⟩, fun _ => ⟨'B', by decide +kernel⟩,
      by decide +kernel⟩
  obtain ⟨record, e₁, haccepted⟩ := hrule.1.mpr hacceptable
  obtain ⟨-, hasks, hgains⟩ := hrule.2 record e₁ haccepted
  obtain ⟨record', e₂, haccepted'⟩ := hnew.1.mpr hacceptable'
  obtain ⟨-, hasks', hgains'⟩ := hnew.2 record' e₂ haccepted'
  refine ⟨hstore, hacceptable, hacceptable', ⟨record, e₁, haccepted, ?_⟩,
    ⟨record', e₂, haccepted', ?_⟩, ?_⟩
  · rw [KnowledgeBase.gains_iff.mp hgains, hasks]
    decide +kernel
  · rw [KnowledgeBase.gains_iff.mp hgains', asksFor_burningRequest hasks']
    rfl
  · rw [htaken.1]
    intro h
    have hfresh : "fan" ∉ grindingEngine.merged.ids := by
      have hid : secondFanRequest.wantedId = "fan" := by decide +kernel
      rw [← hid]
      exact h.fresh
    exact hfresh (by decide +kernel)

end Engine

end FaultDiagnosis
