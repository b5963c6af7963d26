import FaultDiagnosis.Diagnosis.Engine
import FaultDiagnosis.Proofs.Store.Replay

/-!
# Runs of the engine

An engine lives through a sequence of *calls*, each of which asks it to add something to what is
known. One that is accepted is described by `FaultDiagnosis.Engine.Accepts`, which says everything
it does: the contribution fits, its record is stored, it is added, and nothing else changes. One
that is turned away leaves the engine as it is, but for what an attempt to store its record may have
left in the store (`FaultDiagnosis.Engine.TurnsAway`). Around the calls a store may begin or cease
to refuse records, and the engine may be loaded again; calls and these events together are the
*actions* of a run.

What is kept by both kinds of calls is kept by every sequence of calls
(`FaultDiagnosis.Engine.afterCalls_induction`). All statements about engines that can be reached go
through this one induction.
-/

namespace FaultDiagnosis

open Outcome

variable {W : Type}

/-- **A call**: what is asked of an engine, and when. -/
inductive Call (W : Type)
  /-- Adds a contribution, whatever it contains. -/
  | contribute (now : Timestamp) (item : Contribution W)
  /-- Adds what a user asks for. -/
  | submit (now : Timestamp) (request : Request W)

/-- **An action** in the life of an engine. -/
inductive Action (W : Type)
  | call (call : Call W)
  /-- From now on, the store refuses new records, or it no longer does. -/
  | refuse (on : Bool)
  /-- The engine is loaded again from its store. -/
  | restart

/-- The store, told whether to refuse new records. Files cannot be told. -/
def Store.setRefusing (on : Bool) : Store W → Store W
  | memory s => memory { s with refusing := on }
  | files s => files s

namespace Engine

variable [Weight W] [WeightNotation W]

/-! ### Calls -/

/-- The answer to a call, and the engine to go on with. -/
def answer (e : Engine W) : Call W → Except (ContributionFault W) (Record W) × Engine W
  | .contribute now item => e.contribute now item
  | .submit now request => e.submit now request

/-- The engine after a call. -/
def afterCall (e : Engine W) (call : Call W) : Engine W :=
  (e.answer call).2

/-- The records that a call adds: one if it is accepted, and none if it is not. -/
def acceptedBy (e : Engine W) (call : Call W) : List (Record W) :=
  match (e.answer call).1 with
  | .ok record => [record]
  | .error _ => []

/-- The engine after a sequence of calls. -/
def afterCalls (e : Engine W) (calls : List (Call W)) : Engine W :=
  calls.foldl afterCall e

/-- **What an accepted call does.** -/
structure Accepts (e : Engine W) (record : Record W) (e' : Engine W) : Prop where
  asUser : record.item.asUser = record.item
  fits : record.item.Fits e.merged
  stored : e.store.attempt record = (.ok (), e'.store)
  added : e'.repository = e.repository.add record.item
  settings : e'.settings = e.settings

theorem Accepts.merged_eq {e e' : Engine W} {record : Record W} (h : e.Accepts record e') :
    e'.merged = e.merged.add record.item := by
  rw [merged, h.added, Repository.merged_add]
  rfl

/-- **What is known has gained the item of the record.** -/
theorem Accepts.gains {e e' : Engine W} {record : Record W} (h : e.Accepts record e') :
    e.merged.Gains record.item e'.merged :=
  KnowledgeBase.gains_iff.mpr h.merged_eq

/-- What is added was vetted as a user's, as a replay of its record would do. -/
theorem Accepts.added_asUser {e e' : Engine W} {record : Record W} (h : e.Accepts record e') :
    record.item.asUser.Fits e.repository.merged ∧
      e'.repository = e.repository.add record.item.asUser := by
  rw [h.asUser]
  exact ⟨h.fits, h.added⟩

/-- **What a call does that is turned away.** -/
structure TurnsAway (e e' : Engine W) : Prop where
  store : e'.store = e.store ∨ ∃ record fault, e.store.attempt record = (.error fault, e'.store)
  repository : e'.repository = e.repository
  settings : e'.settings = e.settings

/-- **What contributing can do**: it is accepted or turned away. -/
theorem contribute_cases (e : Engine W) (now : Timestamp) (item : Contribution W) :
    (∃ record e', e.contribute now item = (.ok record, e') ∧ e.Accepts record e') ∨
      ∃ fault e', e.contribute now item = (.error fault, e') ∧ e.TurnsAway e' := by
  unfold contribute
  rcases e.repository.contribute_cases e.store now item with
    ⟨store, hfits, hstored, hc⟩ | ⟨fault, store, hc, hstore⟩
  · rw [hc]
    exact Or.inl ⟨_, _, rfl, item.asUser_asUser, hfits, hstored, rfl, rfl⟩
  · rw [hc]
    exact Or.inr ⟨fault, _, rfl, hstore, rfl, rfl⟩

theorem submit_of_contribution {e : Engine W} {now : Timestamp} {request : Request W}
    {item : Contribution W} (h : request.contribution = .ok item) :
    e.submit now request = e.contribute now item := by
  rw [submit, contribute, Repository.submit_of_contribution h]

theorem submit_of_defect {e : Engine W} {now : Timestamp} {request : Request W}
    {defect : Defect W} (h : request.contribution = .error defect) :
    e.submit now request = (.error (.defect defect), e) := by
  rw [submit, Repository.submit_of_defect h]

/-- **What an accepted request has done**: it gave a contribution that fits as a user's, and this is
in the record and at the end of what is known. -/
theorem of_submit_ok {e e' : Engine W} {now : Timestamp} {request : Request W} {record : Record W}
    (h : e.submit now request = (.ok record, e')) :
    ∃ item, request.contribution = .ok item ∧ item.asUser.Fits e.merged ∧
      record = ⟨now, item.asUser⟩ ∧ e'.merged = e.merged.add item.asUser := by
  cases hrequest : request.contribution with
  | error defect =>
    rw [submit_of_defect hrequest] at h
    cases h
  | ok item =>
    rw [submit_of_contribution hrequest, contribute] at h
    rcases e.repository.contribute_cases e.store now item with
      ⟨store, hfits, -, hc⟩ | ⟨fault, store, hc, -⟩
    · rw [hc] at h
      obtain ⟨hrecord, rfl⟩ := Prod.mk.inj h
      have hmerged := Repository.merged_add e.repository item.asUser
      exact ⟨item, rfl, hfits, (Except.ok.inj hrecord).symm, hmerged⟩
    · rw [hc] at h
      cases h

/-- **What the answer to a call can be**: the call is accepted or turned away. -/
theorem answer_cases (e : Engine W) (call : Call W) :
    (∃ record e', e.answer call = (.ok record, e') ∧ e.Accepts record e') ∨
      ∃ fault e', e.answer call = (.error fault, e') ∧ e.TurnsAway e' := by
  cases call with
  | contribute now item => exact e.contribute_cases now item
  | submit now request =>
    rw [answer]
    cases h : request.contribution with
    | error defect =>
      rw [submit_of_defect h]
      exact Or.inr ⟨_, e, rfl, Or.inl rfl, rfl, rfl⟩
    | ok item =>
      rw [submit_of_contribution h]
      exact e.contribute_cases now item

/-- **What a call can do**: add nothing, or what an accepted call adds. -/
theorem afterCall_cases (e : Engine W) (call : Call W) :
    (e.acceptedBy call = [] ∧ e.TurnsAway (e.afterCall call)) ∨
      ∃ record, e.acceptedBy call = [record] ∧ e.Accepts record (e.afterCall call) := by
  unfold acceptedBy afterCall
  rcases e.answer_cases call with ⟨record, e', h, ha⟩ | ⟨fault, e', h, ht⟩
  · rw [h]
    exact Or.inr ⟨record, rfl, ha⟩
  · rw [h]
    exact Or.inl ⟨rfl, ht⟩

/-- **Induction along calls**: what accepted calls and those turned away keep, every sequence of
calls keeps. -/
theorem afterCalls_induction {P : Engine W → Prop}
    (haccept : ∀ (e : Engine W) (record : Record W) (e' : Engine W), P e → e.Accepts record e' →
      P e')
    (hturn : ∀ e e' : Engine W, P e → e.TurnsAway e' → P e')
    {e : Engine W} (h : P e) (calls : List (Call W)) : P (e.afterCalls calls) := by
  -- the engine changes along the calls
  induction calls generalizing e with
  | nil => exact h
  | cons call calls ih =>
    refine ih (e := e.afterCall call) ?_
    rcases e.afterCall_cases call with ⟨-, ht⟩ | ⟨record, -, ha⟩
    · exact hturn e _ h ht
    · exact haccept e record _ h ha

theorem afterCalls_append (e : Engine W) (calls more : List (Call W)) :
    e.afterCalls (calls ++ more) = (e.afterCalls calls).afterCalls more :=
  List.foldl_append

/-! ### Actions -/

/-- The engine after an action. Only loading it again can fail. -/
def act (e : Engine W) : Action W → Except (LoadFault W) (Engine W)
  | .call call => .ok (e.afterCall call)
  | .refuse on => .ok { e with store := e.store.setRefusing on }
  | .restart => load e.store e.settings

/-- The records that an action adds. -/
def addedBy (e : Engine W) : Action W → List (Record W)
  | .call call => e.acceptedBy call
  | .refuse _ => []
  | .restart => []

/-- **A run**: the engine after a sequence of actions, and the records added on the way. -/
def run (e : Engine W) : List (Action W) → Except (LoadFault W) (Engine W × List (Record W))
  | [] => .ok (e, [])
  | action :: actions => do
    let e' ← e.act action
    let (last, records) ← run e' actions
    return (last, e.addedBy action ++ records)

theorem load_eq_ok_iff {store : Store W} {settings : InferenceSettings W} {e : Engine W} :
    load store settings = .ok e ↔
      Repository.load store = .ok e.repository ∧ e.store = store ∧ e.settings = settings := by
  obtain ⟨s, r, t⟩ := e
  simp only [load, bind_eq_ok, pure_eq_ok, Engine.mk.injEq]
  constructor
  · rintro ⟨_, hr, rfl, rfl, rfl⟩
    exact ⟨hr, rfl, rfl⟩
  · rintro ⟨hr, rfl, rfl⟩
    exact ⟨_, hr, rfl, rfl, rfl⟩

end Engine

end FaultDiagnosis
