import FaultDiagnosis.Proofs.Engine.Run

/-!
# Restarts lose nothing

The running engine and the store are two records of the same history. The engine adds each accepted
contribution to what it knows, and the store receives its record; when the engine is loaded again,
it starts from the shipped knowledge and replays every record that the store holds, checking each
one against what is known by then. This file shows that for a store in memory the two never
disagree, whatever the store held at the beginning and whatever happens afterwards.

The invariant is `FaultDiagnosis.Engine.IsCurrent`: loading the store now would give exactly the
repository that the engine has. An accepted contribution keeps it because it was checked against the
very knowledge that the replay will have reached when it comes to its record
(`FaultDiagnosis.Repository.load_of_append`). Records in the store that do not fit are passed over
by every replay alike, so they do no harm.
-/

namespace FaultDiagnosis

open Outcome

variable {W : Type} [WeightNotation W]

/-- A store in memory takes a record at the end, unless it refuses. -/
theorem Store.attempt_memory_eq_ok_iff {s : MemoryStore W} {record : Record W} {store : Store W} :
    (Store.memory s).attempt record = (.ok (), store) ↔
      s.refusing = false ∧ store = .memory { s with records := s.records ++ [record] } := by
  cases h : s.refusing with
  | true => simp [attempt, h]
  | false =>
    simp only [attempt, h, Bool.false_eq_true, if_false, Prod.mk.injEq, true_and]
    exact eq_comm

/-- A store in memory that does not take a record stays as it is. -/
theorem Store.eq_of_attempt_memory {s : MemoryStore W} {record : Record W} {fault : StorageFault}
    {store : Store W} (h : (Store.memory s).attempt record = (.error fault, store)) :
    store = .memory s := by
  rw [attempt] at h
  split at h
  · exact (Prod.mk.inj h).2.symm
  · cases h

/-- An attempt of a store in files is one of the files. -/
theorem Store.exists_of_attempt_files {s : FileStore} {record : Record W}
    {answer : Except StorageFault Unit} {store : Store W}
    (h : (Store.files s).attempt record = (answer, store)) :
    ∃ s', s.attempt record = (answer, s') ∧ store = .files s' := by
  rcases hattempt : s.attempt record with ⟨answer', s'⟩
  rw [attempt, hattempt] at h
  obtain ⟨rfl, rfl⟩ := Prod.mk.inj h
  exact ⟨s', rfl, rfl⟩

/-- With a store in memory, the record of an accepted call stands at the end of the records. -/
theorem Engine.Accepts.store_of_memory [Weight W] {e e' : Engine W} {record : Record W}
    {s : MemoryStore W} (h : e.Accepts record e') (hs : e.store = .memory s) :
    e'.store = .memory { s with records := s.records ++ [record] } := by
  have hstored := h.stored
  rw [hs] at hstored
  exact (Store.attempt_memory_eq_ok_iff.mp hstored).2

/-- With a store in memory, a call that is turned away leaves nothing behind. -/
theorem Engine.TurnsAway.eq_of_memory {e e' : Engine W} {s : MemoryStore W} (h : e.TurnsAway e')
    (hs : e.store = .memory s) : e' = e := by
  have hstore : e'.store = e.store := by
    rcases h.store with heq | ⟨record, fault, hattempt⟩
    · exact heq
    · rw [hs] at hattempt ⊢
      exact Store.eq_of_attempt_memory hattempt
  obtain ⟨store, repository, settings⟩ := e
  obtain ⟨store', repository', settings'⟩ := e'
  exact Engine.mk.injEq .. ▸ ⟨hstore, h.repository, h.settings⟩

namespace Engine

variable [Weight W]

/-- **The engine is what its store would load**: the store is in memory, holds the given knowledge
and records, and loading it gives the repository that the engine has. -/
structure IsCurrent (e : Engine W) (knowledge : KnowledgeBase W) (records : List (Record W)) :
    Prop where
  store : ∃ refusing, e.store = .memory { knowledge, records, refusing }
  loaded : Repository.load e.store = .ok e.repository

variable {e : Engine W} {knowledge : KnowledgeBase W} {records : List (Record W)}

/-- An accepted contribution is stored and added, and the store would load it. -/
theorem IsCurrent.accept (h : e.IsCurrent knowledge records) {record : Record W} {e' : Engine W}
    (ha : e.Accepts record e') : e'.IsCurrent knowledge (records ++ [record]) := by
  obtain ⟨refusing, hs⟩ := h.store
  -- what was stored is a user's contribution already, so the replay vets the very same
  have hs' := ha.store_of_memory hs
  refine ⟨⟨refusing, hs'⟩, ?_⟩
  obtain ⟨hf, hadded⟩ := ha.added_asUser
  rw [hadded]
  have hrecords : e.store.records = .ok records := by
    rw [hs]
    rfl
  refine Repository.load_of_append h.loaded hrecords ?_ ?_ hf
  · rw [hs, hs']
    rfl
  · rw [hs']
    rfl

/-- **One action keeps the engine and its store together**, and the store gains exactly the records
that the action adds. -/
theorem IsCurrent.act (h : e.IsCurrent knowledge records) (action : Action W) :
    ∃ e', e.act action = .ok e' ∧ e'.IsCurrent knowledge (records ++ e.addedBy action) := by
  cases action with
  | call call =>
    refine ⟨_, rfl, ?_⟩
    rcases e.afterCall_cases call with ⟨hadded, ht⟩ | ⟨record, hadded, ha⟩
    · obtain ⟨refusing, hs⟩ := h.store
      rw [addedBy, hadded, ht.eq_of_memory hs, List.append_nil]
      exact h
    · rw [addedBy, hadded]
      exact h.accept ha
  | refuse on =>
    obtain ⟨refusing, hs⟩ := h.store
    have hload := h.loaded
    rw [hs] at hload
    refine ⟨_, rfl, ⟨on, ?_⟩, ?_⟩
    · rw [hs, addedBy, List.append_nil]
      rfl
    · -- whether records are refused plays no part in loading
      rw [hs]
      exact hload
  | restart =>
    refine ⟨e, load_eq_ok_iff.mpr ⟨h.loaded, rfl, rfl⟩, ?_⟩
    rw [addedBy, List.append_nil]
    exact h

theorem IsCurrent.run (h : e.IsCurrent knowledge records) (actions : List (Action W)) :
    ∃ e' added, e.run actions = .ok (e', added) ∧
      e'.IsCurrent knowledge (records ++ added) := by
  induction actions generalizing e records with
  | nil => exact ⟨e, [], rfl, by rwa [List.append_nil]⟩
  | cons action actions ih =>
    obtain ⟨e₁, hact, h₁⟩ := h.act action
    obtain ⟨e₂, added, hrun, h₂⟩ := ih h₁
    refine ⟨e₂, e.addedBy action ++ added, ?_, by rwa [← List.append_assoc]⟩
    rw [Engine.run, hact]
    change (Engine.run e₁ actions >>= _) = _
    rw [hrun]
    rfl

/-- **A restart loses nothing, reorders nothing and brings nothing in.** An engine is loaded from a
store in memory with any knowledge that can be loaded and any records, fitting or not. After any
sequence of calls, refusals and restarts, loading the store again succeeds and gives all that the
running engine knows. Moreover the store holds what it held at first, followed by the records of the
accepted calls in their order. -/
theorem merged_load_of_run {s : MemoryStore W} {settings : InferenceSettings W} {e : Engine W}
    (hload : load (.memory s) settings = .ok e) (actions : List (Action W)) :
    ∃ e' added r, e.run actions = .ok (e', added) ∧ Repository.load e'.store = .ok r ∧
      r.merged = e'.merged ∧
      ∃ refusing, e'.store =
        .memory { knowledge := s.knowledge, records := s.records ++ added, refusing } := by
  obtain ⟨hr, hs, -⟩ := load_eq_ok_iff.mp hload
  have hcurrent : e.IsCurrent s.knowledge s.records := ⟨⟨s.refusing, hs⟩, by rw [hs, hr]⟩
  obtain ⟨e', added, hrun, h'⟩ := hcurrent.run actions
  exact ⟨e', added, e'.repository, hrun, h'.loaded, rfl, h'.store⟩

/-! ### A run -/

/-- A store that ships one symptom. Its first record has a label that is too short for any check to
let it pass; its second is sound. -/
def grindingStore : MemoryStore Float where
  knowledge := { symptoms := [⟨"no_power", "PC does not power on", .hardware, .shipped⟩] }
  records := [⟨⟨0, 0⟩, .symptom ⟨"fan", "tiny", .hardware, .user⟩⟩,
    ⟨⟨1, 0⟩, .symptom ⟨"fan", "Fan makes a grinding noise", .hardware, .shipped⟩⟩]

/-- Rules only, and no symptom may be left over. -/
def strictSettings : InferenceSettings Float :=
  { defaultStrategy := .rules, threshold := 10, fullCoverage := true }

/-- The engine of that store. -/
def grindingEngine : Engine Float where
  store := .memory grindingStore
  repository :=
    { shipped := grindingStore.knowledge
      user := { symptoms := [⟨"fan", "Fan makes a grinding noise", .hardware, .user⟩] } }
  settings := strictSettings

/-- A contribution that is accepted, one that is refused, a restart, and one that is accepted. -/
def grindingActions : List (Action Float) :=
  [.call (.contribute ⟨2, 0⟩ (.symptom ⟨"smell", "Smell of burning plastic", .hardware, .user⟩)),
    .refuse true,
    .call (.contribute ⟨3, 0⟩ (.symptom ⟨"beep", "Long beeps at power on", .hardware, .user⟩)),
    .refuse false, .restart,
    .call (.contribute ⟨4, 0⟩ (.rule ⟨.ofList ["fan"], ∅, "The fan of the power supply is worn",
      .user⟩ []))]

theorem merged_load_of_run_grinding :
    load (.memory grindingStore) strictSettings = .ok grindingEngine ∧
      ∃ e' added r, grindingEngine.run grindingActions = .ok (e', added) ∧
        Repository.load e'.store = .ok r ∧ r.merged = e'.merged ∧
        ∃ refusing, e'.store = .memory
          { knowledge := grindingStore.knowledge, records := grindingStore.records ++ added,
            refusing } := by
  have hload : load (.memory grindingStore) strictSettings = .ok grindingEngine := rfl
  exact ⟨hload, merged_load_of_run hload grindingActions⟩

end Engine

end FaultDiagnosis
