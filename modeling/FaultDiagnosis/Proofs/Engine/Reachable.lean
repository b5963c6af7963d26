import FaultDiagnosis.Proofs.Engine.Restart
import FaultDiagnosis.Proofs.Engine.Soundness
import FaultDiagnosis.Proofs.Knowledge.WellFormed
import FaultDiagnosis.Proofs.Knowledge.Written

/-!
# Engines that can be reached

An engine can be reached from a store if it was loaded from it and went on by any actions: calls,
refusals and restarts (`FaultDiagnosis.Engine.ReachableFrom`). However long it lives, its repository
has come about in one way. There is shipped knowledge in the beginning, which passed its check, and
contributions were added one by one, each of which fitted when it was added
(`FaultDiagnosis.Engine.ReachableFrom.exists_grownFrom`). A restart does not disturb this, because
the replay of a log adds contributions in the same way.

So what holds of the knowledge of a reachable engine is shown for shipped knowledge and for one
contribution. What it knows is always closed (`FaultDiagnosis.Engine.ReachableFrom.isClosed`). It is
sound if what the store ships comes from a document
(`FaultDiagnosis.Engine.ReachableFrom.isSound`); a store in memory could ship rules and clues that
were never checked.
-/

namespace FaultDiagnosis

variable {W : Type} [Weight W] [WeightNotation W]

/-! ### Documented knowledge -/

/-- **Documented knowledge** was read from a document. -/
def KnowledgeBase.IsDocumented (kb : KnowledgeBase W) : Prop :=
  ∃ text path, parseDocument text path = .ok kb

/-- Documented knowledge is well made. -/
theorem KnowledgeBase.IsDocumented.isWellMade {kb : KnowledgeBase W} (h : kb.IsDocumented) :
    kb.IsWellMade := by
  obtain ⟨text, path, hparse⟩ := h
  exact isWellMade_of_parseDocument hparse

/-- The knowledge of a document is documented, by the text that the document is written as. -/
theorem Document.isDocumented_knowledge {d : Document W}
    (h : ∀ e ∈ d.clues, WeightNotation.ReadsBack e.weight) {kb : KnowledgeBase W}
    (hkb : d.knowledge = .ok kb) : kb.IsDocumented :=
  ⟨d.toJson.compact, "knowledge.json", (parseDocument_toJson h _).trans hkb⟩

namespace Store

/-- **A documented store** ships nothing but documented knowledge. -/
def IsDocumented (store : Store W) : Prop :=
  ∀ kb, store.knowledge = .ok kb → kb.IsDocumented

/-- Files have no other way to ship knowledge than by a document. -/
theorem isDocumented_files (s : FileStore) : (files s : Store W).IsDocumented := by
  intro kb hkb
  rw [knowledge, FileStore.knowledge] at hkb
  split at hkb
  · cases hkb
  · cases hkb
  · rename_i text _
    exact ⟨text, s.documentPath, hkb⟩

/-- A store in memory ships the knowledge that it was given. -/
theorem isDocumented_memory {s : MemoryStore W} (h : s.knowledge.IsDocumented) :
    (memory s).IsDocumented := by
  intro kb hkb
  obtain rfl : s.knowledge = kb := Except.ok.inj hkb
  exact h

variable {store store' : Store W}

/-- Storing a record does not turn a document into something else. -/
theorem IsDocumented.attempt (h : store.IsDocumented) {record : Record W}
    {answer : Except StorageFault Unit} (hattempt : store.attempt record = (answer, store')) :
    store'.IsDocumented := by
  cases store with
  | files s =>
    obtain ⟨s', -, rfl⟩ := exists_of_attempt_files hattempt
    exact isDocumented_files s'
  | memory s =>
    cases answer with
    | error fault =>
      rw [eq_of_attempt_memory hattempt]
      exact h
    | ok u =>
      obtain ⟨-, rfl⟩ := attempt_memory_eq_ok_iff.mp hattempt
      exact h

theorem IsDocumented.setRefusing (h : store.IsDocumented) (on : Bool) :
    (store.setRefusing on).IsDocumented := by
  cases store with
  | files s => exact isDocumented_files s
  | memory s => exact h

end Store

/-! ### Reachable engines -/

namespace Engine

/-- **An engine that can be reached from a store.** -/
inductive ReachableFrom (store : Store W) : Engine W → Prop
  /-- It was loaded, with any settings. -/
  | load {settings : InferenceSettings W} {e : Engine W} (h : load store settings = .ok e) :
    ReachableFrom store e
  /-- It is what an action made of a reachable one. -/
  | act {e e' : Engine W} {action : Action W} (h : ReachableFrom store e)
    (hact : e.act action = .ok e') : ReachableFrom store e'

variable {store : Store W} {e e' : Engine W}

/-- **What an action can do**: it is a call that is accepted or one that is turned away, or it only
tells the store something, or it loads the store again. -/
theorem act_cases {action : Action W} (h : e.act action = .ok e') :
    (∃ record, e.Accepts record e') ∨ e.TurnsAway e' ∨
      (e'.repository = e.repository ∧ ∃ on, e'.store = e.store.setRefusing on) ∨
      Engine.load e.store e.settings = .ok e' := by
  cases action with
  | call call =>
    obtain rfl := Except.ok.inj h
    rcases e.afterCall_cases call with ⟨-, ht⟩ | ⟨record, -, ha⟩
    · exact Or.inr (Or.inl ht)
    · exact Or.inl ⟨record, ha⟩
  | refuse on =>
    obtain rfl := Except.ok.inj h
    exact Or.inr (Or.inr (Or.inl ⟨rfl, on, rfl⟩))
  | restart => exact Or.inr (Or.inr (Or.inr h))

namespace ReachableFrom

/-- What is done to an engine leaves its store documented. -/
theorem isDocumented (h : ReachableFrom store e) (hstore : store.IsDocumented) :
    e.store.IsDocumented := by
  induction h with
  | load h =>
    rw [(load_eq_ok_iff.mp h).2.1]
    exact hstore
  | act _ hact ih =>
    rcases act_cases hact with ⟨record, ha⟩ | ht | ⟨-, on, hon⟩ | hload
    · exact ih.attempt ha.stored
    · rcases ht.store with heq | ⟨record, fault, hattempt⟩
      · rw [heq]
        exact ih
      · exact ih.attempt hattempt
    · rw [hon]
      exact ih.setRefusing on
    · rw [(load_eq_ok_iff.mp hload).2.1]
      exact ih

/-- **Every repository of a reachable engine is a grown one.** What it has grown from is documented
if the store is. -/
theorem exists_grownFrom (h : ReachableFrom store e) :
    ∃ kb, Repository.GrownFrom kb e.repository ∧ (store.IsDocumented → kb.IsDocumented) := by
  induction h with
  | load h =>
    obtain ⟨kb, hkb, hgrown⟩ := Repository.exists_grownFrom_of_load (load_eq_ok_iff.mp h).1
    exact ⟨kb, hgrown, fun hstore => hstore kb hkb⟩
  | @act e e' action h hact ih =>
    obtain ⟨kb, hgrown, hdocumented⟩ := ih
    rcases act_cases hact with ⟨record, ha⟩ | ht | ⟨hsame, -⟩ | hload
    · obtain ⟨hfits, hadded⟩ := ha.added_asUser
      rw [hadded]
      exact ⟨kb, hgrown.add hfits, hdocumented⟩
    · rw [ht.repository]
      exact ⟨kb, hgrown, hdocumented⟩
    · rw [hsame]
      exact ⟨kb, hgrown, hdocumented⟩
    · -- the log may have changed what the store ships, if it is the document at the same time
      obtain ⟨kb', hkb', hgrown'⟩ :=
        Repository.exists_grownFrom_of_load (load_eq_ok_iff.mp hload).1
      exact ⟨kb', hgrown', fun hstore => h.isDocumented hstore kb' hkb'⟩

/-- **What a reachable engine knows is closed**, whatever its store ships. -/
theorem isClosed (h : ReachableFrom store e) : e.merged.IsClosed := by
  obtain ⟨kb, hgrown, -⟩ := h.exists_grownFrom
  exact hgrown.isClosed

/-- **What a reachable engine knows is sound**, if its store is documented. -/
theorem isSound (h : ReachableFrom store e) (hstore : store.IsDocumented) :
    e.repository.IsSound := by
  obtain ⟨kb, hgrown, hdocumented⟩ := h.exists_grownFrom
  exact hgrown.isSound (hdocumented hstore).isWellMade

end ReachableFrom

/-! ### A reachable engine -/

theorem isDocumented_quietFanKnowledge : quietFanKnowledge.IsDocumented :=
  ⟨quietFanText, "knowledge.json", parseDocument_quietFanText⟩

/-- A store that ships the knowledge of a document and holds the record of a rule with a clue. -/
def hummingStore : Store Float :=
  .memory
    { knowledge := quietFanKnowledge
      records := [⟨⟨0, 0⟩, .rule ⟨.ofList ["hum"], ∅, "The fan bearing is worn out", .user⟩
        [⟨"hum", "The fan bearing is worn out", 12, .user⟩]⟩] }

/-- The engine of that store. -/
def hummingEngine : Engine Float where
  store := hummingStore
  repository :=
    { shipped := quietFanKnowledge
      user :=
        { rules := [⟨.ofList ["hum"], ∅, "The fan bearing is worn out", .user⟩]
          clues := [⟨"hum", "The fan bearing is worn out", 12, .user⟩] } }
  settings := lenientSettings

theorem reachableFrom_hummingEngine : ReachableFrom hummingStore hummingEngine := by
  have hload : Engine.load hummingStore lenientSettings = .ok hummingEngine := rfl
  exact .load hload

theorem isDocumented_hummingStore : hummingStore.IsDocumented :=
  Store.isDocumented_memory isDocumented_quietFanKnowledge

end Engine

end FaultDiagnosis
