import FaultDiagnosis.Proofs.Engine.Run
import FaultDiagnosis.Proofs.Knowledge.WellMade

/-!
# What an engine knows is sound

Knowledge enters an engine by three doors: the shipped document, the records in its store, and the
calls made while it runs. Each has a check of its own, and the records in the store were written by
nobody knows whom. `FaultDiagnosis.Repository.IsSound` is what all of them together guarantee of the
knowledge that inference works with, and it is an invariant: it holds when the engine is loaded, and
every accepted contribution keeps it.

The clauses about references cannot be split between the two parts of a repository, because
contributions mention shipped symptoms and must not repeat their identifiers. So closure is stated
of the merged knowledge, and only what is a matter of single items is stated of the parts.

Alongside goes `FaultDiagnosis.Repository.Extends`: a repository only ever grows at the end of its
user part.
-/

namespace FaultDiagnosis

open Outcome

variable {W : Type}

/-! ### Where items come from, and how they are worded -/

namespace KnowledgeBase

/-- All items that carry an origin carry the given one. -/
def IsOf (kb : KnowledgeBase W) (origin : Origin) : Prop :=
  kb.Each (·.origin = origin) (·.origin = origin) (·.origin = origin)

/-- Labels have at least ten characters and the diagnoses of rules and clues at least twenty, not
counting blanks at their ends. -/
def IsWorded (kb : KnowledgeBase W) : Prop :=
  kb.Each (fun s => 10 ≤ trimmedLength s.label) (fun r => 20 ≤ trimmedLength r.diagnosis)
    fun c => 20 ≤ trimmedLength c.diagnosis

/-- Whatever origins a knowledge base claims, its shipped form has only the one. -/
theorem isOf_asShipped (kb : KnowledgeBase W) : kb.asShipped.IsOf .shipped := by
  refine ⟨fun s hs => ?_, fun r hr => ?_, fun c hc => ?_⟩
  · obtain ⟨_, -, rfl⟩ := List.mem_map.mp hs
    rfl
  · obtain ⟨_, -, rfl⟩ := List.mem_map.mp hr
    rfl
  · obtain ⟨_, -, rfl⟩ := List.mem_map.mp hc
    rfl

/-- A contribution as a user's has only items of users. -/
theorem IsOf.add {kb : KnowledgeBase W} (h : kb.IsOf .user) (item : Contribution W) :
    (kb.add item.asUser).IsOf .user := by
  refine Each.add h ?_
  cases item with
  | symptom s => rfl
  | rule r cs =>
    refine ⟨rfl, fun c hc => ?_⟩
    obtain ⟨_, -, rfl⟩ := List.mem_map.mp hc
    rfl

theorem IsWorded.add [Weight W] {kb kb' : KnowledgeBase W} (h : kb.IsWorded)
    {item : Contribution W} (hf : item.Fits kb') : (kb.add item).IsWorded := by
  refine Each.add h ?_
  cases item with
  | symptom s => exact hf.labelled
  | rule r cs => exact ⟨hf.1.diagnosed, fun c hc => (hf.2 c hc).diagnosed⟩

end KnowledgeBase

namespace Repository

/-! ### Growth -/

/-- **A later state of a repository**: the shipped part is the same, and the lists of the user part
go on from where they were. -/
structure Extends (r' r : Repository W) : Prop where
  shipped : r'.shipped = r.shipped
  symptoms : r.user.symptoms <+: r'.user.symptoms
  rules : r.user.rules <+: r'.user.rules
  clues : r.user.clues <+: r'.user.clues

theorem Extends.refl (r : Repository W) : r.Extends r :=
  ⟨rfl, List.prefix_rfl, List.prefix_rfl, List.prefix_rfl⟩

/-- A contribution goes to the end of the user part. -/
theorem Extends.add {r r' : Repository W} (h : r'.Extends r) (item : Contribution W) :
    (r'.add item).Extends r := by
  cases item with
  | symptom s => exact ⟨h.shipped, h.symptoms.trans (List.prefix_append _ _), h.rules, h.clues⟩
  | rule x cs =>
    exact ⟨h.shipped, h.symptoms, h.rules.trans (List.prefix_append _ _),
      h.clues.trans (List.prefix_append _ _)⟩

/-! ### Sound repositories -/

variable [Weight W]

/-- **A sound repository.** What it knows is closed and well made as a whole, the two parts consist
of what they say they do, and users have said enough about what they added. -/
structure IsSound (r : Repository W) : Prop where
  closed : r.merged.IsClosed
  wellMade : r.merged.IsWellMade
  shipped : r.shipped.IsOf .shipped
  user : r.user.IsOf .user
  worded : r.user.IsWorded

/-- Shipped knowledge that is closed and well made makes a sound repository. -/
theorem isSound_ofShipped {kb : KnowledgeBase W} {r : Repository W} (hkb : kb.IsWellMade)
    (h : ofShipped kb = .ok r) : r.IsSound := by
  obtain ⟨hclosed, rfl⟩ := ofShipped_eq_ok_iff.mp h
  have hmerged : merged { shipped := kb.asShipped, user := ∅ } = kb.asShipped :=
    KnowledgeBase.append_empty _
  refine ⟨?_, ?_, kb.isOf_asShipped, KnowledgeBase.each_empty, KnowledgeBase.each_empty⟩
  · rw [hmerged]
    exact hclosed
  · rw [hmerged]
    exact hkb.asShipped

/-- **The step**: a contribution that fits keeps a repository sound. -/
theorem IsSound.add {r : Repository W} (h : r.IsSound) {item : Contribution W}
    (hf : item.asUser.Fits r.merged) : (r.add item.asUser).IsSound where
  closed := by
    rw [merged_add]
    exact h.closed.add hf
  wellMade := by
    rw [merged_add]
    exact h.wellMade.add hf
  shipped := h.shipped
  user := h.user.add item
  worded := h.worded.add hf

/-! ### Grown repositories -/

/-- **A repository grown from shipped knowledge**: contributions were added to it one by one, and
each of them fitted. -/
inductive GrownFrom (kb : KnowledgeBase W) : Repository W → Prop
  | shipped {r : Repository W} (h : ofShipped kb = .ok r) : GrownFrom kb r
  | add {r : Repository W} {item : Contribution W} (h : GrownFrom kb r)
    (hfits : item.asUser.Fits r.merged) : GrownFrom kb (r.add item.asUser)

variable {kb : KnowledgeBase W} {r : Repository W}

theorem GrownFrom.isClosed (h : GrownFrom kb r) : r.merged.IsClosed := by
  induction h with
  | shipped h =>
    obtain ⟨hclosed, rfl⟩ := ofShipped_eq_ok_iff.mp h
    rw [merged, KnowledgeBase.append_empty]
    exact hclosed
  | add _ hfits ih =>
    rw [merged_add]
    exact ih.add hfits

theorem GrownFrom.isSound (h : GrownFrom kb r) (hkb : kb.IsWellMade) : r.IsSound := by
  induction h with
  | shipped h => exact isSound_ofShipped hkb h
  | add _ hfits ih => exact ih.add hfits

variable [WeightNotation W] {store : Store W}

/-- Loading a store is growing: each record that fits is added, and the others are passed over. -/
theorem exists_grownFrom_of_load (h : load store = .ok r) :
    ∃ kb, store.knowledge = .ok kb ∧ GrownFrom kb r := by
  obtain ⟨kb, r₀, records, hkb, hr₀, -, rfl⟩ := load_eq_ok_iff.mp h
  exact ⟨kb, hkb, replay_induction (fun _ _ hr hfits => hr.add hfits) (.shipped hr₀) records⟩

/-- However the records of a store came about, replaying them is sound. -/
theorem isSound_of_load (hkb : kb.IsWellMade) (hstore : store.knowledge = .ok kb)
    (h : load store = .ok r) : r.IsSound := by
  obtain ⟨kb', hkb', hgrown⟩ := exists_grownFrom_of_load h
  obtain rfl : kb = kb' := Except.ok.inj (hstore.symm.trans hkb')
  exact hgrown.isSound hkb

end Repository

/-! ### Reachable engines -/

namespace Engine

variable [Weight W] [WeightNotation W]

theorem isSound_afterCalls_of_isSound {e : Engine W} (h : e.repository.IsSound)
    (calls : List (Call W)) : (e.afterCalls calls).repository.IsSound := by
  refine afterCalls_induction (P := fun e => e.repository.IsSound) ?_ ?_ h calls
  · intro e record e' h ha
    obtain ⟨hfits, hadded⟩ := ha.added_asUser
    rw [hadded]
    exact h.add hfits
  · intro e e' h ht
    rw [ht.repository]
    exact h

theorem extends_afterCalls (e : Engine W) (calls : List (Call W)) :
    (e.afterCalls calls).repository.Extends e.repository := by
  refine afterCalls_induction (P := fun e' => e'.repository.Extends e.repository) ?_ ?_
    (.refl e.repository) calls
  · intro e₁ record e₂ h ha
    rw [ha.added]
    exact h.add record.item
  · intro e₁ e₂ h ht
    rw [ht.repository]
    exact h

/-- **Every reachable engine is sound.** An engine is loaded from a store whose knowledge is that of
a document, with any records. After any sequence of calls, what it knows passes the check of the
shipped knowledge and is sound; the shipped part is the one that was loaded, and whatever is called
next, the lists of the user part stay at the front of what they become. -/
theorem isSound_afterCalls {store : Store W} {kb : KnowledgeBase W} {text path : String}
    (hdocument : parseDocument text path = .ok kb) (hstore : store.knowledge = .ok kb)
    {settings : InferenceSettings W} {e : Engine W} (hload : load store settings = .ok e)
    (calls more : List (Call W)) :
    (e.afterCalls calls).merged.checkReferences = .ok () ∧
      (e.afterCalls calls).repository.IsSound ∧
      (e.afterCalls calls).repository.shipped = kb.asShipped ∧
      (e.afterCalls (calls ++ more)).repository.Extends (e.afterCalls calls).repository := by
  have hr := (load_eq_ok_iff.mp hload).1
  have hsound : (e.afterCalls calls).repository.IsSound :=
    isSound_afterCalls_of_isSound (Repository.isSound_of_load
      (KnowledgeBase.isWellMade_of_parseDocument hdocument) hstore hr) calls
  refine ⟨KnowledgeBase.checkReferences_eq_ok_iff.mpr hsound.closed, hsound, ?_, ?_⟩
  · rw [(extends_afterCalls e calls).shipped]
    exact Repository.shipped_of_load hstore hr
  · rw [afterCalls_append]
    exact extends_afterCalls _ more

/-! ### A reachable engine -/

/-- A document with one symptom and one rule. -/
def fanDocument : String :=
  "\x7b\"symptoms\":[\x7b\"id\":\"fan\",\"label\":\"Loud fan\",\"category\":\"Hardware\"\x7d]," ++
  "\"rules\":[\x7b\"diagnosis\":\"Worn fan\",\"conditions\":[\"fan\"]\x7d]\x7d"

/-- The knowledge in it. -/
def fanKnowledge : KnowledgeBase Float where
  symptoms := [⟨"fan", "Loud fan", .hardware, .shipped⟩]
  rules := [⟨.ofList ["fan"], ∅, "Worn fan", .shipped⟩]

/-- A store with that knowledge and the record of a symptom that calls itself shipped. -/
def fanStore : Store Float :=
  .memory
    { knowledge := fanKnowledge
      records := [⟨⟨0, 0⟩, .symptom ⟨"smell", "Smell of burning plastic", .hardware, .shipped⟩⟩] }

/-- Rules only, and symptoms may be left over. -/
def lenientSettings : InferenceSettings Float :=
  { defaultStrategy := .rules, threshold := 10, fullCoverage := false }

/-- The engine of that store. -/
def fanEngine : Engine Float where
  store := fanStore
  repository :=
    { shipped := fanKnowledge
      user := { symptoms := [⟨"smell", "Smell of burning plastic", .hardware, .user⟩] } }
  settings := lenientSettings

/-- A contribution that is accepted, and one that is turned away. -/
def fanCalls : List (Call Float) :=
  [.contribute ⟨1, 0⟩ (.rule ⟨.ofList ["fan", "smell"], ∅, "The fan motor is burning out", .shipped⟩
      []),
    .contribute ⟨2, 0⟩ (.symptom ⟨"fan", "The fan again, by another user", .hardware, .user⟩)]

theorem isSound_afterCalls_fan :
    parseDocument fanDocument "knowledge.json" = .ok fanKnowledge ∧
      fanStore.knowledge = .ok fanKnowledge ∧ load fanStore lenientSettings = .ok fanEngine ∧
      (fanEngine.afterCalls fanCalls).merged.checkReferences = .ok () ∧
      (fanEngine.afterCalls fanCalls).repository.IsSound ∧
      (fanEngine.afterCalls fanCalls).repository.shipped = fanKnowledge.asShipped ∧
      (fanEngine.afterCalls (fanCalls ++ fanCalls)).repository.Extends
        (fanEngine.afterCalls fanCalls).repository := by
  have hdocument : parseDocument fanDocument "knowledge.json" = .ok fanKnowledge := by
    decide +kernel
  have hstore : fanStore.knowledge = .ok fanKnowledge := rfl
  have hload : load fanStore lenientSettings = .ok fanEngine := by rfl
  exact ⟨hdocument, hstore, hload, isSound_afterCalls hdocument hstore hload fanCalls fanCalls⟩

end Engine

end FaultDiagnosis
