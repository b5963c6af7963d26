import FaultDiagnosis.Proofs.Contribution.Requested
import FaultDiagnosis.Proofs.Engine.Run
import FaultDiagnosis.Proofs.Store.Log
import FaultDiagnosis.Proofs.Store.Startup

/-!
# One session or many

The service keeps one engine for all requests; the command line loads an engine for each request,
over the same files. To users this makes no difference (`FaultDiagnosis.Engine.sessions_agree`):
each request gets the same answer, and in the end the same is known and the same is in the log, but
for the times at which the requests were made.

What is decided about a request depends on the repository alone
(`FaultDiagnosis.Repository.judge`), and the repository that is loaded from a log depends on the
items in it alone. So it is enough that the running engine and its log never part. This is
`FaultDiagnosis.Engine.Keeps`, and storing a record keeps it because the record is read back and the
log ends cleanly each time (`FaultDiagnosis.FileStore.Serves.attempt`).
-/

namespace FaultDiagnosis

open Outcome

variable {W : Type}

/-- **A visit**: a request, and when it is made. -/
structure Visit (W : Type) where
  now : Timestamp
  request : Request W

section Sessions

variable [Weight W] [WeightNotation W]

/-- **One session**: an engine takes one request after the other. Gives the answers, and the engine
in the end. -/
def Engine.session (e : Engine W) :
    List (Visit W) → List (Except (ContributionFault W) (Record W)) × Engine W
  | [] => ([], e)
  | v :: vs =>
    let (answer, e) := e.submit v.now v.request
    let (answers, e) := Engine.session e vs
    (answer :: answers, e)

/-- **A session for each request**: an engine is loaded, takes the request, and is given up. Gives
the answers, and the store in the end. -/
def Store.sessions (settings : InferenceSettings W) (store : Store W) :
    List (Visit W) → Except (LoadFault W) (List (Except (ContributionFault W) (Record W)) × Store W)
  | [] => .ok ([], store)
  | v :: vs => do
    let e ← Engine.load store settings
    let (answer, e) := e.submit v.now v.request
    let (answers, store) ← Store.sessions settings e.store vs
    return (answer :: answers, store)

theorem Store.sessions_cons {settings : InferenceSettings W} {store store' : Store W} {e : Engine W}
    {v : Visit W} {vs : List (Visit W)} {answers : List (Except (ContributionFault W) (Record W))}
    (hload : Engine.load store settings = .ok e)
    (hrest : Store.sessions settings (e.submit v.now v.request).2.store vs =
      .ok (answers, store')) :
    Store.sessions settings store (v :: vs) =
      .ok ((e.submit v.now v.request).1 :: answers, store') := by
  simp only [Store.sessions, bind_eq_ok, pure_eq_ok]
  exact ⟨e, hload, _, hrest, rfl⟩

/-- **A visit whose record is read back**: so are its time, and the weight it asks for if that is
one that a clue can have. -/
structure Visit.ReadsBack (v : Visit W) : Prop where
  time : Timestamp.parse v.now.text = some v.now
  weight : ∀ w, v.request.weight? = some w → Weight.isPositive w = true →
    WeightNotation.ReadsBack w

end Sessions

namespace Repository

variable [Weight W]

/-- Replaying is a matter of the items alone. -/
theorem foldl_replay_eq (r : Repository W) (records : List (Record W)) :
    records.foldl replay r = (records.map Record.item).foldl
      (fun r item => match r.vet item with
        | .ok item => r.add item
        | .error _ => r) r := by
  rw [List.foldl_map]
  rfl

end Repository

/-! ### A log that serves -/

namespace FileStore

variable [Weight W] [WeightNotation W] {s s' : FileStore} {path : String} {kb : KnowledgeBase W}
  {records : List (Record W)}

/-- **A store that serves**: its document gives the knowledge, its log is another file, has the
records and ends cleanly, and more records can be stored. -/
structure Serves (s : FileStore) (path : String) (kb : KnowledgeBase W)
    (records : List (Record W)) : Prop where
  knowledge : s.knowledge = .ok kb
  apart : FileTree.placeOf s.documentPath ≠ FileTree.placeOf path
  log : ∃ text, s.HasLog path text ∧ Log.EndsClean text ∧ Log.records text = records
  writable : ∀ r : Record W, ∃ s', s.attempt r = (.ok (), s')

/-- **A store that has no log yet**: there is a path for one, but nothing is there. -/
structure LacksLog (s : FileStore) (path : String) : Prop where
  logPath : s.logPath = some path
  absent : s.tree.find path = .absent
  nothing : s.tree.node? (FileTree.placeOf path) = none

/-- Knowledge comes from a document that is there. -/
theorem exists_find_of_knowledge (h : s.knowledge = .ok kb) :
    ∃ content, s.tree.find s.documentPath = .file content := by
  rw [knowledge, FileTree.readText] at h
  cases hfind : s.tree.find s.documentPath with
  | file content => exact ⟨content, rfl⟩
  | absent =>
    rw [hfind] at h
    cases h
  | blocked =>
    rw [hfind] at h
    cases h
  | directory =>
    rw [hfind] at h
    cases h

/-- A store without a log serves if a record can be stored. -/
theorem LacksLog.serves (h : s.LacksLog path) (hknowledge : s.knowledge = .ok kb)
    (hwritable : ∀ r : Record W, ∃ s', s.attempt r = (.ok (), s')) : s.Serves path kb [] := by
  obtain ⟨content, hdocument⟩ := exists_find_of_knowledge hknowledge
  refine ⟨hknowledge, fun hsame => ?_, ⟨"", ⟨h.logPath, .missing h.absent h.nothing⟩, ?_, rfl⟩,
    hwritable⟩
  · -- where the document is, there is something
    have hnode := (FileTree.find_eq_file_iff.mp hdocument).2.2
    rw [hsame, h.nothing] at hnode
    cases hnode
  · exact fun c hc => absurd hc List.not_mem_nil

/-- **The step**: a record that is read back is stored, and the store goes on serving. -/
theorem Serves.attempt (h : s.Serves path kb records) {r : Record W} (hr : r.ReadsBack) :
    ∃ s', s.attempt r = (.ok (), s') ∧ s'.Serves path kb (records ++ [r]) := by
  obtain ⟨s', hattempt⟩ := h.writable r
  obtain ⟨text, hlog, hclean, rfl⟩ := h.log
  obtain ⟨content, hdocument⟩ := exists_find_of_knowledge h.knowledge
  obtain ⟨hsame, hdocument'⟩ :=
    find_documentPath_of_attempt hlog.logPath hattempt hdocument h.apart
  refine ⟨s', hattempt, ?_, ?_, ⟨_, hlog.attempt hattempt, Log.endsClean_append_entry text r,
    Log.records_append_entry_of_endsClean hclean hr⟩,
    exists_attempt_of_attempt hlog.logPath hattempt⟩
  · rw [hsame] at hdocument'
    rw [← h.knowledge]
    simp only [FileStore.knowledge, FileTree.readText, hsame, hdocument, hdocument']
  · rw [hsame]
    exact h.apart

theorem Serves.records_eq (h : s.Serves path kb records) :
    (Store.files s).records = .ok records := by
  obtain ⟨text, hlog, -, rfl⟩ := h.log
  exact records_of_hasLog hlog

end FileStore

/-! ### Engines over such a log -/

namespace Engine

variable [Weight W] [WeightNotation W]

/-- **The engine and its log have not parted**: the store serves, and loading it would give what the
engine knows. -/
structure Keeps (e : Engine W) (path : String) (kb : KnowledgeBase W) (records : List (Record W)) :
    Prop where
  store : ∃ s, e.store = .files s ∧ s.Serves path kb records
  loaded : Repository.load e.store = .ok e.repository

variable {e e₁ e₂ : Engine W} {path : String} {kb : KnowledgeBase W}
  {records records₁ records₂ : List (Record W)} {v v₁ v₂ : Visit W} {vs vs₁ vs₂ : List (Visit W)}

theorem Keeps.records_eq (h : e.Keeps path kb records) : e.store.records = .ok records := by
  obtain ⟨s, hs, hserves⟩ := h.store
  rw [hs]
  exact hserves.records_eq

/-- **The step**: a request is turned away and nothing happens, or its record is stored and added.
-/
theorem Keeps.submit (h : e.Keeps path kb records) (hv : v.ReadsBack) :
    (∃ defect, e.repository.judge v.request = .error defect ∧
        e.submit v.now v.request = (.error (.defect defect), e)) ∨
      ∃ item e', e.repository.judge v.request = .ok item ∧
        e.submit v.now v.request = (.ok ⟨v.now, item⟩, e') ∧
        e'.Keeps path kb (records ++ [⟨v.now, item⟩]) := by
  obtain ⟨s, hs, hserves⟩ := h.store
  cases hjudge : e.repository.judge v.request with
  | error defect =>
    refine Or.inl ⟨defect, rfl, ?_⟩
    rw [Engine.submit, Repository.submit_of_judge_error hjudge]
  | ok item =>
    obtain ⟨asked, hrequest, hfits, rfl⟩ := Repository.judge_eq_ok_iff.mp hjudge
    have hr : Record.ReadsBack ⟨v.now, asked.asUser⟩ :=
      ⟨hv.time, Contribution.readsBack_asUser.mpr
        (Request.readsBack_of_contribution hrequest hv.weight)⟩
    obtain ⟨s', hattempt, hserves'⟩ := hserves.attempt hr
    have hstored : e.store.attempt ⟨v.now, asked.asUser⟩ = (.ok (), .files s') := by
      rw [hs, Store.attempt, hattempt]
    refine Or.inr ⟨_, ⟨.files s', e.repository.add asked.asUser, e.settings⟩, rfl, ?_,
      ⟨s', rfl, hserves'⟩, ?_⟩
    · rw [Engine.submit, Repository.submit_of_judge_ok hjudge hstored]
    · -- what was stored is a user's contribution already, so the replay vets the very same
      have hknowledge : (Store.files s').knowledge = e.store.knowledge := by
        rw [hs]
        exact hserves'.knowledge.trans hserves.knowledge.symm
      have hload := Repository.load_of_append h.loaded h.records_eq hknowledge hserves'.records_eq
        (by rwa [Contribution.asUser_asUser])
      rwa [Contribution.asUser_asUser] at hload

/-- What an engine knows is settled by the knowledge in the document and the items in the log. -/
theorem Keeps.exists_shipped (h : e.Keeps path kb records) :
    ∃ r, Repository.ofShipped kb = .ok r ∧ e.repository = records.foldl Repository.replay r := by
  obtain ⟨s, hs, hserves⟩ := h.store
  have hload := h.loaded
  rw [hs] at hload
  obtain ⟨kb', r, records', hkb, hr, hrecords, heq⟩ := Repository.load_eq_ok_iff.mp hload
  obtain rfl : kb = kb' := Except.ok.inj (hserves.knowledge.symm.trans hkb)
  obtain rfl : records = records' := Except.ok.inj (hserves.records_eq.symm.trans hrecords)
  exact ⟨r, hr, heq⟩

/-- **Two engines agree**: each has a store of its own that it has not parted from, with the same
document and a log of the same items. -/
def Agree (path : String) (kb : KnowledgeBase W) (e₁ e₂ : Engine W) : Prop :=
  ∃ records₁ records₂, e₁.Keeps path kb records₁ ∧ e₂.Keeps path kb records₂ ∧
    records₁.map Record.item = records₂.map Record.item

theorem Agree.repository_eq (h : Agree path kb e₁ e₂) : e₁.repository = e₂.repository := by
  obtain ⟨records₁, records₂, h₁, h₂, hitems⟩ := h
  obtain ⟨r₁, hr₁, heq₁⟩ := h₁.exists_shipped
  obtain ⟨r₂, hr₂, heq₂⟩ := h₂.exists_shipped
  obtain rfl : r₁ = r₂ := Except.ok.inj (hr₁.symm.trans hr₂)
  rw [heq₁, heq₂, Repository.foldl_replay_eq, Repository.foldl_replay_eq r₁ records₂, hitems]

/-- **The step of both**: engines that agree give the same answer to the same request, and go on
agreeing. -/
theorem Agree.submit (h : Agree path kb e₁ e₂) (hv₁ : v₁.ReadsBack) (hv₂ : v₂.ReadsBack)
    (hsame : v₁.request = v₂.request) :
    (e₁.submit v₁.now v₁.request).1.map Record.item =
        (e₂.submit v₂.now v₂.request).1.map Record.item ∧
      Agree path kb (e₁.submit v₁.now v₁.request).2 (e₂.submit v₂.now v₂.request).2 := by
  have hjudge : e₁.repository.judge v₁.request = e₂.repository.judge v₂.request := by
    rw [h.repository_eq, hsame]
  obtain ⟨records₁, records₂, h₁, h₂, hitems⟩ := h
  rcases h₁.submit hv₁ with ⟨defect₁, hj₁, hs₁⟩ | ⟨item₁, e₁', hj₁, hs₁, hk₁⟩
  · rcases h₂.submit hv₂ with ⟨defect₂, hj₂, hs₂⟩ | ⟨item₂, e₂', hj₂, hs₂, hk₂⟩
    · obtain rfl : defect₁ = defect₂ := Except.error.inj (hj₁.symm.trans (hjudge.trans hj₂))
      rw [hs₁, hs₂]
      exact ⟨rfl, records₁, records₂, h₁, h₂, hitems⟩
    · cases hj₁.symm.trans (hjudge.trans hj₂)
  · rcases h₂.submit hv₂ with ⟨defect₂, hj₂, hs₂⟩ | ⟨item₂, e₂', hj₂, hs₂, hk₂⟩
    · cases hj₁.symm.trans (hjudge.trans hj₂)
    · obtain rfl : item₁ = item₂ := Except.ok.inj (hj₁.symm.trans (hjudge.trans hj₂))
      rw [hs₁, hs₂]
      refine ⟨rfl, _, _, hk₁, hk₂, ?_⟩
      rw [List.map_append, List.map_append, hitems]
      rfl

/-- An engine that has not parted from its store is what loading the store gives. -/
theorem Keeps.load (h : e.Keeps path kb records) (settings : InferenceSettings W) :
    Engine.load e.store settings = .ok { e with settings } ∧
      Keeps { e with settings } path kb records :=
  ⟨load_eq_ok_iff.mpr ⟨h.loaded, rfl, rfl⟩, h.store, h.loaded⟩

/-- **All steps**: along the same requests, one session and a session for each request agree. -/
theorem Agree.sessions (h : Agree path kb e₁ e₂) (settings : InferenceSettings W)
    (hvs₁ : ∀ v ∈ vs₁, v.ReadsBack) (hvs₂ : ∀ v ∈ vs₂, v.ReadsBack)
    (hsame : vs₁.map Visit.request = vs₂.map Visit.request) :
    ∃ answers e₂', e₂.store.sessions settings vs₂ = .ok (answers, e₂'.store) ∧
      (e₁.session vs₁).1.map (Except.map Record.item) = answers.map (Except.map Record.item) ∧
      Agree path kb (e₁.session vs₁).2 e₂' := by
  induction vs₁ generalizing e₁ e₂ vs₂ with
  | nil =>
    obtain rfl : vs₂ = [] := List.map_eq_nil_iff.mp hsame.symm
    exact ⟨[], e₂, rfl, rfl, h⟩
  | cons v₁ vs₁ ih =>
    cases vs₂ with
    | nil => cases hsame
    | cons v₂ vs₂ =>
      obtain ⟨hv₁, hvs₁⟩ := List.forall_mem_cons.mp hvs₁
      obtain ⟨hv₂, hvs₂⟩ := List.forall_mem_cons.mp hvs₂
      obtain ⟨hrequest, hrest⟩ := List.cons.inj hsame
      obtain ⟨records₁, records₂, h₁, h₂, hitems⟩ := h
      -- the second engine is loaded afresh, from the store that the last one has left
      obtain ⟨hload, h₂'⟩ := h₂.load settings
      have hagree : Agree path kb e₁ { e₂ with settings } := ⟨records₁, records₂, h₁, h₂', hitems⟩
      obtain ⟨hanswer, hnext⟩ := hagree.submit hv₁ hv₂ hrequest
      obtain ⟨answers, e₂', hsessions, hanswers, hlast⟩ := ih hnext hvs₁ hvs₂ hrest
      refine ⟨_, e₂', Store.sessions_cons hload hsessions, ?_, hlast⟩
      rw [Engine.session, List.map_cons, List.map_cons, ← hanswer, ← hanswers]

/-- **One session or many, the outcome is the same.** A store in files can be loaded, it has no log
yet, and a log can be written. The same requests are made in one session and in a session for each
of them, at whatever times; the times and the weights asked for are read back. Then all sessions can
be started, and request by request the outcome is the same: the same item is recorded, or there is
the same fault. In the end the logs hold the same items in the same order, and what the one engine
knows is what loading the other store gives. -/
theorem sessions_agree {s : FileStore} {settings : InferenceSettings W}
    (hload : load (.files s) settings = .ok e) (hlog : s.LacksLog path)
    (hwritable : ∀ r : Record W, ∃ s', s.attempt r = (.ok (), s'))
    (hvs₁ : ∀ v ∈ vs₁, v.ReadsBack) (hvs₂ : ∀ v ∈ vs₂, v.ReadsBack)
    (hsame : vs₁.map Visit.request = vs₂.map Visit.request) :
    ∃ answers store r records₁ records₂,
      Store.sessions settings (.files s) vs₂ = .ok (answers, store) ∧
      (e.session vs₁).1.map (Except.map Record.item) = answers.map (Except.map Record.item) ∧
      (e.session vs₁).2.store.records = .ok records₁ ∧ store.records = .ok records₂ ∧
      records₁.map Record.item = records₂.map Record.item ∧
      Repository.load store = .ok r ∧ (e.session vs₁).2.merged = r.merged := by
  obtain ⟨hr, hs, -⟩ := load_eq_ok_iff.mp hload
  obtain ⟨kb, -, -, hkb, -⟩ := Repository.load_eq_ok_iff.mp hr
  have hkeeps : e.Keeps path kb [] := ⟨⟨s, hs, hlog.serves hkb hwritable⟩, by rw [hs, hr]⟩
  have hagree : Agree path kb e e := ⟨[], [], hkeeps, hkeeps, rfl⟩
  obtain ⟨answers, e₂, hsessions, hanswers, hlast⟩ := hagree.sessions settings hvs₁ hvs₂ hsame
  have hmerged := congrArg Repository.merged hlast.repository_eq
  obtain ⟨records₁, records₂, h₁, h₂, hitems⟩ := hlast
  rw [hs] at hsessions
  exact ⟨answers, e₂.store, e₂.repository, records₁, records₂, hsessions, hanswers, h₁.records_eq,
    h₂.records_eq, hitems, h₂.loaded, hmerged⟩

/-! ### Sessions -/

/-- A store that ships nothing and has no log yet, nor the directory that it belongs in. -/
def unloggedStore : FileStore where
  documentPath := "knowledge.json"
  logPath := some "logs/contributions.jsonl"
  tree := ⟨[(["knowledge.json"], .file "\x7b\"symptoms\":[]\x7d".toUTF8)]⟩

/-- The engine of that store, by scoring. -/
def unloggedEngine : Engine Float where
  store := .files unloggedStore
  repository := Repository.emptyRepository
  settings := { defaultStrategy := .scoring, threshold := 10, fullCoverage := false }

/-- A symptom, the same again, and a rule with a weight: the second request is turned away. -/
def smellVisits (start : Nat) : List (Visit Float) :=
  [⟨⟨start, 0⟩, .symptom ⟨some "smell", "Smell of burning plastic", some "hardware"⟩⟩,
    ⟨⟨start + 1, 0⟩, .symptom ⟨some "smell", "A smell, by another user", some "hardware"⟩⟩,
    ⟨⟨start + 2, 0⟩, .rule ⟨["smell"], [], "The power supply is burning out", some 2.5⟩⟩]

/-- They are read back if their times are. -/
theorem readsBack_smellVisits {start : Nat}
    (htimes : ∀ v ∈ smellVisits start, Timestamp.parse v.now.text = some v.now) :
    ∀ v ∈ smellVisits start, v.ReadsBack := by
  have hweight : WeightNotation.ReadsBack (2.5 : Float) :=
    WeightNotation.readsBack_of_isFinite (by decide +kernel) (by decide +kernel)
  intro v hv
  refine ⟨htimes v hv, fun w hw _ => ?_⟩
  -- only the rule asks for a weight
  simp only [smellVisits, List.mem_cons, List.not_mem_nil, or_false] at hv
  rcases hv with rfl | rfl | rfl
  · cases hw
  · cases hw
  · obtain rfl : 2.5 = w := Option.some.inj hw
    exact hweight

theorem lacksLog_unloggedStore : unloggedStore.LacksLog "logs/contributions.jsonl" :=
  ⟨rfl, rfl, rfl⟩

theorem load_unloggedStore :
    load (.files unloggedStore) unloggedEngine.settings = .ok unloggedEngine := by
  have hknowledge : unloggedStore.knowledge = .ok (∅ : KnowledgeBase Float) :=
    Repository.knowledge_of_find rfl rfl
  have hserves : unloggedStore.Serves "logs/contributions.jsonl" (∅ : KnowledgeBase Float) [] :=
    lacksLog_unloggedStore.serves hknowledge fun r => ⟨_, rfl⟩
  exact load_eq_ok_iff.mpr ⟨Repository.load_eq_ok_iff.mpr
    ⟨∅, Repository.emptyRepository, [], hknowledge, rfl, hserves.records_eq, rfl⟩, rfl, rfl⟩

theorem sessions_agree_smell :
    load (.files unloggedStore) unloggedEngine.settings = .ok unloggedEngine ∧
      unloggedStore.LacksLog "logs/contributions.jsonl" ∧
      (∀ r : Record Float, ∃ s', unloggedStore.attempt r = (.ok (), s')) ∧
      (∀ v ∈ smellVisits 0, v.ReadsBack) ∧ (∀ v ∈ smellVisits 86400, v.ReadsBack) ∧
      ∃ answers store r records₁ records₂,
        Store.sessions unloggedEngine.settings (.files unloggedStore) (smellVisits 86400) =
          .ok (answers, store) ∧
        (unloggedEngine.session (smellVisits 0)).1.map (Except.map Record.item) =
          answers.map (Except.map Record.item) ∧
        (unloggedEngine.session (smellVisits 0)).2.store.records = .ok records₁ ∧
        store.records = .ok records₂ ∧ records₁.map Record.item = records₂.map Record.item ∧
        Repository.load store = .ok r ∧
        (unloggedEngine.session (smellVisits 0)).2.merged = r.merged := by
  have hwritable : ∀ r : Record Float, ∃ s', unloggedStore.attempt r = (.ok (), s') :=
    fun r => ⟨_, rfl⟩
  have hfirst : ∀ v ∈ smellVisits 0, v.ReadsBack := readsBack_smellVisits (by decide +kernel)
  have hsecond : ∀ v ∈ smellVisits 86400, v.ReadsBack :=
    readsBack_smellVisits (by decide +kernel)
  exact ⟨load_unloggedStore, lacksLog_unloggedStore, hwritable, hfirst, hsecond,
    sessions_agree load_unloggedStore lacksLog_unloggedStore hwritable hfirst hsecond rfl⟩

end Engine

end FaultDiagnosis
