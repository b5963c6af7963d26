import FaultDiagnosis.Proofs.Engine.Restart
import FaultDiagnosis.Proofs.Store.Taken
import FaultDiagnosis.Service.Response

/-!
# The service keeps account

A service answers request after request, and between requests its store may begin or cease to refuse
records. `FaultDiagnosis.Service.respond_cases` says what one request can do: a contribution is
accepted, and then the response says that something was created, or it says anything else, and then
nothing has happened. So the responses tell the whole story of the knowledge, and what the service
reports of itself agrees with it at any time (`FaultDiagnosis.Service.run_keeps_account`).
-/

namespace FaultDiagnosis.Service

open Json (Decoder)

variable {W : Type}

/-! ### Events -/

/-- **What happens to a service.** -/
inductive Event
  | request (clock : Clock) (request : HttpRequest)
  /-- From now on, the store refuses new records, or it no longer does. -/
  | refuse (on : Bool)

/-- Is there a response that says that something was created? -/
def isCreated (answer : Option Response) : Bool :=
  answer.map Response.status = some 201

section Events

variable [Weight W] [WeightNotation W]

/-- The service after an event, and the response if the event is a request. -/
def serve (e : Engine W) : Event → Option Response × Engine W
  | .request clock r =>
    let (response, e) := respond e clock r
    (some response, e)
  | .refuse on => (none, { e with store := e.store.setRefusing on })

/-- **A run of the service**: the responses to a sequence of events, and the engine in the end. -/
def run (e : Engine W) : List Event → List (Option Response) × Engine W
  | [] => ([], e)
  | event :: events =>
    let (answer, e) := serve e event
    let (answers, e) := run e events
    (answer :: answers, e)

end Events

/-! ### One request -/

/-- A response with another status. -/
theorem status_ne {response : Response} (h : (response.status == 201) = false) :
    response.status ≠ 201 :=
  ne_of_beq_false h

/-- What is wrong with the body of a request is never that something was created. -/
theorem status_ne_of_document {α : Type} {r : HttpRequest} {decoder : Decoder α}
    {response : Response} (h : r.document decoder = .error response) : response.status ≠ 201 := by
  unfold HttpRequest.document at h
  split at h
  · obtain rfl := Except.error.inj h
    exact status_ne rfl
  · split at h
    · obtain rfl := Except.error.inj h
      exact status_ne rfl
    · split at h
      · cases h
      · obtain rfl := Except.error.inj h
        exact status_ne rfl
      · obtain rfl := Except.error.inj h
        exact status_ne rfl

theorem status_ne_of_read {method : String} {response : Response} (h : response.status ≠ 201) :
    (read method response).status ≠ 201 := by
  unfold read
  split
  · exact h
  · split
    · exact h
    · exact status_ne rfl

theorem status_symptoms_ne [WeightNotation W] (e : Engine W) (query : String) :
    (symptoms e query).status ≠ 201 := by
  unfold symptoms
  split
  · exact status_ne rfl
  · split
    · exact status_ne rfl
    · exact status_ne rfl
  · exact status_ne rfl

variable [Weight W] [WeightNotation W]

theorem status_diagnose_ne (e : Engine W) (r : HttpRequest) : (diagnose e r).status ≠ 201 := by
  unfold diagnose
  split
  · exact status_ne rfl
  · next hdocument => exact status_ne_of_document hdocument

omit [Weight W] in
theorem status_rejected_ne (fault : ContributionFault W) : (rejected fault).status ≠ 201 := by
  cases fault <;> exact status_ne rfl

/-- **What a request to contribute can do.** -/
theorem contribute_cases (e : Engine W) (now : Timestamp) (r : HttpRequest) :
    ((contribute e now r).1.status = 201 ∧
        ∃ record, e.Accepts record (contribute e now r).2) ∨
      (contribute e now r).1.status ≠ 201 ∧ e.TurnsAway (contribute e now r).2 := by
  unfold contribute
  split
  · next hdocument => exact Or.inr ⟨status_ne_of_document hdocument, Or.inl rfl, rfl, rfl⟩
  · next request hdocument =>
    rcases e.answer_cases (.submit now request) with ⟨record, e', h, ha⟩ | ⟨fault, e', h, ht⟩
    · rw [Engine.answer] at h
      rw [h]
      exact Or.inl ⟨rfl, record, ha⟩
    · rw [Engine.answer] at h
      rw [h]
      exact Or.inr ⟨status_rejected_ne fault, ht⟩

/-- **What any request can do.** Either it is a contribution that is accepted, and the response says
that something was created; or the response says something else, and nothing has been added. -/
theorem respond_cases (e : Engine W) (clock : Clock) (r : HttpRequest) :
    ((respond e clock r).1.status = 201 ∧ r.method = "POST" ∧
        (Target.ofString r.target).path = "/v1/contributions" ∧
        ∃ record, e.Accepts record (respond e clock r).2) ∨
      (respond e clock r).1.status ≠ 201 ∧ e.TurnsAway (respond e clock r).2 := by
  have hnothing : e.TurnsAway e := ⟨Or.inl rfl, rfl, rfl⟩
  unfold respond
  simp only
  split
  · exact Or.inr ⟨status_ne rfl, hnothing⟩
  · split
    · exact Or.inr ⟨status_ne_of_read (status_ne rfl), hnothing⟩
    · exact Or.inr ⟨status_ne_of_read (status_ne rfl), hnothing⟩
    · exact Or.inr ⟨status_ne_of_read (status_symptoms_ne e _), hnothing⟩
    · split
      · exact Or.inr ⟨status_diagnose_ne e r, hnothing⟩
      · exact Or.inr ⟨status_ne rfl, hnothing⟩
    · next hpath =>
      split
      · next hmethod =>
        rcases contribute_cases e clock.now r with ⟨hstatus, haccepts⟩ | hother
        · exact Or.inl ⟨hstatus, hmethod, hpath, haccepts⟩
        · exact Or.inr hother
      · exact Or.inr ⟨status_ne rfl, hnothing⟩
    · exact Or.inr ⟨status_ne rfl, hnothing⟩

/-- **What any event can do** to a service whose store is in memory: what an accepted contribution
does, or nothing but to tell the store whether to refuse. -/
theorem serve_cases {e : Engine W} {s : MemoryStore W} (hs : e.store = .memory s) (event : Event) :
    (isCreated (serve e event).1 = true ∧ ∃ clock r record, event = .request clock r ∧
        r.method = "POST" ∧ (Target.ofString r.target).path = "/v1/contributions" ∧
        e.Accepts record (serve e event).2) ∨
      isCreated (serve e event).1 = false ∧ (serve e event).2.repository = e.repository ∧
        ∃ refusing, (serve e event).2.store = .memory { s with refusing } := by
  cases event with
  | request clock r =>
    rcases respond_cases e clock r with ⟨hstatus, hmethod, hpath, record, ha⟩ | ⟨hstatus, ht⟩
    · have hcreated := decide_eq_true (congrArg some hstatus)
      exact Or.inl ⟨hcreated, clock, r, record, rfl, hmethod, hpath, ha⟩
    · have heq : (serve e (.request clock r)).2 = e := ht.eq_of_memory hs
      rw [heq]
      exact Or.inr ⟨decide_eq_false fun h => hstatus (Option.some.inj h), rfl, s.refusing, hs⟩
  | refuse on =>
    refine Or.inr ⟨rfl, rfl, on, ?_⟩
    rw [serve, hs]
    rfl

/-! ### The account -/

/-- The records of a store that are taken when it is loaded. -/
def taken (s : MemoryStore W) : List (Record W) :=
  Repository.taken { shipped := s.knowledge.asShipped, user := ∅ } s.records

/-- **The account of a service**: the store has the records that it had at first and those that were
added since, and what users know is what was taken of the first and all of the others. -/
structure Accounts (s : MemoryStore W) (e : Engine W) (added : List (Record W)) : Prop where
  store : ∃ refusing, e.store =
    .memory { knowledge := s.knowledge, records := s.records ++ added, refusing }
  shipped : e.repository.shipped = s.knowledge.asShipped
  user : e.repository.user = (∅ : KnowledgeBase W).addAll (taken s ++ added)

/-- A service that has just been started has added nothing. -/
theorem accounts_of_load {s : MemoryStore W} {settings : InferenceSettings W} {e : Engine W}
    (hload : Engine.load (.memory s) settings = .ok e) : Accounts s e [] := by
  obtain ⟨hr, hs, -⟩ := Engine.load_eq_ok_iff.mp hload
  obtain ⟨kb, r, records, hkb, hshipped, hrecords, heq⟩ := Repository.load_eq_ok_iff.mp hr
  obtain rfl : s.knowledge = kb := Except.ok.inj hkb
  obtain rfl : s.records = records := Except.ok.inj hrecords
  obtain ⟨-, rfl⟩ := Repository.ofShipped_eq_ok_iff.mp hshipped
  refine ⟨⟨s.refusing, by rw [hs, List.append_nil]⟩, Repository.shipped_of_load hkb hr, ?_⟩
  rw [heq, Repository.user_foldl_replay, List.append_nil, taken]

variable {s : MemoryStore W} {e : Engine W} {added : List (Record W)}

theorem Accounts.records_eq (h : Accounts s e added) :
    e.store.records = .ok (s.records ++ added) := by
  obtain ⟨refusing, hs⟩ := h.store
  rw [hs]
  rfl

theorem Accounts.accept (h : Accounts s e added) {record : Record W} {e' : Engine W}
    (ha : e.Accepts record e') : Accounts s e' (added ++ [record]) := by
  obtain ⟨refusing, hs⟩ := h.store
  refine ⟨⟨refusing, ?_⟩, ?_, ?_⟩
  · rw [ha.store_of_memory hs, List.append_assoc]
  · rw [ha.added]
    exact h.shipped
  · rw [ha.added, ← List.append_assoc, KnowledgeBase.addAll_concat, ha.asUser, ← h.user]
    rfl

/-- **The step**: an event adds one record if something was created, and none if not. -/
theorem Accounts.serve (h : Accounts s e added) (event : Event) :
    ∃ more, Accounts s (serve e event).2 (added ++ more) ∧
      more.length = [(Service.serve e event).1].countP isCreated := by
  obtain ⟨refusing, hs⟩ := h.store
  rcases serve_cases hs event with ⟨hcreated, clock, r, record, -, -, -, ha⟩ |
    ⟨hcreated, hrepository, hstore⟩
  · refine ⟨[record], h.accept ha, ?_⟩
    rw [List.countP_singleton, if_pos hcreated, List.length_singleton]
  · refine ⟨[], ?_, ?_⟩
    · rw [List.append_nil]
      exact ⟨hstore, by rw [hrepository, h.shipped], by rw [hrepository, h.user]⟩
    · rw [List.countP_singleton, hcreated]
      rfl

/-- **All steps**: a run adds one record for each time that something was created. -/
theorem Accounts.run (h : Accounts s e added) (events : List Event) :
    ∃ more, Accounts s (run e events).2 (added ++ more) ∧
      more.length = (Service.run e events).1.countP isCreated := by
  induction events generalizing e added with
  | nil => exact ⟨[], by rwa [List.append_nil], rfl⟩
  | cons event events ih =>
    obtain ⟨first, hfirst, hcount⟩ := h.serve event
    obtain ⟨rest, hrest, hcounts⟩ := ih hfirst
    refine ⟨first ++ rest, by rwa [← List.append_assoc], ?_⟩
    rw [List.length_append, hcount, hcounts, ← List.countP_append]
    rfl

/-- **What changes, and when**: what is known and the records of the store change together, exactly
if something was created. -/
theorem Accounts.serve_changes (h : Accounts s e added) {event : Event} {answer : Option Response}
    {e' : Engine W} (hserve : Service.serve e event = (answer, e')) :
    (e'.merged ≠ e.merged ↔ isCreated answer = true) ∧
      (e'.store.records ≠ e.store.records ↔ isCreated answer = true) ∧
      (isCreated answer = true → ∃ clock r record, event = .request clock r ∧ r.method = "POST" ∧
        (Target.ofString r.target).path = "/v1/contributions" ∧
        e.merged.Gains record.item e'.merged ∧
        e'.store.records = .ok (s.records ++ added ++ [record])) := by
  obtain ⟨refusing, hs⟩ := h.store
  have hcases := serve_cases hs event
  rw [hserve] at hcases
  rcases hcases with ⟨hcreated, clock, r, record, hevent, hmethod, hpath, ha⟩ |
    ⟨hcreated, hrepository, refusing', hs'⟩
  · have hrecords : e'.store.records = .ok (s.records ++ added ++ [record]) := by
      rw [(h.accept ha).records_eq, List.append_assoc]
    refine ⟨iff_of_true ?_ hcreated, iff_of_true ?_ hcreated, fun _ =>
      ⟨clock, r, record, hevent, hmethod, hpath, ha.gains, hrecords⟩⟩
    · rw [ha.merged_eq]
      exact KnowledgeBase.add_ne_self
    · rw [hrecords, h.records_eq]
      intro heq
      simpa using congrArg List.length (Except.ok.inj heq)
  · have hnot : ¬isCreated answer = true := by
      rw [hcreated]
      exact Bool.false_ne_true
    refine ⟨iff_of_false ?_ hnot, iff_of_false ?_ hnot, fun hyes => absurd hyes hnot⟩
    · rw [Engine.merged, Engine.merged, hrepository]
      exact not_not_intro rfl
    · rw [hs, hs']
      exact not_not_intro rfl

/-! ### What the service reports -/

/-- The report of the service with the given numbers. -/
def report (uptime symptoms rules clues contributions : Nat) : Response :=
  ⟨200, some (.object [("status", .string "ok"), ("version", .string programVersion),
    ("uptime_seconds", .nat uptime), ("symptoms", .nat symptoms), ("rules", .nat rules),
    ("clues", .nat clues), ("contributions", .nat contributions)])⟩

omit [WeightNotation W] in
/-- **What is reported agrees with the account.** -/
theorem Accounts.health_eq (h : Accounts s e added) (uptime : Nat) :
    health e uptime = report uptime
      (s.knowledge.symptoms.length + ((taken s ++ added).flatMap fun r => r.item.symptoms).length)
      (s.knowledge.rules.length + ((taken s ++ added).flatMap fun r => r.item.rules).length)
      (s.knowledge.clues.length + ((taken s ++ added).flatMap fun r => r.item.clues).length)
      ((taken s).length + added.length) := by
  have hsymptoms : e.merged.symptoms.length = s.knowledge.symptoms.length +
      ((taken s ++ added).flatMap fun r => r.item.symptoms).length := by
    simp [Engine.merged, Repository.merged, h.shipped, h.user, KnowledgeBase.length_symptoms_addAll]
  have hrules : e.merged.rules.length = s.knowledge.rules.length +
      ((taken s ++ added).flatMap fun r => r.item.rules).length := by
    simp [Engine.merged, Repository.merged, h.shipped, h.user, KnowledgeBase.length_rules_addAll]
  have hclues : e.merged.clues.length = s.knowledge.clues.length +
      ((taken s ++ added).flatMap fun r => r.item.clues).length := by
    simp [Engine.merged, Repository.merged, h.shipped, h.user, KnowledgeBase.length_clues_addAll]
  have hcontributions : e.repository.user.symptoms.length + e.repository.user.rules.length =
      (taken s).length + added.length := by
    have hone := KnowledgeBase.length_symptoms_add_length_rules (taken s ++ added)
    rw [List.length_append] at hone
    rw [h.user, KnowledgeBase.length_symptoms_addAll, KnowledgeBase.length_rules_addAll]
    simpa only [KnowledgeBase.symptoms_empty, KnowledgeBase.rules_empty, List.length_nil,
      Nat.zero_add] using hone
  rw [health, hsymptoms, hrules, hclues, hcontributions]
  rfl

/-- A request to read the report. -/
theorem respond_health {clock : Clock} {r : HttpRequest} (hmethod : r.method = "GET")
    (hpath : (Target.ofString r.target).path = "/v1/health") :
    respond e clock r =
      (if r.announcesTooMuch then .ofStatus 413 else health e clock.uptime, e) := by
  rw [respond, hmethod, hpath]
  split
  · rfl
  · rfl

/-- **The service keeps account.** A service is started over a store in memory with any knowledge
that can be loaded and any records, fitting or not. After any sequence of events, of which the
requests were answered and records were refused or not:

* the store has the records that it had at first, followed by one for each time that something was
  created;
* the next event changes what is known, and it changes the records, exactly if something is created.
  Then the event is a request to contribute, and the item of one record is added, and the record;
* a request for the report is answered with the numbers of symptoms, rules and clues that were
  shipped and that came with the records taken at first and since, and with the number of these
  records, unless it announces a body that is too long. -/
theorem run_keeps_account {settings : InferenceSettings W}
    (hload : Engine.load (.memory s) settings = .ok e) {events : List Event}
    {answers : List (Option Response)} {e' : Engine W} (hrun : run e events = (answers, e')) :
    ∃ added, e'.store.records = .ok (s.records ++ added) ∧
      added.length = answers.countP isCreated ∧
      (∀ event answer e'', serve e' event = (answer, e'') →
        (e''.merged ≠ e'.merged ↔ isCreated answer = true) ∧
        (e''.store.records ≠ e'.store.records ↔ isCreated answer = true) ∧
        (isCreated answer = true → ∃ clock r record, event = .request clock r ∧
          r.method = "POST" ∧ (Target.ofString r.target).path = "/v1/contributions" ∧
          e'.merged.Gains record.item e''.merged ∧
          e''.store.records = .ok (s.records ++ added ++ [record]))) ∧
      ∀ clock r, r.method = "GET" → (Target.ofString r.target).path = "/v1/health" →
        respond e' clock r = (if r.announcesTooMuch then .ofStatus 413 else report clock.uptime
          (s.knowledge.symptoms.length +
            ((taken s ++ added).flatMap fun r => r.item.symptoms).length)
          (s.knowledge.rules.length + ((taken s ++ added).flatMap fun r => r.item.rules).length)
          (s.knowledge.clues.length + ((taken s ++ added).flatMap fun r => r.item.clues).length)
          ((taken s).length + answers.countP isCreated), e') := by
  obtain ⟨added, h, hcount⟩ := (accounts_of_load hload).run events
  rw [List.nil_append] at h
  rw [hrun] at h hcount
  refine ⟨added, h.records_eq, hcount, fun event answer e'' hserve => h.serve_changes hserve,
    fun clock r hmethod hpath => ?_⟩
  rw [respond_health hmethod hpath, h.health_eq, hcount]

/-! ### A run -/

open Engine (grindingEngine grindingStore strictSettings)

/-- A request to contribute a symptom. -/
def symptomPost (id label : String) : HttpRequest where
  method := "POST"
  target := "/v1/contributions"
  headers := [("Content-Type", "application/json")]
  body := ("[\"symptom\",[\"" ++ id ++ "\",\"" ++ label ++ "\",\"hardware\"]]").toUTF8

/-- A request for the report. -/
def healthGet : HttpRequest where
  method := "GET"
  target := "/v1/health?verbose"
  headers := []
  body := .empty

/-- A symptom, and another one while records are refused. -/
def refusedEvents : List Event :=
  [.request ⟨⟨10, 0⟩, 1⟩ (symptomPost "smell" "Smell of burning plastic"), .refuse true,
    .request ⟨⟨11, 0⟩, 2⟩ (symptomPost "beeps" "Long beeps at power on")]

theorem run_keeps_account_grinding :
    Engine.load (.memory grindingStore) strictSettings = .ok grindingEngine ∧
      ∃ answers e' added, run grindingEngine refusedEvents = (answers, e') ∧
        answers.map (Option.map Response.status) = [some 201, none, some 500] ∧
        e'.store.records = .ok (grindingStore.records ++ added) ∧ added.length = 1 ∧
        respond e' ⟨⟨12, 0⟩, 3⟩ healthGet = (report 3
          (1 + ((taken grindingStore ++ added).flatMap fun r => r.item.symptoms).length)
          (0 + ((taken grindingStore ++ added).flatMap fun r => r.item.rules).length)
          (0 + ((taken grindingStore ++ added).flatMap fun r => r.item.clues).length)
          ((taken grindingStore).length + 1), e') := by
  have hload : Engine.load (.memory grindingStore) strictSettings = .ok grindingEngine := rfl
  have hstatus : (run grindingEngine refusedEvents).1.map (Option.map Response.status) =
      [some 201, none, some 500] := by decide +kernel
  rcases hrun : run grindingEngine refusedEvents with ⟨answers, e'⟩
  rw [hrun] at hstatus
  have hcount : answers.countP isCreated = 1 := by
    have hmap : (answers.map (Option.map Response.status)).countP (· = some 201) =
        answers.countP isCreated := List.countP_map
    rw [← hmap, hstatus]
    rfl
  obtain ⟨added, hrecords, hadded, -, hhealth⟩ := run_keeps_account hload hrun
  rw [hcount] at hadded hhealth
  exact ⟨hload, answers, e', added, rfl, hstatus, hrecords, hadded,
    hhealth ⟨⟨12, 0⟩, 3⟩ healthGet rfl (by decide +kernel)⟩

end FaultDiagnosis.Service
