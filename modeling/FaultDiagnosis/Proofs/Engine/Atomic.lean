import FaultDiagnosis.Proofs.Engine.Restart
import FaultDiagnosis.Proofs.Store.Log
import FaultDiagnosis.Proofs.Store.Startup

/-!
# All or nothing

A call can fail at many points: the request may make no sense, the contribution may not fit, the
store may refuse its record, or have no place for it. Whichever it is, nothing of the contribution
stays behind. What is known is what it was, and so is what the store keeps
(`FaultDiagnosis.Store.kept`); a directory that was created for the log on the way is all that can
be left over. And if the call succeeds, the contribution is known as a whole, and the store keeps
one record more. This is `FaultDiagnosis.Engine.answer_atomic`.

In memory, to keep a record is to have it. In files, what is kept is bytes, and whether the reader
makes of them what the writer meant depends on how the log ended before. If that was in the middle
of a line, the call succeeds and the log grows, but by no record
(`FaultDiagnosis.Engine.answer_drops_records`).
-/

namespace FaultDiagnosis

variable {W : Type}

/-! ### What a store keeps -/

/-- **What is kept of past contributions**: their records, or the bytes of the log if there is one.
-/
inductive Kept (W : Type)
  | records (records : List (Record W))
  | bytes (content : Option ByteArray)

/-- One record more. A log that was not there is created. -/
def Kept.add [WeightNotation W] : Kept W → Record W → Kept W
  | records rs, r => records (rs ++ [r])
  | bytes content, r => bytes (some (content.getD .empty ++ (Log.entry r).toUTF8))

namespace FileStore

/-- The bytes of the log, if it is configured and there. -/
def log? (s : FileStore) : Option ByteArray :=
  s.logPath.bind fun path => s.tree.contentAt (FileTree.placeOf path)

variable [WeightNotation W] {s s' : FileStore} {r : Record W}

theorem log?_withTree {path : String} (h : s.logPath = some path) (tree : FileTree) :
    log? { s with tree } = tree.contentAt (FileTree.placeOf path) := by
  rw [log?, h, Option.bind_some]

/-- A record that is not stored leaves the log as it is. -/
theorem log?_of_attempt_error {fault : StorageFault} (h : s.attempt r = (.error fault, s')) :
    s'.log? = s.log? := by
  cases hpath : s.logPath with
  | none =>
    simp only [attempt, hpath, Prod.mk.injEq] at h
    rw [h.2]
  | some path =>
    obtain ⟨tree, hadds, ⟨tree', -, hstored⟩ | ⟨fault', hfault⟩⟩ := attempt_cases hpath r
    · cases hstored.symm.trans h
    · obtain ⟨-, rfl⟩ := Prod.mk.inj (hfault.symm.trans h)
      rw [log?_withTree hpath, hadds.contentAt_eq]
      exact (log?_withTree hpath s.tree).symm

/-- A record that is stored has its line put at the end of the log. -/
theorem log?_of_attempt_ok (h : s.attempt r = (.ok (), s')) :
    s'.log? = some (s.log?.getD .empty ++ (Log.entry r).toUTF8) := by
  cases hpath : s.logPath with
  | none => simp only [attempt, hpath, Prod.mk.injEq, reduceCtorEq, false_and] at h
  | some path =>
    obtain ⟨tree, tree', hadds, hentry, rfl⟩ := exists_appends_of_attempt hpath h
    have hbefore : s.log? = tree.contentAt (FileTree.placeOf path) := by
      rw [hadds.contentAt_eq]
      exact log?_withTree hpath s.tree
    obtain ⟨-, -, hafter⟩ := FileTree.find_eq_file_iff.mp hentry.find_eq
    rw [log?_withTree hpath, FileTree.contentAt_of_file hafter, hbefore]

end FileStore

namespace Store

/-- What a store keeps of past contributions. -/
def kept : Store W → Kept W
  | memory s => .records s.records
  | files s => .bytes s.log?

variable [WeightNotation W] {store store' : Store W} {r : Record W}

theorem kept_of_attempt_error {fault : StorageFault}
    (h : store.attempt r = (.error fault, store')) : store'.kept = store.kept := by
  cases store with
  | memory s => rw [eq_of_attempt_memory h]
  | files s =>
    obtain ⟨s', hattempt, rfl⟩ := exists_of_attempt_files h
    exact congrArg Kept.bytes (FileStore.log?_of_attempt_error hattempt)

theorem kept_of_attempt_ok (h : store.attempt r = (.ok (), store')) :
    store'.kept = store.kept.add r := by
  cases store with
  | memory s =>
    obtain ⟨-, rfl⟩ := attempt_memory_eq_ok_iff.mp h
    rfl
  | files s =>
    obtain ⟨s', hattempt, rfl⟩ := exists_of_attempt_files h
    exact congrArg Kept.bytes (FileStore.log?_of_attempt_ok hattempt)

end Store

/-! ### What a call leaves behind -/

namespace Engine

variable [WeightNotation W] {e e' : Engine W} {record : Record W}

/-- **Nothing came of it**: the engine knows and its store keeps what they did before. -/
structure Unmoved (e e' : Engine W) : Prop where
  user : e'.repository.user = e.repository.user
  merged : e'.merged = e.merged
  kept : e'.store.kept = e.store.kept

/-- **One record more**: the knowledge of users has gained its item, and so has all that is known,
and the store keeps the record after all others. -/
structure GrownBy (e : Engine W) (record : Record W) (e' : Engine W) : Prop where
  shipped : e'.repository.shipped = e.repository.shipped
  user : e.repository.user.Gains record.item e'.repository.user
  merged : e.merged.Gains record.item e'.merged
  kept : e'.store.kept = e.store.kept.add record

theorem TurnsAway.unmoved (h : e.TurnsAway e') : e.Unmoved e' where
  user := by rw [h.repository]
  merged := congrArg Repository.merged h.repository
  kept := by
    rcases h.store with heq | ⟨record, fault, hattempt⟩
    · rw [heq]
    · exact Store.kept_of_attempt_error hattempt

variable [Weight W]

theorem Accepts.grownBy (h : e.Accepts record e') : e.GrownBy record e' where
  shipped := by
    rw [h.added]
    rfl
  user := by
    rw [h.added]
    exact KnowledgeBase.gains_add e.repository.user record.item
  merged := h.gains
  kept := Store.kept_of_attempt_ok h.stored

/-- In files, the record joins those that a reader finds exactly if the log ended cleanly. -/
theorem Accepts.records_iff (h : e.Accepts record e') {s : FileStore} {path text : String}
    (hs : e.store = .files s) (hlog : s.HasLog path text) (hr : record.ReadsBack) :
    e'.store.records = .ok (Log.records text ++ [record]) ↔ Log.EndsClean text := by
  have hstored := h.stored
  rw [hs] at hstored
  obtain ⟨s', hattempt, hs'⟩ := Store.exists_of_attempt_files hstored
  have hrecords : e'.store.records = .ok (Log.records (text ++ Log.entry record)) := by
    rw [hs']
    exact FileStore.records_of_hasLog (hlog.attempt hattempt)
  rw [hrecords, Except.ok.injEq]
  exact Log.records_append_entry_iff hr

/-- **All or nothing.** Whatever is asked of an engine, with a store of either kind: if the answer
is a fault, nothing came of it, and if it is a record, there is one record more. In a log that has a
text, this record joins those that a reader finds exactly if the text ended cleanly. -/
theorem answer_atomic (e : Engine W) (call : Call W) :
    (∀ fault e', e.answer call = (.error fault, e') → e.Unmoved e') ∧
      ∀ record e', e.answer call = (.ok record, e') → e.GrownBy record e' ∧
        ∀ s path text, e.store = .files s → s.HasLog path text → record.ReadsBack →
          (e'.store.records = .ok (Log.records text ++ [record]) ↔ Log.EndsClean text) := by
  rcases e.answer_cases call with ⟨record, e', h, ha⟩ | ⟨fault, e', h, ht⟩
  · constructor
    · intro fault e'' hfault
      cases h.symm.trans hfault
    · intro record' e'' hok
      obtain ⟨hrecord, rfl⟩ := Prod.mk.inj (h.symm.trans hok)
      obtain rfl : record = record' := Except.ok.inj hrecord
      exact ⟨ha.grownBy, fun s path text hs hlog hr => ha.records_iff hs hlog hr⟩
  · constructor
    · intro fault' e'' hfault
      obtain ⟨-, rfl⟩ := Prod.mk.inj (h.symm.trans hfault)
      exact ht.unmoved
    · intro record e'' hok
      cases h.symm.trans hok

/-! ### Calls on a log -/

open FileStore (fanRecord smellRecord readsBack_fanRecord readsBack_smellRecord)

/-- An engine over a log of the given text, with the given knowledge of users. -/
def loggedEngine (text : String) (user : KnowledgeBase Float) : Engine Float where
  store := .files (Repository.loggedStore text.toUTF8)
  repository := { shipped := ∅, user }
  settings := strictSettings

theorem hasLog_loggedStore (text : String) :
    (Repository.loggedStore text.toUTF8).HasLog "log.jsonl" text :=
  ⟨rfl, .file (Repository.find_log text.toUTF8)⟩

/-- The call that is answered with the record of a smell, if it is accepted. -/
def smellCall : Call Float :=
  .contribute smellRecord.contributedAt smellRecord.item

/-- Behind a clean end the record joins the others; a second one with the same identifier does not.
-/
theorem answer_atomic_smell :
    smellRecord.ReadsBack ∧ (Repository.loggedStore "no record\n".toUTF8).HasLog "log.jsonl"
        "no record\n" ∧
      ∃ e' e'', (loggedEngine "no record\n" ∅).answer smellCall = (.ok smellRecord, e') ∧
        (loggedEngine "no record\n" ∅).GrownBy smellRecord e' ∧
        e'.store.records = .ok (Log.records "no record\n" ++ [smellRecord]) ∧
        e'.answer smellCall = (.error (.defect (.duplicateSymptom "smell")), e'') ∧
        e'.Unmoved e'' := by
  have hclean : Log.EndsClean "no record\n" := by decide +kernel
  have hlog := hasLog_loggedStore "no record\n"
  obtain ⟨hgrown, hrecords⟩ :=
    (answer_atomic (loggedEngine "no record\n" ∅) smellCall).2 smellRecord _ rfl
  refine ⟨readsBack_smellRecord, hlog, _, _, rfl, hgrown, ?_, rfl, ?_⟩
  · exact (hrecords _ "log.jsonl" _ rfl hlog readsBack_smellRecord).mpr hclean
  · exact (answer_atomic _ smellCall).1 _ _ rfl

/-- A log whose only line lacks its line feed: the call succeeds, and there is not one record more
but one less. -/
theorem answer_drops_records :
    ∃ e e', load (.files (Repository.loggedStore fanRecord.toJson.compact.toUTF8)) strictSettings =
        .ok e ∧
      e.store.records = .ok [fanRecord] ∧ smellRecord.ReadsBack ∧
      e.answer smellCall = (.ok smellRecord, e') ∧ e'.store.records = .ok [] := by
  have hlog := hasLog_loggedStore fanRecord.toJson.compact
  have hbefore : (Store.files (Repository.loggedStore fanRecord.toJson.compact.toUTF8)).records =
      .ok [fanRecord] := by
    rw [← Log.records_compact readsBack_fanRecord]
    exact FileStore.records_of_hasLog hlog
  have hload : load (.files (Repository.loggedStore fanRecord.toJson.compact.toUTF8))
      strictSettings = .ok (loggedEngine fanRecord.toJson.compact
        { symptoms := [⟨"fan", "Fan makes a grinding noise", .hardware, .user⟩] }) := by
    have hknowledge := Repository.knowledge_loggedStore fanRecord.toJson.compact.toUTF8
    exact load_eq_ok_iff.mpr ⟨Repository.load_eq_ok_iff.mpr
      ⟨∅, Repository.emptyRepository, [fanRecord], hknowledge, rfl, hbefore, rfl⟩, rfl, rfl⟩
  refine ⟨_, _, hload, hbefore, readsBack_smellRecord, rfl, ?_⟩
  -- both records are on one line now
  refine (FileStore.records_of_hasLog (hlog.attempt (r := smellRecord) rfl)).trans ?_
  rw [Log.records_append_entry_of_not_endsClean (Log.not_endsClean_compact fanRecord)
    readsBack_smellRecord, Log.ended_of_not_mem (Log.not_mem_compact fanRecord)]
  rfl

end Engine

end FaultDiagnosis
