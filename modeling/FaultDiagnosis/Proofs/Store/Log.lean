import FaultDiagnosis.Proofs.Contribution.Log
import FaultDiagnosis.Proofs.Outcome
import FaultDiagnosis.Proofs.Store.Directory
import FaultDiagnosis.Store.Basic

/-!
# The log of a store in files

A store in files keeps its records in a log, and a record that is stored has its line appended to
that file. What the log reads as afterwards depends on how the file ended before
(`FaultDiagnosis.FileStore.records_of_append`): behind a clean end the record joins the others, and
behind anything else it is lost although it was stored, together with the record that the file may
have ended with. An editor that leaves off the last line feed, or a write that was cut short, is
enough for the second.

One record is all that is lost in this way. Every line that is appended is ended, so whatever
follows it is safe (`FaultDiagnosis.FileStore.records_of_appendAll`).
-/

namespace FaultDiagnosis

open Outcome

variable {W : Type} [WeightNotation W]

namespace FileStore

variable {s s' : FileStore} {path text : String} {r : Record W}

/-- **The store keeps its log in a file with the given text**, or there is no such file yet and the
text is empty. -/
structure HasLog (s : FileStore) (path text : String) : Prop where
  logPath : s.logPath = some path
  text : s.tree.HasText path text

theorem records_of_hasLog (h : s.HasLog path text) :
    (s.records : Except (LoadFault W) (List (Record W))) = .ok (Log.records text) := by
  rw [records, h.logPath]
  cases h.text with
  | file hfile => simp only [FileTree.readText_of_file hfile]
  | missing hmissing =>
    simp only [FileTree.readText, hmissing]
    rfl

/-! ### Storing a record -/

theorem addsDirectories_prepare (tree : FileTree) (path : String) :
    tree.AddsDirectories (prepare tree path).2 := by
  rw [prepare]
  split
  · exact .refl tree
  · next directory _ =>
    split
    · exact .refl tree
    · have hadds := tree.addsDirectories_createDirectory directory
      split
      all_goals
        next hcreate =>
          rw [hcreate] at hadds
          exact hadds

/-- **What an attempt to store a record does**: it adds directories, and after that either the line
of the record is appended, or nothing else happens. -/
theorem attempt_cases (h : s.logPath = some path) (r : Record W) :
    ∃ tree, s.tree.AddsDirectories tree ∧
      ((∃ tree', tree.Appends path (Log.entry r).toUTF8 tree' ∧
          s.attempt r = (.ok (), { s with tree := tree' })) ∨
        ∃ fault, s.attempt r = (.error fault, { s with tree })) := by
  have hadds := addsDirectories_prepare s.tree path
  refine ⟨_, hadds, ?_⟩
  rw [attempt, h]
  simp only
  split
  · next fault tree hprepare => exact Or.inr ⟨fault, by rw [hprepare]⟩
  · next tree hprepare =>
    rw [hprepare]
    split
    · next tree' hentry => exact Or.inl ⟨tree', FileTree.appends_of_append hentry, rfl⟩
    · exact Or.inr ⟨_, rfl⟩

/-- **Whether a record is stored does not depend on the record.** -/
theorem attempt_answer_eq (s : FileStore) (r r' : Record W) :
    (s.attempt r).1 = (s.attempt r').1 := by
  rw [attempt, attempt]
  split
  · rfl
  · next path _ =>
    split
    · rfl
    · next tree _ =>
      have hsame := tree.isSome_append_eq path (Log.entry r).toUTF8 (Log.entry r').toUTF8
      split
      · next heq =>
        rw [heq] at hsame
        obtain ⟨tree', heq'⟩ := Option.isSome_iff_exists.mp hsame.symm
        rw [heq']
      · next heq =>
        rw [heq] at hsame
        rw [Option.not_isSome_iff_eq_none.mp (Bool.eq_false_iff.mp hsame.symm)]

/-- When a record is stored, directories may be added, and its line is appended. -/
theorem exists_appends_of_attempt (h : s.logPath = some path)
    (hattempt : s.attempt r = (.ok (), s')) :
    ∃ tree tree', s.tree.AddsDirectories tree ∧ tree.Appends path (Log.entry r).toUTF8 tree' ∧
      s' = { s with tree := tree' } := by
  obtain ⟨tree, hadds, ⟨tree', hentry, hstored⟩ | ⟨fault, hfault⟩⟩ := attempt_cases h r
  · exact ⟨tree, tree', hadds, hentry, (Prod.mk.inj (hattempt.symm.trans hstored)).2⟩
  · cases hfault.symm.trans hattempt

theorem append_eq_ok_iff : s.append r = .ok s' ↔ s.attempt r = (.ok (), s') := by
  rw [append]
  split
  · next heq => simp [heq]
  · next heq => simp [heq]

/-- **A record that is stored is appended to the text of the log.** -/
theorem HasLog.attempt (h : s.HasLog path text) (hattempt : s.attempt r = (.ok (), s')) :
    s'.HasLog path (text ++ Log.entry r) := by
  obtain ⟨tree, tree', hadds, hentry, rfl⟩ := exists_appends_of_attempt h.logPath hattempt
  exact ⟨h.logPath, h.text.append hadds hentry⟩

theorem HasLog.append (h : s.HasLog path text) (happend : s.append r = .ok s') :
    s'.HasLog path (text ++ Log.entry r) :=
  h.attempt (append_eq_ok_iff.mp happend)

/-- Where the log is, there is nothing to prepare. -/
theorem prepare_of_file {tree : FileTree} {content : ByteArray}
    (h : tree.find path = .file content) : prepare tree path = (.ok (), tree) := by
  obtain ⟨hpath, hleads, -⟩ := FileTree.find_eq_file_iff.mp h
  obtain ⟨directory, hparent, hcreate⟩ := FileTree.createDirectory_of_leads hpath hleads
  rw [prepare, hparent]
  simp only [hcreate, ite_self]

/-- **Once there is a log, storing succeeds.** -/
theorem exists_attempt_of_file {content : ByteArray} (hpath : s.logPath = some path)
    (h : s.tree.find path = .file content) (r : Record W) :
    ∃ s', s.attempt r = (.ok (), s') := by
  simp only [attempt, hpath, prepare_of_file h, FileTree.append, h, Prod.mk.injEq, true_and]
  exact ⟨_, rfl⟩

/-- After a record was stored there is a log, so the next one can be stored as well. -/
theorem exists_attempt_of_attempt (hpath : s.logPath = some path)
    (hattempt : s.attempt r = (.ok (), s')) (r' : Record W) :
    ∃ s'', s'.attempt r' = (.ok (), s'') := by
  obtain ⟨tree, tree', -, hentry, rfl⟩ := exists_appends_of_attempt hpath hattempt
  exact exists_attempt_of_file (s := { s with tree := tree' }) hpath hentry.find_eq r'

/-- Storing a record leaves the document as it is, if it is not the document that the record is
written to. -/
theorem find_documentPath_of_attempt (hpath : s.logPath = some path)
    (hattempt : s.attempt r = (.ok (), s')) {content : ByteArray}
    (hdocument : s.tree.find s.documentPath = .file content)
    (hne : FileTree.placeOf s.documentPath ≠ FileTree.placeOf path) :
    s'.documentPath = s.documentPath ∧ s'.tree.find s'.documentPath = .file content := by
  obtain ⟨tree, tree', hadds, hentry, rfl⟩ := exists_appends_of_attempt hpath hattempt
  exact ⟨rfl, hentry.find_of_ne (hadds.find_eq_file hdocument) hne⟩

/-- **What becomes of a record that is stored.** The store reads its records from a log with any
text, or from none, and a record is stored that can be read back. Then the store has the records
that it had, followed by the new one, exactly if the text ended cleanly. If it did not, the store
has the records of the ended lines and nothing else. -/
theorem records_of_append (hlog : s.HasLog path text) (hr : r.ReadsBack)
    (happend : s.append r = .ok s') :
    (s.records : Except (LoadFault W) (List (Record W))) = .ok (Log.records text) ∧
      (s'.records = .ok (Log.records text ++ [r]) ↔ Log.EndsClean text) ∧
      (¬ Log.EndsClean text →
        (s'.records : Except (LoadFault W) (List (Record W))) =
          .ok (Log.records (Log.ended text))) := by
  have hrecords : (s'.records : Except (LoadFault W) (List (Record W))) =
      .ok (Log.records (text ++ Log.entry r)) := records_of_hasLog (hlog.append happend)
  refine ⟨records_of_hasLog hlog, ?_, fun hloose => ?_⟩
  · rw [hrecords, Except.ok.injEq]
    exact Log.records_append_entry_iff hr
  · rw [hrecords, Log.records_append_entry_of_not_endsClean hloose hr]

/-- A store whose log is a file with the given text. -/
def withLog (text : String) : FileStore where
  documentPath := "knowledge.json"
  logPath := some "log.jsonl"
  tree := ⟨[(["log.jsonl"], .file text.toUTF8)]⟩

theorem hasLog_withLog (text : String) : (withLog text).HasLog "log.jsonl" text :=
  ⟨rfl, .file rfl⟩

/-- A record that may already be in a log. -/
def fanRecord : Record Float :=
  ⟨⟨0, 0⟩, .symptom ⟨"fan", "Fan makes a grinding noise", .hardware, .user⟩⟩

/-- A record to be stored. -/
def smellRecord : Record Float :=
  ⟨⟨60, 0⟩, .symptom ⟨"smell", "Smell of burning plastic", .hardware, .user⟩⟩

theorem readsBack_fanRecord : fanRecord.ReadsBack :=
  ⟨by decide +kernel, trivial⟩

theorem readsBack_smellRecord : smellRecord.ReadsBack :=
  ⟨by decide +kernel, trivial⟩

theorem records_of_append_smell :
    (withLog "no record\n").HasLog "log.jsonl" "no record\n" ∧ smellRecord.ReadsBack ∧
      ∃ s', (withLog "no record\n").append smellRecord = .ok s' ∧
        (s'.records : Except (LoadFault Float) (List (Record Float))) =
          .ok (Log.records "no record\n" ++ [smellRecord]) := by
  have hclean : Log.EndsClean "no record\n" := by decide +kernel
  refine ⟨hasLog_withLog _, readsBack_smellRecord, _, rfl, ?_⟩
  exact (records_of_append (hasLog_withLog _) readsBack_smellRecord rfl).2.1.mpr hclean

/-- A log whose only line lacks its line feed: one record is there, one is stored, and none is left.
-/
theorem append_loses_records :
    ((withLog fanRecord.toJson.compact).records : Except (LoadFault Float) (List (Record Float))) =
        .ok [fanRecord] ∧
      smellRecord.ReadsBack ∧
      ∃ s', (withLog fanRecord.toJson.compact).append smellRecord = .ok s' ∧
        (s'.records : Except (LoadFault Float) (List (Record Float))) = .ok [] := by
  refine ⟨?_, readsBack_smellRecord, _, rfl, ?_⟩
  · rw [records_of_hasLog (hasLog_withLog _), Log.records_compact readsBack_fanRecord]
  · rw [records_of_hasLog ((hasLog_withLog _).append rfl),
      Log.records_append_entry_of_not_endsClean (Log.not_endsClean_compact fanRecord)
        readsBack_smellRecord, Log.ended_of_not_mem (Log.not_mem_compact fanRecord)]
    rfl

/-- Stores records one after the other. -/
def appendAll (s : FileStore) (rs : List (Record W)) : Except StorageFault FileStore :=
  rs.foldlM append s

/-- **Once the log ends cleanly, nothing is lost**, however many records are stored. -/
theorem records_of_appendAll (hlog : s.HasLog path text) (hclean : Log.EndsClean text)
    {rs : List (Record W)} (hrs : ∀ r ∈ rs, r.ReadsBack) (happend : s.appendAll rs = .ok s') :
    s'.records = .ok (Log.records text ++ rs) := by
  induction rs generalizing s text with
  | nil =>
    obtain ⟨⟩ := happend
    rw [List.append_nil]
    exact records_of_hasLog hlog
  | cons r rs ih =>
    obtain ⟨hr, hrs⟩ := List.forall_mem_cons.mp hrs
    rw [appendAll, List.foldlM_cons, bind_eq_ok] at happend
    obtain ⟨s₁, hfirst, hrest⟩ := happend
    have hrecords := ih (hlog.append hfirst) (Log.endsClean_append_entry text r) hrs hrest
    rw [hrecords, Log.records_append_entry_of_endsClean hclean hr, List.append_assoc]
    rfl

end FileStore

end FaultDiagnosis
