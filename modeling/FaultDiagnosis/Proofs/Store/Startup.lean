import FaultDiagnosis.Proofs.Store.FileTree
import FaultDiagnosis.Proofs.Store.Replay

/-!
# Starting with any log

When a store in files is loaded, its log may hold anything. Line by line, the reader passes over
what is no record and the repository passes over what does not fit, and neither gives up
(`FaultDiagnosis.Repository.Replays`). But before there are lines there has to be a text, and the
log is read as one text or not at all. So it is the encoding alone that decides
(`FaultDiagnosis.Repository.load_of_logged_bytes`): with bytes that are a text, loading succeeds and
takes each line for what it is worth; with any others, a single stray byte is enough, it fails, and
the records on all other lines are out of reach.
-/

namespace FaultDiagnosis

open Outcome

variable {W : Type} [Weight W] [WeightNotation W]

namespace Repository

/-- **What the lines of a log do to a repository**, one after the other. -/
inductive Replays : Repository W → List String → Repository W → Prop
  | done (r : Repository W) : Replays r [] r
  /-- A line that is no record is passed over. -/
  | noRecord {r r' : Repository W} {line : String} {lines : List String}
    (h : (Log.record? line : Option (Record W)) = none) (hrest : Replays r lines r') :
    Replays r (line :: lines) r'
  /-- A record that does not fit what is known by then is passed over. -/
  | unfit {r r' : Repository W} {line : String} {lines : List String} {record : Record W}
    (h : Log.record? line = some record) (hunfit : ¬record.item.asUser.Fits r.merged)
    (hrest : Replays r lines r') : Replays r (line :: lines) r'
  /-- A record that fits is added. -/
  | fit {r r' : Repository W} {line : String} {lines : List String} {record : Record W}
    (h : Log.record? line = some record) (hfit : record.item.asUser.Fits r.merged)
    (hrest : Replays (r.add record.item.asUser) lines r') : Replays r (line :: lines) r'

/-- **Every list of lines is replayed to its end.** -/
theorem replays_foldl (r : Repository W) (lines : List String) :
    Replays r lines ((lines.filterMap Log.record?).foldl replay r) := by
  induction lines generalizing r with
  | nil => exact .done r
  | cons line lines ih =>
    cases h : (Log.record? line : Option (Record W)) with
    | none =>
      rw [List.filterMap_cons_none h]
      exact .noRecord h (ih r)
    | some record =>
      rw [List.filterMap_cons_some h, List.foldl_cons]
      by_cases hfit : record.item.asUser.Fits r.merged
      · rw [replay_of_fits hfit]
        exact .fit h hfit (ih _)
      · rw [replay_of_not_fits hfit]
        exact .unfit h hfit (ih r)

/-- There is only one way to replay lines. -/
theorem Replays.eq_foldl {r r' : Repository W} {lines : List String} (h : Replays r lines r') :
    r' = (lines.filterMap Log.record?).foldl replay r := by
  induction h with
  | done r => rfl
  | noRecord hline _ ih => rw [ih, List.filterMap_cons_none hline]
  | unfit hline hunfit _ ih =>
    rw [ih, List.filterMap_cons_some hline, List.foldl_cons, replay_of_not_fits hunfit]
  | fit hline hfit _ ih =>
    rw [ih, List.filterMap_cons_some hline, List.foldl_cons, replay_of_fits hfit]

variable {s : FileStore} {path : String} {bytes : ByteArray} {kb : KnowledgeBase W}
  {r₀ : Repository W}

/-- Bytes that are a text are read line by line. -/
theorem load_of_logged_text {text : String} (hknowledge : s.knowledge = .ok kb)
    (hshipped : ofShipped kb = .ok r₀) (hpath : s.logPath = some path)
    (hlog : s.tree.find path = .file text.toUTF8) :
    ∃ r, load (.files s) = .ok r ∧ Replays r₀ (Log.lines text) r := by
  refine ⟨_, ?_, replays_foldl r₀ (Log.lines text)⟩
  refine load_eq_ok_iff.mpr ⟨kb, r₀, Log.records text, hknowledge, hshipped, ?_, rfl⟩
  change s.records = _
  rw [FileStore.records, hpath]
  simp only [FileTree.readText_of_file hlog]

/-- Bytes that are no text cannot be read at all. -/
theorem load_of_logged_noText (hbytes : ¬bytes.IsValidUTF8) (hknowledge : s.knowledge = .ok kb)
    (hshipped : ofShipped kb = .ok r₀) (hpath : s.logPath = some path)
    (hlog : s.tree.find path = .file bytes) :
    (load (.files s) : Except (LoadFault W) (Repository W)) = .error (.unreadable path) := by
  have hrecords : ((Store.files s : Store W).records : Except (LoadFault W) (List (Record W))) =
      .error (.unreadable path) := by
    change s.records = _
    rw [FileStore.records, hpath]
    simp only [FileTree.readText, hlog, String.fromUTF8?, dif_neg hbytes]
  have hkb : (Store.files s).knowledge = .ok kb := hknowledge
  rw [load, hkb]
  change (ofShipped kb >>= _) = _
  rw [hshipped]
  change (Store.records (.files s) >>= _) = _
  rw [hrecords]
  rfl

/-- **What decides whether a store with a log can be loaded.** The document of the store is sound,
and its log is a file with any bytes. Then loading succeeds exactly if the bytes are a text. If they
are, every line of it is replayed; if they are not, the log is what cannot be read. -/
theorem load_of_logged_bytes (hknowledge : s.knowledge = .ok kb)
    (hshipped : ofShipped kb = .ok r₀) (hpath : s.logPath = some path)
    (hlog : s.tree.find path = .file bytes) :
    ((∃ r : Repository W, load (.files s) = .ok r) ↔ bytes.IsValidUTF8) ∧
      (∀ text : String, bytes = text.toUTF8 →
        ∃ r, load (.files s) = .ok r ∧ Replays r₀ (Log.lines text) r) ∧
      (¬bytes.IsValidUTF8 →
        (load (.files s) : Except (LoadFault W) (Repository W)) = .error (.unreadable path)) := by
  have htext : ∀ text : String, bytes = text.toUTF8 →
      ∃ r, load (.files s) = .ok r ∧ Replays r₀ (Log.lines text) r := by
    rintro text rfl
    exact load_of_logged_text hknowledge hshipped hpath hlog
  have hnoText : ¬bytes.IsValidUTF8 →
      (load (.files s) : Except (LoadFault W) (Repository W)) = .error (.unreadable path) :=
    fun hbytes => load_of_logged_noText hbytes hknowledge hshipped hpath hlog
  refine ⟨⟨fun ⟨r, hr⟩ => ?_, fun hbytes => ?_⟩, htext, hnoText⟩
  · by_cases hbytes : bytes.IsValidUTF8
    · exact hbytes
    · rw [hnoText hbytes] at hr
      cases hr
  · obtain ⟨r, hr, -⟩ := htext (String.fromUTF8 bytes hbytes) rfl
    exact ⟨r, hr⟩

/-- A store that ships nothing, with a log of the given bytes. -/
def loggedStore (bytes : ByteArray) : FileStore where
  documentPath := "knowledge.json"
  logPath := some "log.jsonl"
  tree := ⟨[(["knowledge.json"], .file "\x7b\"symptoms\":[]\x7d".toUTF8),
    (["log.jsonl"], .file bytes)]⟩

theorem find_document (bytes : ByteArray) :
    (loggedStore bytes).tree.find "knowledge.json" =
      .file "\x7b\"symptoms\":[]\x7d".toUTF8 := by
  have hnames : FileTree.names "knowledge.json" = ["knowledge.json"] := by decide +kernel
  have hplace : FileTree.placeOf "knowledge.json" = ["knowledge.json"] := by decide +kernel
  refine FileTree.find_eq_file_of_name ⟨by decide, by decide, by decide⟩ hnames ?_
  rw [hplace]
  simp [FileTree.node?, loggedStore]

theorem find_log (bytes : ByteArray) :
    (loggedStore bytes).tree.find "log.jsonl" = .file bytes := by
  have hnames : FileTree.names "log.jsonl" = ["log.jsonl"] := by decide +kernel
  have hplace : FileTree.placeOf "log.jsonl" = ["log.jsonl"] := by decide +kernel
  refine FileTree.find_eq_file_of_name ⟨by decide, by decide, by decide⟩ hnames ?_
  rw [hplace]
  simp [FileTree.node?, loggedStore, List.lookup_cons]

/-- What the document of such a store gives, whatever else is in its tree. -/
theorem knowledge_of_find {s : FileStore} (hpath : s.documentPath = "knowledge.json")
    (hfind : s.tree.find "knowledge.json" = .file "\x7b\"symptoms\":[]\x7d".toUTF8) :
    s.knowledge = .ok (∅ : KnowledgeBase Float) := by
  have hread : s.tree.readText s.documentPath = .ok "\x7b\"symptoms\":[]\x7d" := by
    rw [hpath]
    exact FileTree.readText_of_file hfind
  have hparse : (parseDocument "\x7b\"symptoms\":[]\x7d" "knowledge.json").toOption =
      some (∅ : KnowledgeBase Float) := by decide +kernel
  rw [FileStore.knowledge, hread, hpath]
  change parseDocument "\x7b\"symptoms\":[]\x7d" "knowledge.json" = _
  cases hresult : parseDocument (W := Float) "\x7b\"symptoms\":[]\x7d" "knowledge.json" with
  | ok kb =>
    rw [hresult] at hparse
    exact congrArg Except.ok (Option.some.inj hparse)
  | error fault =>
    rw [hresult] at hparse
    cases hparse

theorem knowledge_loggedStore (bytes : ByteArray) :
    (loggedStore bytes).knowledge = .ok (∅ : KnowledgeBase Float) :=
  knowledge_of_find rfl (find_document bytes)

/-- The repository that knows nothing. -/
def emptyRepository : Repository Float :=
  { shipped := ∅, user := ∅ }

theorem load_of_logged_bytes_noRecord :
    (loggedStore "no record\n".toUTF8).knowledge = .ok (∅ : KnowledgeBase Float) ∧
      ofShipped ∅ = .ok emptyRepository ∧
      (loggedStore "no record\n".toUTF8).tree.find "log.jsonl" = .file "no record\n".toUTF8 ∧
      ∃ r, load (.files (loggedStore "no record\n".toUTF8)) = .ok r ∧
        Replays emptyRepository (Log.lines "no record\n") r := by
  have hknowledge := knowledge_loggedStore "no record\n".toUTF8
  have hshipped : ofShipped ∅ = .ok emptyRepository := rfl
  have hlog := find_log "no record\n".toUTF8
  exact ⟨hknowledge, hshipped, hlog,
    (load_of_logged_bytes hknowledge hshipped rfl hlog).2.1 "no record\n" rfl⟩

/-- A log of one line with one stray byte, and nothing can be loaded. -/
theorem load_of_strayByte :
    (loggedStore ⟨#[0xff, 0x0a]⟩).knowledge = .ok (∅ : KnowledgeBase Float) ∧
      ofShipped ∅ = .ok emptyRepository ∧
      (loggedStore ⟨#[0xff, 0x0a]⟩).tree.find "log.jsonl" = .file ⟨#[0xff, 0x0a]⟩ ∧
      ¬∃ r : Repository Float, load (.files (loggedStore ⟨#[0xff, 0x0a]⟩)) = .ok r := by
  have hknowledge := knowledge_loggedStore ⟨#[0xff, 0x0a]⟩
  have hshipped : ofShipped ∅ = .ok emptyRepository := rfl
  have hlog := find_log ⟨#[0xff, 0x0a]⟩
  have hbytes : ¬(ByteArray.mk #[0xff, 0x0a]).IsValidUTF8 := by decide
  refine ⟨hknowledge, hshipped, hlog, ?_⟩
  rintro ⟨r, hr⟩
  rw [load_of_logged_noText hbytes hknowledge hshipped rfl hlog] at hr
  cases hr

end Repository

end FaultDiagnosis
