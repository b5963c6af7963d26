import FaultDiagnosis.Proofs.Json.Trailing
import FaultDiagnosis.Proofs.Store.Log

/-!
# Damage stays on its line

The log is read line by line, so what is on one line cannot reach another. Of two texts with a line
feed between them, the records are those of the first text followed by those of the second
(`FaultDiagnosis.Log.records_newline`). The first text may end in anything at all: a record without
its line feed, half a record, or a carriage return.

The carriage return is the one character that is treated differently at a seam. In front of a line
feed it is no part of its line, and at the end of the text it is. This makes no difference to the
record on the line, because a blank behind a text is neither read as JSON nor makes a line less
blank (`FaultDiagnosis.Log.record?_append_return`).

So a line with no record on it can stand anywhere, and lines may end with a carriage return and a
line feed, and the records of the other lines are the same in the same order
(`FaultDiagnosis.FileStore.records_of_damaged`).
-/

namespace FaultDiagnosis

open Json (Reading)

variable {W : Type} [WeightNotation W]

namespace Log

/-! ### A carriage return at the end of a line -/

theorem isBlankText_append_return (cs : List Char) :
    Text.isBlankText (String.ofList (cs ++ ['\r'])) = Text.isBlankText (String.ofList cs) := by
  have hreturn : Text.isBlank '\r' = true := by decide
  simp only [Text.isBlankText, String.toList_ofList, List.all_append, List.all_cons, List.all_nil,
    hreturn, Bool.and_true]

/-- **A carriage return at its end is no part of the record on a line**, and does not make it one.
-/
theorem record?_append_return (cs : List Char) :
    (record? (String.ofList (cs ++ ['\r'])) : Option (Record W)) = record? (String.ofList cs) := by
  rw [record?, record?, isBlankText_append_return, Reading.ofText_append_blank (b := '\r') rfl]

/-- The line has the same record on it when it is ended as when the text breaks off. -/
theorem record?_closeLine (line : List Char) :
    (record? (closeLine line) : Option (Record W)) = record? (String.ofList line.reverse) := by
  unfold closeLine
  split
  · rw [List.reverse_cons, record?_append_return]
  · rfl

/-! ### Texts with a line feed between them -/

/-- **A line feed keeps the records apart**: those before it come first, then those behind it. -/
theorem records_newline (a b : String) :
    (records (a ++ "\n" ++ b) : List (Record W)) = records a ++ records b := by
  have htext : (a ++ "\n" ++ b).toList = (ended a).toList ++ (loose a ++ '\n' :: b.toList) := by
    rw [String.toList_append, String.toList_append, toList_eq_ended_append_loose a]
    simp only [List.append_assoc]
    rfl
  have hlines : lines (a ++ "\n" ++ b) =
      lines (ended a) ++ closeLine (loose a).reverse :: lines b := by
    rw [lines, htext, linesFrom_ended_append, linesFrom_of_not_mem (not_mem_loose a),
      linesFrom_cons_newline, List.append_nil]
    rfl
  have hrecord : (record? (closeLine (loose a).reverse) : Option (Record W)) =
      record? (String.ofList (loose a)) := by
    rw [record?_closeLine, List.reverse_reverse]
  -- the line that the line feed ends has the record of the loose characters in front of it
  calc (records (a ++ "\n" ++ b) : List (Record W))
      = records (ended a) ++ ([closeLine (loose a).reverse].filterMap record? ++ records b) := by
        rw [records, hlines, List.filterMap_append, ← List.singleton_append, List.filterMap_append]
        rfl
    _ = records (ended a) ++ (record? (String.ofList (loose a))).toList ++ records b := by
        rw [filterMap_record?_singleton, hrecord, List.append_assoc]
    _ = records a ++ records b := by rw [← records_eq]

/-- **The records of many texts**, with line feeds between them, are those of each in turn. -/
theorem records_intercalate (texts : List String) :
    (records ("\n".intercalate texts) : List (Record W)) = texts.flatMap records := by
  induction texts with
  | nil => rfl
  | cons a texts ih =>
    cases texts with
    | nil => rw [String.intercalate_singleton, List.flatMap_cons, List.flatMap_nil, List.append_nil]
    | cons b texts =>
      rw [String.intercalate_cons_cons, records_newline, ih, ← List.flatMap_cons]

/-- A carriage return at the end of the text is no part of its records. -/
theorem records_append_return (a : String) :
    (records (a ++ "\r") : List (Record W)) = records a := by
  have htext : (a ++ "\r").toList = a.toList ++ ['\r'] := String.toList_append
  have hended : ended (a ++ "\r") = ended a := by
    rw [ended, ended, htext, List.rdropWhile_concat_pos _ _ _ (by decide)]
  have hloose : loose (a ++ "\r") = loose a ++ ['\r'] := by
    rw [loose, loose, htext, List.rtakeWhile_concat_pos _ _ _ (by decide)]
  rw [records_eq, hended, hloose, record?_append_return, ← records_eq]

/-- **A line may end with a carriage return and a line feed.** -/
theorem records_returnNewline (a b : String) :
    (records (a ++ "\r\n" ++ b) : List (Record W)) = records a ++ records b := by
  have htext : a ++ "\r\n" ++ b = a ++ "\r" ++ "\n" ++ b := by
    have hend : "\r\n" = "\r" ++ "\n" := by decide
    rw [hend, ← String.append_assoc]
  rw [htext, records_newline, records_append_return]

/-! ### Lines without a record -/

/-- **The line is passed over**: it is blank, or it is not the text of a record. -/
def IsPassedOver (W : Type) [WeightNotation W] (line : String) : Prop :=
  Text.isBlankText line = true ∨
    ∃ fault, (Record.decoder (Reading.ofText line) : Except Json.Fault (Record W)) = .error fault

theorem record?_eq_none_iff {line : String} :
    (record? line : Option (Record W)) = none ↔ IsPassedOver W line := by
  rw [record?, IsPassedOver]
  cases Text.isBlankText line with
  | true => simp
  | false =>
    cases (Record.decoder (Reading.ofText line) : Except Json.Fault (Record W)) with
    | error fault => simp [Except.toOption]
    | ok r => simp [Except.toOption]

/-- A text of one line has the record on that line. -/
theorem records_line {line : String} (h : '\n' ∉ line.toList) :
    (records line : List (Record W)) = (record? line).toList := by
  have hnone : (records "" : List (Record W)) = [] := rfl
  rw [records_eq, ended_of_not_mem h, loose_of_not_mem h, String.ofList_toList, hnone,
    List.nil_append]

theorem record?_eq_some {line : String} {r : Record W} (hblank : Text.isBlankText line = false)
    (hdecode : Record.decoder (Reading.ofText line) = .ok r) : record? line = some r := by
  rw [record?, hblank, hdecode]
  rfl

theorem records_of_isPassedOver {line : String} (h : '\n' ∉ line.toList)
    (hline : IsPassedOver W line) : (records line : List (Record W)) = [] := by
  rw [records_line h, record?_eq_none_iff.mpr hline]
  rfl

end Log

namespace FileStore

variable {s s₁ s₂ : FileStore} {path path₁ path₂ a b : String}

/-- **Damage stays on its line.** There are three logs, and the text of one of them is made of the
texts of the two others with a line feed in between. Then its records are those of the first text,
followed by those of the second. They are the same if a carriage return stands in front of the line
feed, and if there are lines in between that are blank or are not the text of a record. A line in
between that is the text of a record adds this record at its place. -/
theorem records_of_damaged (h : s.HasLog path (a ++ "\n" ++ b)) (h₁ : s₁.HasLog path₁ a)
    (h₂ : s₂.HasLog path₂ b) :
    ∃ before after : List (Record W), s₁.records = .ok before ∧ s₂.records = .ok after ∧
      s.records = .ok (before ++ after) ∧
      (∀ (s' : FileStore) (path' : String), s'.HasLog path' (a ++ "\r\n" ++ b) →
        s'.records = .ok (before ++ after)) ∧
      (∀ damaged : List String, (∀ line ∈ damaged, '\n' ∉ line.toList ∧ Log.IsPassedOver W line) →
        ∀ (s' : FileStore) (path' : String),
          s'.HasLog path' ("\n".intercalate (a :: (damaged ++ [b]))) →
          s'.records = .ok (before ++ after)) ∧
      ∀ (line : String) (r : Record W), '\n' ∉ line.toList → Text.isBlankText line = false →
        Record.decoder (Reading.ofText line) = .ok r → ∀ (s' : FileStore) (path' : String),
          s'.HasLog path' ("\n".intercalate [a, line, b]) →
          s'.records = .ok (before ++ r :: after) := by
  refine ⟨Log.records a, Log.records b, records_of_hasLog h₁, records_of_hasLog h₂, ?_,
    fun s' path' h' => ?_, fun damaged hdamaged s' path' h' => ?_,
    fun line r hnewline hblank hdecode s' path' h' => ?_⟩
  · rw [records_of_hasLog h, Log.records_newline]
  · rw [records_of_hasLog h', Log.records_returnNewline]
  · have hnone : (damaged.flatMap Log.records : List (Record W)) = [] :=
      List.flatMap_eq_nil_iff.mpr fun line hmem =>
        Log.records_of_isPassedOver (hdamaged line hmem).1 (hdamaged line hmem).2
    rw [records_of_hasLog h', Log.records_intercalate, List.flatMap_cons, List.flatMap_append,
      hnone, List.flatMap_singleton, List.nil_append]
  · rw [records_of_hasLog h', Log.records_intercalate, List.flatMap_cons, List.flatMap_cons,
      Log.records_line hnewline, Log.record?_eq_some hblank hdecode, List.flatMap_singleton]
    rfl

/-- The start of a record, as an interrupted write leaves it. -/
def cutLine : String := "\x7b\"contributed_at\":\"19"

theorem isPassedOver_cutLine : Log.IsPassedOver Float cutLine := by
  have hnone : (Log.record? cutLine : Option (Record Float)).isNone = true := by decide +kernel
  exact Log.record?_eq_none_iff.mp (Option.isNone_iff_eq_none.mp hnone)

/-- Two records, with the start of a record and a blank line between them. -/
theorem records_of_damaged_cut :
    let a := fanRecord.toJson.compact
    let b := smellRecord.toJson.compact
    (withLog (a ++ "\n" ++ b)).HasLog "log.jsonl" (a ++ "\n" ++ b) ∧
      (withLog a).HasLog "log.jsonl" a ∧ (withLog b).HasLog "log.jsonl" b ∧
      (∀ line ∈ [cutLine, " \r"], '\n' ∉ line.toList ∧ Log.IsPassedOver Float line) ∧
      (withLog ("\n".intercalate [a, cutLine, " \r", b])).records =
        .ok [fanRecord, smellRecord] := by
  intro a b
  have hlines : ∀ line ∈ [cutLine, " \r"], '\n' ∉ line.toList ∧ Log.IsPassedOver Float line := by
    refine List.forall_mem_cons.mpr ⟨⟨by decide, isPassedOver_cutLine⟩, ?_⟩
    exact List.forall_mem_singleton.mpr ⟨by decide, Or.inl (by decide)⟩
  obtain ⟨before, after, hbefore, hafter, -, -, hdamaged, -⟩ :=
    records_of_damaged (W := Float) (hasLog_withLog (a ++ "\n" ++ b)) (hasLog_withLog a)
      (hasLog_withLog b)
  rw [records_of_hasLog (hasLog_withLog a), Log.records_compact readsBack_fanRecord] at hbefore
  rw [records_of_hasLog (hasLog_withLog b), Log.records_compact readsBack_smellRecord] at hafter
  obtain rfl := Except.ok.inj hbefore
  obtain rfl := Except.ok.inj hafter
  exact ⟨hasLog_withLog _, hasLog_withLog _, hasLog_withLog _, hlines,
    hdamaged [cutLine, " \r"] hlines _ _ (hasLog_withLog _)⟩

end FileStore

end FaultDiagnosis
