import FaultDiagnosis.Proofs.Contribution.Codec
import Mathlib.Data.List.DropRight

/-!
# Appending to the log

A record is appended to the log as it is: its line and a line feed, whatever the text ends with. The
reader splits the text at line feeds and passes over lines that are no records. So everything turns
on what stands behind the last line feed of the text before (`FaultDiagnosis.Log.loose`). If these
are blanks, or nothing, the new line is read as the new record. If they are anything else, the new
line is the loose characters and the record in one, and that is never a record
(`FaultDiagnosis.Record.decoder_ofText_glued`): the new record is lost, and with it the one that the
loose characters may have been.

Either way the line is ended now, so that the next record is safe
(`FaultDiagnosis.Log.endsClean_append_entry`).
-/

namespace FaultDiagnosis.Log

open Json (Reading)

variable {W : Type}

/-! ### What stands behind the last line feed -/

/-- The text up to its last line feed. -/
def ended (text : String) : String :=
  String.ofList (text.toList.rdropWhile (· ≠ '\n'))

/-- The characters behind the last line feed. -/
def loose (text : String) : List Char :=
  text.toList.rtakeWhile (· ≠ '\n')

/-- **Does the text end cleanly?** Only blanks stand behind its last line feed. -/
def EndsClean (text : String) : Prop :=
  ∀ c ∈ loose text, Reading.isBlank c = true

instance (text : String) : Decidable (EndsClean text) :=
  decidable_of_iff ((loose text).all Reading.isBlank = true) List.all_eq_true

theorem toList_eq_ended_append_loose (text : String) :
    text.toList = (ended text).toList ++ loose text := by
  rw [ended, loose, String.toList_ofList, List.rdropWhile_append_rtakeWhile]

theorem not_mem_loose (text : String) : '\n' ∉ loose text :=
  fun h => absurd (List.mem_rtakeWhile_imp h) (by decide)

/-- The ended part is empty or ends with a line feed. -/
theorem ended_cases (text : String) :
    (ended text).toList = [] ∨ ∃ cs, (ended text).toList = cs ++ ['\n'] := by
  rw [ended, String.toList_ofList]
  by_cases h : text.toList.rdropWhile (· ≠ '\n') = []
  · exact Or.inl h
  · have hlast := List.rdropWhile_last_not _ _ h
    rw [decide_eq_true_eq, not_not] at hlast
    refine Or.inr ⟨(text.toList.rdropWhile (· ≠ '\n')).dropLast, ?_⟩
    exact (List.dropLast_append_getLast h).symm.trans (by rw [hlast])

/-- Without a line feed, all characters are loose. -/
theorem loose_of_not_mem {text : String} (h : '\n' ∉ text.toList) : loose text = text.toList := by
  refine List.rtakeWhile_eq_self_iff.mpr fun c hc => decide_eq_true ?_
  rintro rfl
  exact h hc

theorem ended_of_not_mem {text : String} (h : '\n' ∉ text.toList) : ended text = "" := by
  have hnil : text.toList.rdropWhile (· ≠ '\n') = [] := by
    refine List.rdropWhile_eq_nil_iff.mpr fun c hc => decide_eq_true ?_
    rintro rfl
    exact h hc
  rw [ended, hnil, String.ofList_nil]

/-! ### Lines -/

/-- The current line as it is when a line feed ends it: without a carriage return at its end. -/
def closeLine : List Char → String
  | '\r' :: line => String.ofList line.reverse
  | line => String.ofList line.reverse

theorem linesFrom_cons_newline (line rest : List Char) :
    linesFrom line ('\n' :: rest) = closeLine line :: linesFrom [] rest := by
  unfold closeLine
  split <;> simp_all [linesFrom]

/-- A line feed separates the lines before it from those after it. -/
theorem linesFrom_append (line cs rest : List Char) :
    linesFrom line (cs ++ '\n' :: rest) = linesFrom line (cs ++ ['\n']) ++ linesFrom [] rest := by
  induction cs generalizing line with
  | nil =>
    simp only [List.nil_append, linesFrom_cons_newline, linesFrom, List.isEmpty_nil, if_true,
      List.singleton_append]
  | cons c cs ih =>
    by_cases hc : c = '\n'
    · subst hc
      simp only [List.cons_append, linesFrom_cons_newline, ih]
    · rw [List.cons_append, List.cons_append, linesFrom, linesFrom, ih]
      · exact hc
      · exact hc

/-- Without a line feed, all characters belong to the current line. -/
theorem linesFrom_of_not_mem {cs : List Char} (h : '\n' ∉ cs) (line rest : List Char) :
    linesFrom line (cs ++ rest) = linesFrom (cs.reverse ++ line) rest := by
  induction cs generalizing line with
  | nil => rfl
  | cons c cs ih =>
    rw [List.mem_cons, not_or] at h
    rw [List.cons_append, linesFrom, ih h.2, List.reverse_cons, List.append_assoc]
    · rfl
    · exact fun hc => h.1 hc.symm

theorem linesFrom_ended_append (text : String) (cs : List Char) :
    linesFrom [] ((ended text).toList ++ cs) = lines (ended text) ++ linesFrom [] cs := by
  rw [lines]
  rcases ended_cases text with h | ⟨front, h⟩
  · rw [h]
    rfl
  · rw [h, List.append_assoc, List.singleton_append, linesFrom_append]

/-! ### Records -/

section Weights

variable [WeightNotation W]

/-- A line of blanks is no record. -/
theorem record?_of_blank {cs : List Char} (h : ∀ c ∈ cs, Reading.isBlank c = true) :
    (record? (String.ofList cs) : Option (Record W)) = none := by
  have hblank : Text.isBlankText (String.ofList cs) = true := by
    rw [Text.isBlankText, String.toList_ofList, List.all_eq_true]
    intro c hc
    have := h c hc
    simp only [Reading.isBlank, Bool.or_eq_true, decide_eq_true_eq] at this
    rcases this with ((rfl | rfl) | rfl) | rfl
    all_goals rfl
  rw [record?, if_pos hblank]

theorem filterMap_record?_singleton (line : String) :
    [line].filterMap record? = (record? line : Option (Record W)).toList := by
  cases h : (record? line : Option (Record W)) with
  | none => exact List.filterMap_cons_none h
  | some r => exact List.filterMap_cons_some h

/-- The records of a text are those of its ended lines, and one more if its loose characters are a
record. -/
theorem records_eq (text : String) :
    (records text : List (Record W)) =
      records (ended text) ++ (record? (String.ofList (loose text))).toList := by
  unfold records
  rw [lines, toList_eq_ended_append_loose, linesFrom_ended_append,
    List.filterMap_append]
  congr 1
  -- no loose characters are no line, but a blank line is no record either
  cases h : loose text with
  | nil =>
    have hnone : (record? (String.ofList []) : Option (Record W)) = none :=
      record?_of_blank (by simp)
    rw [hnone]
    rfl
  | cons c cs =>
    have hline : linesFrom [] (c :: cs) = [String.ofList (c :: cs)] := by
      have := linesFrom_of_not_mem (h ▸ not_mem_loose text) [] []
      rw [List.append_nil, List.append_nil] at this
      simp [this, linesFrom]
    rw [hline, filterMap_record?_singleton]

variable {r : Record W}

/-- The line of a record has no line break and no carriage return at its end. -/
theorem linesFrom_entry (p : List Char) (hp : '\n' ∉ p) :
    linesFrom [] (p ++ (entry r).toList) = [String.ofList (p ++ r.toJson.chars)] := by
  have hcontrol : ∀ c ∈ r.toJson.chars, 0x20 ≤ c.toNat := Json.le_toNat_of_mem_chars r.toJson
  have hline : '\n' ∉ p ++ r.toJson.chars := by
    rw [List.mem_append, not_or]
    exact ⟨hp, fun h => absurd (hcontrol _ h) (by decide)⟩
  have hend : closeLine ((p ++ r.toJson.chars).reverse ++ []) =
      String.ofList (p ++ r.toJson.chars) := by
    -- the line ends with a character of the record, and this is no carriage return
    rw [List.append_nil, List.reverse_append]
    cases hlast : r.toJson.chars.reverse with
    | nil => cases List.reverse_eq_nil_iff.mp hlast
    | cons c cs =>
      have hc : c ≠ '\r' := by
        rintro rfl
        have hmem : '\r' ∈ r.toJson.chars := by
          rw [← List.mem_reverse, hlast]
          exact List.mem_cons_self
        exact absurd (hcontrol _ hmem) (by decide)
      rw [List.cons_append]
      unfold closeLine
      split
      · next heq => exact absurd (List.cons.inj heq).1 hc
      · rw [← List.cons_append, ← hlast, ← List.reverse_append, List.reverse_reverse]
  rw [entry, String.toList_append, Json.compact, String.toList_ofList, ← List.append_assoc]
  change linesFrom [] (p ++ r.toJson.chars ++ ['\n']) = _
  rw [linesFrom_of_not_mem hline, linesFrom_cons_newline, hend]
  rfl

/-- A record that is appended shares its line with the loose characters in front of it. -/
theorem records_append_entry (text : String) :
    (records (text ++ entry r) : List (Record W)) =
      records (ended text) ++ (record? (String.ofList (loose text ++ r.toJson.chars))).toList := by
  unfold records
  rw [lines, String.toList_append, toList_eq_ended_append_loose, List.append_assoc,
    linesFrom_ended_append, linesFrom_entry _ (not_mem_loose text), List.filterMap_append,
    filterMap_record?_singleton]

/-- The line of a record is not blank, whatever stands in front of it. -/
theorem not_isBlankText_append (r : Record W) (p : List Char) :
    Text.isBlankText (String.ofList (p ++ r.toJson.chars)) = false := by
  rw [Text.isBlankText, String.toList_ofList, List.all_eq_false]
  exact ⟨'\x7b', List.mem_append_right p List.mem_cons_self, by decide⟩

/-- So whether it is a record is decided by decoding it. -/
theorem record?_append (p : List Char) :
    (record? (String.ofList (p ++ r.toJson.chars)) : Option (Record W)) =
      (Record.decoder (Reading.ofText (String.ofList (p ++ r.toJson.chars)))).toOption := by
  rw [record?, not_isBlankText_append r p, if_neg Bool.false_ne_true]

/-- **Behind a clean end, a record is added to the others.** -/
theorem records_append_entry_of_endsClean {text : String} (h : EndsClean text)
    (hr : r.ReadsBack) : records (text ++ entry r) = records text ++ [r] := by
  rw [records_append_entry, records_eq text, record?_of_blank h, record?_append,
    Record.decoder_ofText_append hr h]
  simp [Except.toOption]

/-- **Behind loose characters, a record is lost**, and with it what they may have been. -/
theorem records_append_entry_of_not_endsClean {text : String} (h : ¬ EndsClean text)
    (hr : r.ReadsBack) : (records (text ++ entry r) : List (Record W)) = records (ended text) := by
  have hloose : ∃ c ∈ loose text, Reading.isBlank c = false := by
    simpa [EndsClean] using h
  rw [records_append_entry, record?_append, Record.decoder_ofText_glued hr hloose]
  exact List.append_nil _

/-- **A record is added to the others exactly behind a clean end.** -/
theorem records_append_entry_iff {text : String} (hr : r.ReadsBack) :
    records (text ++ entry r) = records text ++ [r] ↔ EndsClean text := by
  refine ⟨fun h => ?_, fun h => records_append_entry_of_endsClean h hr⟩
  by_cases hclean : EndsClean text
  · exact hclean
  · -- the records of the ended part are too few to end with one more than all of them
    rw [records_append_entry_of_not_endsClean hclean hr, records_eq text, List.append_assoc] at h
    simpa using congrArg List.length h

/-- A record leaves the log with a clean end. -/
theorem endsClean_append_entry (text : String) (r : Record W) : EndsClean (text ++ entry r) := by
  have hloose : loose (text ++ entry r) = [] := by
    rw [loose, entry, ← String.append_assoc, String.toList_append]
    exact List.rtakeWhile_concat_neg _ _ _ (by decide)
  rw [EndsClean, hloose]
  simp

/-! ### A record without its line feed -/

theorem not_mem_compact (r : Record W) : '\n' ∉ r.toJson.compact.toList := by
  rw [Json.compact, String.toList_ofList]
  exact fun h => absurd (Json.le_toNat_of_mem_chars r.toJson '\n' h) (by decide)

theorem not_endsClean_compact (r : Record W) : ¬ EndsClean r.toJson.compact := by
  rw [EndsClean, loose_of_not_mem (not_mem_compact r), Json.compact, String.toList_ofList]
  intro h
  exact absurd (h '\x7b' List.mem_cons_self) (by decide)

/-- It is read as a record all the same. -/
theorem records_compact (hr : r.ReadsBack) : records r.toJson.compact = [r] := by
  have hrecord : record? (String.ofList r.toJson.chars) = some r := by
    have happend := record?_append (r := r) []
    rw [Record.decoder_ofText_append hr (by simp)] at happend
    exact happend
  rw [records_eq, ended_of_not_mem (not_mem_compact r), loose_of_not_mem (not_mem_compact r),
    Json.compact, String.toList_ofList, hrecord]
  rfl

end Weights

/-! ### One record, one line -/

/-- **A record is written as one line and read back from it.** What is added to the log for a record
is a line and the line feed that ends it. The line has no line break inside, it is not blank, and
the record decoded from it is the one that was written: any texts, any sets, any clues. Of the
libraries this asks that the time and the weights, which are finite, are each read as what they are
written for. -/
theorem decoder_line {r : Record Float}
    (htime : Timestamp.parse r.contributedAt.text = some r.contributedAt)
    (hweights : ∀ c ∈ r.item.clues, c.weight.isFinite = true ∧
      (WeightNotation.write c.weight).map WeightNotation.read = some c.weight) :
    ∃ line, entry r = line ++ "\n" ∧ (∀ c ∈ line.toList, c ≠ '\n' ∧ c ≠ '\r') ∧
      Text.isBlankText line = false ∧ Record.decoder (Reading.ofText line) = .ok r := by
  have hr : r.ReadsBack := by
    refine ⟨htime, Contribution.readsBack_iff.mpr fun c hc => ?_⟩
    obtain ⟨hfinite, hread⟩ := hweights c hc
    exact WeightNotation.readsBack_of_isFinite hfinite hread
  refine ⟨r.toJson.compact, rfl, fun c hc => ?_, not_isBlankText_append r [], ?_⟩
  · rw [Json.compact, String.toList_ofList] at hc
    have hcontrol := Json.le_toNat_of_mem_chars r.toJson c hc
    refine ⟨?_, ?_⟩
    · rintro rfl
      exact absurd hcontrol (by decide)
    · rintro rfl
      exact absurd hcontrol (by decide)
  · exact Record.decoder_ofText_append hr (p := []) (by simp)

/-- A record of a rule whose texts need every kind of escape, and some that need none. -/
def strangeRecord : Record Float :=
  ⟨⟨951868799, 500000000⟩, .rule
    ⟨.ofList ["line\nbreak", "back\\slash"], .ofList ["tab\t", "\"quoted\""],
      "Bell \x07, return \r\n, nothing \x00, a wide 😀 and an odd \u2028", .shipped⟩
    [⟨"line\nbreak", "é\x1f", 2.5, .user⟩, ⟨"", "\x7f\ufeff", -0.1, .shipped⟩]⟩

theorem decoder_line_strange :
    Timestamp.parse strangeRecord.contributedAt.text = some strangeRecord.contributedAt ∧
      (∀ c ∈ strangeRecord.item.clues, c.weight.isFinite = true ∧
        (WeightNotation.write c.weight).map WeightNotation.read = some c.weight) ∧
      ∃ line, entry strangeRecord = line ++ "\n" ∧ (∀ c ∈ line.toList, c ≠ '\n' ∧ c ≠ '\r') ∧
        Text.isBlankText line = false ∧
        Record.decoder (Reading.ofText line) = .ok strangeRecord := by
  have htime : Timestamp.parse strangeRecord.contributedAt.text =
      some strangeRecord.contributedAt := by
    decide +kernel
  have hweights : ∀ c ∈ strangeRecord.item.clues, c.weight.isFinite = true ∧
      (WeightNotation.write c.weight).map WeightNotation.read = some c.weight := by
    decide +kernel
  exact ⟨htime, hweights, decoder_line htime hweights⟩

end FaultDiagnosis.Log
