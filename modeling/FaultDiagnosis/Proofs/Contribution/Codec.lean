import FaultDiagnosis.Contribution.Log
import FaultDiagnosis.Proofs.Decimal.Literal
import FaultDiagnosis.Proofs.Json.Glued

/-!
# Records are read back from the log

A record is written as one line of JSON and read again when the engine starts. With nothing but
blanks in front of it, decoding its text gives the record back
(`FaultDiagnosis.Record.decoder_ofText_append`); with anything else in front of it, there is no
record to be had (`FaultDiagnosis.Record.decoder_ofText_glued`).

Two things are taken for granted of a record (`FaultDiagnosis.Record.ReadsBack`): that its point in
time and its weights are written in a way that names them. Whether this is so is the business of the
calendar and of the decimal notation, not of the log. That a weight is at least written as JSON
wants its numbers is not taken for granted (`FaultDiagnosis.WeightNotation.readsBack_of_scaled`).
-/

namespace FaultDiagnosis

open Json (Decoder Fields Fault Reading IsLegible AreLegible asRead itemsAsRead membersAsRead)
open Json.Decoder (Moment)

variable {W : Type}

/-- A set is the set of its identifiers. -/
theorem IdSet.ofList_toList (s : IdSet) : IdSet.ofList s.toList = s :=
  IdSet.ext fun _ => IdSet.mem_ofList

/-! ### Fields -/

namespace Json.Fields

variable {α β : Type}

@[simp] theorem checks_map (f : α → β) (a : Fields α) : (f <$> a).checks = a.checks := rfl

@[simp] theorem build_map (f : α → β) (a : Fields α) (found : List (String × Reading)) :
    (f <$> a).build found = f <$> a.build found := rfl

@[simp] theorem checks_seq (f : Fields (α → β)) (a : Fields α) :
    (f <*> a).checks = f.checks ++ a.checks := rfl

@[simp] theorem build_seq (f : Fields (α → β)) (a : Fields α) (found : List (String × Reading)) :
    (f <*> a).build found = (do
      let g ← f.build found
      g <$> a.build found) := rfl

end Json.Fields

/-- **Items are decoded one by one**: if each is decoded to what it was written from, so is the
list. -/
theorem Json.Decoder.list_itemsAsRead {α : Type} {d : Decoder α} {write : α → Json} {xs : List α}
    (h : ∀ x ∈ xs, d (write x).asRead = .ok x) :
    Decoder.list d (.array (itemsAsRead (xs.map write)) true) = .ok xs := by
  have hitems : (itemsAsRead (xs.map write)).mapM d = .ok xs := by
    induction xs with
    | nil => rfl
    | cons x xs ih =>
      obtain ⟨hx, hxs⟩ := List.forall_mem_cons.mp h
      rw [List.map_cons, itemsAsRead, List.mapM_cons, hx, ih hxs]
      rfl
  rw [Decoder.list, hitems]
  rfl

/-- **A list of texts is decoded to the texts.** -/
theorem Json.Decoder.list_text_asRead (ss : List String) :
    Decoder.list Decoder.text (Json.texts ss).asRead = .ok ss :=
  Decoder.list_itemsAsRead fun _ _ => rfl

/-! ### Items of knowledge -/

theorem Category.decoder_asRead (m : Moment) (c : Category) :
    Category.decoder m c.toJson.asRead = .ok c := by
  cases c <;> rfl

theorem Origin.decoder_asRead (m : Moment) (o : Origin) :
    Origin.decoder m o.toJson.asRead = .ok o := by
  cases o <;> rfl

theorem IdSet.decoder_asRead (s : IdSet) : Decoder.idSet s.toJson.asRead = .ok s := by
  rw [Decoder.idSet, IdSet.toJson, Decoder.list_text_asRead]
  exact congrArg Except.ok s.ofList_toList

theorem Symptom.decoder_asRead (m : Moment) (s : Symptom) :
    Symptom.decoder m s.toJson.asRead = .ok s := by
  simp only [Symptom.toJson, asRead, membersAsRead]
  simp [Symptom.decoder, Decoder.record, Fields.required, Decoder.gather, Decoder.text,
    Category.decoder_asRead, Origin.decoder_asRead, List.lookup_cons, Bind.bind, Except.bind,
    Functor.map, Except.map]

theorem Rule.decoder_asRead (m : Moment) (r : Rule) : Rule.decoder m r.toJson.asRead = .ok r := by
  simp only [Rule.toJson, asRead, membersAsRead]
  simp [Rule.decoder, Decoder.record, Fields.required, Decoder.gather, Decoder.text,
    IdSet.decoder_asRead, Origin.decoder_asRead, List.lookup_cons, Bind.bind, Except.bind,
    Functor.map, Except.map]

section Weights

variable [WeightNotation W]

/-- **A weight that is read back**: it is written as a literal that names it. -/
def WeightNotation.ReadsBack (w : W) : Prop :=
  ∃ n, WeightNotation.write w = some n ∧ Reading.IsLiteral n ∧ n.isTooLarge = false ∧
    WeightNotation.read n = w

/-- For doubles there is less to ask. What is written is a literal in any case, so it is enough that
it names the double, and that the double is no infinity. -/
theorem WeightNotation.readsBack_of_scaled {x : Float} {n : Numeral}
    (hwrite : WeightNotation.write x = some n) (hread : n.scaled = x) (hfinite : x.isInf = false) :
    WeightNotation.ReadsBack x := by
  refine ⟨n, hwrite, ?_, ?_, hread⟩
  · obtain ⟨parts, -, rfl⟩ := Option.map_eq_some_iff.mp hwrite
    exact Notation.isLiteral_mixed parts
  · rw [Numeral.isTooLarge, hread, hfinite]

theorem isInf_eq_false_of_isFinite {x : Float} (h : x.isFinite = true) : x.isInf = false := by
  unfold Float.isFinite Float.Model.isFinite at h
  unfold Float.isInf Float.Model.isInf
  cases hunpack : x.toModel.unpack with
  | infinity sign =>
    rw [hunpack] at h
    cases h
  | notANumber => rfl
  | zero sign => rfl
  | finite sign mantissa exponent hpos => rfl

/-- A finite double is read back when what is written names it. -/
theorem WeightNotation.readsBack_of_isFinite {x : Float} (hfinite : x.isFinite = true)
    (hread : (WeightNotation.write x).map WeightNotation.read = some x) :
    WeightNotation.ReadsBack x := by
  obtain ⟨n, hwrite, hread⟩ := Option.map_eq_some_iff.mp hread
  exact readsBack_of_scaled hwrite hread (isInf_eq_false_of_isFinite hfinite)

/-- The JSON value of such a weight is decoded to it. -/
theorem WeightNotation.ReadsBack.decoder_asRead {w : W} (h : ReadsBack w) :
    Decoder.weight (weightJson w).asRead = .ok w := by
  obtain ⟨n, hwrite, -, hlarge, hread⟩ := h
  rw [weightJson, hwrite, asRead, Reading.ofNumeral_of_not_isTooLarge hlarge]
  exact congrArg Except.ok hread

theorem WeightNotation.ReadsBack.isLegible {w : W} (h : ReadsBack w) :
    (weightJson w).IsLegible := by
  obtain ⟨n, hwrite, hliteral, -⟩ := h
  rw [weightJson, hwrite]
  exact hliteral

theorem Clue.decoder_asRead (m : Moment) {c : Clue W} (h : WeightNotation.ReadsBack c.weight) :
    Clue.decoder m c.toJson.asRead = .ok c := by
  simp only [Clue.toJson, asRead, membersAsRead]
  simp [Clue.decoder, Decoder.record, Fields.required, Decoder.gather, Decoder.text,
    h.decoder_asRead, Origin.decoder_asRead, List.lookup_cons, Bind.bind, Except.bind,
    Functor.map, Except.map]

/-- The clues of a contribution. -/
def Contribution.clues : Contribution W → List (Clue W)
  | symptom _ => []
  | rule _ cs => cs

/-- The weights of a contribution are read back. -/
def Contribution.ReadsBack : Contribution W → Prop
  | symptom _ => True
  | rule _ cs => ∀ c ∈ cs, WeightNotation.ReadsBack c.weight

/-- **A record that is read back**: so are its point in time and its weights. -/
structure Record.ReadsBack (r : Record W) : Prop where
  time : Timestamp.parse r.contributedAt.text = some r.contributedAt
  weights : r.item.ReadsBack

theorem Contribution.readsBack_iff {item : Contribution W} :
    item.ReadsBack ↔ ∀ c ∈ item.clues, WeightNotation.ReadsBack c.weight := by
  cases item with
  | symptom s => simp [ReadsBack, clues]
  | rule r cs => exact Iff.rfl

/-! ### Records -/

/-- The members of a contribution give it back, once the object around them has been read. -/
theorem Contribution.ofMembers_membersAsRead {item : Contribution W} (h : item.ReadsBack) :
    Contribution.ofMembers .afterwards (membersAsRead item.members) = .ok item := by
  cases item with
  | symptom s =>
    simp only [members, membersAsRead, asRead]
    simp [ofMembers, under, kindDecoder, fields, Decoder.record, Fields.required, Decoder.gather,
      Symptom.decoder_asRead, Bind.bind, Except.bind, Functor.map, Except.map]
  | rule r cs =>
    have hclues : Decoder.list (Clue.decoder .afterwards)
        (.array (itemsAsRead (cs.map Clue.toJson)) true) = .ok cs :=
      Decoder.list_itemsAsRead fun c hc => Clue.decoder_asRead .afterwards (h c hc)
    simp only [members, membersAsRead, asRead]
    simp [ofMembers, under, kindDecoder, fields, Decoder.record, Fields.required,
      Fields.withDefault, Decoder.gather, Rule.decoder_asRead, hclues, List.lookup_cons, Bind.bind,
      Except.bind, Functor.map, Except.map]

theorem Record.ofMembers_membersAsRead {r : Record W} (h : r.ReadsBack) :
    Record.ofMembers ((some timeKey, .string r.contributedAt.text) :: membersAsRead r.item.members)
      = .ok r := by
  have hkeys : ∀ m ∈ membersAsRead r.item.members, m.1 ≠ some timeKey := by
    cases r.item with
    | symptom s => simp [Contribution.members, membersAsRead, timeKey]
    | rule x cs => simp [Contribution.members, membersAsRead, timeKey]
  -- so the time is under its key alone, and everything else is left to the contribution
  have hnone : (membersAsRead r.item.members).filter (fun m => m.1 == some timeKey) = [] :=
    List.filter_eq_nil_iff.mpr fun m hm => by simpa using hkeys m hm
  have hall : (membersAsRead r.item.members).filter (fun m => m.1 != some timeKey) =
      membersAsRead r.item.members :=
    List.filter_eq_self.mpr fun m hm => by simpa using hkeys m hm
  have htime : timeDecoder (.string r.contributedAt.text) = .ok r.contributedAt := by
    rw [timeDecoder, h.time]
  simp [ofMembers, Contribution.under, hnone, hall, htime,
    Contribution.ofMembers_membersAsRead h.weights, Bind.bind, Except.bind, Pure.pure,
    Except.pure]

end Weights

/-! ### Records can be used -/

namespace Json

open Reading (isUsable)

@[simp] theorem Reading.isUsable_string (depth : Nat) (s : String) :
    isUsable depth (.string s) = true := by
  cases depth <;> rfl

@[simp] theorem Reading.isUsable_number (depth : Nat) (n : Numeral) :
    isUsable depth (.number n) = true := by
  cases depth <;> rfl

@[simp] theorem Reading.isUsable_array_closed (depth : Nat) (vs : List Reading) :
    isUsable (depth + 1) (.array vs true) = vs.all (isUsable depth) :=
  Bool.and_true _

@[simp] theorem Reading.isUsable_object_closed (depth : Nat)
    (ms : List (Option String × Reading)) :
    isUsable (depth + 1) (.object ms true) = ms.all fun m => m.1.isSome && isUsable depth m.2 :=
  Bool.and_true _

variable {α : Type} {write : α → Json}

theorem areLegible_map {xs : List α} (h : ∀ x ∈ xs, IsLegible (write x)) :
    AreLegible (xs.map write) := by
  induction xs with
  | nil => trivial
  | cons x xs ih =>
    obtain ⟨hx, hxs⟩ := List.forall_mem_cons.mp h
    exact ⟨hx, ih hxs⟩

theorem isLegible_texts (ss : List String) : (Json.texts ss).IsLegible :=
  areLegible_map fun _ _ => trivial

theorem all_isUsable_map (depth : Nat) {xs : List α}
    (h : ∀ x ∈ xs, isUsable depth (write x).asRead = true) :
    (itemsAsRead (xs.map write)).all (isUsable depth) = true := by
  induction xs with
  | nil => rfl
  | cons x xs ih =>
    obtain ⟨hx, hxs⟩ := List.forall_mem_cons.mp h
    rw [List.map_cons, itemsAsRead, List.all_cons, hx, ih hxs]
    rfl

end Json

open Json (areLegible_map all_isUsable_map)

theorem IdSet.isLegible_toJson (s : IdSet) : s.toJson.IsLegible :=
  Json.isLegible_texts s.toList

theorem IdSet.isUsable_toJson (depth : Nat) (s : IdSet) :
    s.toJson.asRead.isUsable (depth + 1) = true := by
  rw [toJson, Json.texts, asRead, Reading.isUsable_array_closed]
  exact all_isUsable_map depth fun x _ => Reading.isUsable_string depth x

theorem Symptom.isLegible_toJson (s : Symptom) : s.toJson.IsLegible :=
  ⟨trivial, trivial, trivial, trivial, trivial⟩

theorem Symptom.isUsable_toJson (depth : Nat) (s : Symptom) :
    s.toJson.asRead.isUsable (depth + 1) = true := by
  simp [toJson, Category.toJson, Origin.toJson, asRead, membersAsRead]

theorem Rule.isLegible_toJson (r : Rule) : r.toJson.IsLegible :=
  ⟨r.positive.isLegible_toJson, r.negative.isLegible_toJson, trivial, trivial, trivial⟩

theorem Rule.isUsable_toJson (depth : Nat) (r : Rule) :
    r.toJson.asRead.isUsable (depth + 2) = true := by
  simp [toJson, Origin.toJson, asRead, membersAsRead, IdSet.isUsable_toJson]

section Weights

variable [WeightNotation W]

theorem Clue.isLegible_toJson {c : Clue W} (h : WeightNotation.ReadsBack c.weight) :
    c.toJson.IsLegible :=
  ⟨trivial, trivial, h.isLegible, trivial, trivial⟩

theorem Clue.isUsable_toJson (depth : Nat) {c : Clue W} (h : WeightNotation.ReadsBack c.weight) :
    c.toJson.asRead.isUsable (depth + 1) = true := by
  obtain ⟨n, hwrite, -, hlarge, -⟩ := h
  simp [toJson, Origin.toJson, weightJson, hwrite, asRead, membersAsRead,
    Reading.ofNumeral_of_not_isTooLarge hlarge]

namespace Record

variable {r : Record W}

theorem isLegible_toJson (h : r.ReadsBack) : r.toJson.IsLegible := by
  obtain ⟨time, item⟩ := r
  cases item with
  | symptom s => exact ⟨trivial, trivial, s.isLegible_toJson, trivial⟩
  | rule x cs =>
    exact ⟨trivial, trivial, x.isLegible_toJson,
      areLegible_map fun c hc => Clue.isLegible_toJson (h.weights c hc), trivial⟩

theorem isUsable_toJson (depth : Nat) (h : r.ReadsBack) :
    r.toJson.asRead.isUsable (depth + 3) = true := by
  obtain ⟨time, item⟩ := r
  cases item with
  | symptom s =>
    simp [toJson, Contribution.members, asRead, membersAsRead, Symptom.isUsable_toJson]
  | rule x cs =>
    have hclues := all_isUsable_map (depth + 1) fun c hc =>
      Clue.isUsable_toJson depth (h.weights c hc)
    simp [toJson, Contribution.members, asRead, membersAsRead, Rule.isUsable_toJson, hclues]

/-- **A record is decoded from the text that it is written as**, also with blanks in front of it. -/
theorem decoder_ofText_append (h : r.ReadsBack) {p : List Char}
    (hp : ∀ c ∈ p, Reading.isBlank c = true) :
    decoder (Reading.ofText (String.ofList (p ++ r.toJson.chars))) = .ok r := by
  have husable : r.toJson.asRead.isUsable (Reading.depthLimit - 0) = true :=
    isUsable_toJson 124 h
  rw [Reading.ofText_append_chars (isLegible_toJson h) hp, decoder, Decoder.afterReading,
    if_pos husable]
  exact ofMembers_membersAsRead h

/-- The text of a record is the text of an object, and its first key is that of the time. -/
theorem isClosedObject_chars (h : r.ReadsBack) : Reading.IsClosedObject r.toJson.chars where
  start := ⟨'c', _, rfl, ⟨by decide, by decide, by decide, by decide, by decide⟩⟩
  closed fuel hfuel := by
    have hread := Reading.value_chars_append r.toJson fuel [] (isLegible_toJson h) hfuel
      Reading.endsNumeral_nil
    rw [List.append_nil] at hread
    rw [hread]

/-- **A record with anything but blanks in front of it is lost.** -/
theorem decoder_ofText_glued (h : r.ReadsBack) {p : List Char}
    (hp : ∃ c ∈ p, Reading.isBlank c = false) :
    (decoder (Reading.ofText (String.ofList (p ++ r.toJson.chars))) : Except Fault (Record W)) =
      .error .notJson := by
  rw [decoder, Decoder.afterReading, Reading.isUsable_ofText_glued (isClosedObject_chars h) hp]
  rfl

end Record

end Weights

end FaultDiagnosis
