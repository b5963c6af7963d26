import FaultDiagnosis.Proofs.Contribution.Codec
import FaultDiagnosis.Proofs.Knowledge.WellFormed

/-!
# The two forms of a rule

Whoever writes a document may list the conditions of a rule in two ways: those that want a symptom
present and those that want one absent in separate lists, or all in one, where a mark in front of an
identifier says that the symptom has to be absent. An entry may also use both ways at once, in any
order, and list a condition again and again. `FaultDiagnosis.Document.RuleEntry.Lists` says which
conditions an entry lists without saying how they are read.

It does not matter which way was chosen (`FaultDiagnosis.Document.RuleEntry.rule_in_any_form`): an
entry gives the rule of the conditions that it lists, or is refused for what is wrong with them, and
the document around it is read as if the entry had separate lists. Only one thing cannot be said in
the compact form. An identifier that starts with the mark cannot be wanted there, because it would
be taken for another one that is to be absent. There is no such limit for those to be absent: the
mark is taken off once.
-/

namespace FaultDiagnosis.Document

variable {W : Type}

/-! ### Conditions and how they are listed -/

/-- **A condition** of a rule. -/
inductive Condition
  /-- The symptom has to be present. -/
  | present (id : String)
  /-- The symptom has to be absent. -/
  | absent (id : String)
  deriving DecidableEq

/-- A condition as the compact form has it. -/
def Condition.text : Condition → String
  | present id => id
  | absent id => negationMark ++ id

/-- The mark is taken off a negative condition once, whatever its identifier is. -/
theorem Condition.negated?_absent (id : String) : negated? (absent id).text = some id :=
  negated?_eq_some_iff.mpr rfl

/-- The identifier starts with the mark of negative conditions. -/
def IsMarked (id : String) : Prop :=
  ∃ rest, id = negationMark ++ rest

instance (id : String) : Decidable (IsMarked id) :=
  decidable_of_iff ((negated? id).isSome = true) <| by
    simp only [Option.isSome_iff_exists, negated?_eq_some_iff, IsMarked]

namespace RuleEntry

/-- **The entry lists the conditions**: `compact` are those of the compact form, and together with
the explicit form they want `positive` present and `negative` absent. -/
structure Lists (e : RuleEntry) (compact : List Condition) (positive negative : IdSet) : Prop where
  conditions : e.conditions = compact.map Condition.text
  positive : ∀ id, id ∈ positive ↔ id ∈ e.positive ∨ Condition.present id ∈ compact
  negative : ∀ id, id ∈ negative ↔ id ∈ e.negative ∨ Condition.absent id ∈ compact

/-- The entry that lists conditions in the explicit form, each once. -/
def explicit (positive negative : IdSet) (diagnosis : String) : RuleEntry where
  diagnosis := diagnosis
  positive := positive.toList
  negative := negative.toList
  conditions := []

variable {e : RuleEntry} {compact : List Condition} {positive negative : IdSet} {id : String}

/-! ### What is gathered is what is listed -/

/-- An entry wants the symptoms that it lists as present, unless a mark hides one of them. -/
theorem Lists.wants_iff (h : e.Lists compact positive negative)
    (hplain : ∀ id ∈ positive, ¬IsMarked id) : e.Wants id ↔ id ∈ positive := by
  rw [h.positive, Wants, h.conditions, List.mem_map]
  refine or_congr_right ⟨?_, ?_⟩
  · rintro ⟨⟨c, hc, rfl⟩, hunmarked⟩
    cases c with
    | present id => exact hc
    | absent id => exact absurd ⟨id, rfl⟩ hunmarked
  · intro hc
    exact ⟨⟨.present id, hc, rfl⟩, hplain id ((h.positive id).mpr (Or.inr hc))⟩

/-- An entry excludes the symptoms that it lists as absent, and no others if nothing that it wants
looks like a negative condition. -/
theorem Lists.excludes_iff (h : e.Lists compact positive negative)
    (hplain : ∀ id ∈ positive, ¬IsMarked id) : e.Excludes id ↔ id ∈ negative := by
  rw [h.negative, Excludes, h.conditions, List.mem_map]
  refine or_congr_right ⟨?_, fun hc => ⟨.absent id, hc, rfl⟩⟩
  rintro ⟨c, hc, htext⟩
  cases c with
  | present marked =>
    have hmarked : IsMarked marked := ⟨id, htext⟩
    exact absurd hmarked (hplain marked ((h.positive marked).mpr (Or.inr hc)))
  | absent other =>
    -- behind the same mark there is the same identifier
    have hother : some other = some id :=
      (Condition.negated?_absent other).symm.trans (negated?_eq_some_iff.mpr htext)
    rwa [← Option.some.inj hother]

/-- **However the conditions are listed, they are gathered as the same two sets.** -/
theorem Lists.gathered_eq (h : e.Lists compact positive negative)
    (hplain : ∀ id ∈ positive, ¬IsMarked id) : e.gathered = ⟨positive, negative⟩ := by
  have hpositive : e.gathered.positive = positive :=
    IdSet.ext fun id => mem_positive_iff.trans (h.wants_iff hplain)
  have hnegative : e.gathered.negative = negative :=
    IdSet.ext fun id => mem_negative_iff.trans (h.excludes_iff hplain)
  rw [← hpositive, ← hnegative]

/-- In the explicit form there is nothing that a mark could hide. -/
theorem gathered_explicit (positive negative : IdSet) (diagnosis : String) :
    (explicit positive negative diagnosis).gathered = ⟨positive, negative⟩ := by
  rw [gathered, explicit, List.foldl_nil, IdSet.ofList_toList, IdSet.ofList_toList]

end RuleEntry

/-! ### Documents -/

/-- Where two items are checked alike and named alike, one may stand for the other: the same list of
results comes out, or the same fault. -/
theorem checkItems_replace {α β : Type} (contextOf : Nat → α → String)
    {check : α → Except (Defect W) β} {a a' : α} (hcheck : check a = check a')
    (hcontext : ∀ n, contextOf n a = contextOf n a') (earlier later : List α) (number : Nat) :
    checkItems contextOf check number (earlier ++ a :: later) =
      checkItems contextOf check number (earlier ++ a' :: later) := by
  induction earlier generalizing number with
  | nil => simp only [List.nil_append, checkItems, hcheck, hcontext]
  | cons x earlier ih => simp only [List.cons_append, checkItems, ih]

variable [Weight W]

/-- A rule entry may be replaced by one of the same conditions and the same diagnosis. -/
theorem knowledge_replace {e e' : RuleEntry} (hgathered : e.gathered = e'.gathered)
    (hdiagnosis : e.diagnosis = e'.diagnosis) {d : Document W} {earlier later : List RuleEntry}
    (hd : d.rules = earlier ++ e :: later) :
    d.knowledge = { d with rules := earlier ++ e' :: later }.knowledge := by
  have hrule : e.rule (W := W) = e'.rule := by
    rw [RuleEntry.rule, RuleEntry.rule, hgathered, hdiagnosis]
  have hrules := checkItems_replace
    (fun n (e : RuleEntry) => context "rule" n (preview contextLength e.diagnosis))
    hrule (fun n => by rw [hdiagnosis]) earlier later 1
  simp only [knowledge, hd, hrules]

variable [WeightNotation W]

/-- **A rule means the same in any form.** An entry lists conditions in the compact form, in the
explicit form or partly in each, in any order and with any repetitions, and what it wants present
does not start with the mark. Then it gives the rule that is made of these conditions, or fails as
making that rule does. Every text of a document with the entry gives the knowledge, or the fault, of
the document that has the explicit form in its place. -/
theorem RuleEntry.rule_in_any_form {e : RuleEntry} {compact : List Condition}
    {positive negative : IdSet} (h : e.Lists compact positive negative)
    (hplain : ∀ id ∈ positive, ¬IsMarked id) :
    e.rule (W := W) = Rule.ofConditions positive negative e.diagnosis .shipped ∧
      ∀ (text path : String) (d : Document W) (earlier later : List RuleEntry),
        Document.decoder (Json.Reading.ofText text) = .ok d → d.rules = earlier ++ e :: later →
        parseDocument text path = { d with
          rules := earlier ++ explicit positive negative e.diagnosis :: later }.knowledge := by
  have hgathered := h.gathered_eq hplain
  refine ⟨by rw [rule, hgathered], fun text path d earlier later htext hd => ?_⟩
  rw [parseDocument_eq_knowledge htext]
  exact knowledge_replace (hgathered.trans (gathered_explicit _ _ _).symm) rfl hd

/-! ### A mixed entry -/

/-- An entry that mixes both forms and repeats itself. One of its symptoms to be absent has an
identifier that starts with the mark. -/
def mixedEntry : RuleEntry where
  diagnosis := "The fan bearing is worn out"
  positive := ["fan", "fan"]
  negative := ["beeps"]
  conditions := ["hum", "NOT:NOT:hum", "fan", "NOT:beeps", "hum"]

/-- A document of this entry alone. -/
def mixedDocument : Document Float :=
  ⟨[], [mixedEntry], [], ∅, []⟩

/-- The text of the document, with the members of the entry in another order. -/
def mixedText : String :=
  "\x7b\"rules\":[\x7b\"conditions\":[\"hum\",\"NOT:NOT:hum\",\"fan\",\"NOT:beeps\",\"hum\"]," ++
  "\"negative\":[\"beeps\"],\"positive\":[\"fan\",\"fan\"]," ++
  "\"diagnosis\":\"The fan bearing is worn out\"\x7d],\"symptoms\":[]\x7d"

theorem lists_mixedEntry : mixedEntry.Lists
    [.present "hum", .absent "NOT:hum", .present "fan", .absent "beeps", .present "hum"]
    (.ofList ["hum", "fan"]) (.ofList ["NOT:hum", "beeps"]) where
  conditions := rfl
  positive := by
    intro id
    simp only [mixedEntry, IdSet.mem_ofList, List.mem_cons, List.not_mem_nil, or_false,
      Condition.present.injEq, reduceCtorEq, false_or]
    tauto
  negative := by
    intro id
    simp only [mixedEntry, IdSet.mem_ofList, List.mem_cons, List.not_mem_nil, or_false,
      Condition.absent.injEq, reduceCtorEq, false_or]
    tauto

theorem RuleEntry.rule_in_any_form_mixed :
    mixedEntry.Lists
        [.present "hum", .absent "NOT:hum", .present "fan", .absent "beeps", .present "hum"]
        (.ofList ["hum", "fan"]) (.ofList ["NOT:hum", "beeps"]) ∧
      (∀ id ∈ IdSet.ofList ["hum", "fan"], ¬IsMarked id) ∧
      mixedEntry.rule (W := Float) = .ok ⟨.ofList ["hum", "fan"], .ofList ["NOT:hum", "beeps"],
        "The fan bearing is worn out", .shipped⟩ ∧
      Document.decoder (Json.Reading.ofText mixedText) = .ok mixedDocument ∧
      parseDocument mixedText "knowledge.json" =
        { mixedDocument with
          rules := [⟨"The fan bearing is worn out", ["fan", "hum"], ["NOT:hum", "beeps"], []⟩]
        }.knowledge := by
  have hplain : ∀ id ∈ IdSet.ofList ["hum", "fan"], ¬IsMarked id := by
    intro id hid
    rw [IdSet.mem_ofList] at hid
    revert id
    decide
  have htext : Document.decoder (Json.Reading.ofText mixedText) = .ok mixedDocument := by
    decide +kernel
  obtain ⟨hrule, hparse⟩ := rule_in_any_form (W := Float) lists_mixedEntry hplain
  exact ⟨lists_mixedEntry, hplain, hrule, htext,
    hparse mixedText "knowledge.json" mixedDocument [] [] htext rfl⟩

end FaultDiagnosis.Document
