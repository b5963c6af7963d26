import FaultDiagnosis.Proofs.Knowledge.WellMade

/-!
# Which documents are accepted

The shipped knowledge is accepted in two rounds. Each entry of the document is turned into an item,
which fails for entries that make no sense; then the references between the items are checked.
`FaultDiagnosis.Document.IsWellFormed` says what both rounds ask of a document, in terms of what is
written there and in no order, and `FaultDiagnosis.parseDocument_accepts_iff` says that exactly
these documents are accepted. It also says what they are accepted as: every entry gives one item, in its
place, and nothing else is added (`FaultDiagnosis.Document.Describes`).

Both forms of a rule are covered by the same words. An entry *wants* an identifier that it lists as
positive or as a condition without a mark, and it *excludes* one that it lists as negative or as a
condition behind the mark `NOT:`.
-/

namespace FaultDiagnosis

open Outcome

variable {W : Type}

/-! ### Lists of the same make -/

section Forall₂

variable {α β : Type} {R : α → β → Prop} {as : List α} {bs : List β}

/-- There is a list of partners exactly if every element has a partner. -/
theorem exists_forall₂_iff : (∃ bs, List.Forall₂ R as bs) ↔ ∀ a ∈ as, ∃ b, R a b := by
  induction as with
  | nil => exact iff_of_true ⟨[], .nil⟩ fun _ ha => absurd ha List.not_mem_nil
  | cons a as ih =>
    rw [List.forall_mem_cons, ← ih]
    constructor
    · rintro ⟨bs, hbs⟩
      obtain ⟨b, rest, hab, hrest, -⟩ := List.forall₂_cons_left_iff.mp hbs
      exact ⟨⟨b, hab⟩, ⟨rest, hrest⟩⟩
    · rintro ⟨⟨b, hab⟩, ⟨rest, hrest⟩⟩
      exact ⟨b :: rest, .cons hab hrest⟩

/-- What partners have in common holds of all elements on one side if it does on the other. -/
theorem forall_mem_congr_of_forall₂ (h : List.Forall₂ R as bs) {P : α → Prop} {Q : β → Prop}
    (hPQ : ∀ a b, R a b → (P a ↔ Q b)) : (∀ a ∈ as, P a) ↔ ∀ b ∈ bs, Q b := by
  induction h with
  | nil => simp only [List.not_mem_nil, false_imp_iff, implies_true]
  | cons hab _ ih => rw [List.forall_mem_cons, List.forall_mem_cons, hPQ _ _ hab, ih]

end Forall₂

namespace Document

/-! ### Symptoms -/

/-- The entry gives the symptom. -/
structure SymptomEntry.Describes (e : SymptomEntry) (s : Symptom) : Prop where
  id : s.id = e.id
  label : s.label = e.label
  category : Text.lowerCase (Text.trim e.category) = s.category.name
  origin : s.origin = .shipped

/-- **A well-formed symptom entry** names a category. -/
def SymptomEntry.IsWellFormed (e : SymptomEntry) : Prop :=
  ∃ c : Category, Text.lowerCase (Text.trim e.category) = c.name

theorem SymptomEntry.symptom_eq_ok_iff {e : SymptomEntry} {s : Symptom} :
    e.symptom (W := W) = .ok s ↔ e.Describes s := by
  simp only [symptom, bind_eq_ok, Category.parse_eq_ok_iff, pure_eq_ok]
  constructor
  · rintro ⟨c, hc, rfl⟩
    exact ⟨rfl, rfl, hc, rfl⟩
  · obtain ⟨id, label, category, origin⟩ := s
    rintro ⟨rfl, rfl, hc, rfl⟩
    exact ⟨category, hc, rfl⟩

theorem SymptomEntry.exists_symptom_iff {e : SymptomEntry} :
    (∃ s, e.symptom (W := W) = .ok s) ↔ e.IsWellFormed := by
  simp only [symptom_eq_ok_iff]
  constructor
  · rintro ⟨s, hs⟩
    exact ⟨s.category, hs.category⟩
  · rintro ⟨c, hc⟩
    exact ⟨⟨e.id, e.label, c, .shipped⟩, rfl, rfl, hc, rfl⟩

/-! ### Rules -/

/-- A condition is negative exactly if it is the mark followed by an identifier. -/
theorem negated?_eq_some_iff {condition id : String} :
    negated? condition = some id ↔ condition = negationMark ++ id := by
  have hlength : negationMark.length = negationMark.toList.length := rfl
  unfold negated?
  constructor
  · intro h
    split at h
    · rename_i hprefix
      obtain ⟨rest, hrest⟩ := List.isPrefixOf_iff_prefix.mp hprefix
      rw [← hrest, hlength, List.drop_left] at h
      rw [← Option.some.inj h, ← String.toList_inj, ← hrest, String.toList_append,
        String.toList_ofList]
    · cases h
  · rintro rfl
    have hprefix : negationMark.toList.isPrefixOf (negationMark ++ id).toList = true := by
      rw [List.isPrefixOf_iff_prefix, String.toList_append]
      exact List.prefix_append _ _
    rw [if_pos hprefix, String.toList_append, hlength, List.drop_left, String.ofList_toList]

namespace Conditions

variable {c : Conditions} {condition id : String} {cs : List String}

/-- One condition adds to the positive ones if it bears no mark. -/
theorem mem_positive_take : id ∈ (c.take condition).positive ↔
    id ∈ c.positive ∨ id = condition ∧ negated? id = none := by
  unfold take
  split
  · next hmarked =>
    refine ⟨Or.inl, ?_⟩
    rintro (hid | ⟨rfl, hnone⟩)
    · exact hid
    · cases hmarked.symm.trans hnone
  · next hplain =>
    rw [IdSet.mem_insert, or_comm]
    refine or_congr_right ⟨?_, And.left⟩
    rintro rfl
    exact ⟨rfl, hplain⟩

/-- One condition adds to the negative ones what is behind its mark. -/
theorem mem_negative_take : id ∈ (c.take condition).negative ↔
    id ∈ c.negative ∨ negated? condition = some id := by
  unfold take
  split
  · next hmarked => rw [IdSet.mem_insert, hmarked, Option.some_inj, or_comm, eq_comm]
  · next hplain =>
    rw [hplain]
    exact (or_iff_left nofun).symm

/-- **All conditions together** add those of them that bear no mark. -/
theorem mem_positive_foldl_take : id ∈ (cs.foldl take c).positive ↔
    id ∈ c.positive ∨ id ∈ cs ∧ negated? id = none := by
  induction cs generalizing c with
  | nil => simp only [List.foldl_nil, List.not_mem_nil, false_and, or_false]
  | cons condition cs ih =>
    rw [List.foldl_cons, ih, mem_positive_take, List.mem_cons, or_and_right, or_assoc]

/-- **All conditions together** add what is behind the marks of the others. -/
theorem mem_negative_foldl_take : id ∈ (cs.foldl take c).negative ↔
    id ∈ c.negative ∨ ∃ condition ∈ cs, negated? condition = some id := by
  induction cs generalizing c with
  | nil => simp only [List.foldl_nil, List.not_mem_nil, false_and, exists_false, or_false]
  | cons condition cs ih =>
    rw [List.foldl_cons, ih, mem_negative_take, List.exists_mem_cons_iff, or_assoc]

end Conditions

namespace RuleEntry

/-- The entry wants the symptom present: it is listed as positive, or as a condition that does not
start with the mark of negative ones. -/
def Wants (e : RuleEntry) (id : String) : Prop :=
  id ∈ e.positive ∨ id ∈ e.conditions ∧ ¬∃ rest, id = negationMark ++ rest

/-- The entry wants the symptom absent: it is listed as negative, or as a condition behind the mark.
-/
def Excludes (e : RuleEntry) (id : String) : Prop :=
  id ∈ e.negative ∨ negationMark ++ id ∈ e.conditions

/-- The entry gives the rule. -/
structure Describes (e : RuleEntry) (r : Rule) : Prop where
  positive : ∀ id, id ∈ r.positive ↔ e.Wants id
  negative : ∀ id, id ∈ r.negative ↔ e.Excludes id
  diagnosis : r.diagnosis = e.diagnosis
  origin : r.origin = .shipped

/-- **A well-formed rule entry** wants something, and excludes nothing of it. -/
structure IsWellFormed (e : RuleEntry) : Prop where
  wanted : ∃ id, e.Wants id
  consistent : ∀ id, e.Wants id → ¬e.Excludes id

variable {e : RuleEntry} {r : Rule} {id : String}

theorem mem_positive_iff : id ∈ e.gathered.positive ↔ e.Wants id := by
  have hplain : negated? id = none ↔ ¬∃ rest, id = negationMark ++ rest := by
    simp only [Option.eq_none_iff_forall_ne_some, ne_eq, negated?_eq_some_iff, not_exists]
  rw [gathered, Conditions.mem_positive_foldl_take, IdSet.mem_ofList, hplain, Wants]

theorem mem_negative_iff : id ∈ e.gathered.negative ↔ e.Excludes id := by
  rw [gathered, Conditions.mem_negative_foldl_take, IdSet.mem_ofList, Excludes]
  simp only [negated?_eq_some_iff, exists_eq_right]

/-- Sets of identifiers are known by their members, so that an entry gives only one rule. -/
theorem describes_iff :
    e.Describes r ↔ r = ⟨e.gathered.positive, e.gathered.negative, e.diagnosis, .shipped⟩ := by
  constructor
  · intro h
    obtain ⟨positive, negative, diagnosis, origin⟩ := r
    rw [Rule.mk.injEq]
    exact ⟨IdSet.ext fun id => (h.positive id).trans mem_positive_iff.symm,
      IdSet.ext fun id => (h.negative id).trans mem_negative_iff.symm, h.diagnosis, h.origin⟩
  · rintro rfl
    exact ⟨fun _ => mem_positive_iff, fun _ => mem_negative_iff, rfl, rfl⟩

theorem rule_eq_ok_iff : e.rule (W := W) = .ok r ↔ e.Describes r ∧ r.IsSensible := by
  rw [rule, Rule.ofConditions_eq_ok_iff, describes_iff]

theorem Describes.isSensible_iff (h : e.Describes r) : r.IsSensible ↔ e.IsWellFormed := by
  constructor
  · rintro ⟨⟨id, hid⟩, hconsistent⟩
    refine ⟨⟨id, (h.positive id).mp hid⟩, fun id hwants hexcludes => ?_⟩
    exact hconsistent id ((h.positive id).mpr hwants) ((h.negative id).mpr hexcludes)
  · rintro ⟨⟨id, hid⟩, hconsistent⟩
    refine ⟨⟨id, (h.positive id).mpr hid⟩, fun id hpositive hnegative => ?_⟩
    exact hconsistent id ((h.positive id).mp hpositive) ((h.negative id).mp hnegative)

theorem exists_rule_iff : (∃ r, e.rule (W := W) = .ok r) ↔ e.IsWellFormed := by
  simp only [rule_eq_ok_iff]
  constructor
  · rintro ⟨r, hr, hsensible⟩
    exact hr.isSensible_iff.mp hsensible
  · intro h
    have hr := describes_iff (e := e).mpr rfl
    exact ⟨_, hr, hr.isSensible_iff.mpr h⟩

end RuleEntry

/-! ### Clues -/

/-- The entry gives the clue. -/
def ClueEntry.Describes (e : ClueEntry W) (c : Clue W) : Prop :=
  c = ⟨e.symptom, e.diagnosis, e.weight, .shipped⟩

/-- **A well-formed clue entry** has a weight that is a number above zero. -/
def ClueEntry.IsWellFormed [Weight W] (e : ClueEntry W) : Prop :=
  Weight.isFinite e.weight = true ∧ Weight.below 0 e.weight = true

theorem ClueEntry.clue_eq_ok_iff [Weight W] {e : ClueEntry W} {c : Clue W} :
    e.clue = .ok c ↔ e.Describes c ∧ e.IsWellFormed := by
  rw [clue, Clue.ofWeight_eq_ok_iff, Describes, IsWellFormed, Weight.isPositive]
  refine and_congr_right ?_
  rintro rfl
  rw [Bool.and_eq_true]

theorem ClueEntry.exists_clue_iff [Weight W] {e : ClueEntry W} :
    (∃ c, e.clue = .ok c) ↔ e.IsWellFormed := by
  simp only [clue_eq_ok_iff, Describes, exists_eq_left]

/-! ### Combination hints -/

namespace HintEntry

/-- The entry mentions the symptom. -/
def Mentions (e : HintEntry) (id : String) : Prop :=
  id ∈ e.all ∨ id ∈ e.any ∨ id ∈ e.none

/-- The entry gives the hint. -/
structure Describes (e : HintEntry) (h : CombinationHint) : Prop where
  all : ∀ id, id ∈ h.all ↔ id ∈ e.all
  any : ∀ id, id ∈ h.any ↔ id ∈ e.any
  none : ∀ id, id ∈ h.none ↔ id ∈ e.none
  advice : h.advice = e.advice

/-- **A well-formed hint entry** asks for something. -/
def IsWellFormed (e : HintEntry) : Prop :=
  e.all ≠ [] ∨ e.any ≠ []

variable {e : HintEntry} {h : CombinationHint}

theorem isEmpty_ofList_iff {ids : List String} : (IdSet.ofList ids).isEmpty = true ↔ ids = [] := by
  rw [IdSet.isEmpty_iff, List.eq_nil_iff_forall_not_mem]
  exact forall_congr' fun id => not_congr IdSet.mem_ofList

theorem describes_iff :
    e.Describes h ↔ h = ⟨.ofList e.all, .ofList e.any, .ofList e.none, e.advice⟩ := by
  constructor
  · intro hd
    obtain ⟨all, any, none, advice⟩ := h
    rw [CombinationHint.mk.injEq]
    exact ⟨IdSet.ext fun id => (hd.all id).trans IdSet.mem_ofList.symm,
      IdSet.ext fun id => (hd.any id).trans IdSet.mem_ofList.symm,
      IdSet.ext fun id => (hd.none id).trans IdSet.mem_ofList.symm, hd.advice⟩
  · rintro rfl
    exact ⟨fun _ => IdSet.mem_ofList, fun _ => IdSet.mem_ofList, fun _ => IdSet.mem_ofList, rfl⟩

theorem hint_eq_ok_iff : e.hint (W := W) = .ok h ↔ e.Describes h ∧ e.IsWellFormed := by
  have hempty : ((IdSet.ofList e.all).isEmpty && (IdSet.ofList e.any).isEmpty) = true ↔
      ¬e.IsWellFormed := by
    rw [Bool.and_eq_true, isEmpty_ofList_iff, isEmpty_ofList_iff, IsWellFormed, not_or, not_not,
      not_not]
  rw [hint, CombinationHint.ofConditions, describes_iff]
  split
  · rename_i hnothing
    exact iff_of_false nofun fun hwell => hempty.mp hnothing hwell.2
  · rename_i hsomething
    have hwell : e.IsWellFormed := not_not.mp (mt hempty.mpr hsomething)
    rw [Except.ok.injEq, eq_comm]
    exact (and_iff_left hwell).symm

theorem exists_hint_iff : (∃ h, e.hint (W := W) = .ok h) ↔ e.IsWellFormed := by
  simp only [hint_eq_ok_iff, describes_iff, exists_eq_left]

end HintEntry

/-! ### Documents -/

/-- The identifiers that a document declares. -/
def ids (d : Document W) : List String :=
  d.symptoms.map SymptomEntry.id

/-- **A closed document**: the declared identifiers are not blank and tell the symptoms apart, and
every identifier mentioned is declared. -/
structure IsClosed (d : Document W) : Prop where
  notBlank : ∀ id ∈ d.ids, Text.isBlankText id = false
  distinct : d.ids.Nodup
  rules : ∀ e ∈ d.rules, ∀ id, e.Wants id ∨ e.Excludes id → id ∈ d.ids
  clues : ∀ e ∈ d.clues, e.symptom ∈ d.ids
  hints : ∀ id ∈ d.singleSymptomHints.keys, id ∈ d.ids
  combinationHints : ∀ e ∈ d.combinationHints, ∀ id, e.Mentions id → id ∈ d.ids

/-- **A well-formed document**: its entries are, and it is closed. -/
structure IsWellFormed [Weight W] (d : Document W) : Prop where
  symptoms : ∀ e ∈ d.symptoms, e.IsWellFormed
  rules : ∀ e ∈ d.rules, e.IsWellFormed
  clues : ∀ e ∈ d.clues, e.IsWellFormed
  combinationHints : ∀ e ∈ d.combinationHints, e.IsWellFormed
  closed : d.IsClosed

/-- **The document gives the knowledge**: list by list, each entry gives the item in its place. -/
structure Describes (d : Document W) (kb : KnowledgeBase W) : Prop where
  symptoms : List.Forall₂ SymptomEntry.Describes d.symptoms kb.symptoms
  rules : List.Forall₂ RuleEntry.Describes d.rules kb.rules
  clues : List.Forall₂ ClueEntry.Describes d.clues kb.clues
  hints : kb.hints = d.singleSymptomHints
  combinationHints : List.Forall₂ HintEntry.Describes d.combinationHints kb.combinationHints

variable {d : Document W} {kb : KnowledgeBase W}

namespace Describes

theorem ids_eq (h : d.Describes kb) : kb.ids = d.ids := by
  have hsame : List.Forall₂ (· = ·) d.ids kb.ids := by
    rw [ids, KnowledgeBase.ids, List.forall₂_map_left_iff, List.forall₂_map_right_iff]
    exact h.symptoms.imp fun _ _ hs => hs.id.symm
  rw [List.forall₂_eq_eq_eq] at hsame
  exact hsame.symm

/-- **References resolve in the knowledge exactly if they do in the document.** -/
theorem isClosed_iff (h : d.Describes kb) : kb.IsClosed ↔ d.IsClosed := by
  -- both declare the same identifiers, so the lists are compared one by one
  have hrules := forall_mem_congr_of_forall₂ h.rules
    (P := fun e => ∀ id, e.Wants id ∨ e.Excludes id → id ∈ d.ids)
    (Q := fun r => ∀ id ∈ r.referencedIds, id ∈ d.ids) fun e r hr => by
      simp only [Rule.referencedIds, List.mem_append, IdSet.mem_toList, hr.positive, hr.negative]
  have hclues := forall_mem_congr_of_forall₂ h.clues
    (P := fun e => e.symptom ∈ d.ids) (Q := fun c => c.symptom ∈ d.ids) fun e c hc => by
      rw [hc]
  have hcombinations := forall_mem_congr_of_forall₂ h.combinationHints
    (P := fun e => ∀ id, e.Mentions id → id ∈ d.ids)
    (Q := fun h => ∀ id ∈ h.referencedIds, id ∈ d.ids) fun e h hh => by
      simp only [CombinationHint.referencedIds, List.mem_append, IdSet.mem_toList, hh.all, hh.any,
        hh.none, or_assoc, HintEntry.Mentions]
  constructor
  · rintro ⟨hblank, hdistinct, hr, hc, hh, hm⟩
    rw [h.ids_eq] at hblank hdistinct hr hc hh hm
    rw [h.hints] at hh
    exact ⟨hblank, hdistinct, hrules.mpr hr, hclues.mpr hc, hh, hcombinations.mpr hm⟩
  · rintro ⟨hblank, hdistinct, hr, hc, hh, hm⟩
    rw [← h.hints] at hh
    have hr' := hrules.mp hr
    have hc' := hclues.mp hc
    have hm' := hcombinations.mp hm
    rw [← h.ids_eq] at hblank hdistinct hr' hc' hh hm'
    exact ⟨hblank, hdistinct, hr', hc', hh, hm'⟩

end Describes

variable [Weight W]

/-- The first round makes of a document what it describes. -/
theorem describes_of_knowledge (h : d.knowledge = .ok kb) : d.Describes kb := by
  obtain ⟨hsymptoms, hrules, hclues, hcombinations, hhints⟩ := knowledge_eq_ok_iff.mp h
  exact ⟨hsymptoms.imp fun _ _ => SymptomEntry.symptom_eq_ok_iff.mp,
    hrules.imp fun _ _ hr => (RuleEntry.rule_eq_ok_iff.mp hr).1,
    hclues.imp fun _ _ hc => (ClueEntry.clue_eq_ok_iff.mp hc).1, hhints,
    hcombinations.imp fun _ _ hh => (HintEntry.hint_eq_ok_iff.mp hh).1⟩

/-- **The first round accepts exactly the documents with well-formed entries.** -/
theorem exists_knowledge_iff : (∃ kb, d.knowledge = .ok kb) ↔
    (∀ e ∈ d.symptoms, e.IsWellFormed) ∧ (∀ e ∈ d.rules, e.IsWellFormed) ∧
      (∀ e ∈ d.clues, e.IsWellFormed) ∧ ∀ e ∈ d.combinationHints, e.IsWellFormed := by
  -- the lists are made independently of each other
  simp only [← SymptomEntry.exists_symptom_iff (W := W), ← RuleEntry.exists_rule_iff (W := W),
    ← ClueEntry.exists_clue_iff, ← HintEntry.exists_hint_iff (W := W), ← exists_forall₂_iff,
    knowledge_eq_ok_iff]
  constructor
  · rintro ⟨kb, hsymptoms, hrules, hclues, hcombinations, -⟩
    exact ⟨⟨_, hsymptoms⟩, ⟨_, hrules⟩, ⟨_, hclues⟩, ⟨_, hcombinations⟩⟩
  · rintro ⟨⟨symptoms, hsymptoms⟩, ⟨rules, hrules⟩, ⟨clues, hclues⟩, ⟨hints, hhints⟩⟩
    exact ⟨⟨symptoms, rules, clues, d.singleSymptomHints, hints⟩, hsymptoms, hrules, hclues,
      hhints, rfl⟩

/-- **Both rounds together accept exactly the well-formed documents.** -/
theorem exists_closed_knowledge_iff :
    (∃ kb, d.knowledge = .ok kb ∧ kb.checkReferences = .ok ()) ↔ d.IsWellFormed := by
  simp only [KnowledgeBase.checkReferences_eq_ok_iff]
  constructor
  · rintro ⟨kb, hkb, hclosed⟩
    obtain ⟨hsymptoms, hrules, hclues, hcombinations⟩ := exists_knowledge_iff.mp ⟨kb, hkb⟩
    exact ⟨hsymptoms, hrules, hclues, hcombinations,
      (describes_of_knowledge hkb).isClosed_iff.mp hclosed⟩
  · intro h
    obtain ⟨kb, hkb⟩ := exists_knowledge_iff.mpr ⟨h.symptoms, h.rules, h.clues, h.combinationHints⟩
    exact ⟨kb, hkb, (describes_of_knowledge hkb).isClosed_iff.mpr h.closed⟩

end Document

/-! ### Texts -/

section Texts

variable [Weight W] [WeightNotation W] {text : String} {d : Document W}

theorem parseDocument_eq_knowledge (h : Document.decoder (Json.Reading.ofText text) = .ok d)
    (path : String) : parseDocument text path = d.knowledge := by
  rw [parseDocument, h]

/-- **Exactly the well-formed documents are accepted.** A text has the structure of a document. It
is read and passes the check of its references if and only if the document is well formed, and then
the knowledge is what the document describes. -/
theorem parseDocument_accepts_iff (h : Document.decoder (Json.Reading.ofText text) = .ok d)
    (path : String) :
    ((∃ kb : KnowledgeBase W, parseDocument text path = .ok kb ∧ kb.checkReferences = .ok ()) ↔
        d.IsWellFormed) ∧
      ∀ kb : KnowledgeBase W, parseDocument text path = .ok kb → kb.checkReferences = .ok () →
        d.Describes kb := by
  rw [parseDocument_eq_knowledge h]
  refine ⟨Document.exists_closed_knowledge_iff, ?_⟩
  intro kb hkb _
  exact Document.describes_of_knowledge hkb

end Texts

/-! ### A text -/

/-- A document with a rule in the compact form. -/
def quietFanText : String :=
  "\x7b\"symptoms\":[\x7b\"id\":\"on\",\"label\":\"Power on\",\"category\":\" Hardware\"\x7d," ++
  "\x7b\"id\":\"hum\",\"label\":\"Fan hums\",\"category\":\"hardware\"\x7d]," ++
  "\"rules\":[\x7b\"diagnosis\":\"Fan is stuck\",\"conditions\":[\"on\",\"NOT:hum\",\"on\"]\x7d]\x7d"

/-- The document in it. -/
def quietFanDocument : Document Float where
  symptoms := [⟨"on", "Power on", " Hardware"⟩, ⟨"hum", "Fan hums", "hardware"⟩]
  rules := [⟨"Fan is stuck", [], [], ["on", "NOT:hum", "on"]⟩]
  clues := []
  singleSymptomHints := ∅
  combinationHints := []

/-- The knowledge of the document. -/
def quietFanKnowledge : KnowledgeBase Float where
  symptoms := [⟨"on", "Power on", .hardware, .shipped⟩, ⟨"hum", "Fan hums", .hardware, .shipped⟩]
  rules := [⟨.ofList ["on"], .ofList ["hum"], "Fan is stuck", .shipped⟩]

theorem decoder_quietFanText :
    Document.decoder (Json.Reading.ofText quietFanText) = .ok quietFanDocument := by
  decide +kernel

theorem parseDocument_quietFanText :
    parseDocument quietFanText "knowledge.json" = .ok quietFanKnowledge := by
  rw [parseDocument_eq_knowledge decoder_quietFanText]
  decide +kernel

theorem parseDocument_accepts_iff_quietFan :
    Document.decoder (Json.Reading.ofText quietFanText) = .ok quietFanDocument ∧
      quietFanDocument.IsWellFormed ∧ quietFanDocument.Describes quietFanKnowledge := by
  have hreferences : quietFanKnowledge.checkReferences = .ok () := by decide +kernel
  have haccepts := parseDocument_accepts_iff decoder_quietFanText "knowledge.json"
  exact ⟨decoder_quietFanText,
    haccepts.1.mp ⟨_, parseDocument_quietFanText, hreferences⟩,
    haccepts.2 _ parseDocument_quietFanText hreferences⟩

end FaultDiagnosis
