import FaultDiagnosis.Proofs.Settings.Lookup
import Mathlib.Data.List.Basic

/-!
# A document lies over the usual settings

Settings stand in three groups, and a document may lack any of them, or any member of one. What is
usual is therefore written down twice: for a group as a whole, where it is missing, and for each of
its members, where only these are missing. The two have to come to the same, for every group: this
is the second hypothesis of `FaultDiagnosis.Settings.setting_group_eq_some_iff`, and nothing else
about the groups matters to how they are read.

So settings are found member by member (`FaultDiagnosis.Settings.Overlays`). Each of them is what
the document says about it, or that of `FaultDiagnosis.Settings.usual` where the document says
nothing. What else the document holds is not looked at (`FaultDiagnosis.Settings.known`).

A group is a table as a rule. It may also be an array of its members in their order, and this is the
one way in which a document says something about a member without naming it.
-/

namespace FaultDiagnosis

namespace Toml

/-! ### Groups -/

/-- Is the value a group? -/
def isGroup : Toml → Bool
  | .table _ _ | .array _ | .tables _ | .dateTime => true
  | .string _ | .integer _ | .float _ | .boolean _ => false

/-- **The member of a group with a name.** In a table it stands under its name, in an array at the
place that its name has among the names. -/
def member? (names : List String) (name : String) : Toml → Option Toml
  | .table _ entries => entries.lookup name
  | .array items => items[names.idxOf name]?
  | .tables ts => ts[names.idxOf name]?.map (.table .defined)
  | _ => none

theorem lookup_zip {α : Type} {names : List String} {name : String} (h : name ∈ names)
    (items : List α) : (names.zip items).lookup name = items[names.idxOf name]? := by
  -- A name that stands twice counts where it stands first, for `lookup` as for `idxOf`.
  induction names generalizing items with
  | nil => cases h
  | cons first names ih =>
    cases items with
    | nil => rfl
    | cons item items =>
      rw [List.zip_cons_cons, List.lookup_cons]
      rcases eq_or_ne name first with rfl | hne
      · rw [beq_self_eq_true, List.idxOf_cons_self]
        rfl
      · rw [beq_false_of_ne hne, List.idxOf_cons_ne _ hne.symm, List.getElem?_cons_succ]
        exact ih (List.mem_of_ne_of_mem hne h) items

/-- A group has members, and each of its names finds its own. -/
theorem exists_members? {v : Toml} (hv : v.isGroup = true) (names : List String) :
    ∃ group, v.members? names = some group ∧
      ∀ name ∈ names, group.lookup name = v.member? names name := by
  cases v with
  | table kind entries => exact ⟨entries, rfl, fun _ _ => rfl⟩
  | array items => exact ⟨names.zip items, rfl, fun name h => lookup_zip h items⟩
  | tables ts =>
    -- The tables that share a header are the items, each a table of its own.
    refine ⟨names.zip (ts.map (.table .defined)), rfl, fun name h => ?_⟩
    rw [lookup_zip h, List.getElem?_map]
    rfl
  | dateTime => exact ⟨[], rfl, fun _ _ => rfl⟩
  | string _ | integer _ | float _ | boolean _ => cases hv

/-- **Reading a group is reading its members**, if nothing but the members counts. -/
theorem bind_members?_eq_some_iff {α : Type} {names : List String} {read : Entries → Option α}
    {P : (String → Option Toml) → α → Prop} {v : Toml} {a : α}
    (hread : ∀ (group : Entries) (said : String → Option Toml),
      (∀ name ∈ names, group.lookup name = said name) → (read group = some a ↔ P said a)) :
    (v.members? names).bind read = some a ↔ v.isGroup = true ∧ P (v.member? names) a := by
  cases hv : v.isGroup with
  | true =>
    obtain ⟨group, hgroup, hmember⟩ := exists_members? hv names
    rw [hgroup, Option.bind_some, hread group _ hmember]
    exact (and_iff_right rfl).symm
  | false =>
    have hnone : v.members? names = none := by
      cases v with
      | table _ _ | array _ | tables _ | dateTime => cases hv
      | string _ | integer _ | float _ | boolean _ => rfl
    rw [hnone]
    exact iff_of_false (fun h => nomatch h) (fun h => nomatch h.1)

/-- The group without what is none of its members. -/
def onlyMembers (names : List String) : Toml → Toml
  | .table kind entries => .table kind (entries.filter fun e => e.1 ∈ names)
  | .array items => .array (items.take names.length)
  | .tables ts => .tables (ts.take names.length)
  | v => v

theorem isGroup_onlyMembers (names : List String) (v : Toml) :
    (v.onlyMembers names).isGroup = v.isGroup := by
  cases v <;> rfl

theorem lookup_filter_mem {names : List String} {name : String} (h : name ∈ names)
    (entries : Entries) :
    (entries.filter fun e => e.1 ∈ names).lookup name = entries.lookup name := by
  induction entries with
  | nil => rfl
  | cons e entries ih =>
    rw [List.lookup_cons, List.filter_cons]
    rcases eq_or_ne name e.1 with heq | hne
    · rw [if_pos (decide_eq_true (heq ▸ h)), List.lookup_cons, beq_iff_eq.mpr heq]
    · rw [beq_false_of_ne hne]
      split
      · rw [List.lookup_cons, beq_false_of_ne hne]
        exact ih
      · exact ih

/-- What is none of the members is not looked at. -/
theorem member?_onlyMembers {names : List String} {name : String} (h : name ∈ names) (v : Toml) :
    (v.onlyMembers names).member? names name = v.member? names name := by
  have hlt : names.idxOf name < names.length := List.idxOf_lt_length_of_mem h
  cases v with
  | table kind entries => exact lookup_filter_mem h entries
  | array items => exact List.getElem?_take_of_lt hlt
  | tables ts => exact congrArg (Option.map (table .defined)) (List.getElem?_take_of_lt hlt)
  | string _ | integer _ | float _ | boolean _ | dateTime => rfl

end Toml

namespace Settings

open Toml (Entries)

/-! ### One setting -/

/-- **What a setting is**, by what is said about it: its value where something is said, and the
usual one where nothing is. -/
inductive Chosen {α : Type} (view : Toml → Option α) (usual : α) : Option Toml → α → Prop
  | said {v : Toml} {a : α} (hview : view v = some a) : Chosen view usual (some v) a
  | unsaid : Chosen view usual none usual

section Chosen

variable {α : Type} {view : Toml → Option α} {usual a : α}

theorem chosen_none_iff : Chosen view usual none a ↔ a = usual := by
  constructor
  · rintro ⟨⟩
    rfl
  · rintro rfl
    exact .unsaid

theorem setting_eq_some_iff {entries : Entries} {key : String} :
    entries.setting key view usual = some a ↔ Chosen view usual (entries.lookup key) a := by
  rw [Entries.setting]
  cases entries.lookup key with
  | none =>
    rw [chosen_none_iff]
    exact Option.some_inj.trans eq_comm
  | some v => exact ⟨.said, fun | .said hview => hview⟩

end Chosen

/-! ### One group -/

/-- A group of settings: the key that it stands under, and the names of its members. -/
structure Group where
  key : String
  names : List String

/-- The group of the paths of knowledge. -/
def knowledgeGroup : Group := ⟨"knowledge", knowledgeNames⟩

/-- The group of the inference settings. -/
def inferenceGroup : Group := ⟨"inference", inferenceNames⟩

/-- The group of the settings of the service. -/
def serverGroup : Group := ⟨"server", serverNames⟩

/-- **What a document says about a member of a group**, if it says anything. -/
def said (document : Entries) (g : Group) (name : String) : Option Toml :=
  (document.lookup g.key).bind (·.member? g.names name)

/-- Is the key of the group that of a group, or absent? -/
def IsReadable (document : Entries) (g : Group) : Prop :=
  ∀ v ∈ document.lookup g.key, v.isGroup = true

instance (document : Entries) (g : Group) : Decidable (IsReadable document g) :=
  inferInstanceAs (Decidable (∀ v ∈ document.lookup g.key, v.isGroup = true))

/-- **A group is its members, whether it is there or not.** The first hypothesis says what is read
from a group that is there. The second says that the usual group is what is read where nothing is
said about any member. -/
theorem setting_group_eq_some_iff {α : Type} {g : Group} {view : Toml → Option α} {usual a : α}
    {P : (String → Option Toml) → α → Prop}
    (hview : ∀ v, view v = some a ↔ v.isGroup = true ∧ P (v.member? g.names) a)
    (husual : P (fun _ => none) a ↔ a = usual) {document : Entries} :
    document.setting g.key view usual = some a ↔
      IsReadable document g ∧ P (said document g) a := by
  rw [Entries.setting]
  cases hlookup : document.lookup g.key with
  | none =>
    have hsaid : said document g = fun _ => none := by
      funext name
      rw [said, hlookup, Option.bind_none]
    have hreadable : IsReadable document g := by
      intro v hv
      rw [hlookup] at hv
      cases hv
    rw [hsaid, husual, and_iff_right hreadable]
    exact Option.some_inj.trans eq_comm
  | some v =>
    have hsaid : said document g = v.member? g.names := by
      funext name
      rw [said, hlookup, Option.bind_some]
    have hreadable : IsReadable document g ↔ v.isGroup = true := by
      rw [IsReadable, hlookup]
      exact ⟨fun h => h v rfl, fun h w hw => Option.some.inj hw ▸ h⟩
    rw [hsaid, hreadable]
    exact hview v

/-! ### The groups of settings -/

variable {env : Environment} {document : Entries}

/-- The paths of knowledge, by what is said about each. -/
structure KnowledgeChosen (env : Environment) (said : String → Option Toml) (k : KnowledgePaths) :
    Prop where
  document : Chosen Toml.text? (usual env).knowledge.document (said "static_path") k.document
  log : Chosen Toml.text? (usual env).knowledge.log (said "user_path") k.log

/-- The inference settings, by what is said about each. -/
structure InferenceChosen (env : Environment) (said : String → Option Toml)
    (i : InferenceSettings Float) : Prop where
  defaultStrategy : Chosen Strategy.ofToml (usual env).inference.defaultStrategy
    (said "default_strategy") i.defaultStrategy
  threshold : Chosen Toml.number? (usual env).inference.threshold (said "scoring_threshold")
    i.threshold
  fullCoverage : Chosen Toml.flag? (usual env).inference.fullCoverage
    (said "require_full_coverage") i.fullCoverage

/-- The address of the service, by what is said about it. -/
def BindChosen (env : Environment) (said : String → Option Toml) (bind : String) : Prop :=
  Chosen Toml.text? (usual env).bind (said "bind") bind

theorem setting_knowledge_eq_some_iff {k : KnowledgePaths} :
    document.setting "knowledge" (knowledgeOf env) (usualKnowledge env) = some k ↔
      IsReadable document knowledgeGroup ∧
        KnowledgeChosen env (said document knowledgeGroup) k := by
  refine setting_group_eq_some_iff (g := knowledgeGroup) (P := KnowledgeChosen env)
    (fun v => Toml.bind_members?_eq_some_iff fun group said h => ?_) ⟨fun h => ?_, ?_⟩
  · simp only [Option.bind_eq_bind, Option.bind_eq_some_iff, setting_eq_some_iff, Option.pure_def,
      Option.some_inj, h "static_path" (by decide), h "user_path" (by decide)]
    constructor
    · rintro ⟨document, hdocument, log, hlog, rfl⟩
      exact ⟨hdocument, hlog⟩
    · rintro ⟨hdocument, hlog⟩
      exact ⟨_, hdocument, _, hlog, rfl⟩
  -- The usual group has the usual members: both have been written down.
  · obtain ⟨document, log⟩ := k
    obtain rfl := chosen_none_iff.mp h.document
    obtain rfl := chosen_none_iff.mp h.log
    rfl
  · rintro rfl
    exact ⟨.unsaid, .unsaid⟩

theorem setting_inference_eq_some_iff (env : Environment) {i : InferenceSettings Float} :
    document.setting "inference" inferenceOf usualInference = some i ↔
      IsReadable document inferenceGroup ∧
        InferenceChosen env (said document inferenceGroup) i := by
  refine setting_group_eq_some_iff (g := inferenceGroup) (P := InferenceChosen env)
    (fun v => Toml.bind_members?_eq_some_iff fun group said h => ?_) ⟨fun h => ?_, ?_⟩
  · simp only [Option.bind_eq_bind, Option.bind_eq_some_iff, setting_eq_some_iff, Option.pure_def,
      Option.some_inj, h "default_strategy" (by decide), h "scoring_threshold" (by decide),
      h "require_full_coverage" (by decide)]
    constructor
    · rintro ⟨strategy, hstrategy, threshold, hthreshold, coverage, hcoverage, rfl⟩
      exact ⟨hstrategy, hthreshold, hcoverage⟩
    · rintro ⟨hstrategy, hthreshold, hcoverage⟩
      exact ⟨_, hstrategy, _, hthreshold, _, hcoverage, rfl⟩
  · obtain ⟨strategy, threshold, coverage⟩ := i
    obtain rfl := chosen_none_iff.mp h.defaultStrategy
    obtain rfl := chosen_none_iff.mp h.threshold
    obtain rfl := chosen_none_iff.mp h.fullCoverage
    rfl
  · rintro rfl
    exact ⟨.unsaid, .unsaid, .unsaid⟩

theorem setting_bind_eq_some_iff (env : Environment) {bind : String} :
    document.setting "server" bindOf usualBind = some bind ↔
      IsReadable document serverGroup ∧ BindChosen env (said document serverGroup) bind := by
  refine setting_group_eq_some_iff (g := serverGroup) (P := BindChosen env)
    (fun v => Toml.bind_members?_eq_some_iff fun group said h => ?_) chosen_none_iff
  rw [setting_eq_some_iff, h "bind" (by decide)]
  rfl

/-! ### The whole document -/

/-- **The settings lie over the usual ones as a document says.** -/
structure Overlays (env : Environment) (document : Entries) (s : Settings) : Prop where
  knowledge : KnowledgeChosen env (said document knowledgeGroup) s.knowledge
  inference : InferenceChosen env (said document inferenceGroup) s.inference
  bind : BindChosen env (said document serverGroup) s.bind

/-- The groups of settings. -/
def groups : List Group := [knowledgeGroup, inferenceGroup, serverGroup]

theorem overlay_eq_some_iff {s : Settings} : overlay env document = some s ↔
    (∀ g ∈ groups, IsReadable document g) ∧ Overlays env document s := by
  simp only [overlay, Option.bind_eq_bind, Option.bind_eq_some_iff, Option.pure_def,
    Option.some_inj, setting_knowledge_eq_some_iff, setting_inference_eq_some_iff env,
    setting_bind_eq_some_iff env, groups, List.forall_mem_cons]
  constructor
  · rintro ⟨knowledge, ⟨hk, hknowledge⟩, inference, ⟨hi, hinference⟩, bind, ⟨hb, hbind⟩, rfl⟩
    exact ⟨⟨hk, hi, hb, fun _ h => nomatch h⟩, hknowledge, hinference, hbind⟩
  · rintro ⟨⟨hk, hi, hb, -⟩, hknowledge, hinference, hbind⟩
    exact ⟨_, ⟨hk, hknowledge⟩, _, ⟨hi, hinference⟩, _, ⟨hb, hbind⟩, rfl⟩

theorem parse_eq_ok_iff {text : String} {s : Settings} : parse env text = .ok s ↔
    ∃ document, Toml.parse text = some document ∧ (∀ g ∈ groups, IsReadable document g) ∧
      Overlays env document s ∧ s.IsUsable := by
  have hparse : parse env text = .ok s ↔ written env text = some s ∧ s.IsUsable := by
    cases hwritten : written env text with
    | none =>
      rw [parse_of_none hwritten]
      exact iff_of_false (fun h => nomatch h) (fun h => nomatch h.1)
    | some t =>
      rw [parse_of_some hwritten, Option.some_inj, ← check_eq_ok_iff]
      cases hcheck : t.check with
      | error fault =>
        refine iff_of_false (fun h => nomatch h) ?_
        rintro ⟨rfl, h⟩
        cases hcheck.symm.trans h
      | ok =>
        refine ⟨fun h => ?_, ?_⟩
        · obtain rfl := Except.ok.inj h
          exact ⟨rfl, hcheck⟩
        · rintro ⟨rfl, -⟩
          rfl
  rw [hparse, written, Option.bind_eq_some_iff]
  simp only [overlay_eq_some_iff]
  constructor
  · rintro ⟨⟨document, hdocument, hreadable, hoverlays⟩, husable⟩
    exact ⟨document, hdocument, hreadable, hoverlays, husable⟩
  · rintro ⟨document, hdocument, hreadable, hoverlays, husable⟩
    exact ⟨⟨document, hdocument, hreadable, hoverlays⟩, husable⟩

/-! ### What is not looked at -/

/-- **Do two documents say the same about settings?** They may differ in everything else. -/
structure SaysTheSame (document document' : Entries) : Prop where
  readable : ∀ g ∈ groups, (IsReadable document g ↔ IsReadable document' g)
  said : ∀ g ∈ groups, ∀ name ∈ g.names, said document g name = said document' g name

section SaysTheSame

variable {document' : Entries}

theorem SaysTheSame.symm (h : SaysTheSame document document') : SaysTheSame document' document where
  readable g hg := (h.readable g hg).symm
  said g hg name hname := (h.said g hg name hname).symm

theorem SaysTheSame.overlays (h : SaysTheSame document document') {s : Settings}
    (hs : Overlays env document s) : Overlays env document' s := by
  have hknowledge := h.said knowledgeGroup (by simp [groups])
  have hinference := h.said inferenceGroup (by simp [groups])
  have hserver := h.said serverGroup (by simp [groups])
  refine ⟨⟨?_, ?_⟩, ⟨?_, ?_, ?_⟩, ?_⟩
  · rw [← hknowledge "static_path" (by decide)]
    exact hs.knowledge.document
  · rw [← hknowledge "user_path" (by decide)]
    exact hs.knowledge.log
  · rw [← hinference "default_strategy" (by decide)]
    exact hs.inference.defaultStrategy
  · rw [← hinference "scoring_threshold" (by decide)]
    exact hs.inference.threshold
  · rw [← hinference "require_full_coverage" (by decide)]
    exact hs.inference.fullCoverage
  · rw [BindChosen, ← hserver "bind" (by decide)]
    exact hs.bind

/-- **Documents that say the same come to the same settings**, or are both not accepted. -/
theorem SaysTheSame.overlay_eq (h : SaysTheSame document document') :
    overlay env document = overlay env document' := by
  refine Option.ext fun s => ?_
  rw [overlay_eq_some_iff, overlay_eq_some_iff]
  exact and_congr (forall₂_congr h.readable) ⟨h.overlays, h.symm.overlays⟩

end SaysTheSame

/-- **What the program knows of a document**: its groups, and in these their members. -/
def known (document : Entries) : Entries :=
  document.filterMap fun e =>
    (groups.find? (·.key = e.1)).map fun g => (e.1, e.2.onlyMembers g.names)

theorem find?_groups {g : Group} (hg : g ∈ groups) : groups.find? (·.key = g.key) = some g := by
  simp only [groups, List.mem_cons, List.not_mem_nil, or_false] at hg
  rcases hg with rfl | rfl | rfl <;> rfl

theorem lookup_known {g : Group} (hg : g ∈ groups) (document : Entries) :
    (known document).lookup g.key = (document.lookup g.key).map (·.onlyMembers g.names) := by
  induction document with
  | nil => rfl
  | cons e document ih =>
    rw [known, List.filterMap_cons, ← known, List.lookup_cons]
    -- Only an entry under the key of the group matters, and that one is kept.
    rcases eq_or_ne g.key e.1 with heq | hne
    · rw [← heq, find?_groups hg, beq_self_eq_true, Option.map_some]
      exact (List.lookup_cons).trans (by rw [beq_self_eq_true]; rfl)
    · rw [beq_false_of_ne hne]
      cases groups.find? (·.key = e.1) with
      | none => exact ih
      | some g' =>
        refine (List.lookup_cons).trans ?_
        rw [beq_false_of_ne hne]
        exact ih

/-- **What the program does not know has no effect.** -/
theorem saysTheSame_known (document : Entries) : SaysTheSame (known document) document where
  readable g hg := by
    rw [IsReadable, IsReadable, lookup_known hg]
    cases document.lookup g.key with
    | none => exact iff_of_true (fun _ h => nomatch h) (fun _ h => nomatch h)
    | some v => simp [Toml.isGroup_onlyMembers]
  said g hg name hname := by
    rw [said, said, lookup_known hg]
    cases document.lookup g.key with
    | none => rfl
    | some v => exact Toml.member?_onlyMembers hname v

/-- **A settings file lies over the usual settings.** A text is accepted as settings if and only if
it is a document whose groups can be read, and the settings are ones to work with that lie over the
usual ones as the document says: each member that it says something about has that value, and each
other member is the usual one, whether its group lacks it or is not there. Documents that say the
same are accepted alike, and a document says the same without all that the program does not know. -/
theorem parse_overlays (env : Environment) :
    (∀ text s, parse env text = .ok s ↔ ∃ document, Toml.parse text = some document ∧
      (∀ g ∈ groups, IsReadable document g) ∧ Overlays env document s ∧ s.IsUsable) ∧
    (∀ text text' document document', Toml.parse text = some document →
      Toml.parse text' = some document' → SaysTheSame document document' →
      parse env text = parse env text') ∧
    ∀ document, SaysTheSame (known document) document := by
  refine ⟨fun _ _ => parse_eq_ok_iff, fun text text' document document' h h' hsame => ?_,
    saysTheSame_known⟩
  have hwritten : written env text = written env text' := by
    rw [written, written, h, h']
    exact hsame.overlay_eq
  cases hs : written env text' with
  | none => rw [parse_of_none hs, parse_of_none (hwritten.trans hs)]
  | some s => rw [parse_of_some hs, parse_of_some (hwritten.trans hs)]

/-- Five settings under their names, and things that the program does not know. -/
def colouredText : String :=
  "[knowledge]\nuser_path = \"/log\"\n" ++
    "[inference]\ndefault_strategy = \"scoring\"\nscoring_threshold = 4.5\n" ++
    "require_full_coverage = true\n" ++
    "[server]\nbind = \"0.0.0.0:80\"\nhue = \"red\"\n[colours]\n"

/-- The document of the text with colours. -/
def colouredDocument : Entries :=
  [("knowledge", .table .defined [("user_path", .string "/log")]),
    ("inference", .table .defined [("default_strategy", .string "scoring"),
      ("scoring_threshold", .float 4.5), ("require_full_coverage", .boolean true)]),
    ("server", .table .defined [("bind", .string "0.0.0.0:80"), ("hue", .string "red")]),
    ("colours", .table .defined [])]

/-- The same settings, most of them by their places, and nothing else. -/
def plainText : String :=
  "server = [\"0.0.0.0:80\"]\ninference = [\"scoring\", 4.5, true]\n" ++
    "[knowledge]\nuser_path = \"/log\"\n"

/-- The document of the plain text. -/
def plainDocument : Entries :=
  [("server", .array [.string "0.0.0.0:80"]),
    ("inference", .array [.string "scoring", .float 4.5, .boolean true]),
    ("knowledge", .table .defined [("user_path", .string "/log")])]

/-- The settings of both texts. -/
def chosenSettings : Settings where
  knowledge := { document := "/usr/share/pcdoc/knowledge.json", log := "/log" }
  inference := { defaultStrategy := .scoring, threshold := 4.5, fullCoverage := true }
  bind := "0.0.0.0:80"

theorem isUsable_chosenSettings : chosenSettings.IsUsable where
  finite := by
    change (4.5 : Float).isFinite = true
    decide +kernel
  nonnegative := by
    change (0 : Float) ≤ 4.5
    decide +kernel
  bind := ⟨'0', by decide, by decide⟩

theorem parse_colouredText : Toml.parse colouredText = some colouredDocument := by
  decide +kernel

theorem parse_plainText : Toml.parse plainText = some plainDocument := by
  decide +kernel

theorem overlays_plainDocument : Overlays {} plainDocument chosenSettings where
  knowledge := ⟨.unsaid, .said rfl⟩
  inference := ⟨.said rfl, .said rfl, .said rfl⟩
  bind := .said rfl

theorem saysTheSame_coloured : SaysTheSame colouredDocument plainDocument where
  readable := by decide
  said := by decide +kernel

/-- Unknown keys and tables make no difference, nor do arrays. -/
theorem parse_overlays_coloured :
    Toml.parse colouredText = some colouredDocument ∧ Toml.parse plainText = some plainDocument ∧
      SaysTheSame colouredDocument plainDocument ∧
      parse {} colouredText = parse {} plainText ∧ parse {} plainText = .ok chosenSettings := by
  have hreadable : ∀ g ∈ groups, IsReadable plainDocument g := by decide
  obtain ⟨haccepted, halike, -⟩ := parse_overlays {}
  exact ⟨parse_colouredText, parse_plainText, saysTheSame_coloured,
    halike _ _ _ _ parse_colouredText parse_plainText saysTheSame_coloured,
    (haccepted _ _).mpr ⟨plainDocument, parse_plainText, hreadable, overlays_plainDocument,
      isUsable_chosenSettings⟩⟩

/-! ### An array for a table -/

/-- The address of the service in an array, and nothing else. -/
def arrayText : String := "server = [\"0.0.0.0:80\"]\n"

/-- The document of the text with an array. -/
def arrayDocument : Entries :=
  [("server", .array [.string "0.0.0.0:80"])]

/-- The usual settings with another address. -/
def openSettings : Settings :=
  { usual {} with bind := "0.0.0.0:80" }

theorem parse_arrayText : Toml.parse arrayText = some arrayDocument := by
  decide +kernel

theorem isUsable_openSettings : openSettings.IsUsable where
  finite := (isUsable_usual {}).finite
  nonnegative := (isUsable_usual {}).nonnegative
  bind := ⟨'0', by decide, by decide⟩

theorem overlays_arrayDocument : Overlays {} arrayDocument openSettings where
  knowledge := ⟨.unsaid, .unsaid⟩
  inference := ⟨.unsaid, .unsaid, .unsaid⟩
  bind := .said rfl

/-- **An array names nothing and sets something.** The document has no table for the service, let
alone one with a key for the address, and the address is not the usual one. -/
theorem array_sets_bind :
    Toml.parse arrayText = some arrayDocument ∧ parse {} arrayText = .ok openSettings ∧
      (∀ kind entries, arrayDocument.lookup "server" ≠ some (.table kind entries)) ∧
      openSettings.bind ≠ (usual {}).bind := by
  have hserver : arrayDocument.lookup "server" = some (.array [.string "0.0.0.0:80"]) := rfl
  have hreadable : ∀ g ∈ groups, IsReadable arrayDocument g := by decide
  refine ⟨parse_arrayText, ?_, fun kind entries h => ?_, by decide⟩
  · exact parse_eq_ok_iff.mpr ⟨arrayDocument, parse_arrayText, hreadable,
      overlays_arrayDocument, isUsable_openSettings⟩
  · cases hserver.symm.trans h

end Settings

end FaultDiagnosis
