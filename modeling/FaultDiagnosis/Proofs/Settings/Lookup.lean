import FaultDiagnosis.Proofs.Store.FileTree
import FaultDiagnosis.Settings.Lookup

/-!
# The first place decides

Settings may be in four places, and one place alone decides: the first of them that is present.

| place | present |
|---|---|
| the path asked for | if one is asked for |
| the path in the variable `PCDOC_CONFIG` | if this is set, and not to the empty text |
| `pcdoc/config.toml` with the user's settings | if something is there |
| `/etc/pcdoc/config.toml` | if something is there |

These are `FaultDiagnosis.Settings.places`, with `FaultDiagnosis.Settings.Place.isPresent` for the
last column. What is there may be good settings or a file that cannot be used, and in neither case
is any other place looked at (`FaultDiagnosis.Settings.load_of_first`). So a broken file is an error
whatever else could have been read, and changes to the places behind it are not noticed.

Settings that are given out have passed the check, or they are the usual ones, which nobody checks.
Either way the program can work with them: the usual ones would pass
(`FaultDiagnosis.Settings.isUsable_usual`).
-/

namespace FaultDiagnosis.Settings

variable {env : Environment} {tree tree' : FileTree} {asked : Option String} {path : String}

/-! ### Settings to work with -/

/-- **The program can work with the settings.** The threshold is a number and not below zero, and
the address is not blank. -/
structure IsUsable (s : Settings) : Prop where
  finite : s.inference.threshold.isFinite = true
  nonnegative : 0 ≤ s.inference.threshold
  bind : ∃ c ∈ s.bind.toList, Text.isBlank c = false

theorem isUsableThreshold_iff {threshold : Float} :
    isUsableThreshold threshold = true ↔ threshold.isFinite = true ∧ 0 ≤ threshold := by
  rw [isUsableThreshold, Bool.and_eq_true]
  exact and_congr_right fun _ => decide_eq_true_iff

theorem check_eq_ok_iff {s : Settings} : s.check = .ok () ↔ s.IsUsable := by
  have hbind : Text.isBlankText s.bind = false ↔ ∃ c ∈ s.bind.toList, Text.isBlank c = false := by
    simp [Text.isBlankText]
  rw [check]
  split
  · next h =>
    refine iff_of_false (fun h' => nomatch h') fun hs => ?_
    rw [isUsableThreshold_iff.mpr ⟨hs.finite, hs.nonnegative⟩] at h
    cases h
  · next h =>
    rw [Bool.not_eq_true', Bool.not_eq_false] at h
    obtain ⟨hfinite, hnonnegative⟩ := isUsableThreshold_iff.mp h
    split
    · next hblank =>
      refine iff_of_false (fun h' => nomatch h') fun hs => ?_
      rw [hbind.mpr hs.bind] at hblank
      cases hblank
    · next hblank =>
      exact iff_of_true rfl ⟨hfinite, hnonnegative, hbind.mp (Bool.eq_false_iff.mpr hblank)⟩

/-- **The usual settings would pass the check.** -/
theorem isUsable_usual (env : Environment) : (usual env).IsUsable where
  finite := by
    change usualThreshold.isFinite = true
    decide +kernel
  nonnegative := by
    change 0 ≤ usualThreshold
    decide +kernel
  bind := by
    change ∃ c ∈ "127.0.0.1:7866".toList, Text.isBlank c = false
    exact ⟨'1', by decide, by decide⟩

/-! ### One file -/

/-- The settings that a text makes of the usual ones, if it is a settings document. -/
def written (env : Environment) (text : String) : Option Settings :=
  (Toml.parse text).bind (overlay env)

theorem parse_of_none {text : String} (h : written env text = none) :
    parse env text = .error .malformed := by
  rw [written] at h
  rw [parse, h]
  rfl

theorem parse_of_some {text : String} {s : Settings} (h : written env text = some s) :
    parse env text = s.check.map fun _ => s := by
  rw [written] at h
  rw [parse, h]
  rfl

/-- **What a file decides.** It is an error if the file cannot be read, if its text is no settings
document, and if the program cannot work with the settings. Otherwise these are the settings. -/
inductive OfFile (env : Environment) (tree : FileTree) (path : String) :
    Except SettingsFileFault Settings → Prop
  | unreadable {fault : FileTree.ReadFault} (hread : tree.readText path = .error fault) :
    OfFile env tree path (.error (.unreadable path))
  | malformed {text : String} (hread : tree.readText path = .ok text)
    (hwritten : written env text = none) :
    OfFile env tree path (.error (.notAccepted path .malformed))
  | unusable {text : String} {s : Settings} {fault : SettingsFault}
    (hread : tree.readText path = .ok text) (hwritten : written env text = some s)
    (husable : ¬s.IsUsable) : OfFile env tree path (.error (.notAccepted path fault))
  | good {text : String} {s : Settings} (hread : tree.readText path = .ok text)
    (hwritten : written env text = some s) (husable : s.IsUsable) : OfFile env tree path (.ok s)

theorem ofFile_spec (env : Environment) (tree : FileTree) (path : String) :
    OfFile env tree path (ofFile env tree path) := by
  rw [ofFile]
  cases hread : tree.readText path with
  | error fault => exact .unreadable hread
  | ok text =>
    change OfFile env tree path ((parse env text).mapError (.notAccepted path))
    cases hwritten : written env text with
    | none =>
      rw [parse_of_none hwritten]
      exact .malformed hread hwritten
    | some s =>
      rw [parse_of_some hwritten]
      cases hcheck : s.check with
      | error fault =>
        refine .unusable hread hwritten fun husable => ?_
        rw [check_eq_ok_iff.mpr husable] at hcheck
        cases hcheck
      | ok => exact .good hread hwritten (check_eq_ok_iff.mp hcheck)

/-- Where the same is found, the same is decided. -/
theorem ofFile_congr (h : tree'.find path = tree.find path) :
    ofFile env tree' path = ofFile env tree path := by
  simp only [ofFile, FileTree.readText, h]

/-! ### Four places -/

/-- A place of settings. -/
structure Place where
  path : String
  /-- Does the place count only if something is there? -/
  optional : Bool
  deriving DecidableEq

/-- Does the place count? -/
def Place.isPresent (tree : FileTree) (p : Place) : Bool :=
  !p.optional || match tree.find p.path with
    | .directory | .file _ => true
    | .absent | .blocked => false

/-- The place that the environment names. Where `PCDOC_CONFIG` is set to the empty text, it is as if
it was not set. -/
def namedPlaces (env : Environment) : List Place :=
  match env.settingsFile with
  | none => []
  | some path => if path = "" then [] else [⟨path, false⟩]

/-- **The places of settings**, the most important one first. Those that somebody names always
count. -/
def places (env : Environment) (asked : Option String) : List Place :=
  asked.toList.map (⟨·, false⟩) ++ namedPlaces env ++
    env.userSettingsPath.toList.map (⟨·, true⟩) ++ [⟨"/etc/pcdoc/config.toml", true⟩]

/-- A place that always counts gives its path. -/
theorem find?_asked (tree : FileTree) (path : Option String) :
    ((path.toList.map (⟨·, false⟩)).find? (Place.isPresent tree)).map (·.path) = path := by
  cases path with
  | none => rfl
  | some path => rfl

theorem find?_namedPlaces (env : Environment) (tree : FileTree) :
    ((namedPlaces env).find? (Place.isPresent tree)).map (·.path) = namedPath env := by
  have hnamed : namedPlaces env = (namedPath env).toList.map (⟨·, false⟩) := by
    rw [namedPlaces, namedPath]
    cases env.settingsFile with
    | none => rfl
    | some path =>
      by_cases h : path = ""
      · simp [h, Option.filter]
      · simp [h, Option.filter]
  rw [hnamed, find?_asked]

/-- A place that counts if something is there gives its path if something is there. -/
theorem find?_optional (tree : FileTree) (path : Option String) :
    ((path.toList.map (⟨·, true⟩)).find? (Place.isPresent tree)).map (·.path) =
      path.filter tree.holds := by
  cases path with
  | none => rfl
  | some path =>
    have hpresent : Place.isPresent tree ⟨path, true⟩ = tree.holds path := rfl
    cases h : tree.holds path with
    | true => simp [Option.filter, hpresent, h]
    | false => simp [Option.filter, hpresent, h]

theorem location_eq_find? (env : Environment) (tree : FileTree) (asked : Option String) :
    location env tree asked =
      ((places env asked).find? (·.isPresent tree)).map (·.path) := by
  have hsystem : ([⟨"/etc/pcdoc/config.toml", true⟩].find? (Place.isPresent tree)).map (·.path) =
      (some systemPath).filter tree.holds := find?_optional tree (some systemPath)
  simp only [places, location, List.find?_append, Option.map_or, find?_asked, find?_namedPlaces,
    find?_optional, hsystem, Option.orElse_eq_orElse, Option.orElse_eq_or, Option.or_assoc]

variable {before after : List Place} {p : Place}

/-- **The first place that is present decides.** -/
theorem load_of_first (hplaces : places env asked = before ++ p :: after)
    (hbefore : ∀ q ∈ before, q.isPresent tree = false) (hp : p.isPresent tree = true) :
    load env tree asked = ofFile env tree p.path := by
  have hfind : (places env asked).find? (·.isPresent tree) = some p := by
    rw [hplaces, List.find?_eq_some_iff_append]
    refine ⟨hp, before, after, rfl, fun q hq => ?_⟩
    rw [hbefore q hq]
    rfl
  rw [load, location_eq_find?, hfind]
  rfl

theorem load_of_none (h : ∀ p ∈ places env asked, p.isPresent tree = false) :
    load env tree asked = .ok (usual env) := by
  have hfind : (places env asked).find? (·.isPresent tree) = none :=
    List.find?_eq_none.mpr fun p hp => Bool.eq_false_iff.mp (h p hp)
  rw [load, location_eq_find?, hfind]
  rfl

theorem Place.isPresent_congr (h : tree'.find p.path = tree.find p.path) :
    p.isPresent tree' = p.isPresent tree := by
  simp only [isPresent, h]

/-- Either no place is present, or one of them is the first. -/
theorem places_cases (env : Environment) (tree : FileTree) (asked : Option String) :
    (∀ p ∈ places env asked, p.isPresent tree = false) ∨
      ∃ before p after, places env asked = before ++ p :: after ∧
        (∀ q ∈ before, q.isPresent tree = false) ∧ p.isPresent tree = true := by
  cases hfind : (places env asked).find? (·.isPresent tree) with
  | none => exact Or.inl fun p hp => Bool.eq_false_iff.mpr (List.find?_eq_none.mp hfind p hp)
  | some p =>
    obtain ⟨hp, before, after, hplaces, hbefore⟩ := List.find?_eq_some_iff_append.mp hfind
    exact Or.inr ⟨before, p, after, hplaces, fun q hq => by simpa using hbefore q hq, hp⟩

/-- **Settings that are given out can be worked with.** -/
theorem isUsable_of_load {s : Settings} (h : load env tree asked = .ok s) : s.IsUsable := by
  rcases places_cases env tree asked with hnone | ⟨before, p, after, hplaces, hbefore, hp⟩
  · obtain rfl := Except.ok.inj ((load_of_none hnone).symm.trans h)
    exact isUsable_usual env
  · have hfile := ofFile_spec env tree p.path
    rw [← load_of_first hplaces hbefore hp, h] at hfile
    cases hfile with
    | good _ _ husable => exact husable

/-- **A broken file is not passed over.** The first place that is present decides: what is loaded is
what its file says, or an error if it cannot be read, is malformed or cannot be worked with. In any
other tree where nothing comes before it and the same is found at its path, the same is loaded,
whatever is found elsewhere. Where no place is present, the usual settings are loaded. Settings that
are loaded can be worked with. -/
theorem load_decided (env : Environment) (tree : FileTree) (asked : Option String) :
    (∀ before p after, places env asked = before ++ p :: after →
      (∀ q ∈ before, q.isPresent tree = false) → p.isPresent tree = true →
      OfFile env tree p.path (load env tree asked) ∧
      ∀ tree' : FileTree, (∀ q ∈ before, q.isPresent tree' = false) →
        tree'.find p.path = tree.find p.path → load env tree' asked = load env tree asked) ∧
    ((∀ p ∈ places env asked, p.isPresent tree = false) →
      load env tree asked = .ok (usual env)) ∧
    ∀ s, load env tree asked = .ok s → s.IsUsable := by
  refine ⟨fun before p after hplaces hbefore hp => ?_, load_of_none, fun s => isUsable_of_load⟩
  have hload := load_of_first hplaces hbefore hp
  refine ⟨?_, fun tree' hbefore' hfind => ?_⟩
  · rw [hload]
    exact ofFile_spec env tree p.path
  · have hp' : p.isPresent tree' = true := (Place.isPresent_congr hfind).trans hp
    rw [load_of_first hplaces hbefore' hp', hload, ofFile_congr hfind]

/-! ### Three files -/

/-- A file that is read and does not make settings to work with is an error. -/
theorem OfFile.exists_fault {result : Except SettingsFileFault Settings} {text : String}
    (h : OfFile env tree path result) (hread : tree.readText path = .ok text)
    (hthreshold : ∀ s, written env text = some s →
      isUsableThreshold s.inference.threshold = false) :
    ∃ fault, result = .error (.notAccepted path fault) := by
  cases h with
  | unreadable h => cases hread.symm.trans h
  | malformed => exact ⟨_, rfl⟩
  | unusable => exact ⟨_, rfl⟩
  | good h hwritten husable =>
    obtain rfl := Except.ok.inj (hread.symm.trans h)
    have hunusable := hthreshold _ hwritten
    rw [isUsableThreshold_iff.mpr ⟨husable.finite, husable.nonnegative⟩] at hunusable
    cases hunusable

theorem OfFile.eq_ok {result : Except SettingsFileFault Settings} {text : String} {s : Settings}
    (h : OfFile env tree path result) (hread : tree.readText path = .ok text)
    (hwritten : written env text = some s) (husable : s.IsUsable) : result = .ok s := by
  cases h with
  | unreadable h => cases hread.symm.trans h
  | malformed h hnone =>
    obtain rfl := Except.ok.inj (hread.symm.trans h)
    cases hwritten.symm.trans hnone
  | unusable h hsome hnot =>
    obtain rfl := Except.ok.inj (hread.symm.trans h)
    obtain rfl := Option.some.inj (hwritten.symm.trans hsome)
    exact absurd husable hnot
  | good h hsome =>
    obtain rfl := Except.ok.inj (hread.symm.trans h)
    rw [Option.some.inj (hwritten.symm.trans hsome)]

/-- A user with a home directory, and the variable `PCDOC_CONFIG` set to the given text. -/
def homeEnvironment (named : String) : Environment where
  home := some "/home/me"
  settingsFile := some named

/-- Settings with a threshold below zero. -/
def brokenText : String := "[inference]\nscoring_threshold = -1.0\n"

/-- Settings with another threshold than the usual one. -/
def goodText : String := "[inference]\nscoring_threshold = 2.5\n"

/-- A file of the given text in the root directory, and settings of the user and of the system. -/
def settingsTree (named user system : String) : FileTree :=
  ⟨[(["/", "named.toml"], .file named.toUTF8),
    (["/", "home"], .directory), (["/", "home", "me"], .directory),
    (["/", "home", "me", ".config"], .directory),
    (["/", "home", "me", ".config", "pcdoc"], .directory),
    (["/", "home", "me", ".config", "pcdoc", "config.toml"], .file user.toUTF8),
    (["/", "etc"], .directory), (["/", "etc", "pcdoc"], .directory),
    (["/", "etc", "pcdoc", "config.toml"], .file system.toUTF8)]⟩

theorem find_named (named user system : String) :
    (settingsTree named user system).find "/named.toml" = .file named.toUTF8 := by
  rfl

/-- The user's settings, as a place. -/
def userPlace : Place := ⟨"/home/me/.config/pcdoc/config.toml", true⟩

theorem find_user (named user system : String) :
    (settingsTree named user system).find userPlace.path = .file user.toUTF8 := by
  rfl

theorem isPresent_user (named user system : String) :
    userPlace.isPresent (settingsTree named user system) = true := by
  rw [Place.isPresent, find_user]
  rfl

/-- The settings of the good text. -/
def goodSettings (env : Environment) : Settings :=
  { usual env with inference := { usualInference with threshold := 2.5 } }

theorem isUsable_goodSettings (env : Environment) : (goodSettings env).IsUsable where
  finite := by
    change (2.5 : Float).isFinite = true
    decide +kernel
  nonnegative := by
    change (0 : Float) ≤ 2.5
    decide +kernel
  bind := (isUsable_usual env).bind

/-- A broken file that the environment names is an error, with good settings of the user and of the
system behind it, and with bad ones. If the variable is set to the empty text, the user's file
decides, and if there are no files at all, the settings are the usual ones. -/
theorem load_decided_broken :
    let named : Place := ⟨"/named.toml", false⟩
    let system : Place := ⟨"/etc/pcdoc/config.toml", true⟩
    let tree := settingsTree brokenText goodText goodText
    places (homeEnvironment named.path) none = [] ++ named :: [userPlace, system] ∧
      (∃ fault, load (homeEnvironment named.path) tree none =
        .error (.notAccepted named.path fault)) ∧
      load (homeEnvironment named.path) (settingsTree brokenText brokenText "no settings") none =
        load (homeEnvironment named.path) tree none ∧
      places (homeEnvironment "") none = [] ++ userPlace :: [system] ∧
      load (homeEnvironment "") tree none = .ok (goodSettings (homeEnvironment "")) ∧
      (∃ fault, load (homeEnvironment "") (settingsTree goodText brokenText goodText) none =
        .error (.notAccepted userPlace.path fault)) ∧
      load (homeEnvironment "") ⟨[]⟩ none = .ok (usual (homeEnvironment "")) := by
  intro named system tree
  have hplaces : places (homeEnvironment named.path) none = [] ++ named :: [userPlace, system] := by
    decide +kernel
  have hplaces' : places (homeEnvironment "") none = [] ++ userPlace :: [system] := by
    decide +kernel
  have hbroken : ∀ text ∈ ["", named.path], (written (homeEnvironment text) brokenText).all
      (! isUsableThreshold ·.inference.threshold) = true := by
    decide +kernel
  have hgood : written (homeEnvironment "") goodText =
      some (goodSettings (homeEnvironment "")) := by
    decide +kernel
  -- the file that the environment names
  obtain ⟨hfile, hsame⟩ := (load_decided (homeEnvironment named.path) tree none).1 [] named _
    hplaces nofun rfl
  have hnamed := hfile.exists_fault (FileTree.readText_of_file (find_named _ _ _)) fun s hs => by
    simpa [hs] using hbroken named.path (by simp)
  have hunnoticed := hsame (settingsTree brokenText brokenText "no settings") nofun
    ((find_named _ _ _).trans (find_named _ _ _).symm)
  -- the user's file, good and broken
  have huser (t : FileTree) (h : userPlace.isPresent t = true) :
      OfFile (homeEnvironment "") t userPlace.path (load (homeEnvironment "") t none) :=
    ((load_decided (homeEnvironment "") t none).1 [] userPlace _ hplaces' nofun h).1
  have hok := (huser tree (isPresent_user _ _ _)).eq_ok
    (FileTree.readText_of_file (find_user _ _ _)) hgood (isUsable_goodSettings _)
  have hfault := (huser (settingsTree goodText brokenText goodText)
    (isPresent_user _ _ _)).exists_fault (FileTree.readText_of_file (find_user _ _ _))
      fun s hs => by simpa [hs] using hbroken "" (by simp)
  -- no file
  have hnone : ∀ p ∈ places (homeEnvironment "") none, p.isPresent ⟨[]⟩ = false := by
    rw [hplaces']
    decide +kernel
  exact ⟨hplaces, hnamed, hunnoticed, hplaces', hok, hfault,
    (load_decided (homeEnvironment "") ⟨[]⟩ none).2.1 hnone⟩

end FaultDiagnosis.Settings
