import FaultDiagnosis.Settings.Document

/-!
# Where settings are found

Settings may be in several places, and the first one of them decides: the path asked for, the path
that the environment names, the user's settings, and those of the system. The first two decide even
if nothing is there, the others only if there is something. A file that decides and is not good is
not passed over (`Settings.load`).
-/

namespace FaultDiagnosis

/-- Why there are no settings. -/
inductive SettingsFileFault
  /-- The file that decides cannot be read. -/
  | unreadable (path : String)
  /-- The file that decides is not accepted. -/
  | notAccepted (path : String) (fault : SettingsFault)

/-- The fault in words. -/
def SettingsFileFault.message : SettingsFileFault → String
  | unreadable path => "Failed to read " ++ path
  | notAccepted path _ => "Failed to parse " ++ path

namespace Settings

/-- The path of the settings of the system. -/
def systemPath : String := "/etc/pcdoc/config.toml"

/-- The path that the environment names. -/
def namedPath (env : Environment) : Option String :=
  env.settingsFile.filter (· ≠ "")

/-- **The path that decides about the settings**, if there is one. -/
def location (env : Environment) (tree : FileTree) (asked : Option String) : Option String :=
  asked
    <|> namedPath env
    <|> env.userSettingsPath.filter tree.holds
    <|> (some systemPath).filter tree.holds

/-- The settings of a file. -/
def ofFile (env : Environment) (tree : FileTree) (path : String) :
    Except SettingsFileFault Settings :=
  match tree.readText path with
  | .error _ => .error (.unreadable path)
  | .ok text => (parse env text).mapError (.notAccepted path)

/-- **The settings of the program**: those of the file that decides, or the usual ones where there
is none. -/
def load (env : Environment) (tree : FileTree) (asked : Option String) :
    Except SettingsFileFault Settings :=
  match location env tree asked with
  | some path => ofFile env tree path
  | none => .ok (usual env)

end Settings

end FaultDiagnosis
