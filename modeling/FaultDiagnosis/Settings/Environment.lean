import FaultDiagnosis.Store.FileTree

/-!
# The environment of the program

Variables of the environment say where a user keeps settings and data. A directory named there
counts only if its path is absolute; otherwise it is the usual one in the home directory.
-/

namespace FaultDiagnosis

/-- **What the environment says about the user.** -/
structure Environment where
  /-- The variable `HOME`. -/
  home : Option String := none
  /-- The home directory of the user's account, for lack of the variable. -/
  accountHome : Option String := none
  /-- The variable `XDG_CONFIG_HOME`. -/
  settingsHome : Option String := none
  /-- The variable `XDG_DATA_HOME`. -/
  dataHome : Option String := none
  /-- The variable `PCDOC_CONFIG`. -/
  settingsFile : Option String := none
  deriving DecidableEq, Repr

namespace Environment

/-- The home directory. -/
def homeDirectory (e : Environment) : Option String :=
  e.home.filter (· ≠ "") <|> e.accountHome

/-- A directory that a variable names, or else one in the home directory. -/
def directory (e : Environment) (named : Option String) (usual : String) : Option String :=
  named.filter FileTree.isAbsolute <|> e.homeDirectory.map fun home => FileTree.join home usual

/-- The directory of the user's settings. -/
def settingsDirectory (e : Environment) : Option String :=
  e.directory e.settingsHome ".config"

/-- The directory of the user's data. -/
def dataDirectory (e : Environment) : Option String :=
  e.directory e.dataHome ".local/share"

/-- The directory of the program inside another. -/
def programDirectory (directory : String) : String :=
  FileTree.join directory "pcdoc"

/-- The path of the user's settings. -/
def userSettingsPath (e : Environment) : Option String :=
  e.settingsDirectory.map fun d => FileTree.join (programDirectory d) "config.toml"

/-- The directory of data for lack of one that is the user's. -/
def sharedDataDirectory : String := "/var/lib"

/-- The path of the log of contributions. -/
def logPath (e : Environment) : String :=
  FileTree.join (programDirectory (e.dataDirectory.getD sharedDataDirectory))
    "contributions.jsonl"

end Environment

end FaultDiagnosis
