import FaultDiagnosis.Diagnosis.Engine
import FaultDiagnosis.Settings.Environment

/-!
# Settings

`Settings` say where knowledge is kept, how diagnoses are looked for, and where the service listens.
`Settings.check` is what every settings file has to pass: a threshold that totals can be compared
with, and an address that is not blank.
-/

namespace FaultDiagnosis

/-- Where knowledge is kept. -/
structure KnowledgePaths where
  /-- The path of the knowledge document. -/
  document : String
  /-- The path of the log of contributions. -/
  log : String
  deriving DecidableEq, Repr

/-- **What can be set.** -/
structure Settings where
  knowledge : KnowledgePaths
  inference : InferenceSettings Float
  /-- The address that the service listens on. -/
  bind : String
  deriving DecidableEq

/-- Why a text is not accepted as settings. -/
inductive SettingsFault
  /-- The text is not a TOML document, or a setting in it is of the wrong kind. -/
  | malformed
  | unusableThreshold (threshold : Float)
  | blankBind

/-- The fault in words, if there are any. -/
def SettingsFault.message? : SettingsFault → Option String
  | malformed => none
  | unusableThreshold threshold =>
    some ("Invalid scoring_threshold: " ++ WeightNotation.text threshold
      ++ " (must be a finite number >= 0)")
  | blankBind => some "server.bind must not be empty"

namespace Settings

/-- The path of the knowledge document for lack of another. -/
def usualDocumentPath : String := "/usr/share/pcdoc/knowledge.json"

/-- The threshold of scoring for lack of another. -/
def usualThreshold : Float := 10

/-- The address of the service for lack of another. -/
def usualBind : String := "127.0.0.1:7866"

/-- The paths of knowledge for lack of others. -/
def usualKnowledge (env : Environment) : KnowledgePaths where
  document := usualDocumentPath
  log := env.logPath

/-- The inference settings for lack of others. -/
def usualInference : InferenceSettings Float where
  defaultStrategy := .rules
  threshold := usualThreshold
  fullCoverage := false

/-- The settings for lack of others. -/
def usual (env : Environment) : Settings where
  knowledge := usualKnowledge env
  inference := usualInference
  bind := usualBind

/-- Can totals be compared with the threshold? It has to be an actual number, and not below zero. -/
def isUsableThreshold (threshold : Float) : Bool :=
  Weight.isFinite threshold && Weight.atMost 0 threshold

/-- **Can the program work with the settings?** -/
def check (s : Settings) : Except SettingsFault Unit :=
  if !isUsableThreshold s.inference.threshold then .error (.unusableThreshold s.inference.threshold)
  else if Text.isBlankText s.bind then .error .blankBind
  else .ok ()

/-- The place where knowledge is kept, in a file tree. -/
def store (s : Settings) (tree : FileTree) : Store Float :=
  .files { documentPath := s.knowledge.document, logPath := some s.knowledge.log, tree }

/-- The engine that the settings ask for. -/
def engine (s : Settings) (tree : FileTree) : Except (LoadFault Float) (Engine Float) :=
  Engine.load (s.store tree) s.inference

end Settings

end FaultDiagnosis
