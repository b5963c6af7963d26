import FaultDiagnosis.Settings.Basic
import FaultDiagnosis.Toml.Document
import FaultDiagnosis.Toml.View

/-!
# Settings as TOML

A settings document lies over the usual settings: what it says counts, and what it does not mention
stays as usual. Tables and keys that are none of the program's mean nothing to it.
-/

namespace FaultDiagnosis

/-- A strategy that a value chooses, by its exact name. -/
def Strategy.ofToml (v : Toml) : Option Strategy := do
  let name ← v.choice?
  all.find? fun s => s.name = name

namespace Settings

open Toml (Entries)

/-- The names of the paths of knowledge. -/
def knowledgeNames : List String := ["static_path", "user_path"]

/-- The names of the inference settings. -/
def inferenceNames : List String :=
  ["default_strategy", "scoring_threshold", "require_full_coverage"]

/-- The names of the settings of the service. -/
def serverNames : List String := ["bind"]

/-- Paths of knowledge from their group. -/
def knowledgeOf (env : Environment) (v : Toml) : Option KnowledgePaths := do
  let group ← v.members? knowledgeNames
  let document ← group.setting "static_path" Toml.text? usualDocumentPath
  let log ← group.setting "user_path" Toml.text? env.logPath
  return { document, log }

/-- Inference settings from their group. -/
def inferenceOf (v : Toml) : Option (InferenceSettings Float) := do
  let group ← v.members? inferenceNames
  let defaultStrategy ← group.setting "default_strategy" Strategy.ofToml Strategy.usual
  let threshold ← group.setting "scoring_threshold" Toml.number? usualThreshold
  let fullCoverage ← group.setting "require_full_coverage" Toml.flag? false
  return { defaultStrategy, threshold, fullCoverage }

/-- The address of the service from the group of its settings. -/
def bindOf (v : Toml) : Option String := do
  let group ← v.members? serverNames
  group.setting "bind" Toml.text? usualBind

/-- The settings of a document. A group that is not there is the usual one as a whole; a group that
is there may lack settings, and each of these is the usual one by itself. -/
def overlay (env : Environment) (document : Entries) : Option Settings := do
  let knowledge ← document.setting "knowledge" (knowledgeOf env) (usualKnowledge env)
  let inference ← document.setting "inference" inferenceOf usualInference
  let bind ← document.setting "server" bindOf usualBind
  return { knowledge, inference, bind }

/-- **The settings of a text**, over the usual ones. -/
def parse (env : Environment) (text : String) : Except SettingsFault Settings := do
  match (Toml.parse text).bind (overlay env) with
  | none => throw .malformed
  | some s =>
    s.check
    return s

end Settings

end FaultDiagnosis
