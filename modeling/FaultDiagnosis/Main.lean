import FaultDiagnosis.CommandLine.Program
import Std.Time.DateTime.Timestamp

/-!
# The program on a real machine

The files that a run may look at are copied into a file tree, the run is computed on that tree, and
what it has added to the log is then written to the real log. All decisions are taken in the
computation.
-/

namespace FaultDiagnosis.CommandLine

/-- What the environment says. -/
def readEnvironment : IO Environment := do
  return {
    home := ← IO.getEnv "HOME"
    settingsHome := ← IO.getEnv "XDG_CONFIG_HOME"
    dataHome := ← IO.getEnv "XDG_DATA_HOME"
    settingsFile := ← IO.getEnv "PCDOC_CONFIG" }

/-- The time now. -/
def readClock : IO Timestamp := do
  let sinceEpoch := (← Std.Time.Timestamp.now).val
  let nanoseconds := sinceEpoch.toNanoseconds.val
  return { seconds := nanoseconds / 1000000000, nanoseconds := (nanoseconds % 1000000000).toNat }

/-- Copies what is at a path into a file tree, with the directories on the way. What cannot be read
is taken for a directory. -/
def copy (tree : FileTree) (path : String) : IO FileTree := do
  let place := FileTree.placeOf path
  let withDirectories := match FileTree.parent? path with
    | some directory => (tree.createDirectory directory).1
    | none => tree
  try
    let content ← IO.FS.readBinFile path
    return withDirectories.put place (.file content)
  catch
    | .noFileOrDirectory .. => return tree
    | _ => return withDirectories.put place .directory

/-- Copies what is at each of several paths. -/
def copyAll (tree : FileTree) (paths : List String) : IO FileTree :=
  paths.foldlM copy tree

/-- The paths where settings may be. -/
def settingsPaths (env : Environment) (asked : Option String) : List String :=
  [asked, Settings.namedPath env, env.userSettingsPath, some Settings.systemPath].filterMap id

/-- The paths of the files that settings name. -/
def knowledgePaths (settings : Settings) : List String :=
  [settings.knowledge.document, settings.knowledge.log]

/-- The tree of the files that a command line may look at. -/
def copyFor (env : Environment) (args : List String) : IO (FileTree × List String) := do
  match Invocation.ofArguments args with
  | .error _ => return ({}, [])
  | .ok i =>
    let tree ← copyAll {} (settingsPaths env i.settingsPath)
    match Settings.load env tree i.settingsPath with
    | .error _ => return (tree, [])
    | .ok settings =>
      let settings := withDocument settings i.documentPath
      return (← copyAll tree (knowledgePaths settings), [settings.knowledge.log])

/-- The bytes of a file, none if there is no file. -/
def bytesAt (tree : FileTree) (path : String) : ByteArray :=
  match tree.find path with
  | .file content => content
  | _ => .empty

/-- Writes to a real log what a run has added to it in the tree. -/
def writeBack (before afterwards : FileTree) (log : String) : IO Unit := do
  let old := bytesAt before log
  let new := bytesAt afterwards log
  if old.size < new.size then
    match FileTree.parent? log with
    | some directory => if directory ≠ "" then IO.FS.createDirAll directory
    | none => pure ()
    IO.FS.withFile log .append fun h => h.write (new.extract old.size new.size)

/-- Tells the outcome of a run. -/
def report : Outcome → IO Unit
  | .success text => IO.print text
  | .failure message => IO.eprintln ("Error: " ++ message)
  | .misuse => IO.eprint helpText

/-- Runs the program with the given arguments. -/
def runOnMachine (args : List String) : IO Outcome := do
  let env ← readEnvironment
  let (tree, logs) ← copyFor env args
  let (outcome, afterwards) := run env tree (← readClock) args
  try
    logs.forM (writeBack tree afterwards)
    return outcome
  catch _ =>
    return .failure (ContributionFault.notStored (W := Float)
      (.cannotOpenLog (logs.headD ""))).message

end FaultDiagnosis.CommandLine

/-- The program. -/
def main (args : List String) : IO UInt32 := do
  let outcome ← FaultDiagnosis.CommandLine.runOnMachine args
  FaultDiagnosis.CommandLine.report outcome
  return outcome.status.toUInt32
