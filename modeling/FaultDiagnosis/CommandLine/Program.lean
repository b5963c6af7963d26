import FaultDiagnosis.CommandLine.Command
import FaultDiagnosis.Diagnosis.Report
import FaultDiagnosis.Settings.Lookup

/-!
# The command-line program

A run of the program finds the settings, loads the engine that they ask for, and carries out one
command (`run`). Its outcome is a text, a message of failure, or the note that the command line is
not understood; only a contribution changes the file tree.
-/

namespace FaultDiagnosis.CommandLine

variable {W : Type}

/-- **How a run of the program ends.** -/
inductive Outcome
  /-- It ends well, with a text to print. -/
  | success (text : String)
  | failure (message : String)
  /-- The command line is not understood. -/
  | misuse
  deriving DecidableEq, Repr

/-- The status by which the program tells its outcome to whoever started it. -/
def Outcome.status : Outcome → Nat
  | success _ => 0
  | failure _ => 1
  | misuse => 2

/-! ### Commands -/

/-- A verdict on symptoms, as JSON or for people. -/
def diagnosisText [Weight W] [WeightNotation W] (e : Engine W) (symptoms : List String)
    (strategy : Option Strategy) (asJson : Bool) : String :=
  let verdict := e.evaluate (.ofList symptoms) strategy
  if asJson then verdict.toJson.pretty ++ "\n" else Report.verdict verdict

/-- A list of symptoms, as JSON or for people. -/
def symptomsText (e : Engine W) (category : Option Category) (asJson : Bool) : String :=
  let symptoms := e.listSymptoms category
  if asJson then (Json.array (symptoms.map Symptom.toJson)).pretty ++ "\n"
  else if symptoms.isEmpty then "No symptoms found.\n"
  else Report.symptoms symptoms

/-- The categories, one on each line. -/
def categoriesText (e : Engine W) : String :=
  String.join (e.listCategories.map fun c => c.name ++ "\n")

/-- The confirmation of a contribution. -/
def confirmation (item : Contribution W) : String :=
  Report.coloured .green "Contributed" ++ " " ++
    (match item with
    | .symptom s => "symptom '" ++ s.id ++ "'"
    | .rule r clues =>
      "rule with " ++ Numeral.text (.ofNat r.specificity) ++ " conditions ("
        ++ Numeral.text (.ofNat clues.length) ++ " clues)") ++ "\n"

/-- Carries out a command. Gives the outcome and the engine afterwards. -/
def Command.execute (e : Engine Float) (now : Timestamp) : Command → Outcome × Engine Float
  | diagnose symptoms strategy asJson =>
    (.success (diagnosisText e symptoms strategy asJson), e)
  | listSymptoms category asJson => (.success (symptomsText e category asJson), e)
  | listCategories => (.success (categoriesText e), e)
  | contribute request =>
    match e.submit now request with
    | (.ok record, e) => (.success (confirmation record.item), e)
    | (.error fault, e) => (.failure fault.message, e)

/-! ### The program -/

/-- The name and the version of the program. -/
def versionText : String := "pcdocctl " ++ programVersion ++ "\n"

/-- A summary of the command line. -/
def helpText : String :=
  "Usage: pcdocctl [--config PATH] [--knowledge PATH] COMMAND\n\n"
  ++ "Commands:\n"
  ++ "  diagnose [SYMPTOM]... [--strategy rules|scoring] [--json]\n"
  ++ "  symptoms [--category hardware|software] [--json]\n"
  ++ "  categories\n"
  ++ "  contribute symptom --label TEXT [--category hardware|software] [--id ID]\n"
  ++ "  contribute rule --positive IDS [--negative IDS] --diagnosis TEXT [--weight NUMBER]\n"

/-- The outcome of a command line that is not followed. -/
def Stop.outcome : Stop → Outcome
  | misuse => .misuse
  | notice name => .success (if name = "version" then versionText else helpText)

/-- The message of an engine that cannot be loaded. -/
def engineMessage (documentPath : String) : String :=
  "Failed to load knowledge base " ++ documentPath

/-- The settings with another knowledge document, if there is one. -/
def withDocument (s : Settings) : Option String → Settings
  | some document => { s with knowledge := { s.knowledge with document } }
  | none => s

/-- The file tree that an engine works on, or another one if it works on none. -/
def treeOf (e : Engine W) (other : FileTree) : FileTree :=
  match e.store with
  | .files s => s.tree
  | .memory _ => other

/-- Carries out an invocation. -/
def Invocation.execute (env : Environment) (tree : FileTree) (now : Timestamp) (i : Invocation) :
    Outcome × FileTree :=
  match Settings.load env tree i.settingsPath with
  | .error fault => (.failure fault.message, tree)
  | .ok settings =>
    let settings := withDocument settings i.documentPath
    match settings.engine tree with
    | .error _ => (.failure (engineMessage settings.knowledge.document), tree)
    | .ok e =>
      let (outcome, e) := i.command.execute e now
      (outcome, treeOf e tree)

/-- **A run of the program**: its outcome, and the file tree afterwards. -/
def run (env : Environment) (tree : FileTree) (now : Timestamp) (args : List String) :
    Outcome × FileTree :=
  match Invocation.ofArguments args with
  | .error stop => (stop.outcome, tree)
  | .ok i => i.execute env tree now

end FaultDiagnosis.CommandLine
