import FaultDiagnosis.CommandLine.Arguments
import FaultDiagnosis.Contribution.Request
import FaultDiagnosis.Decimal.Entered
import FaultDiagnosis.Diagnosis.Verdict

/-!
# The commands of the program

A command line asks for one `Command`: a diagnosis, a list of symptoms or of categories, or a
contribution. It may also say which settings and which knowledge document to use, before the name of
the command or after it; the innermost place counts.
-/

namespace FaultDiagnosis.CommandLine

/-- **What the program is asked to do.** -/
inductive Command
  | diagnose (symptoms : List String) (strategy : Option Strategy) (asJson : Bool)
  | listSymptoms (category : Option Category) (asJson : Bool)
  | listCategories
  | contribute (request : Request Float)
  deriving Repr

/-- A command, and the files to use for it. -/
structure Invocation where
  /-- The path of the settings. -/
  settingsPath : Option String
  /-- The path of the knowledge document. -/
  documentPath : Option String
  command : Command
  deriving Repr

/-! ### The grammar -/

/-- The option that asks for a summary of the command line. -/
def helpOption : String × OptionKind := (Grammar.helpName, .notice 'h')

/-- The option that asks for the version of the program. -/
def versionOption : String × OptionKind := ("version", .notice 'V')

/-- The options that every level has. -/
def commonOptions : List (String × OptionKind) :=
  [("config", .single), ("knowledge", .single), helpOption]

/-- The grammar of a contribution. -/
def contributionGrammar : Grammar :=
  .choice commonOptions [
    ("symptom", .command
      ([("label", .single), ("category", .single), ("id", .single)] ++ commonOptions) false),
    ("rule", .command
      ([("positive", .repeated), ("negative", .repeated), ("diagnosis", .single),
        ("weight", .single)] ++ commonOptions) false)]

/-- **The grammar of the command line.** -/
def grammar : Grammar :=
  .choice (versionOption :: commonOptions) [
    ("diagnose", .command ([("strategy", .single), ("json", .flag)] ++ commonOptions) true),
    ("symptoms", .command ([("category", .single), ("json", .flag)] ++ commonOptions) false),
    ("categories", .command commonOptions false),
    ("contribute", contributionGrammar)]

/-! ### From the levels of a command line to a command -/

/-- An option with a value that has to be of some form. Nothing if it is not. -/
def Level.optional {α : Type} (l : Level) (name : String) (read : String → Option α) :
    Option (Option α) :=
  match l.value? name with
  | none => some none
  | some text => (read text).map some

/-- A path, which is not empty. -/
def path? (text : String) : Option String :=
  if text = "" then none else some text

/-- The texts between the commas of a text. -/
def commaParts (text : String) : List String :=
  (text.toList.splitOnP (· = ',')).map String.ofList

/-- The identifiers of an option that may be given several times, each time with several of them. -/
def Level.idList (l : Level) (name : String) : List String :=
  (l.values name).flatMap commaParts

/-- The contribution of a symptom. -/
def symptomRequest (l : Level) : Option (Request Float) := do
  let label ← l.value? "label"
  return .symptom { id := l.value? "id", label, category := l.value? "category" }

/-- The contribution of a rule. -/
def ruleRequest (l : Level) : Option (Request Float) := do
  let weight ← l.optional "weight" Binary64.ofEntered?
  let diagnosis ← l.value? "diagnosis"
  let positive := l.idList "positive"
  if positive.isEmpty then none
  return .rule { positive, negative := l.idList "negative", diagnosis, weight }

/-- The command of the levels inside the program's own. -/
def Command.ofLevels : List Level → Option Command
  | [l] =>
    if l.name = "diagnose" then do
      let strategy ← l.optional "strategy" fun t => (Strategy.parse t).toOption
      return diagnose l.operands strategy (l.flag "json")
    else if l.name = "symptoms" then do
      let category ← l.optional "category" fun t =>
        (Category.parse t : Except (Defect Float) Category).toOption
      return listSymptoms category (l.flag "json")
    else if l.name = "categories" then some listCategories
    else none
  | [_, l] =>
    if l.name = "symptom" then (symptomRequest l).map contribute
    else if l.name = "rule" then (ruleRequest l).map contribute
    else none
  | _ => none

/-- The innermost value of a path that every level may give. All that are given have to be good. -/
def innermostPath (levels : List Level) (name : String) : Option (Option String) := do
  let paths ← levels.mapM fun l => l.optional name path?
  return (paths.filterMap id).getLast?

/-- The invocation of the levels of a command line. -/
def Invocation.ofLevels (levels : List Level) : Option Invocation := do
  let settingsPath ← innermostPath levels "config"
  let documentPath ← innermostPath levels "knowledge"
  let command ← Command.ofLevels levels.tail
  return { settingsPath, documentPath, command }

/-- **What a command line asks for**, or why it is not followed. -/
def Invocation.ofArguments (args : List String) : Except Stop Invocation := do
  let levels ← grammar.read args
  match ofLevels levels with
  | some i => return i
  | none => throw .misuse

end FaultDiagnosis.CommandLine
