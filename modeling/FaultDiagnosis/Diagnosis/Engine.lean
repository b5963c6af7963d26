import FaultDiagnosis.Diagnosis.RuleSelection
import FaultDiagnosis.Diagnosis.Scoring
import FaultDiagnosis.Store.Repository

/-!
# The engine

An `Engine` brings together a store, the repository loaded from it, and how diagnoses are looked
for. It answers the questions that both the service and the command line ask: a verdict on observed
symptoms, the list of symptoms and categories, and contributions.
-/

namespace FaultDiagnosis

variable {W : Type}

/-- The version of the program, by which the service and the command line name themselves. -/
def programVersion : String := "0.4.0"

/-- How diagnoses are looked for. -/
structure InferenceSettings (W : Type) where
  /-- The strategy when none is asked for. -/
  defaultStrategy : Strategy
  /-- The least total that makes a diagnosis by scoring. -/
  threshold : W
  /-- Does a rule have to explain every observed symptom? -/
  fullCoverage : Bool
  deriving DecidableEq, Repr

/-- **The engine**: where knowledge is kept, the knowledge, and how it is used. -/
structure Engine (W : Type) where
  store : Store W
  repository : Repository W
  settings : InferenceSettings W

/-- The verdict of a strategy on observed symptoms. -/
def Strategy.evaluate [Weight W] (strategy : Strategy) (settings : InferenceSettings W)
    (kb : KnowledgeBase W) (observed : IdSet) : Verdict W :=
  match strategy with
  | .rules => RuleSelection.evaluate settings.fullCoverage kb observed
  | .scoring => Scoring.evaluate settings.threshold kb observed

/-- The observed identifiers that no symptom has. -/
def KnowledgeBase.unknownIds (kb : KnowledgeBase W) (observed : IdSet) : List String :=
  observed.toList.filter fun id => !kb.hasSymptom id

namespace Engine

/-- The engine of a store. -/
def load [Weight W] [WeightNotation W] (store : Store W) (settings : InferenceSettings W) :
    Except (LoadFault W) (Engine W) := do
  let repository ← Repository.load store
  return { store, repository, settings }

/-- All that is known. -/
def merged (e : Engine W) : KnowledgeBase W :=
  e.repository.merged

/-- **The verdict on observed symptoms**, by the strategy asked for or else the usual one. -/
def evaluate [Weight W] (e : Engine W) (observed : IdSet) (strategy : Option Strategy) :
    Verdict W :=
  let kb := e.merged
  { (strategy.getD e.settings.defaultStrategy).evaluate e.settings kb observed with
    unknown := kb.unknownIds observed }

/-- The symptoms, of one category or of all, shipped ones first. -/
def listSymptoms (e : Engine W) (category : Option Category) : List Symptom :=
  e.merged.symptoms.filter fun s => category.all fun c => s.category = c

/-- The categories of which there is a symptom. -/
def listCategories (e : Engine W) : List Category :=
  e.merged.categories

/-- Contributes. Gives the record or the fault, and the engine to go on with. -/
def contribute [Weight W] [WeightNotation W] (e : Engine W) (now : Timestamp)
    (item : Contribution W) : Except (ContributionFault W) (Record W) × Engine W :=
  let (answer, repository, store) := e.repository.contribute e.store now item
  (answer, { e with repository, store })

/-- Contributes what a user asks for. -/
def submit [Weight W] [WeightNotation W] (e : Engine W) (now : Timestamp) (request : Request W) :
    Except (ContributionFault W) (Record W) × Engine W :=
  let (answer, repository, store) := e.repository.submit e.store now request
  (answer, { e with repository, store })

end Engine

end FaultDiagnosis
