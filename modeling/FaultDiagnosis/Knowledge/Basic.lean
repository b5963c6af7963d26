import FaultDiagnosis.Defect
import FaultDiagnosis.IdMap
import FaultDiagnosis.IdSet
import FaultDiagnosis.Text.Blank
import FaultDiagnosis.Text.LowerCase

/-!
# Symptoms, rules, clues and hints

A knowledge base relates what can be observed on a machine to what may be wrong with it.

* A `Symptom` is something that a user can observe.
* A `Rule` names a diagnosis that holds when some symptoms are present and others are absent.
* A `Clue` lets a symptom speak for a diagnosis with a weight.
* A hint gives advice where no diagnosis is found: for a single symptom, or for a combination of
  them (`CombinationHint`).

Each item comes from the knowledge shipped with the program or from a user; its `Origin` says which.
The smart constructors `Rule.ofConditions`, `Clue.ofWeight` and `CombinationHint.ofConditions`
refuse items that make no sense. The types themselves do not, because what a log file holds is
judged only after it is read.
-/

namespace FaultDiagnosis

/-- The kind of a symptom. -/
inductive Category
  | hardware
  | software
  deriving DecidableEq, Repr

namespace Category

/-- All categories, in the order in which they are listed. -/
def all : List Category := [.hardware, .software]

/-- The name of a category. -/
def name : Category → String
  | hardware => "hardware"
  | software => "software"

/-- Hardware comes before software. -/
def rank : Category → Nat
  | hardware => 0
  | software => 1

/-- The category that a user names. Blanks around the name and its case do not matter. -/
def parse {W : Type} (text : String) : Except (Defect W) Category :=
  let name := Text.lowerCase (Text.trim text)
  if name = "" then .error .missingCategory
  else if name = "hardware" then .ok hardware
  else if name = "software" then .ok software
  else .error (.unknownCategory name)

end Category

/-- Where an item of knowledge comes from. -/
inductive Origin
  /-- It was shipped with the program. -/
  | shipped
  /-- A user contributed it. -/
  | user
  deriving DecidableEq, Repr

namespace Origin

/-- The name of an origin in documents. -/
def name : Origin → String
  | shipped => "static"
  | user => "user"

/-- Shipped knowledge comes before contributions when all else is equal. -/
def rank : Origin → Nat
  | shipped => 0
  | user => 1

end Origin

/-- Something that can be observed. -/
structure Symptom where
  id : String
  label : String
  category : Category
  origin : Origin
  deriving DecidableEq, Repr

/-- The label as it is shown: contributed symptoms are marked. -/
def Symptom.displayLabel (s : Symptom) : String :=
  match s.origin with
  | .shipped => s.label
  | .user => s.label ++ " [contributed]"

/-- A diagnosis that holds when all of `positive` and none of `negative` is observed. -/
structure Rule where
  positive : IdSet
  negative : IdSet
  diagnosis : String
  origin : Origin
  deriving DecidableEq

namespace Rule

/-- The rule with the given conditions. There has to be a positive one, and no symptom may be wanted
both present and absent. -/
def ofConditions {W : Type} (positive negative : IdSet) (diagnosis : String) (origin : Origin) :
    Except (Defect W) Rule :=
  if positive.isEmpty then .error .emptyPositive
  else if positive.isDisjoint negative then .ok { positive, negative, diagnosis, origin }
  else .error (.overlappingConditions (positive.inter negative).toList)

/-- The number of conditions. A rule with more of them is more specific. -/
def specificity (r : Rule) : Nat :=
  r.positive.size + r.negative.size

/-- The identifiers that a rule mentions, the positive ones first. -/
def referencedIds (r : Rule) : List String :=
  r.positive.toList ++ r.negative.toList

end Rule

/-- A symptom that speaks for a diagnosis, with a weight. -/
structure Clue (W : Type) where
  symptom : String
  diagnosis : String
  weight : W
  origin : Origin
  deriving DecidableEq

/-- The clue with the given weight, which has to be positive. -/
def Clue.ofWeight {W : Type} [Weight W] (symptom diagnosis : String) (weight : W)
    (origin : Origin) : Except (Defect W) (Clue W) :=
  if Weight.isPositive weight then .ok { symptom, diagnosis, weight, origin }
  else .error (.nonPositiveWeight weight)

/-- Advice for observations that include all of `all`, some of `any` unless that is empty, and
nothing of `none`. -/
structure CombinationHint where
  all : IdSet
  any : IdSet
  none : IdSet
  advice : String
  deriving DecidableEq

namespace CombinationHint

/-- The hint with the given conditions. It has to require something, since it would otherwise fit
every observation. -/
def ofConditions {W : Type} (all any none : IdSet) (advice : String) :
    Except (Defect W) CombinationHint :=
  if all.isEmpty && any.isEmpty then .error .emptyHintConditions
  else .ok { all, any, none, advice }

/-- Does the hint fit the observed symptoms? -/
def fits (h : CombinationHint) (observed : IdSet) : Bool :=
  h.all.isSubset observed && (h.any.isEmpty || !h.any.isDisjoint observed)
    && h.none.isDisjoint observed

/-- The identifiers that a hint mentions: those of `all`, of `any` and of `none`. -/
def referencedIds (h : CombinationHint) : List String :=
  h.all.toList ++ h.any.toList ++ h.none.toList

end CombinationHint

/-- **A knowledge base**: symptoms, rules, clues and combination hints in the order in which they
were loaded, and the hints for single symptoms. -/
structure KnowledgeBase (W : Type) where
  symptoms : List Symptom := []
  rules : List Rule := []
  clues : List (Clue W) := []
  hints : IdMap String := ∅
  combinationHints : List CombinationHint := []
  deriving DecidableEq

namespace KnowledgeBase

variable {W : Type}

/-- The knowledge base without items. -/
def empty : KnowledgeBase W := {}

instance : EmptyCollection (KnowledgeBase W) := ⟨empty⟩

instance : Inhabited (KnowledgeBase W) := ⟨empty⟩

/-- The first symptom with an identifier. -/
def symptom? (kb : KnowledgeBase W) (id : String) : Option Symptom :=
  kb.symptoms.find? fun s => s.id = id

/-- Is there a symptom with the identifier? -/
def hasSymptom (kb : KnowledgeBase W) (id : String) : Bool :=
  (kb.symptom? id).isSome

/-- Are there neither symptoms nor rules nor clues? -/
def isEmpty (kb : KnowledgeBase W) : Bool :=
  kb.symptoms.isEmpty && kb.rules.isEmpty && kb.clues.isEmpty

/-- The categories of which there is a symptom. -/
def categories (kb : KnowledgeBase W) : List Category :=
  Category.all.filter fun c => kb.symptoms.any fun s => s.category = c

/-- The items of one knowledge base followed by those of another. Where both have a hint for a
single symptom, that of the first counts. -/
def concat (first second : KnowledgeBase W) : KnowledgeBase W where
  symptoms := first.symptoms ++ second.symptoms
  rules := first.rules ++ second.rules
  clues := first.clues ++ second.clues
  hints := first.hints.union second.hints
  combinationHints := first.combinationHints ++ second.combinationHints

instance : Append (KnowledgeBase W) := ⟨concat⟩

/-- The knowledge base with every symptom, rule and clue marked as shipped. -/
def asShipped (kb : KnowledgeBase W) : KnowledgeBase W :=
  { kb with
    symptoms := kb.symptoms.map fun s => { s with origin := .shipped }
    rules := kb.rules.map fun r => { r with origin := .shipped }
    clues := kb.clues.map fun c => { c with origin := .shipped } }

end KnowledgeBase

end FaultDiagnosis
