import FaultDiagnosis.Knowledge.Document

/-!
# References between items of knowledge

The shipped knowledge has to be closed: every symptom has an identifier of its own, and whatever
mentions a symptom mentions one that there is. `KnowledgeBase.checkReferences` reports the first
item that breaks this.
-/

namespace FaultDiagnosis.KnowledgeBase

variable {W : Type}

/-- The identifiers of the symptoms. -/
def ids (kb : KnowledgeBase W) : List String :=
  kb.symptoms.map Symptom.id

/-- No identifier may be blank, and none may be one of those before it. -/
def checkIds : List String → List String → Except (LoadFault W) Unit
  | _, [] => .ok ()
  | before, id :: rest =>
    if Text.isBlankText id then .error (.invalid "symptoms" .emptySymptomId)
    else if id ∈ before then .error (.invalid "symptoms" (.duplicateSymptom id))
    else checkIds (id :: before) rest

/-- All mentioned identifiers have to be known. -/
def checkMentions (known mentioned : List String) (context : String) :
    Except (LoadFault W) Unit :=
  match mentioned.find? fun id => !known.contains id with
  | some id => .error (.invalid context (.unknownSymptom id))
  | none => .ok ()

/-- All identifiers that the items mention have to be known. The items are numbered from the given
number. -/
def checkEach {α : Type} (known : List String) (mentioned : α → List String)
    (context : Nat → α → String) : Nat → List α → Except (LoadFault W) Unit
  | _, [] => .ok ()
  | number, a :: as => do
    checkMentions known (mentioned a) (context number a)
    checkEach known mentioned context (number + 1) as

/-- **Identifiers are distinct and references resolve**: those of the rules, of the clues, of the
hints for single symptoms and of the combination hints, in this order. -/
def checkReferences (kb : KnowledgeBase W) : Except (LoadFault W) Unit := do
  checkIds [] kb.ids
  checkEach kb.ids Rule.referencedIds
    (fun n r => Document.context "rule" n (preview Document.contextLength r.diagnosis)) 1 kb.rules
  checkEach kb.ids (fun c => [c.symptom])
    (fun n c => Document.context "clue" n (preview Document.contextLength c.diagnosis)) 1 kb.clues
  checkEach kb.ids (fun id => [id]) (fun _ _ => "single_symptom_hints") 1 kb.hints.keys
  checkEach kb.ids CombinationHint.referencedIds
    (fun n _ => Document.context "combination hint" n none) 1 kb.combinationHints

end FaultDiagnosis.KnowledgeBase
