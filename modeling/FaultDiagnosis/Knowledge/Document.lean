import FaultDiagnosis.Json.Decoder
import FaultDiagnosis.Knowledge.Wording

/-!
# Knowledge documents

The shipped knowledge is a JSON document. It is close to a knowledge base, with some freedom for the
people who write it: categories may be written in any case, everything but the symptoms may be left
out, and a rule may list its conditions in two ways. In the explicit form `positive` and `negative`
are separate lists. In the compact form `conditions` holds both, and a condition that starts with
`NOT:` is a negative one. The two forms may be mixed.

`Document.decoder` reads the structure, and `Document.knowledge` checks the items one by one and
turns them into a knowledge base. `parseDocument` does both to a text.
-/

namespace FaultDiagnosis

open Json (Decoder Fields)

namespace Document

/-- A symptom as a document has it. -/
structure SymptomEntry where
  id : String
  label : String
  category : String
  deriving DecidableEq

/-- A rule as a document has it. -/
structure RuleEntry where
  diagnosis : String
  positive : List String
  negative : List String
  conditions : List String
  deriving DecidableEq

/-- A clue as a document has it. -/
structure ClueEntry (W : Type) where
  symptom : String
  diagnosis : String
  weight : W
  deriving DecidableEq

/-- A combination hint as a document has it. -/
structure HintEntry where
  all : List String
  any : List String
  none : List String
  advice : String
  deriving DecidableEq

end Document

/-- **A knowledge document**, before its items are checked. -/
structure Document (W : Type) where
  symptoms : List Document.SymptomEntry
  rules : List Document.RuleEntry
  clues : List (Document.ClueEntry W)
  singleSymptomHints : IdMap String
  combinationHints : List Document.HintEntry
  deriving DecidableEq

namespace Document

variable {W : Type}

/-! ### Reading the structure -/

/-- A symptom entry. -/
def SymptomEntry.decoder : Decoder SymptomEntry :=
  .record <| SymptomEntry.mk
    <$> Fields.required "id" .text
    <*> Fields.required "label" .text
    <*> Fields.required "category" .text

/-- A rule entry. -/
def RuleEntry.decoder : Decoder RuleEntry :=
  .record <| RuleEntry.mk
    <$> Fields.required "diagnosis" .text
    <*> Fields.withDefault "positive" (.list .text) []
    <*> Fields.withDefault "negative" (.list .text) []
    <*> Fields.withDefault "conditions" (.list .text) []

/-- A clue entry. -/
def ClueEntry.decoder [WeightNotation W] : Decoder (ClueEntry W) :=
  .record <| ClueEntry.mk
    <$> Fields.required "symptom" .text
    <*> Fields.required "diagnosis" .text
    <*> Fields.required "weight" .weight

/-- A hint entry. -/
def HintEntry.decoder : Decoder HintEntry :=
  .record <| HintEntry.mk
    <$> Fields.withDefault "all" (.list .text) []
    <*> Fields.withDefault "any" (.list .text) []
    <*> Fields.withDefault "none" (.list .text) []
    <*> Fields.required "advice" .text

/-- A member of a table of texts. -/
def tableEntry : Option String × Json.Reading → Except Json.Fault (String × String)
  | (some key, r) => (key, ·) <$> Decoder.text r
  | (none, _) => .error .notJson

/-- A table of texts, from an object. The last of several members of one key counts. -/
def tableDecoder : Decoder (IdMap String)
  | .object members closed => do
    let entries ← members.mapM tableEntry
    if closed then return .ofList entries else throw .notJson
  | r => .error r.mismatch

/-- A document. -/
def decoder [WeightNotation W] : Decoder (Document W) :=
  .record <| Document.mk
    <$> Fields.required "symptoms" (.list SymptomEntry.decoder)
    <*> Fields.withDefault "rules" (.list RuleEntry.decoder) []
    <*> Fields.withDefault "clues" (.list ClueEntry.decoder) []
    <*> Fields.withDefault "single_symptom_hints" tableDecoder ∅
    <*> Fields.withDefault "combination_hints" (.list HintEntry.decoder) []

/-! ### Checking the items -/

/-- What a negative condition of the compact form starts with. -/
def negationMark : String := "NOT:"

/-- The identifier of a negative condition of the compact form. -/
def negated? (condition : String) : Option String :=
  if negationMark.toList.isPrefixOf condition.toList then
    some (String.ofList (condition.toList.drop negationMark.length))
  else none

/-- The conditions of a rule, as far as they have been taken from its entry. -/
structure Conditions where
  positive : IdSet
  negative : IdSet
  deriving DecidableEq

/-- The conditions with one more of the compact form. A negative one is taken without its mark. -/
def Conditions.take (c : Conditions) (condition : String) : Conditions :=
  match negated? condition with
  | some id => { c with negative := c.negative.insert id }
  | none => { c with positive := c.positive.insert condition }

/-- The conditions of an entry: those of the explicit form, and then those of the compact form one
by one. -/
def RuleEntry.gathered (e : RuleEntry) : Conditions :=
  e.conditions.foldl Conditions.take ⟨.ofList e.positive, .ofList e.negative⟩

/-- The rule of an entry, from the conditions of both forms. -/
def RuleEntry.rule (e : RuleEntry) : Except (Defect W) Rule :=
  Rule.ofConditions e.gathered.positive e.gathered.negative e.diagnosis .shipped

/-- The symptom of an entry. -/
def SymptomEntry.symptom (e : SymptomEntry) : Except (Defect W) Symptom := do
  let category ← Category.parse e.category
  return { id := e.id, label := e.label, category, origin := .shipped }

/-- The clue of an entry. -/
def ClueEntry.clue [Weight W] (e : ClueEntry W) : Except (Defect W) (Clue W) :=
  Clue.ofWeight e.symptom e.diagnosis e.weight .shipped

/-- The hint of an entry. -/
def HintEntry.hint (e : HintEntry) : Except (Defect W) CombinationHint :=
  CombinationHint.ofConditions (.ofList e.all) (.ofList e.any) (.ofList e.none) e.advice

/-- The length to which a text is cut where it names an item. -/
def contextLength : Nat := 30

/-- An item in an error message: what it is, its number, and a text to know it by. -/
def context (kind : String) (number : Nat) (name : Option String) : String :=
  kind ++ " " ++ Numeral.text (.ofNat number)
    ++ match name with
      | some n => " '" ++ n ++ "'"
      | none => ""

/-- Checks items in turn, numbered from one. The first defect is reported with its context. -/
def checkItems {α β : Type} (contextOf : Nat → α → String) (check : α → Except (Defect W) β) :
    Nat → List α → Except (LoadFault W) (List β)
  | _, [] => .ok []
  | number, a :: as => do
    let b ← (check a).mapError (.invalid (contextOf number a))
    let bs ← checkItems contextOf check (number + 1) as
    return b :: bs

/-- The knowledge of a document, or the first defect in it. -/
def knowledge [Weight W] (d : Document W) : Except (LoadFault W) (KnowledgeBase W) := do
  let symptoms ← checkItems (fun n e => context "symptom" n e.id) SymptomEntry.symptom 1 d.symptoms
  let rules ← checkItems (fun n e => context "rule" n (preview contextLength e.diagnosis))
    RuleEntry.rule 1 d.rules
  let clues ← checkItems (fun n _ => context "clue" n none) ClueEntry.clue 1 d.clues
  let hints ← checkItems (fun n _ => context "combination hint" n none) HintEntry.hint 1
    d.combinationHints
  return { symptoms, rules, clues, hints := d.singleSymptomHints, combinationHints := hints }

end Document

/-- **The knowledge in a text.** The path only names the text in error messages. -/
def parseDocument {W : Type} [Weight W] [WeightNotation W] (text path : String) :
    Except (LoadFault W) (KnowledgeBase W) :=
  match Document.decoder (Json.Reading.ofText text) with
  | .ok d => d.knowledge
  | .error _ => .error (.malformed path)

end FaultDiagnosis
