import FaultDiagnosis.Contribution.Request
import FaultDiagnosis.Store.Basic

/-!
# The repository of knowledge

A `Repository` is the knowledge that the program works with: what was shipped, and what users have
contributed since. It is loaded from a store by replaying the records there in order; a record that
does not fit (any more) is passed over. A contribution is checked against all that is known, then
stored, and only then added, so one that cannot be stored is not added either.
-/

namespace FaultDiagnosis

variable {W : Type}

/-- **The knowledge that the program works with.** -/
structure Repository (W : Type) where
  shipped : KnowledgeBase W
  user : KnowledgeBase W
  deriving DecidableEq

/-- Why a contribution was not accepted. -/
inductive ContributionFault (W : Type)
  | defect (defect : Defect W)
  | notStored (fault : StorageFault)
  deriving DecidableEq, Repr

/-- The fault in words. -/
def ContributionFault.message [WeightNotation W] : ContributionFault W → String
  | defect d => d.message
  | notStored f => "Failed to persist contribution: " ++ f.message

namespace Repository

/-- All that is known: the shipped knowledge, then the contributions. -/
def merged (r : Repository W) : KnowledgeBase W :=
  r.shipped ++ r.user

/-- The contribution as it would be added, if it fits. -/
def vet [Weight W] (r : Repository W) (item : Contribution W) :
    Except (Defect W) (Contribution W) := do
  let item := item.asUser
  item.check r.merged
  return item

/-- Adds a contribution that fits. -/
def add (r : Repository W) (item : Contribution W) : Repository W :=
  { r with user := r.user.add item }

/-- Adds the contribution of a record, or passes over one that does not fit. -/
def replay [Weight W] (r : Repository W) (record : Record W) : Repository W :=
  match r.vet record.item with
  | .ok item => r.add item
  | .error _ => r

/-- The repository of the shipped knowledge alone, which has to be closed. -/
def ofShipped (kb : KnowledgeBase W) : Except (LoadFault W) (Repository W) := do
  let shipped := kb.asShipped
  shipped.checkReferences
  return { shipped, user := ∅ }

/-- **The repository of a store**: the shipped knowledge, and the records replayed over it. -/
def load [Weight W] [WeightNotation W] (store : Store W) :
    Except (LoadFault W) (Repository W) := do
  let kb ← store.knowledge
  let r ← ofShipped kb
  let records ← store.records
  return records.foldl replay r

/-- **Contributes** at the given time: the contribution is checked, then stored, and only then
added. Gives the record or the fault, and the repository and the store to go on with. -/
def contribute [Weight W] [WeightNotation W] (r : Repository W) (store : Store W) (now : Timestamp)
    (item : Contribution W) :
    Except (ContributionFault W) (Record W) × Repository W × Store W :=
  match r.vet item with
  | .error defect => (.error (.defect defect), r, store)
  | .ok item =>
    let record : Record W := { contributedAt := now, item }
    match store.attempt record with
    | (.error fault, store) => (.error (.notStored fault), r, store)
    | (.ok (), store) => (.ok record, r.add item, store)

/-- Contributes what a user asks for. -/
def submit [Weight W] [WeightNotation W] (r : Repository W) (store : Store W) (now : Timestamp)
    (request : Request W) :
    Except (ContributionFault W) (Record W) × Repository W × Store W :=
  match request.contribution with
  | .error defect => (.error (.defect defect), r, store)
  | .ok item => r.contribute store now item

end Repository

end FaultDiagnosis
