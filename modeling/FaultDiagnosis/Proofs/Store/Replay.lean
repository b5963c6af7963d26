import FaultDiagnosis.Proofs.Contribution.Fitting
import FaultDiagnosis.Store.Repository

/-!
# Replaying stored records

A repository comes into being in two ways. While the program runs, contributions are added one by
one; when it starts, the stored records are replayed. Both go through the same check against all
that is known at that moment, and this file says what each of them does when the check passes and
when it does not.

The statement everything else rests on is `FaultDiagnosis.Repository.load_of_append`: if a record is
stored for a contribution that fits, then loading the store afterwards gives the repository with
that contribution added. It asks of the store only that it has one more record at the end, so it
serves the store in memory and the one in files alike.
-/

namespace FaultDiagnosis

open Outcome

variable {W : Type}

/-! ### Marking a contribution as a user's -/

@[simp] theorem Contribution.asUser_asUser (item : Contribution W) :
    item.asUser.asUser = item.asUser := by
  cases item with
  | symptom s => rfl
  | rule r cs => simp [asUser]

namespace Repository

theorem merged_add (r : Repository W) (item : Contribution W) :
    (r.add item).merged = r.merged.add item :=
  KnowledgeBase.append_add r.shipped r.user item

/-! ### Loading the shipped knowledge -/

/-- The shipped knowledge is taken when it is closed, and every item is marked as shipped. -/
theorem ofShipped_eq_ok_iff {kb : KnowledgeBase W} {r : Repository W} :
    ofShipped kb = .ok r ↔ kb.asShipped.IsClosed ∧ r = { shipped := kb.asShipped, user := ∅ } := by
  simp only [ofShipped, then_eq_ok, KnowledgeBase.checkReferences_eq_ok_iff, pure_eq_ok]
  exact and_congr_right fun _ => eq_comm

variable [Weight W]

/-! ### One record -/

/-- A contribution is vetted against all that is known, as a user's. -/
theorem vet_eq_ok_iff {r : Repository W} {item item' : Contribution W} :
    r.vet item = .ok item' ↔ item.asUser.Fits r.merged ∧ item' = item.asUser := by
  simp only [vet, then_eq_ok, Contribution.check_eq_ok_iff, pure_eq_ok]
  exact and_congr_right fun _ => eq_comm

theorem replay_of_fits {r : Repository W} {record : Record W}
    (h : record.item.asUser.Fits r.merged) : r.replay record = r.add record.item.asUser := by
  rw [replay, vet_eq_ok_iff.mpr ⟨h, rfl⟩]

/-- A record that does not fit is passed over. -/
theorem replay_of_not_fits {r : Repository W} {record : Record W}
    (h : ¬record.item.asUser.Fits r.merged) : r.replay record = r := by
  unfold replay
  split
  · rename_i item hv
    exact absurd (vet_eq_ok_iff.mp hv).1 h
  · rfl

/-- **What replaying a record can do**: add its contribution as a user's, or nothing. -/
theorem replay_cases (r : Repository W) (record : Record W) :
    (record.item.asUser.Fits r.merged ∧ r.replay record = r.add record.item.asUser) ∨
      (¬record.item.asUser.Fits r.merged ∧ r.replay record = r) := by
  by_cases h : record.item.asUser.Fits r.merged
  · exact Or.inl ⟨h, replay_of_fits h⟩
  · exact Or.inr ⟨h, replay_of_not_fits h⟩

/-- What holds of a repository and is kept by every contribution that fits still holds after a
replay. -/
theorem replay_induction {P : Repository W → Prop}
    (hadd : ∀ (r : Repository W) (item : Contribution W), P r → item.asUser.Fits r.merged →
      P (r.add item.asUser))
    {r : Repository W} (h : P r) (records : List (Record W)) : P (records.foldl replay r) := by
  induction records generalizing r with
  | nil => exact h
  | cons record records ih =>
    rw [List.foldl_cons]
    rcases replay_cases r record with ⟨hf, hr⟩ | ⟨-, hr⟩
    · rw [hr]
      exact ih (hadd r record.item h hf)
    · rw [hr]
      exact ih h

/-! ### One request -/

/-- What a repository makes of a request, before anything is stored. -/
def judge (r : Repository W) (request : Request W) : Except (Defect W) (Contribution W) :=
  request.contribution >>= r.vet

theorem judge_eq_ok_iff {r : Repository W} {request : Request W} {item : Contribution W} :
    r.judge request = .ok item ↔ ∃ asked, request.contribution = .ok asked ∧
      asked.asUser.Fits r.merged ∧ item = asked.asUser := by
  simp only [judge, bind_eq_ok, vet_eq_ok_iff]

variable [WeightNotation W]

/-! ### Loading a store -/

theorem load_eq_ok_iff {store : Store W} {r : Repository W} :
    load store = .ok r ↔ ∃ kb r₀ records, store.knowledge = .ok kb ∧ ofShipped kb = .ok r₀ ∧
      store.records = .ok records ∧ r = records.foldl replay r₀ := by
  simp only [load, bind_eq_ok, pure_eq_ok]
  constructor
  · rintro ⟨kb, hkb, r₀, hr₀, records, hrecords, rfl⟩
    exact ⟨kb, r₀, records, hkb, hr₀, hrecords, rfl⟩
  · rintro ⟨kb, r₀, records, hkb, hr₀, hrecords, rfl⟩
    exact ⟨kb, hkb, r₀, hr₀, records, hrecords, rfl⟩

/-- Replaying records leaves the shipped part alone. -/
theorem shipped_of_load {store : Store W} {kb : KnowledgeBase W} {r : Repository W}
    (hstore : store.knowledge = .ok kb) (hload : load store = .ok r) :
    r.shipped = kb.asShipped := by
  obtain ⟨kb', r₀, records, hkb', hr₀, -, rfl⟩ := load_eq_ok_iff.mp hload
  obtain rfl : kb = kb' := Except.ok.inj (hstore.symm.trans hkb')
  obtain ⟨-, rfl⟩ := ofShipped_eq_ok_iff.mp hr₀
  exact replay_induction (P := fun r => r.shipped = kb.asShipped) (fun _ _ h _ => h) rfl records

/-- **A record at the end of the store is replayed last.** If its contribution fits the repository
that the store had, the store now has that repository with the contribution added. -/
theorem load_of_append {store store' : Store W} {r : Repository W} {records : List (Record W)}
    {record : Record W} (hload : load store = .ok r) (hrecords : store.records = .ok records)
    (hknowledge : store'.knowledge = store.knowledge)
    (happend : store'.records = .ok (records ++ [record]))
    (hf : record.item.asUser.Fits r.merged) : load store' = .ok (r.add record.item.asUser) := by
  obtain ⟨kb, r₀, records', hkb, hr₀, hrecords', rfl⟩ := load_eq_ok_iff.mp hload
  obtain rfl : records = records' := Except.ok.inj (hrecords.symm.trans hrecords')
  refine load_eq_ok_iff.mpr ⟨kb, r₀, records ++ [record], hknowledge.trans hkb, hr₀, happend, ?_⟩
  -- the last record is vetted against what the others have left
  rw [List.foldl_append, List.foldl_cons, List.foldl_nil, replay_of_fits hf]

/-! ### Contributing -/

section Contributing

variable {r : Repository W} {store store' : Store W} {now : Timestamp}
  {item item' : Contribution W} {request : Request W}

theorem contribute_of_unfit {defect : Defect W} (h : r.vet item = .error defect) :
    r.contribute store now item = (.error (.defect defect), r, store) := by
  rw [contribute, h]

theorem contribute_of_stored (h : r.vet item = .ok item')
    (hstored : store.attempt ⟨now, item'⟩ = (.ok (), store')) :
    r.contribute store now item = (.ok ⟨now, item'⟩, r.add item', store') := by
  rw [contribute, h]
  simp only [hstored]

theorem contribute_of_not_stored {fault : StorageFault} (h : r.vet item = .ok item')
    (hstored : store.attempt ⟨now, item'⟩ = (.error fault, store')) :
    r.contribute store now item = (.error (.notStored fault), r, store') := by
  rw [contribute, h]
  simp only [hstored]

/-- **What contributing can do.** Either the contribution fits as a user's, it is stored with the
time, and it is added. Or there is a fault: the repository is what it was, and the store is what an
attempt to store a record has left if there was one. -/
theorem contribute_cases (r : Repository W) (store : Store W) (now : Timestamp)
    (item : Contribution W) :
    (∃ store', item.asUser.Fits r.merged ∧ store.attempt ⟨now, item.asUser⟩ = (.ok (), store') ∧
        r.contribute store now item = (.ok ⟨now, item.asUser⟩, r.add item.asUser, store')) ∨
      ∃ fault store', r.contribute store now item = (.error fault, r, store') ∧
        (store' = store ∨ ∃ record fault', store.attempt record = (.error fault', store')) := by
  cases hvet : r.vet item with
  | error defect => exact Or.inr ⟨_, store, contribute_of_unfit hvet, Or.inl rfl⟩
  | ok item' =>
    obtain ⟨hfits, rfl⟩ := vet_eq_ok_iff.mp hvet
    rcases hstored : store.attempt ⟨now, item.asUser⟩ with ⟨_ | _, store'⟩
    · exact Or.inr ⟨_, store', contribute_of_not_stored hvet hstored, Or.inr ⟨_, _, hstored⟩⟩
    · exact Or.inl ⟨store', hfits, rfl, contribute_of_stored hvet hstored⟩

/-- A request that asks for a contribution does what the contribution does. -/
theorem submit_of_contribution (h : request.contribution = .ok item) :
    r.submit store now request = r.contribute store now item := by
  rw [submit, h]

theorem submit_of_defect {defect : Defect W} (h : request.contribution = .error defect) :
    r.submit store now request = (.error (.defect defect), r, store) := by
  rw [submit, h]

theorem submit_of_judge_error {defect : Defect W} (h : r.judge request = .error defect) :
    r.submit store now request = (.error (.defect defect), r, store) := by
  cases hrequest : request.contribution with
  | error defect' =>
    rw [judge, hrequest] at h
    obtain rfl : defect' = defect := Except.error.inj h
    exact submit_of_defect hrequest
  | ok asked =>
    rw [judge, hrequest] at h
    rw [submit_of_contribution hrequest, contribute_of_unfit h]

theorem submit_of_judge_ok (h : r.judge request = .ok item)
    (hstored : store.attempt ⟨now, item⟩ = (.ok (), store')) :
    r.submit store now request = (.ok ⟨now, item⟩, r.add item, store') := by
  obtain ⟨asked, hrequest, hfits, rfl⟩ := judge_eq_ok_iff.mp h
  rw [submit_of_contribution hrequest,
    contribute_of_stored (vet_eq_ok_iff.mpr ⟨hfits, rfl⟩) hstored]

end Contributing

end Repository

end FaultDiagnosis
