import FaultDiagnosis.Proofs.Store.Taken

/-!
# Shipping more knowledge

A new version of the program ships a new document, and the records of old contributions are replayed
over it. They were checked against the old document, and now they are checked against the new one.
Some symptoms that users contributed may meanwhile be shipped, so that their records are passed
over; the rules that mention them must not be lost with them.

They are not, as long as the new document has the symptoms of the old one
(`FaultDiagnosis.Repository.load_of_upgrade`). The two replays are followed side by side, and what
is kept at every record is `FaultDiagnosis.Repository.Covers`: whatever the old replay knows, the
new one knows too, by whatever way it came to know it.
-/

namespace FaultDiagnosis

variable {W : Type}

namespace Repository

/-- **One repository covers another**: it knows the symptoms that the other knows, and it has the
other's contributed rules and clues, in their order and perhaps with more between them. -/
structure Covers (r' r : Repository W) : Prop where
  known : ∀ id ∈ r.merged.ids, id ∈ r'.merged.ids
  rules : r.user.rules.Sublist r'.user.rules
  clues : r.user.clues.Sublist r'.user.clues

variable {r r' : Repository W}

/-- Both take a contribution. -/
theorem Covers.add (h : r'.Covers r) (item : Contribution W) :
    (r'.add item).Covers (r.add item) where
  known id hid := mem_ids_merged_add.mpr ((mem_ids_merged_add.mp hid).imp_left (h.known id))
  rules := by
    simp only [Repository.add, KnowledgeBase.rules_add]
    exact h.rules.append (List.Sublist.refl _)
  clues := by
    simp only [Repository.add, KnowledgeBase.clues_add]
    exact h.clues.append (List.Sublist.refl _)

/-- Only the covering one takes a contribution. -/
theorem Covers.add_left (h : r'.Covers r) (item : Contribution W) : (r'.add item).Covers r where
  known id hid := mem_ids_merged_add.mpr (Or.inl (h.known id hid))
  rules := by
    simp only [Repository.add, KnowledgeBase.rules_add]
    exact h.rules.trans (List.sublist_append_left _ _)
  clues := by
    simp only [Repository.add, KnowledgeBase.clues_add]
    exact h.clues.trans (List.sublist_append_left _ _)

/-- Only the covered one takes a contribution, a symptom that the other one knows already. -/
theorem Covers.add_right (h : r'.Covers r) {s : Symptom} (hs : s.id ∈ r'.merged.ids) :
    r'.Covers (r.add (.symptom s)) where
  known id hid := by
    rcases mem_ids_merged_add.mp hid with hid | hid
    · exact h.known id hid
    · rwa [List.mem_singleton.mp hid]
  rules := h.rules
  clues := h.clues

/-- Shipped knowledge with more symptoms covers shipped knowledge with fewer, since nothing has been
contributed to either. -/
theorem covers_ofShipped {kb kb' : KnowledgeBase W} (hids : ∀ id ∈ kb.ids, id ∈ kb'.ids)
    (h : ofShipped kb = .ok r) (h' : ofShipped kb' = .ok r') : r'.Covers r := by
  obtain ⟨-, rfl⟩ := ofShipped_eq_ok_iff.mp h
  obtain ⟨-, rfl⟩ := ofShipped_eq_ok_iff.mp h'
  refine ⟨fun id hid => ?_, List.Sublist.refl _, List.Sublist.refl _⟩
  simp only [merged, KnowledgeBase.append_empty, KnowledgeBase.ids_asShipped] at hid ⊢
  exact hids id hid

variable [Weight W]

/-- **The step**: replaying a record over both keeps one covering the other. -/
theorem Covers.replay (h : r'.Covers r) (record : Record W) :
    (r'.replay record).Covers (r.replay record) := by
  rcases replay_cases r record with ⟨hf, heq⟩ | ⟨-, heq⟩
  · rcases replay_cases r' record with ⟨-, heq'⟩ | ⟨hf', heq'⟩
    · rw [heq, heq']
      exact h.add _
    · -- what is turned away by the one that knows more can only be a symptom that it knows
      obtain ⟨s, hs, hknown⟩ := (hf.mono h.known).resolve_left hf'
      rw [heq, heq', hs]
      exact h.add_right hknown
  · rcases replay_cases r' record with ⟨-, heq'⟩ | ⟨-, heq'⟩
    · rw [heq, heq']
      exact h.add_left _
    · rw [heq, heq']
      exact h

/-- **All steps**: so does replaying any records. -/
theorem Covers.foldl_replay (h : r'.Covers r) (records : List (Record W)) :
    (records.foldl Repository.replay r').Covers (records.foldl Repository.replay r) := by
  induction records generalizing r r' with
  | nil => exact h
  | cons record records ih => exact ih (h.replay record)

variable [WeightNotation W]

/-- **Shipping more symptoms loses no contributed rule.** Two stores can be loaded. They have the
same records, and the second one ships every symptom that the first one ships. Then the rules that
users know over the first are known over the second, in the same order, perhaps with others between
them, and so are the clues. And every symptom that is known over the first is known over the second,
be it as a shipped one. -/
theorem load_of_upgrade {store store' : Store W} {kb kb' : KnowledgeBase W}
    (hknowledge : store.knowledge = .ok kb) (hknowledge' : store'.knowledge = .ok kb')
    (hids : ∀ id ∈ kb.ids, id ∈ kb'.ids) (hrecords : store'.records = store.records)
    (hload : load store = .ok r) (hload' : load store' = .ok r') :
    r.user.rules.Sublist r'.user.rules ∧ r.user.clues.Sublist r'.user.clues ∧
      ∀ id ∈ r.merged.ids, id ∈ r'.merged.ids := by
  obtain ⟨kb₁, r₀, records, hkb, hr₀, hstored, rfl⟩ := load_eq_ok_iff.mp hload
  obtain ⟨kb₁', r₀', records', hkb', hr₀', hstored', rfl⟩ := load_eq_ok_iff.mp hload'
  obtain rfl : kb = kb₁ := Except.ok.inj (hknowledge.symm.trans hkb)
  obtain rfl : kb' = kb₁' := Except.ok.inj (hknowledge'.symm.trans hkb')
  obtain rfl : records = records' :=
    Except.ok.inj (hstored.symm.trans (hrecords.symm.trans hstored'))
  have hcovers := (covers_ofShipped hids hr₀ hr₀').foldl_replay records
  exact ⟨hcovers.rules, hcovers.clues, hcovers.known⟩

/-! ### An upgrade -/

/-- Before the upgrade only `no_power` is shipped. Users contributed `fan`, a rule with a clue on
it, and a rule on `smell`, which is not known and so passed over. -/
def unreleasedStore : MemoryStore Float where
  knowledge := { symptoms := [⟨"no_power", "PC does not power on", .hardware, .shipped⟩] }
  records := [⟨⟨0, 0⟩, .symptom ⟨"fan", "Fan makes a grinding noise", .hardware, .user⟩⟩,
    ⟨⟨1, 0⟩, .rule ⟨.ofList ["smell"], ∅, "The power supply is burning out", .user⟩ []⟩,
    ⟨⟨2, 0⟩, .rule ⟨.ofList ["fan"], .ofList ["no_power"], "The fan of the power supply is worn",
      .user⟩ [⟨"fan", "The fan of the power supply is worn", 2.5, .user⟩]⟩]

/-- The upgrade ships all three symptoms, `fan` under another label. -/
def releasedStore : MemoryStore Float where
  knowledge :=
    { symptoms := [⟨"no_power", "PC does not power on", .hardware, .shipped⟩,
        ⟨"fan", "Loud fan", .hardware, .shipped⟩, ⟨"smell", "Burnt smell", .hardware, .shipped⟩] }
  records := unreleasedStore.records

/-- What is known before the upgrade. -/
def unreleasedRepository : Repository Float where
  shipped := unreleasedStore.knowledge
  user :=
    { symptoms := [⟨"fan", "Fan makes a grinding noise", .hardware, .user⟩]
      rules := [⟨.ofList ["fan"], .ofList ["no_power"], "The fan of the power supply is worn",
        .user⟩]
      clues := [⟨"fan", "The fan of the power supply is worn", 2.5, .user⟩] }

/-- What is known after the upgrade: the contributed symptom is passed over, and both rules are
taken. -/
def releasedRepository : Repository Float where
  shipped := releasedStore.knowledge
  user :=
    { rules := [⟨.ofList ["smell"], ∅, "The power supply is burning out", .user⟩,
        ⟨.ofList ["fan"], .ofList ["no_power"], "The fan of the power supply is worn", .user⟩]
      clues := [⟨"fan", "The fan of the power supply is worn", 2.5, .user⟩] }

theorem load_of_upgrade_fan :
    (∀ id ∈ unreleasedStore.knowledge.ids, id ∈ releasedStore.knowledge.ids) ∧
      load (.memory unreleasedStore) = .ok unreleasedRepository ∧
      load (.memory releasedStore) = .ok releasedRepository ∧
      unreleasedRepository.user.rules.Sublist releasedRepository.user.rules ∧
      unreleasedRepository.user.clues.Sublist releasedRepository.user.clues ∧
      ∀ id ∈ unreleasedRepository.merged.ids, id ∈ releasedRepository.merged.ids := by
  have hids : ∀ id ∈ unreleasedStore.knowledge.ids, id ∈ releasedStore.knowledge.ids := by decide
  have hknowledge : (Store.memory unreleasedStore).knowledge = .ok unreleasedStore.knowledge := rfl
  have hknowledge' : (Store.memory releasedStore).knowledge = .ok releasedStore.knowledge := rfl
  have hload : load (.memory unreleasedStore) = .ok unreleasedRepository := by decide +kernel
  have hload' : load (.memory releasedStore) = .ok releasedRepository := by decide +kernel
  exact ⟨hids, hload, hload', load_of_upgrade hknowledge hknowledge' hids rfl hload hload'⟩

end Repository

end FaultDiagnosis
