import FaultDiagnosis.Proofs.Store.Taken

/-!
# Deleting a record

Contributions are curated by deleting records from the store. Whether a record is taken depends on
all that were taken before it, so deleting one could have consequences for any number of others.
This file says how far they reach. The replays of the store with and without the record agree, from
that record on, about every identifier but the one that the record brought
(`FaultDiagnosis.Repository.AgreesBut`), and two replays that agree but for some identifiers take
the same records, but for those about one of these
(`FaultDiagnosis.Repository.AgreesBut.filter_taken`).

A rule brings no identifier, so nothing but the rule and its clues goes with its record. A symptom
brings one, and its record may take along the rules on it, or make way for another symptom of that
identifier (`FaultDiagnosis.Repository.load_of_curation`).
-/

namespace FaultDiagnosis

variable {W : Type}

/-- Is the record about none of the given identifiers? It neither brings nor mentions one. -/
def Record.avoids (ids : List String) (record : Record W) : Bool :=
  record.item.subjects.all fun id => !ids.contains id

theorem Record.avoids_iff {ids : List String} {record : Record W} :
    record.avoids ids = true ↔ ∀ id ∈ record.item.subjects, id ∉ ids := by
  simp [avoids]

@[simp] theorem Record.avoids_nil (record : Record W) : record.avoids [] = true :=
  avoids_iff.mpr fun _ _ => List.not_mem_nil

/-- The only identifier that a record can bring is its only subject. -/
theorem Record.newIds_subset_of_not_avoids {ids : List String} {record : Record W}
    (h : ¬record.avoids ids = true) : ∀ id ∈ record.item.newIds, id ∈ ids := by
  intro id hid
  cases hitem : record.item with
  | symptom s =>
    rw [hitem] at hid
    by_contra hids
    refine h (avoids_iff.mpr fun id' hid' => ?_)
    rw [hitem] at hid'
    rwa [List.mem_singleton.mp hid', ← List.mem_singleton.mp hid]
  | rule r cs =>
    rw [hitem] at hid
    exact absurd hid List.not_mem_nil

/-- **A knowledge base is another one without a rule and its clues**, which stand behind what was
there earlier. -/
def KnowledgeBase.IsWithout (kb' : KnowledgeBase W) (x : Rule) (cs : List (Clue W))
    (earlier kb : KnowledgeBase W) : Prop :=
  ∃ rules clues, kb.rules = earlier.rules ++ x :: rules ∧
    kb.clues = earlier.clues ++ (cs ++ clues) ∧
    kb' = { kb with rules := earlier.rules ++ rules, clues := earlier.clues ++ clues }

namespace Repository

/-- **Two repositories agree but for some identifiers**: of all others they know the same. -/
def AgreesBut (ids : List String) (r r' : Repository W) : Prop :=
  ∀ id, id ∉ ids → (id ∈ r.merged.ids ↔ id ∈ r'.merged.ids)

variable {ids : List String} {r r' : Repository W} {item : Contribution W} {record : Record W}

theorem AgreesBut.add (h : AgreesBut ids r r') (item : Contribution W) :
    AgreesBut ids (r.add item) (r'.add item) := by
  intro id hid
  rw [mem_ids_merged_add, mem_ids_merged_add, h id hid]

/-- A contribution is left out of account with the identifier that it brings. -/
theorem agreesBut_add (r : Repository W) (item : Contribution W) :
    AgreesBut item.newIds (r.add item) r := by
  intro id hid
  rw [mem_ids_merged_add]
  exact or_iff_left hid

theorem AgreesBut.trans {r'' : Repository W} (h : AgreesBut ids r r')
    (h' : AgreesBut ids r' r'') : AgreesBut ids r r'' :=
  fun id hid => (h id hid).trans (h' id hid)

theorem AgreesBut.symm (h : AgreesBut ids r r') : AgreesBut ids r' r :=
  fun id hid => (h id hid).symm

theorem AgreesBut.mono {ids' : List String} (h : AgreesBut ids r r')
    (hids : ∀ id ∈ ids, id ∈ ids') : AgreesBut ids' r r' :=
  fun id hid => h id (mt (hids id) hid)

variable [Weight W]

/-- They pass the same judgement on a record about none of these identifiers. -/
theorem AgreesBut.fits_iff (h : AgreesBut ids r r') (hrecord : record.avoids ids = true) :
    record.item.asUser.Fits r.merged ↔ record.item.asUser.Fits r'.merged := by
  refine Contribution.fits_congr fun id hid => h id ?_
  rw [Contribution.subjects_asUser] at hid
  exact Record.avoids_iff.mp hrecord id hid

/-- A record about one of the identifiers can only change what is known of these. -/
theorem agreesBut_replay (r : Repository W) (h : ¬record.avoids ids = true) :
    AgreesBut ids (r.replay record) r := by
  rcases replay_cases r record with ⟨-, heq⟩ | ⟨-, heq⟩
  · rw [heq]
    refine (agreesBut_add r _).mono fun id hid => ?_
    rw [Contribution.newIds_asUser] at hid
    exact Record.newIds_subset_of_not_avoids h id hid
  · rw [heq]
    exact fun _ _ => Iff.rfl

/-- **The step**: replaying a record over both leaves them in agreement. -/
theorem AgreesBut.replay (h : AgreesBut ids r r') (record : Record W) :
    AgreesBut ids (r.replay record) (r'.replay record) := by
  by_cases hrecord : record.avoids ids = true
  · by_cases hf : record.item.asUser.Fits r.merged
    · rw [replay_of_fits hf, replay_of_fits ((h.fits_iff hrecord).mp hf)]
      exact h.add _
    · rw [replay_of_not_fits hf, replay_of_not_fits (mt (h.fits_iff hrecord).mpr hf)]
      exact h
  · exact ((agreesBut_replay r hrecord).trans h).trans (agreesBut_replay r' hrecord).symm

/-- **All steps**: both take the same records, leaving out those about one of the identifiers. -/
theorem AgreesBut.filter_taken (h : AgreesBut ids r r') (records : List (Record W)) :
    (r.taken records).filter (Record.avoids ids) =
      (r'.taken records).filter (Record.avoids ids) := by
  induction records generalizing r r' with
  | nil => rfl
  | cons record records ih =>
    have hrest := ih (h.replay record)
    by_cases hrecord : record.avoids ids = true
    · by_cases hf : record.item.asUser.Fits r.merged
      · rw [taken_cons_of_fits hf, taken_cons_of_fits ((h.fits_iff hrecord).mp hf),
          List.filter_cons_of_pos hrecord, List.filter_cons_of_pos hrecord, hrest]
      · rw [taken_cons_of_not_fits hf, taken_cons_of_not_fits (mt (h.fits_iff hrecord).mpr hf),
          hrest]
    · -- whoever takes this record, it is left out
      have hout : ∀ r : Repository W, (r.taken (record :: records)).filter (Record.avoids ids) =
          ((r.replay record).taken records).filter (Record.avoids ids) := by
        intro r
        by_cases hf : record.item.asUser.Fits r.merged
        · rw [taken_cons_of_fits hf, List.filter_cons_of_neg hrecord]
        · rw [taken_cons_of_not_fits hf]
      rw [hout, hout, hrest]

/-- With nothing left out of account, both take the same records. -/
theorem AgreesBut.taken_eq (h : AgreesBut [] r r') (records : List (Record W)) :
    r.taken records = r'.taken records := by
  have hall : ∀ l : List (Record W), l.filter (Record.avoids []) = l :=
    fun l => List.filter_eq_self.mpr fun record _ => record.avoids_nil
  have hfilter := h.filter_taken records
  rwa [hall, hall] at hfilter

/-- **A rule has no consequences for later records**: without it all of them are judged as before,
so only the rule and its clues are missing from what users know. -/
theorem isWithout_foldl_replay (r : Repository W) (x : Rule) (cs : List (Clue W))
    (records : List (Record W)) :
    (records.foldl Repository.replay r).user.IsWithout x cs r.user
      (records.foldl Repository.replay (r.add (.rule x cs))).user := by
  have htaken := (agreesBut_add r (.rule x cs)).taken_eq records
  rw [user_foldl_replay, user_foldl_replay, htaken, KnowledgeBase.addAll_eq_append,
    KnowledgeBase.addAll_eq_append]
  exact ⟨_, _, List.append_assoc _ _ _, List.append_assoc _ _ _, rfl⟩

/-- **A symptom has consequences for its own identifier only**: without it the same later records
are taken, leaving out those about this identifier. -/
theorem filter_taken_add_symptom (r : Repository W) (s : Symptom) (records : List (Record W)) :
    ((r.add (.symptom s)).taken records).filter (Record.avoids [s.id]) =
      (r.taken records).filter (Record.avoids [s.id]) :=
  (agreesBut_add r (.symptom s)).filter_taken records

/-- The repository with the same shipped part after a replay of other records. -/
def upTo (r : Repository W) (records : List (Record W)) : Repository W :=
  records.foldl Repository.replay { r with user := ∅ }

/-- Later records are replayed over what the earlier ones have left. -/
theorem upTo_append (r : Repository W) (records more : List (Record W)) :
    r.upTo (records ++ more) = more.foldl Repository.replay (r.upTo records) :=
  List.foldl_append

theorem taken_upTo_append (r : Repository W) (records more : List (Record W)) :
    (r.upTo []).taken (records ++ more) =
      (r.upTo []).taken records ++ (r.upTo records).taken more :=
  taken_append (r.upTo []) records more

theorem shipped_upTo (r : Repository W) (records : List (Record W)) :
    (r.upTo records).shipped = r.shipped :=
  replay_induction (P := fun r' => r'.shipped = r.shipped) (fun _ _ h _ => h)
    (r := { r with user := ∅ }) rfl records

variable [WeightNotation W]

/-- What is loaded is the replay of the records over the shipped part. -/
theorem eq_upTo_of_load {store : Store W} {records : List (Record W)} (hload : load store = .ok r)
    (hrecords : store.records = .ok records) : r = r.upTo records := by
  obtain ⟨kb, r₀, records', hkb, hr₀, hrecords', heq⟩ := load_eq_ok_iff.mp hload
  obtain rfl : records = records' := Except.ok.inj (hrecords.symm.trans hrecords')
  rw [upTo, shipped_of_load hkb hload, heq, (ofShipped_eq_ok_iff.mp hr₀).2]

/-- With other records over the same knowledge, their replay is loaded. -/
theorem load_eq_upTo {store store' : Store W} {records : List (Record W)}
    (hload : load store = .ok r) (hknowledge : store'.knowledge = store.knowledge)
    (hrecords : store'.records = .ok records) : load store' = .ok (r.upTo records) := by
  obtain ⟨kb, r₀, -, hkb, hr₀, -, -⟩ := load_eq_ok_iff.mp hload
  refine load_eq_ok_iff.mpr ⟨kb, r₀, records, hknowledge.trans hkb, hr₀, hrecords, ?_⟩
  rw [upTo, shipped_of_load hkb hload, (ofShipped_eq_ok_iff.mp hr₀).2]

/-- **Deleting a record has local consequences.** A store can be loaded, and a record is deleted
from it, anywhere. Then the store can still be loaded. What the deletion changes depends on how the
record was judged when it was its turn, after the records before it:

* If it was passed over, the repository is the same.
* If a rule with its clues was taken, these are missing, and all else is the same.
* If a symptom was taken, the records taken now are those taken before, leaving out on both sides
  those that bring or mention its identifier. -/
theorem load_of_curation {store store' : Store W} {before after : List (Record W)}
    (hload : load store = .ok r) (hrecords : store.records = .ok (before ++ record :: after))
    (hknowledge : store'.knowledge = store.knowledge)
    (hdeleted : store'.records = .ok (before ++ after)) :
    ∃ r', load store' = .ok r' ∧ r'.shipped = r.shipped ∧
      match (r.upTo before).vet record.item with
      | .error _ => r' = r
      | .ok (.rule x cs) => r'.user.IsWithout x cs (r.upTo before).user r.user
      | .ok (.symptom s) =>
          ((r.upTo []).taken (before ++ record :: after)).filter (Record.avoids [s.id]) =
            ((r.upTo []).taken (before ++ after)).filter (Record.avoids [s.id]) := by
  have hr : r = after.foldl Repository.replay ((r.upTo before).replay record) := by
    have hall := eq_upTo_of_load hload hrecords
    rwa [upTo_append] at hall
  have hr' : r.upTo (before ++ after) = after.foldl Repository.replay (r.upTo before) :=
    upTo_append r before after
  refine ⟨r.upTo (before ++ after), load_eq_upTo hload hknowledge hdeleted, shipped_upTo r _, ?_⟩
  cases hvet : (r.upTo before).vet record.item with
  | error defect =>
    have hskip : (r.upTo before).replay record = r.upTo before := by rw [Repository.replay, hvet]
    change r.upTo (before ++ after) = r
    rw [hr', ← hskip, ← hr]
  | ok item =>
    obtain ⟨hf, rfl⟩ := vet_eq_ok_iff.mp hvet
    rw [replay_of_fits hf] at hr
    cases hitem : record.item.asUser with
    | rule x cs =>
      rw [hitem] at hr
      have hwithout := isWithout_foldl_replay (r.upTo before) x cs after
      rwa [← hr', ← hr] at hwithout
    | symptom s =>
      have hout : ¬record.avoids [s.id] = true := by
        rw [Record.avoids_iff, ← Contribution.subjects_asUser, hitem]
        exact fun h => h s.id List.mem_cons_self List.mem_cons_self
      change ((r.upTo []).taken _).filter _ = ((r.upTo []).taken _).filter _
      rw [taken_upTo_append, taken_upTo_append, taken_cons_of_fits hf, List.filter_append,
        List.filter_append, List.filter_cons_of_neg hout, replay_of_fits hf, hitem,
        filter_taken_add_symptom]

/-! ### A deletion -/

/-- A store that ships one symptom. -/
def storeOf (records : List (Record Float)) : Store Float :=
  .memory
    { knowledge := { symptoms := [⟨"no_power", "PC does not power on", .hardware, .shipped⟩] }
      records }

/-- A rule on the shipped symptom. -/
def powerRecord : Record Float :=
  ⟨⟨0, 0⟩, .rule ⟨.ofList ["no_power"], ∅, "The power supply is broken", .user⟩ []⟩

/-- The symptom `fan`. -/
def fanItem : Contribution Float :=
  .symptom ⟨"fan", "Fan makes a grinding noise", .hardware, .user⟩

/-- A rule on `fan`, another symptom of that identifier, and one of another identifier. -/
def laterRecords : List (Record Float) :=
  [⟨⟨2, 0⟩, .rule ⟨.ofList ["fan"], ∅, "The fan of the power supply is worn", .user⟩ []⟩,
    ⟨⟨3, 0⟩, .symptom ⟨"fan", "The fan again, by another user", .hardware, .user⟩⟩,
    ⟨⟨4, 0⟩, .symptom ⟨"smell", "Smell of burning plastic", .hardware, .user⟩⟩]

/-- What is known with `fan`: the second symptom of that identifier is passed over. -/
def fanRepository : Repository Float where
  shipped := { symptoms := [⟨"no_power", "PC does not power on", .hardware, .shipped⟩] }
  user :=
    { symptoms := [⟨"fan", "Fan makes a grinding noise", .hardware, .user⟩,
        ⟨"smell", "Smell of burning plastic", .hardware, .user⟩]
      rules := [⟨.ofList ["no_power"], ∅, "The power supply is broken", .user⟩,
        ⟨.ofList ["fan"], ∅, "The fan of the power supply is worn", .user⟩] }

theorem load_of_curation_fan :
    load (storeOf ([powerRecord] ++ ⟨⟨1, 0⟩, fanItem⟩ :: laterRecords)) = .ok fanRepository ∧
      (fanRepository.upTo [powerRecord]).vet fanItem = .ok fanItem ∧
      ∃ r', load (storeOf ([powerRecord] ++ laterRecords)) = .ok r' ∧
        r'.shipped = fanRepository.shipped ∧
        ((fanRepository.upTo []).taken ([powerRecord] ++ ⟨⟨1, 0⟩, fanItem⟩ :: laterRecords)).filter
            (Record.avoids ["fan"]) =
          ((fanRepository.upTo []).taken ([powerRecord] ++ laterRecords)).filter
            (Record.avoids ["fan"]) := by
  have hload : load (storeOf ([powerRecord] ++ ⟨⟨1, 0⟩, fanItem⟩ :: laterRecords)) =
      .ok fanRepository := by decide +kernel
  have hvet : (fanRepository.upTo [powerRecord]).vet fanItem = .ok fanItem := by decide +kernel
  have hknowledge : (storeOf ([powerRecord] ++ laterRecords)).knowledge =
      (storeOf ([powerRecord] ++ ⟨⟨1, 0⟩, fanItem⟩ :: laterRecords)).knowledge := rfl
  obtain ⟨r', hload', hshipped, hcurated⟩ := load_of_curation hload rfl hknowledge rfl
  rw [hvet] at hcurated
  exact ⟨hload, hvet, r', hload', hshipped, hcurated⟩

end Repository

end FaultDiagnosis
