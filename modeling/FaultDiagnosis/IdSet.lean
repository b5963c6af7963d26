/-!
# Sets of identifiers

A set of symptom identifiers is the increasing list of its members, without repetitions. The order
is part of the type, so two sets with the same members are equal (`IdSet.ext`), and what is listed
from a set never depends on how the set was put together.
-/

namespace FaultDiagnosis

/-- A finite set of identifiers, listed in increasing order. -/
structure IdSet where
  /-- The members in increasing order. -/
  toList : List String
  sorted : toList.Pairwise (· < ·)
  deriving DecidableEq

namespace IdSet

/-! ### Putting a set together -/

/-- The set without members. -/
def empty : IdSet :=
  ⟨[], .nil⟩

instance : EmptyCollection IdSet := ⟨empty⟩

instance : Inhabited IdSet := ⟨empty⟩

instance : Membership String IdSet := ⟨fun s id => id ∈ s.toList⟩

/-- Places an identifier into an increasing list, unless it is there already. -/
def insertSorted (id : String) : List String → List String
  | [] => [id]
  | x :: xs => if id < x then id :: x :: xs else if x = id then x :: xs else x :: insertSorted id xs

theorem mem_insertSorted {id y : String} {xs : List String} :
    y ∈ insertSorted id xs ↔ y = id ∨ y ∈ xs := by
  induction xs with
  | nil => simp [insertSorted]
  | cons x xs ih =>
    rw [insertSorted]
    split
    · simp
    · split
      · rename_i h; subst h; simp
      · simp only [List.mem_cons, ih]
        constructor <;> rintro (h | h | h) <;> simp [h]

theorem sorted_insertSorted {id : String} {xs : List String} (h : xs.Pairwise (· < ·)) :
    (insertSorted id xs).Pairwise (· < ·) := by
  induction xs with
  | nil => simp [insertSorted]
  | cons x xs ih =>
    obtain ⟨hx, hxs⟩ := List.pairwise_cons.1 h
    rw [insertSorted]
    split
    · rename_i hlt
      refine List.pairwise_cons.2 ⟨fun y hy => ?_, h⟩
      rcases List.mem_cons.1 hy with rfl | hy
      · exact hlt
      · exact String.lt_trans hlt (hx y hy)
    · split
      · exact h
      · rename_i hlt hne
        refine List.pairwise_cons.2 ⟨fun y hy => ?_, ih hxs⟩
        rcases mem_insertSorted.1 hy with rfl | hy
        · exact String.not_le.1 fun hle => hne (String.le_antisymm (String.not_lt.1 hlt) hle)
        · exact hx y hy

/-- The set with one more member. -/
def insert (s : IdSet) (id : String) : IdSet :=
  ⟨insertSorted id s.toList, sorted_insertSorted s.sorted⟩

/-- The set of the identifiers in a list, whatever their order and however often they occur. -/
def ofList (ids : List String) : IdSet :=
  ids.foldl insert empty

/-! ### Looking at a set -/

/-- Is the identifier a member? -/
def contains (s : IdSet) (id : String) : Bool :=
  s.toList.contains id

/-- The number of members. -/
def size (s : IdSet) : Nat :=
  s.toList.length

/-- Has the set no members? -/
def isEmpty (s : IdSet) : Bool :=
  s.toList.isEmpty

/-- Are all members also members of the other set? -/
def isSubset (s t : IdSet) : Bool :=
  s.toList.all t.contains

/-- Have the two sets no member in common? -/
def isDisjoint (s t : IdSet) : Bool :=
  s.toList.all fun id => !t.contains id

/-- The members that satisfy a condition. -/
def filter (s : IdSet) (p : String → Bool) : IdSet :=
  ⟨s.toList.filter p, s.sorted.filter p⟩

/-- The members that the two sets have in common. -/
def inter (s t : IdSet) : IdSet :=
  s.filter t.contains

/-! ### Membership -/

theorem mem_def {s : IdSet} {id : String} : id ∈ s ↔ id ∈ s.toList :=
  Iff.rfl

@[simp]
theorem mem_toList {s : IdSet} {id : String} : id ∈ s.toList ↔ id ∈ s :=
  Iff.rfl

@[simp]
theorem not_mem_empty {id : String} : ¬ id ∈ empty :=
  List.not_mem_nil

@[simp]
theorem mem_insert {s : IdSet} {id y : String} : y ∈ s.insert id ↔ y = id ∨ y ∈ s :=
  mem_insertSorted

theorem mem_foldl_insert {ids : List String} {s : IdSet} {id : String} :
    id ∈ ids.foldl insert s ↔ id ∈ ids ∨ id ∈ s := by
  induction ids generalizing s with
  | nil => simp
  | cons x xs ih =>
    rw [List.foldl_cons, ih, mem_insert, List.mem_cons, ← or_assoc, or_comm (a := id ∈ xs)]

@[simp]
theorem mem_ofList {ids : List String} {id : String} : id ∈ ofList ids ↔ id ∈ ids := by
  simp [ofList, mem_foldl_insert]

@[simp]
theorem contains_iff {s : IdSet} {id : String} : s.contains id = true ↔ id ∈ s := by
  simp [contains]

@[simp]
theorem mem_filter {s : IdSet} {p : String → Bool} {id : String} :
    id ∈ s.filter p ↔ id ∈ s ∧ p id = true :=
  List.mem_filter

@[simp]
theorem mem_inter {s t : IdSet} {id : String} : id ∈ s.inter t ↔ id ∈ s ∧ id ∈ t := by
  simp [inter]

theorem isSubset_iff {s t : IdSet} : s.isSubset t = true ↔ ∀ id ∈ s, id ∈ t := by
  simp [isSubset]

theorem isDisjoint_iff {s t : IdSet} : s.isDisjoint t = true ↔ ∀ id ∈ s, ¬ id ∈ t := by
  simp [isDisjoint, ← contains_iff]

theorem isEmpty_iff {s : IdSet} : s.isEmpty = true ↔ ∀ id, ¬ id ∈ s := by
  simp [isEmpty, List.eq_nil_iff_forall_not_mem]

theorem eq_of_sorted_of_mem_iff {xs ys : List String} (hx : xs.Pairwise (· < ·))
    (hy : ys.Pairwise (· < ·)) (h : ∀ id, id ∈ xs ↔ id ∈ ys) : xs = ys := by
  induction xs generalizing ys with
  | nil =>
    cases ys with
    | nil => rfl
    | cons y ys => simpa using h y
  | cons x xs ih =>
    cases ys with
    | nil => simpa using h x
    | cons y ys =>
      obtain ⟨hx₁, hx₂⟩ := List.pairwise_cons.1 hx
      obtain ⟨hy₁, hy₂⟩ := List.pairwise_cons.1 hy
      have hxy : x = y := by
        rcases List.mem_cons.1 ((h x).1 (by simp)) with e | m
        · exact e
        · rcases List.mem_cons.1 ((h y).2 (by simp)) with e | m'
          · exact e.symm
          · exact absurd (hx₁ y m') (String.lt_asymm (hy₁ x m))
      subst hxy
      refine congrArg (x :: ·) (ih hx₂ hy₂ fun id => ?_)
      have := h id
      simp only [List.mem_cons] at this
      constructor <;> intro m
      · rcases this.1 (Or.inr m) with e | m'
        · subst e; exact absurd (hx₁ id m) (String.lt_irrefl id)
        · exact m'
      · rcases this.2 (Or.inr m) with e | m'
        · subst e; exact absurd (hy₁ id m) (String.lt_irrefl id)
        · exact m'

/-- **Sets with the same members are equal.** -/
@[ext]
theorem ext {s t : IdSet} (h : ∀ id, id ∈ s ↔ id ∈ t) : s = t := by
  obtain ⟨xs, hx⟩ := s
  obtain ⟨ys, hy⟩ := t
  have : xs = ys := eq_of_sorted_of_mem_iff hx hy h
  subst this
  rfl

/-- Sets of the same identifiers are equal, however these are listed. -/
theorem ofList_congr {ids ids' : List String} (h : ∀ id, id ∈ ids' ↔ id ∈ ids) :
    ofList ids' = ofList ids :=
  ext fun id => mem_ofList.trans ((h id).trans mem_ofList.symm)

theorem size_pos_iff {s : IdSet} : 0 < s.size ↔ ∃ id, id ∈ s :=
  List.length_pos_iff_exists_mem

@[simp]
theorem inter_self (s : IdSet) : s.inter s = s := by
  ext id
  rw [mem_inter, and_self_iff]

end IdSet

end FaultDiagnosis
