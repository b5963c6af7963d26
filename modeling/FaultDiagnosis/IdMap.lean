/-!
# Tables keyed by identifiers

A table holds one value per identifier and lists its entries by increasing identifier. As with
`IdSet`, the order belongs to the type, so tables with the same look-ups are equal (`IdMap.ext`).
-/

namespace FaultDiagnosis

/-- A finite table from identifiers to values, listed by increasing identifier. -/
structure IdMap (α : Type) where
  /-- The entries, by increasing identifier. -/
  toList : List (String × α)
  sorted : toList.Pairwise fun a b => a.1 < b.1
  deriving DecidableEq

namespace IdMap

variable {α : Type}

/-! ### Putting a table together -/

/-- The table without entries. -/
def empty : IdMap α :=
  ⟨[], .nil⟩

instance : EmptyCollection (IdMap α) := ⟨empty⟩

instance : Inhabited (IdMap α) := ⟨empty⟩

/-- Places an entry into an increasing list. It replaces an entry of the same identifier. -/
def insertSorted (id : String) (a : α) : List (String × α) → List (String × α)
  | [] => [(id, a)]
  | e :: es =>
    if id < e.1 then (id, a) :: e :: es
    else if e.1 = id then (id, a) :: es
    else e :: insertSorted id a es

theorem key_of_mem_insertSorted {id : String} {a : α} {es : List (String × α)} {e : String × α}
    (h : e ∈ insertSorted id a es) : e = (id, a) ∨ e ∈ es := by
  induction es with
  | nil => simpa [insertSorted] using h
  | cons x xs ih =>
    rw [insertSorted] at h
    split at h
    · rcases List.mem_cons.1 h with h | h
      · exact Or.inl h
      · exact Or.inr h
    · split at h
      · rcases List.mem_cons.1 h with h | h
        · exact Or.inl h
        · exact Or.inr (List.mem_cons_of_mem _ h)
      · rcases List.mem_cons.1 h with h | h
        · exact Or.inr (by simp [h])
        · rcases ih h with h | h
          · exact Or.inl h
          · exact Or.inr (List.mem_cons_of_mem _ h)

theorem sorted_insertSorted {id : String} {a : α} {es : List (String × α)}
    (h : es.Pairwise fun a b => a.1 < b.1) :
    (insertSorted id a es).Pairwise fun a b => a.1 < b.1 := by
  induction es with
  | nil => simp [insertSorted]
  | cons x xs ih =>
    obtain ⟨hx, hxs⟩ := List.pairwise_cons.1 h
    rw [insertSorted]
    split
    · rename_i hlt
      refine List.pairwise_cons.2 ⟨fun y hy => ?_, h⟩
      rcases List.mem_cons.1 hy with rfl | hy
      · exact hlt
      · exact String.lt_trans hlt (hx y hy)
    · split
      · rename_i heq
        exact List.pairwise_cons.2 ⟨fun y hy => heq ▸ hx y hy, hxs⟩
      · rename_i hlt hne
        refine List.pairwise_cons.2 ⟨fun y hy => ?_, ih hxs⟩
        rcases key_of_mem_insertSorted hy with rfl | hy
        · exact String.not_le.1 fun hle => hne (String.le_antisymm (String.not_lt.1 hlt) hle)
        · exact hx y hy

/-- The table with one more entry, which replaces an earlier one of the same identifier. -/
def insert (t : IdMap α) (id : String) (a : α) : IdMap α :=
  ⟨insertSorted id a t.toList, sorted_insertSorted t.sorted⟩

/-- The table of a list of entries. The last entry of an identifier counts. -/
def ofList (entries : List (String × α)) : IdMap α :=
  entries.foldl (fun t e => t.insert e.1 e.2) empty

/-! ### Looking at a table -/

/-- The value of the first entry of an identifier. -/
def lookup (id : String) : List (String × α) → Option α
  | [] => none
  | e :: es => if e.1 = id then some e.2 else lookup id es

/-- The value of an identifier. -/
def get? (t : IdMap α) (id : String) : Option α :=
  lookup id t.toList

/-- The identifiers in increasing order. -/
def keys (t : IdMap α) : List String :=
  t.toList.map Prod.fst

/-- The table with one more entry, unless it has one of the same identifier. -/
def insertNew (t : IdMap α) (id : String) (a : α) : IdMap α :=
  if (t.get? id).isSome then t else t.insert id a

/-- The entries of both tables. Where both have one, the first table's counts. -/
def union (t u : IdMap α) : IdMap α :=
  u.toList.foldl (fun v e => v.insertNew e.1 e.2) t

/-! ### Look-ups -/

@[simp]
theorem get?_empty {id : String} : (empty : IdMap α).get? id = none :=
  rfl

theorem lookup_insertSorted {id key : String} {a : α} {es : List (String × α)} :
    lookup key (insertSorted id a es) = if id = key then some a else lookup key es := by
  induction es with
  | nil => rfl
  | cons e es ih =>
    rw [insertSorted]
    split
    · rfl
    · split
      · rename_i heq
        simp only [lookup, heq]
        split <;> rfl
      · rename_i hne
        simp only [lookup, ih]
        split
        · rename_i heq
          rw [if_neg fun h => hne (heq.trans h.symm)]
        · rfl

@[simp]
theorem get?_insert {t : IdMap α} {id key : String} {a : α} :
    (t.insert id a).get? key = if id = key then some a else t.get? key :=
  lookup_insertSorted

theorem lookup_eq_none_of_lt {id : String} {es : List (String × α)} (h : ∀ e ∈ es, id < e.1) :
    lookup id es = none := by
  induction es with
  | nil => rfl
  | cons e es ih =>
    obtain ⟨he, hes⟩ := List.forall_mem_cons.1 h
    have hne : ¬e.1 = id := by
      intro heq
      rw [heq] at he
      exact String.lt_irrefl id he
    rw [lookup, if_neg hne]
    exact ih hes

/-- Increasing lists that look up the same are equal. -/
theorem eq_of_sorted_of_lookup_eq {es fs : List (String × α)}
    (hes : es.Pairwise fun a b => a.1 < b.1) (hfs : fs.Pairwise fun a b => a.1 < b.1)
    (h : ∀ id, lookup id es = lookup id fs) : es = fs := by
  induction es generalizing fs with
  | nil =>
    cases fs with
    | nil => rfl
    | cons f fs => simpa [lookup] using h f.1
  | cons e es ih =>
    cases fs with
    | nil => simpa [lookup] using h e.1
    | cons f fs =>
      obtain ⟨he, hes⟩ := List.pairwise_cons.1 hes
      obtain ⟨hf, hfs⟩ := List.pairwise_cons.1 hfs
      have hkey : e.1 = f.1 := by
        -- the smaller of two different keys is not in the other list
        refine String.le_antisymm (String.not_lt.1 fun hlt => ?_) (String.not_lt.1 fun hlt => ?_)
        · have hnone : lookup f.1 (e :: es) = none :=
            lookup_eq_none_of_lt (List.forall_mem_cons.2
              ⟨hlt, fun x hx => String.lt_trans hlt (he x hx)⟩)
          rw [h, lookup, if_pos rfl] at hnone
          exact nomatch hnone
        · have hnone : lookup e.1 (f :: fs) = none :=
            lookup_eq_none_of_lt (List.forall_mem_cons.2
              ⟨hlt, fun x hx => String.lt_trans hlt (hf x hx)⟩)
          rw [← h, lookup, if_pos rfl] at hnone
          exact nomatch hnone
      have hvalue : e.2 = f.2 := by
        have := h e.1
        rw [lookup, lookup, if_pos rfl, if_pos hkey.symm] at this
        exact Option.some.inj this
      have htail : es = fs := by
        refine ih hes hfs fun id => ?_
        by_cases hid : e.1 = id
        · rw [lookup_eq_none_of_lt fun x hx => hid ▸ he x hx,
            lookup_eq_none_of_lt fun x hx => hid ▸ hkey ▸ hf x hx]
        · have := h id
          rwa [lookup, lookup, if_neg hid, if_neg (hkey ▸ hid)] at this
      rw [htail, Prod.ext hkey hvalue]

/-- **Tables with the same look-ups are equal.** -/
@[ext]
theorem ext {t u : IdMap α} (h : ∀ id, t.get? id = u.get? id) : t = u := by
  obtain ⟨es, hes⟩ := t
  obtain ⟨fs, hfs⟩ := u
  obtain rfl : es = fs := eq_of_sorted_of_lookup_eq hes hfs h
  rfl

theorem get?_foldl_insert {es : List (String × α)} (hes : es.Pairwise fun a b => a.1 < b.1)
    {t : IdMap α} {id : String} :
    (es.foldl (fun v e => v.insert e.1 e.2) t).get? id = (lookup id es).or (t.get? id) := by
  induction es generalizing t with
  | nil => rfl
  | cons e es ih =>
    obtain ⟨he, hes⟩ := List.pairwise_cons.1 hes
    rw [List.foldl_cons, ih hes, get?_insert, lookup]
    by_cases hid : e.1 = id
    · rw [if_pos hid, if_pos hid, lookup_eq_none_of_lt fun x hx => hid ▸ he x hx]
      rfl
    · rw [if_neg hid, if_neg hid]

/-- **An entry that is there stays.** -/
@[simp]
theorem get?_insertNew {t : IdMap α} {id key : String} {a : α} :
    (t.insertNew id a).get? key = (t.get? key).or (if id = key then some a else none) := by
  rw [insertNew]
  split
  · next hsome =>
    obtain ⟨b, hb⟩ := Option.isSome_iff_exists.1 hsome
    split
    · next heq => rw [← heq, hb, Option.some_or]
    · rw [Option.or_none]
  · next hnone =>
    rw [get?_insert]
    split
    · next heq => rw [← heq, Option.not_isSome_iff_eq_none.1 hnone, Option.none_or]
    · rw [Option.or_none]

theorem get?_foldl_insertNew {es : List (String × α)} {t : IdMap α} {id : String} :
    (es.foldl (fun v e => v.insertNew e.1 e.2) t).get? id = (t.get? id).or (lookup id es) := by
  induction es generalizing t with
  | nil => exact Option.or_none.symm
  | cons e es ih =>
    rw [List.foldl_cons, ih, get?_insertNew, Option.or_assoc, lookup]
    split
    · rw [Option.some_or]
    · rw [Option.none_or]

/-- **In a union the first table counts.** -/
@[simp]
theorem get?_union {t u : IdMap α} {id : String} :
    (t.union u).get? id = (t.get? id).or (u.get? id) :=
  get?_foldl_insertNew

@[simp]
theorem union_empty (t : IdMap α) : t.union ∅ = t := by
  ext1 id
  rw [get?_union]
  exact Option.or_none

@[simp]
theorem empty_union (t : IdMap α) : (∅ : IdMap α).union t = t := by
  ext1 id
  rw [get?_union]
  exact Option.none_or

theorem union_assoc (t u v : IdMap α) : (t.union u).union v = t.union (u.union v) := by
  ext1 id
  simp only [get?_union, Option.or_assoc]

end IdMap

end FaultDiagnosis
