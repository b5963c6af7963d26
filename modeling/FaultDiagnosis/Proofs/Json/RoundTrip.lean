import FaultDiagnosis.Proofs.Json.Layout

/-!
# What is written is read back

`FaultDiagnosis.Json.compact` writes a value and `FaultDiagnosis.Json.Reading.value` reads one. The
second inverts the first, in front of any text that does not go on with a number
(`FaultDiagnosis.Json.Reading.value_chars_append`) and for a whole text
(`FaultDiagnosis.Json.Reading.ofText_append_chars`). Both are cases of what is known of any layout.

A line of text can hold what is written, because no control character is left in it
(`FaultDiagnosis.Json.le_toNat_of_mem_chars`).
-/

namespace FaultDiagnosis.Json

open Reading (EndsNumeral isBlank)

namespace Reading

/-- **A written value is read back**, in front of anything that does not go on with a number. -/
theorem value_chars_append (j : Json) (fuel : Nat) (rest : List Char) (h : IsLegible j)
    (hfuel : 2 * (chars j).length ≤ fuel) (hrest : EndsNumeral rest) :
    value fuel (chars j ++ rest) = (asRead j, some rest) := by
  rw [chars_eq_laidOut 0] at hfuel ⊢
  exact value_laidOut_append .compact j 0 fuel rest h hfuel hrest

/-- **The whole text of a value is read back**, also with blanks in front of it. -/
theorem ofText_append_chars {j : Json} (h : IsLegible j) {p : List Char}
    (hp : ∀ c ∈ p, isBlank c = true) : ofText (String.ofList (p ++ chars j)) = asRead j := by
  have hread := ofText_laidOut .compact 0 h hp (fun _ h => absurd h List.not_mem_nil)
  rwa [List.append_nil, ← chars_eq_laidOut] at hread

end Reading

/-! ### Control characters -/

/-- No control character is left in a text. -/
theorem le_toNat_of_mem_escapedChar {c x : Char} (h : x ∈ escapedChar c) : 0x20 ≤ x.toNat := by
  unfold escapedChar at h
  split at h
  case h_8 =>
    split at h
    · next hsmall =>
      have hdigit : ∀ n < 16, 0x20 ≤ (hexDigit n).toNat := by decide
      simp only [List.mem_cons, List.not_mem_nil, or_false] at h
      rcases h with rfl | rfl | rfl | rfl | rfl | rfl
      iterate 4 decide
      · exact hdigit _ (by omega)
      · exact hdigit _ (by omega)
    · next hlarge =>
      rw [List.mem_singleton.mp h]
      omega
  all_goals
    simp only [List.mem_cons, List.not_mem_nil, or_false] at h
    rcases h with rfl | rfl
    all_goals decide

theorem le_toNat_of_mem_stringChars {s : String} {x : Char} (h : x ∈ stringChars s) :
    0x20 ≤ x.toNat := by
  simp only [stringChars, List.cons_append, List.mem_cons, List.mem_append, List.mem_flatMap,
    List.not_mem_nil, or_false] at h
  rcases h with rfl | ⟨c, -, hx⟩ | rfl
  · decide
  · exact le_toNat_of_mem_escapedChar hx
  · decide

theorem le_toNat_of_mem_digits {ds : List Digit} {x : Char} (h : x ∈ Digit.chars ds) :
    0x20 ≤ x.toNat := by
  have hdigit : ∀ d : Digit, 0x20 ≤ d.toChar.toNat := by decide
  obtain ⟨d, -, rfl⟩ := List.mem_map.mp h
  exact hdigit d

theorem le_toNat_of_mem_numeral {n : Numeral} {x : Char} (h : x ∈ n.chars) : 0x20 ≤ x.toNat := by
  simp only [Reading.chars_eq, List.mem_append] at h
  rcases h with ((hsign | hwhole) | hfraction) | hexponent
  · split at hsign
    · rw [List.mem_singleton.mp hsign]
      decide
    · cases hsign
  · exact le_toNat_of_mem_digits hwhole
  · rw [Reading.fractionChars] at hfraction
    split at hfraction
    · cases hfraction
    · rcases List.mem_cons.mp hfraction with rfl | hdigits
      · decide
      · exact le_toNat_of_mem_digits hdigits
  · cases he : n.exponent with
    | none =>
      rw [he] at hexponent
      cases hexponent
    | some e =>
      rw [he] at hexponent
      rcases List.mem_cons.mp hexponent with rfl | hexponent
      · decide
      rcases List.mem_cons.mp hexponent with rfl | hdigits
      · split <;> decide
      · exact le_toNat_of_mem_digits hdigits

theorem le_toNat_of_all {cs : List Char} (h : cs.all (fun c => 0x20 ≤ c.toNat) = true) {x : Char}
    (hx : x ∈ cs) : 0x20 ≤ x.toNat :=
  of_decide_eq_true (List.all_eq_true.mp h x hx)

mutual

/-- **No control character is ever written**, and so no line break. -/
theorem le_toNat_of_mem_chars : ∀ (j : Json) (x : Char), x ∈ chars j → 0x20 ≤ x.toNat
  | .null => fun _ h => le_toNat_of_all rfl h
  | .bool true => fun _ h => le_toNat_of_all rfl h
  | .bool false => fun _ h => le_toNat_of_all rfl h
  | .number n => fun _ h => le_toNat_of_mem_numeral h
  | .string s => fun _ h => le_toNat_of_mem_stringChars h
  | .array [] => fun _ h => le_toNat_of_all rfl h
  | .array (v :: vs) => fun x h => by
    rw [chars, itemsChars] at h
    rcases List.mem_cons.mp h with rfl | h
    · decide
    rcases List.mem_append.mp h with hv | hvs
    · exact le_toNat_of_mem_chars v x hv
    · exact le_toNat_of_mem_itemsTail vs x hvs
  | .object [] => fun _ h => le_toNat_of_all rfl h
  | .object ((k, v) :: ms) => fun x h => by
    rw [chars, membersChars, List.append_assoc] at h
    rcases List.mem_cons.mp h with rfl | h
    · decide
    rcases List.mem_append.mp h with hk | h
    · exact le_toNat_of_mem_stringChars hk
    rcases List.mem_cons.mp h with rfl | h
    · decide
    rcases List.mem_append.mp h with hv | hms
    · exact le_toNat_of_mem_chars v x hv
    · exact le_toNat_of_mem_membersTail ms x hms

theorem le_toNat_of_mem_itemsTail : ∀ (vs : List Json) (x : Char), x ∈ itemsTail vs → 0x20 ≤ x.toNat
  | [] => fun _ h => le_toNat_of_all rfl h
  | v :: vs => fun x h => by
    rw [itemsTail, List.cons_append] at h
    rcases List.mem_cons.mp h with rfl | h
    · decide
    rcases List.mem_append.mp h with hv | hvs
    · exact le_toNat_of_mem_chars v x hv
    · exact le_toNat_of_mem_itemsTail vs x hvs

theorem le_toNat_of_mem_membersTail : ∀ (ms : List (String × Json)) (x : Char),
    x ∈ membersTail ms → 0x20 ≤ x.toNat
  | [] => fun _ h => le_toNat_of_all rfl h
  | (k, v) :: ms => fun x h => by
    rw [membersTail, List.cons_append, List.cons_append, List.append_assoc] at h
    rcases List.mem_cons.mp h with rfl | h
    · decide
    rcases List.mem_append.mp h with hk | h
    · exact le_toNat_of_mem_stringChars hk
    rcases List.mem_cons.mp h with rfl | h
    · decide
    rcases List.mem_append.mp h with hv | hms
    · exact le_toNat_of_mem_chars v x hv
    · exact le_toNat_of_mem_membersTail ms x hms

end

end FaultDiagnosis.Json
