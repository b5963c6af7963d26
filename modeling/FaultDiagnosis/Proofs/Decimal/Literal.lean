import FaultDiagnosis.Decimal.Notation
import FaultDiagnosis.Proofs.Json.Tokens

/-!
# Doubles are written as literals

JSON has no zeros in front of a number. The mixed notation of a double keeps to that, because the
digits it lays out never start with a zero: they are the digits of the shortest decimal that names
the double, and for a double other than zero this decimal is not zero either.
`FaultDiagnosis.Notation.isLiteral_mixed` says so for every double there is. Only the finite doubles
are written in this way (`FaultDiagnosis.Binary64.toParts_eq_none_iff`).

The search for the shortest decimal is bounded, and nothing here relies on its success. Should it
fail, what is written in the end has an exponent, and a single zero in front of it.
-/

namespace FaultDiagnosis

open Json.Reading (IsLiteral)

/-! ### Digits of a number -/

theorem Digit.ofNat_ne_nil (n : Nat) : Digit.ofNat n ≠ [] := by
  rw [Digit.ofNat]
  split
  · exact List.cons_ne_nil _ _
  · simp

/-- Only zero starts with a zero. -/
theorem Digit.eq_zero_of_ofNat {n : Nat} {d : Digit} {ds : List Digit}
    (h : Digit.ofNat n = d :: ds) (hd : d.val = 0) : n = 0 := by
  induction n using Nat.strongRecOn generalizing ds with
  | ind n ih =>
    rw [Digit.ofNat] at h
    split at h
    · next hsmall =>
      obtain ⟨rfl, -⟩ := List.cons.inj h
      simpa [Nat.mod_eq_of_lt hsmall] using hd
    · next hlarge =>
      cases hfront : Digit.ofNat (n / 10) with
      | nil => exact absurd hfront (Digit.ofNat_ne_nil _)
      | cons x xs =>
        rw [hfront, List.cons_append] at h
        obtain ⟨rfl, -⟩ := List.cons.inj h
        have := ih (n / 10) (by omega) hfront
        omega

namespace Binary64

open Float.Model (Format UnpackedFloat)

/-! ### Finite doubles -/

/-- The field of the exponent, cut out of the bits of a double. -/
theorem toNat_unpackExponent (x : Float) :
    (@UnpackedFloat.unpackExponent Format.binary64 x.toBits.toBitVec).toNat =
      x.toBits.toNat / twoTo fractionBits % twoTo 11 := by
  change (BitVec.extractLsb 62 52 x.toBits.toBitVec).toNat = _
  rw [BitVec.extractLsb_toNat, Nat.shiftRight_eq_div_pow]
  rfl

variable {b : BitVec Format.binary64.numBits}

/-- A double whose field is full is an infinity or no number. -/
theorem isFinite_unpack_of_full (hfull : UnpackedFloat.unpackExponent b = -1#11) :
    (UnpackedFloat.unpack Format.binary64 b).isFinite = false := by
  by_cases hmantissa : UnpackedFloat.unpackMantissa b = 0#52
  · obtain ⟨s, hinfinity⟩ : ∃ s, UnpackedFloat.unpack Format.binary64 b = .infinity s :=
      ⟨_, (if_pos hfull).trans (if_pos hmantissa)⟩
    rw [hinfinity]
    rfl
  · have hnone : UnpackedFloat.unpack Format.binary64 b = .notANumber :=
      (if_pos hfull).trans (if_neg hmantissa)
    rw [hnone]
    rfl

/-- Any other double is finite: it is zero, or it has a mantissa. -/
theorem isFinite_unpack_of_not_full (hfull : UnpackedFloat.unpackExponent b ≠ -1#11) :
    (UnpackedFloat.unpack Format.binary64 b).isFinite = true := by
  by_cases hexponent : UnpackedFloat.unpackExponent b = 0#11
  · by_cases hmantissa : UnpackedFloat.unpackMantissa b = 0#52
    · obtain ⟨s, hzero⟩ : ∃ s, UnpackedFloat.unpack Format.binary64 b = .zero s :=
        ⟨_, (if_neg hfull).trans ((if_pos hexponent).trans (dif_pos hmantissa))⟩
      rw [hzero]
      rfl
    · obtain ⟨s, m, x, hpos, hsmall⟩ : ∃ s m x hpos,
          UnpackedFloat.unpack Format.binary64 b = .finite s m x hpos :=
        ⟨_, _, _, _, (if_neg hfull).trans ((if_pos hexponent).trans (dif_neg hmantissa))⟩
      rw [hsmall]
      rfl
  · obtain ⟨s, m, x, hpos, hlarge⟩ : ∃ s m x hpos,
        UnpackedFloat.unpack Format.binary64 b = .finite s m x hpos :=
      ⟨_, _, _, _, (if_neg hfull).trans (if_neg hexponent)⟩
    rw [hlarge]
    rfl

/-- **All doubles but the finite ones have no parts.** -/
theorem toParts_eq_none_iff {x : Float} : toParts x = none ↔ x.isFinite = false := by
  have hunpack : x.isFinite =
      (UnpackedFloat.unpack Format.binary64 x.toBits.toBitVec).isFinite := rfl
  have hfull : @UnpackedFloat.unpackExponent Format.binary64 x.toBits.toBitVec = -1#11 ↔
      x.toBits.toNat / twoTo fractionBits % twoTo 11 = 0x7FF := by
    rw [← toNat_unpackExponent, ← BitVec.toNat_inj]
    rfl
  rw [hunpack, toParts]
  split
  · next hfield => exact iff_of_true rfl (isFinite_unpack_of_full (hfull.mpr hfield))
  · next hfield =>
    have hfinite := isFinite_unpack_of_not_full (mt hfull.mp hfield)
    refine iff_of_false ?_ (ne_false_of_eq_true hfinite)
    split
    · exact Option.some_ne_none _
    · exact Option.some_ne_none _

end Binary64

namespace Shortest

/-! ### The shortest decimal is not zero -/

theorem tenTo_pos (n : Nat) : 0 < tenTo n :=
  Nat.pow_pos (by decide)

theorem twoTo_pos (n : Nat) : 0 < twoTo n :=
  Nat.pow_pos (by decide)

theorem commonScale_pos (exponent place : Int) : 0 < (commonScale exponent place).1 := by
  unfold commonScale
  split
  · exact tenTo_pos _
  · exact Nat.one_pos
  · exact Nat.mul_pos (twoTo_pos _) (tenTo_pos _)
  · exact twoTo_pos _

/-- Of two numbers around a double, one that names it is chosen, and zero does not. -/
theorem choice_ne_zero {p : Nat → Bool} (hp : p 0 = false) {tie : Tie} {below rest b n : Nat}
    (h : (if p below && p (below + 1) then
        if 2 * rest < b then some below
        else if b < 2 * rest then some (below + 1)
        else match tie with
          | .toEven => some (if below % 2 = 0 then below else below + 1)
          | .up => some (below + 1)
      else if p below && below ≠ 0 then some below
      else if p (below + 1) then some (below + 1)
      else none) = some n) : n ≠ 0 := by
  cases below with
  | zero =>
    simp only [hp, Bool.false_and, Bool.false_eq_true, if_false] at h
    split at h
    · exact Option.some.inj h ▸ Nat.succ_ne_zero _
    · cases h
  | succ below =>
    split at h
    · split at h
      · exact Option.some.inj h ▸ Nat.succ_ne_zero _
      · split at h
        · exact Option.some.inj h ▸ Nat.succ_ne_zero _
        · cases tie with
          | toEven =>
            have heven := Option.some.inj h
            split at heven
            · exact heven ▸ Nat.succ_ne_zero _
            · exact heven ▸ Nat.succ_ne_zero _
          | up => exact Option.some.inj h ▸ Nat.succ_ne_zero _
    · split at h
      · exact Option.some.inj h ▸ Nat.succ_ne_zero _
      · split at h
        · exact Option.some.inj h ▸ Nat.succ_ne_zero _
        · cases h

/-- No grid gives zero for a double whose neighbourhood does not reach it. -/
theorem onGrid_ne_zero {tie : Tie} {nb : Neighbourhood} {place : Int} (h : 0 < nb.low) {n : Nat}
    (hn : onGrid tie nb place = some n) : n ≠ 0 := by
  have hlow : 0 < nb.low * (commonScale nb.exponent place).1 :=
    Nat.mul_pos h (commonScale_pos _ _)
  unfold onGrid at hn
  generalize commonScale nb.exponent place = scale at hlow hn
  obtain ⟨a, b⟩ := scale
  refine choice_ne_zero (p := fun n => if nb.closed then
      decide (nb.low * a ≤ n * b ∧ n * b ≤ nb.high * a)
    else decide (nb.low * a < n * b ∧ n * b < nb.high * a)) ?_ hn
  simp only at hlow
  simp only [Nat.zero_mul]
  split
  · exact decide_eq_false (by omega)
  · exact decide_eq_false (by omega)

theorem search_ne_zero {tie : Tie} {nb : Neighbourhood} (h : 0 < nb.low) {fuel : Nat} {place : Int}
    {d : Decimal} (hd : search tie nb fuel place = some d) : d.digits ≠ 0 := by
  induction fuel generalizing place with
  | zero => cases hd
  | succ fuel ih =>
    rw [search] at hd
    split at hd
    · next hgrid =>
      obtain ⟨⟩ := hd
      exact onGrid_ne_zero h hgrid
    · exact ih hd

theorem dropZeros_ne_zero {d : Decimal} (h : d.digits ≠ 0) (fuel : Nat) :
    (dropZeros fuel d).digits ≠ 0 := by
  induction fuel generalizing d with
  | zero => exact h
  | succ fuel ih =>
    rw [dropZeros]
    split
    · next hzero =>
      refine ih ?_
      simp only
      omega
    · exact h

/-- **The shortest decimal is not zero**, unless it has not been found. -/
theorem digits_ne_zero (tie : Tie) {mantissa : Nat} (h : mantissa ≠ 0) (exponent : Int) :
    (digits tie mantissa exponent).digits ≠ 0 ∨
      digits tie mantissa exponent = dropZeros gridCount ⟨0, 0⟩ := by
  have hlow : 0 < (neighbourhood mantissa exponent).low := by
    simp only [neighbourhood]
    split <;> omega
  rw [digits]
  cases hfound : search tie (neighbourhood mantissa exponent) gridCount
      (pointPlace (neighbourhood mantissa exponent)) with
  | none => exact Or.inr rfl
  | some d => exact Or.inl (dropZeros_ne_zero (search_ne_zero hlow hfound) _)

end Shortest

namespace Notation

open Binary64

/-! ### Literals -/

/-- The digits laid out do not start with a zero, unless they are a zero alone and the point stands
right behind it or far away. -/
theorem layout_cases (tie : Shortest.Tie) (x : Parts) :
    (layout tie x).1 ≠ [] ∧
      ((∀ d ds, (layout tie x).1 = d :: ds → d.val ≠ 0) ∨
        (layout tie x).1 = [Digit.zero] ∧ ((layout tie x).2 = 1 ∨ 16 < (layout tie x).2)) := by
  unfold layout
  split
  · exact ⟨List.cons_ne_nil _ _, Or.inr ⟨rfl, Or.inl rfl⟩⟩
  · next hmantissa =>
    refine ⟨Digit.ofNat_ne_nil _, ?_⟩
    rcases Shortest.digits_ne_zero tie hmantissa x.exponent with hne | heq
    · exact Or.inl fun d ds hds hd => hne (Digit.eq_zero_of_ofNat hds hd)
    · have hdigits : Digit.ofNat 0 = [Digit.zero] := by
        rw [Digit.ofNat]
        rfl
      have hdrop : Shortest.dropZeros Shortest.gridCount ⟨0, 0⟩ = ⟨0, 20⟩ := rfl
      rw [heq, hdrop]
      exact Or.inr ⟨hdigits, Or.inr (by simp [hdigits])⟩

/-- The whole part in front of the point is that of a literal. -/
theorem split_literal {ds : List Digit} {point : Int} (hds : ds ≠ [])
    (hleading : (∀ d ds', ds = d :: ds' → d.val ≠ 0) ∨ ds = [Digit.zero] ∧ point = 1) :
    (split ds point).1 ≠ [] ∧
      ∀ d ds', (split ds point).1 = d :: ds' → d.val = 0 → ds' = [] := by
  rw [split]
  split
  · refine ⟨List.cons_ne_nil _ _, fun d ds' h _ => ?_⟩
    exact (List.cons.inj h).2.symm
  · next hpoint =>
    obtain ⟨k, hk⟩ : ∃ k, point.natAbs = k + 1 := ⟨point.natAbs - 1, by omega⟩
    obtain ⟨x, xs, rfl⟩ := List.exists_cons_of_ne_nil hds
    simp only [hk, List.take_succ_cons, List.cons_append]
    refine ⟨List.cons_ne_nil _ _, fun d ds' h hd => ?_⟩
    obtain ⟨rfl, rfl⟩ := List.cons.inj h
    rcases hleading with hne | ⟨hzero, hone⟩
    · exact absurd hd (hne x xs rfl)
    · obtain ⟨-, rfl⟩ := List.cons.inj hzero
      obtain rfl : k = 0 := by omega
      rfl

/-- **Every double is written as a literal** in the mixed notation. -/
theorem isLiteral_mixed (x : Parts) : IsLiteral (mixed x) := by
  obtain ⟨hne, hleading⟩ := layout_cases .toEven x
  unfold mixed
  generalize layout .toEven x = l at hne hleading
  obtain ⟨ds, point⟩ := l
  simp only at hne hleading ⊢
  split
  · next hrange =>
    have hleading' : (∀ d ds', ds = d :: ds' → d.val ≠ 0) ∨ ds = [Digit.zero] ∧ point = 1 :=
      hleading.imp_right fun ⟨hzero, hpoint⟩ => ⟨hzero, hpoint.resolve_right (by omega)⟩
    obtain ⟨hwhole, hzeros⟩ := split_literal hne hleading'
    exact ⟨hwhole, hzeros, by simp⟩
  · obtain ⟨d, ds', rfl⟩ := List.exists_cons_of_ne_nil hne
    refine ⟨by simp, fun x xs h _ => (List.cons.inj h).2.symm, ?_⟩
    rintro e ⟨⟩
    exact Digit.ofNat_ne_nil _

end Notation

end FaultDiagnosis
