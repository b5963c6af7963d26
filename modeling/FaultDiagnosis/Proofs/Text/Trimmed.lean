import FaultDiagnosis.Text.Alphanumeric
import FaultDiagnosis.Text.Blank
import Mathlib.Data.List.DropRight

/-!
# Trimmed texts

What a user writes is trimmed when it comes in, and some of it is trimmed again where it is checked.
This does no harm, because a trimmed text has no blanks left at its ends
(`FaultDiagnosis.Text.trim_trim`). Nor does trimming hide anything: it leaves nothing exactly of the
texts that are blank (`FaultDiagnosis.Text.trim_eq_empty_iff`), and it keeps every letter and every
number (`FaultDiagnosis.Text.exists_isAlphanumeric_trim_iff`).
-/

namespace FaultDiagnosis.Text

/-! ### Dropping at both ends -/

section Ends

variable {α : Type} {p : α → Bool} {a : α}

/-- What is dropped at the end of a list does not bring anything to drop to its front. -/
theorem dropWhile_rdropWhile_dropWhile (p : α → Bool) (as : List α) :
    ((as.dropWhile p).rdropWhile p).dropWhile p = (as.dropWhile p).rdropWhile p := by
  have hprefix : (as.dropWhile p).rdropWhile p <+: as.dropWhile p := List.rdropWhile_prefix p _
  cases hkept : (as.dropWhile p).rdropWhile p with
  | nil => rfl
  | cons a rest =>
    rw [hkept] at hprefix
    obtain ⟨dropped, hdropped⟩ := hprefix
    -- the first element that is kept is also the first one after the front was dropped
    have hne : as.dropWhile p ≠ [] := by
      rw [← hdropped]
      exact List.cons_ne_nil _ _
    have hhead : (as.dropWhile p).head hne = a := by
      simp only [← hdropped, List.cons_append, List.head_cons]
    have ha : p a = false := hhead ▸ List.head_dropWhile_not p hne
    exact List.dropWhile_cons_of_neg (Bool.not_eq_true _ ▸ ha)

theorem mem_dropWhile_iff (ha : p a = false) (as : List α) : a ∈ as.dropWhile p ↔ a ∈ as := by
  constructor
  · intro h
    exact (List.dropWhile_suffix p).mem h
  · intro h
    rw [← List.takeWhile_append_dropWhile (p := p) (l := as), List.mem_append] at h
    refine h.resolve_left fun htaken => ?_
    have hp : p a = true := List.mem_takeWhile_imp htaken
    rw [ha] at hp
    cases hp

theorem mem_rdropWhile_iff (ha : p a = false) (as : List α) : a ∈ as.rdropWhile p ↔ a ∈ as := by
  rw [List.rdropWhile, List.mem_reverse, mem_dropWhile_iff ha, List.mem_reverse]

end Ends

/-! ### Trimming -/

variable {s : String}

theorem toList_trim (s : String) :
    (trim s).toList = (s.toList.dropWhile isBlank).rdropWhile isBlank :=
  String.toList_ofList

/-- **Trimming twice is trimming once.** -/
theorem trim_trim (s : String) : trim (trim s) = trim s := by
  have htwice : (trim (trim s)).toList = (trim s).toList := by
    rw [toList_trim (trim s), toList_trim s, dropWhile_rdropWhile_dropWhile,
      List.rdropWhile_idempotent]
  exact String.toList_injective htwice

/-- **Nothing is left of a text exactly if it is blank.** -/
theorem trim_eq_empty_iff : trim s = "" ↔ isBlankText s = true := by
  rw [← String.toList_eq_nil_iff, toList_trim, List.rdropWhile_eq_nil_iff, isBlankText,
    List.all_eq_true]
  constructor
  · intro h
    -- what the end has left to drop is nothing, since the front had dropped all it could
    by_contra hsome
    have hne : s.toList.dropWhile isBlank ≠ [] := mt List.dropWhile_eq_nil_iff.mp hsome
    have hhead := List.head_dropWhile_not isBlank hne
    rw [h _ (List.head_mem hne)] at hhead
    cases hhead
  · intro h c hc
    exact h c ((List.dropWhile_suffix isBlank).mem hc)

theorem isBlankText_trim (s : String) : isBlankText (trim s) = isBlankText s := by
  rw [Bool.eq_iff_iff, ← trim_eq_empty_iff, ← trim_eq_empty_iff, trim_trim]

theorem mem_toList_trim_iff {c : Char} (hc : isBlank c = false) :
    c ∈ (trim s).toList ↔ c ∈ s.toList := by
  rw [toList_trim, mem_rdropWhile_iff hc, mem_dropWhile_iff hc]

/-! ### Letters and numbers -/

/-- No letter and no number is blank. -/
theorem isBlank_of_isAlphanumeric {c : Char} (h : isAlphanumeric c = true) : isBlank c = false := by
  have hapart : ∀ r ∈ blankRanges, ∀ n ∈ List.range' r.1 (r.2 - r.1 + 1),
      alphanumericRanges.mem n = false := by decide +kernel
  by_contra hblank
  obtain ⟨r, hr, hfirst, hlast⟩ := Ranges.exists_of_mem (Bool.not_eq_false _ ▸ hblank)
  have hc : c.toNat ∈ List.range' r.1 (r.2 - r.1 + 1) := by
    rw [List.mem_range'_1]
    omega
  rw [isAlphanumeric, hapart r hr c.toNat hc] at h
  cases h

/-- **Trimming keeps letters and numbers.** -/
theorem exists_isAlphanumeric_trim_iff :
    (∃ c ∈ (trim s).toList, isAlphanumeric c = true) ↔
      ∃ c ∈ s.toList, isAlphanumeric c = true := by
  constructor
  · rintro ⟨c, hc, halnum⟩
    exact ⟨c, (mem_toList_trim_iff (isBlank_of_isAlphanumeric halnum)).mp hc, halnum⟩
  · rintro ⟨c, hc, halnum⟩
    exact ⟨c, (mem_toList_trim_iff (isBlank_of_isAlphanumeric halnum)).mpr hc, halnum⟩

end FaultDiagnosis.Text
