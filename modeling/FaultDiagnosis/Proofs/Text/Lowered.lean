import FaultDiagnosis.Proofs.Text.Trimmed
import FaultDiagnosis.Text.LowerCase

/-!
# Lowered texts

Lowering goes through a table of capitals (`FaultDiagnosis.Text.capitalRuns`), so what is known of
lowered texts in general rests on what is checked of the table run by run: small forms are letters
or numbers, no capital is blank, and no small form is a capital again. What follows for the
characters is that

* a lowered text stays as it is when it is lowered again
  (`FaultDiagnosis.Text.lowerCase_lowerCase`);
* letters and numbers are lowered to letters and numbers, with one exception
  (`FaultDiagnosis.Text.isAlphanumeric_of_mem_lowerFrom`): the small form of the dotted capital I
  is an i and a combining dot, and the dot is neither a letter nor a number.
-/

namespace FaultDiagnosis.Text

/-! ### Intervals of code points -/

namespace Ranges

/-- Does one interval of the class hold all code points from `a` to `b`? It is looked for as members
are, by the tests that compute on code points at once. -/
def covers : Ranges → ℕ → ℕ → Bool
  | [], _, _ => false
  | (first, last) :: rest, a, b =>
    bif b.ble last then first.ble a else last.blt a && covers rest a b

theorem mem_of_covers {ranges : Ranges} {a b n : ℕ} (h : ranges.covers a b = true) (ha : a ≤ n)
    (hb : n ≤ b) : ranges.mem n = true := by
  induction ranges with
  | nil => cases h
  | cons r rest ih =>
    obtain ⟨first, last⟩ := r
    rw [covers, Bool.cond_eq_ite] at h
    rw [mem]
    split at h
    · rename_i hlast
      have hlast : b ≤ last := Nat.le_of_ble_eq_true hlast
      have hfirst : first ≤ a := Nat.le_of_ble_eq_true h
      rw [if_pos (hb.trans hlast)]
      exact decide_eq_true (hfirst.trans ha)
    · obtain ⟨hlast, hrest⟩ := Bool.and_eq_true_iff.mp h
      have hlast : last < a := Nat.blt_eq.mp hlast
      rw [if_neg (by omega)]
      exact ih hrest

/-- Letters and numbers are characters: no interval of them meets the surrogates. -/
theorem isValidChar_of_mem_alphanumericRanges {n : ℕ} (h : alphanumericRanges.mem n = true) :
    n.isValidChar := by
  have htable : (alphanumericRanges.all fun r =>
      r.2.blt 0xD800 || Nat.blt 0xDFFF r.1 && r.2.blt 0x110000) = true := by decide +kernel
  obtain ⟨r, hr, hfirst, hlast⟩ := exists_of_mem h
  have hrow := List.all_eq_true.mp htable r hr
  simp only [Bool.or_eq_true, Bool.and_eq_true, Nat.blt_eq] at hrow
  rcases hrow with hbelow | ⟨habove, hend⟩
  · exact Or.inl (hlast.trans_lt hbelow)
  · exact Or.inr ⟨habove.trans_le hfirst, hlast.trans_lt hend⟩

end Ranges

/-! ### Runs of capitals -/

namespace CapitalRun

variable {r s : CapitalRun} {n : ℕ}

/-- Is the code point a capital of the run? -/
structure Has (r : CapitalRun) (n : ℕ) : Prop where
  first : r.first ≤ n
  last : n ≤ r.last
  step : (n - r.first) % r.step = 0

/-- The small form of a capital of the run. -/
def small (r : CapitalRun) (n : ℕ) : ℕ :=
  r.image + (n - r.first)

/-- Where the small forms of a run end. -/
def lastImage (r : CapitalRun) : ℕ :=
  r.small r.last

theorem Has.image_le (_ : r.Has n) : r.image ≤ r.small n :=
  Nat.le_add_right _ _

theorem Has.small_le (h : r.Has n) : r.small n ≤ r.lastImage := by
  have hlast := h.last
  rw [lastImage, small, small]
  omega

/-- Are the small forms of a run clear of the capitals of another one? They are where the two
intervals are apart, and also where the capitals are every second character and the small forms are
those between them. -/
def isClearOf (r s : CapitalRun) : Bool :=
  s.last.blt r.image || r.lastImage.blt s.first ||
    s.step.beq 2 && (r.step.beq 2 || r.first.beq r.last) && s.first.ble r.image &&
      ((r.image - s.first) % 2).beq 1

theorem not_has_small (h : r.isClearOf s = true) (hn : r.Has n) : ¬s.Has (r.small n) := by
  intro hsmall
  obtain ⟨hfirst, hlast, hstep⟩ := hn
  obtain ⟨hfirst', hlast', hstep'⟩ := hsmall
  simp only [isClearOf, lastImage, small, Bool.or_eq_true, Bool.and_eq_true, Nat.blt_eq,
    Nat.beq_eq, Nat.ble_eq] at h
  rw [small] at hfirst' hlast' hstep'
  rcases h with (hbelow | habove) | ⟨⟨⟨hsecond, hr⟩, himage⟩, hodd⟩
  · omega
  · omega
  · -- a small form is an odd distance away from the first of the capitals
    have heven : (n - r.first) % 2 = 0 := by
      rcases hr with hr | hr
      · rwa [hr] at hstep
      · omega
    rw [hsecond] at hstep'
    omega

end CapitalRun

/-- A code point stays as it is, or it is a capital of a run and goes to its small form. -/
theorem lowerPoint_cases (runs : List CapitalRun) (n : ℕ) :
    lowerPoint runs n = n ∨ ∃ r ∈ runs, r.Has n ∧ lowerPoint runs n = r.small n := by
  induction runs with
  | nil => exact Or.inl rfl
  | cons r rest ih =>
    rw [lowerPoint]
    split
    · rename_i hlast
      split
      · rename_i h
        exact Or.inr ⟨r, List.mem_cons_self, ⟨h.1, hlast, h.2⟩, rfl⟩
      · exact Or.inl rfl
    · rcases ih with hsame | ⟨s, hs, hhas, hsmall⟩
      · exact Or.inl hsame
      · exact Or.inr ⟨s, List.mem_cons_of_mem r hs, hhas, hsmall⟩

/-! ### The table -/

section Table

variable {r s : CapitalRun} {n : ℕ}

/-- The dotted capital I, which is not in the table, as a run of its own. -/
def dottedRun : CapitalRun :=
  ⟨0x130, 0x130, 1, 0x69⟩

/-- **Small forms are letters or numbers.** -/
theorem mem_alphanumericRanges_small (hr : r ∈ capitalRuns) (hn : r.Has n) :
    alphanumericRanges.mem (r.small n) = true := by
  have htable : (capitalRuns.all fun r =>
      alphanumericRanges.covers r.image r.lastImage) = true := by decide +kernel
  exact Ranges.mem_of_covers (List.all_eq_true.mp htable r hr) hn.image_le hn.small_le

/-- **No small form is a capital**, dotted or not. -/
theorem isClearOf_of_mem (hr : r ∈ capitalRuns) (hs : s ∈ dottedRun :: capitalRuns) :
    r.isClearOf s = true := by
  have htable : (capitalRuns.all fun r => (dottedRun :: capitalRuns).all r.isClearOf) = true := by
    decide +kernel
  exact List.all_eq_true.mp (List.all_eq_true.mp htable r hr) s hs

/-- **No capital is blank.** -/
theorem not_mem_blankRanges (hr : r ∈ capitalRuns) (hn : r.Has n) :
    blankRanges.mem n = false := by
  have htable : (capitalRuns.all fun r => blankRanges.all fun b =>
      b.2.blt r.first || r.last.blt b.1) = true := by decide +kernel
  by_contra hblank
  obtain ⟨b, hb, hfirst, hlast⟩ := Ranges.exists_of_mem (Bool.not_eq_false _ ▸ hblank)
  have hrow := List.all_eq_true.mp (List.all_eq_true.mp htable r hr) b hb
  simp only [Bool.or_eq_true, Nat.blt_eq] at hrow
  obtain ⟨hfirst', hlast', -⟩ := hn
  omega

end Table

/-! ### Single characters -/

variable {c d : Char}

/-- The small form of a character, where it has a single one. -/
def smallForm (c : Char) : Char :=
  Char.ofNat (lowerPoint capitalRuns c.toNat)

theorem lowerChar_of_ne (h : c ≠ 'İ') : lowerChar c = [smallForm c] :=
  if_neg h

/-- A small form is the character itself, or else it is a letter or a number, and the character is
a capital of a run. -/
theorem smallForm_cases (c : Char) :
    smallForm c = c ∨ isAlphanumeric (smallForm c) = true ∧
      ∃ r ∈ capitalRuns, r.Has c.toNat ∧ (smallForm c).toNat = r.small c.toNat := by
  rcases lowerPoint_cases capitalRuns c.toNat with hsame | ⟨r, hr, hhas, hsmall⟩
  · left
    rw [smallForm, hsame, Char.ofNat_toNat]
  · right
    have hmem := mem_alphanumericRanges_small hr hhas
    have hpoint : (smallForm c).toNat = r.small c.toNat := by
      rw [smallForm, hsmall, Char.ofNat,
        dif_pos (Ranges.isValidChar_of_mem_alphanumericRanges hmem)]
      rfl
    refine ⟨?_, r, hr, hhas, hpoint⟩
    rw [isAlphanumeric, hpoint]
    exact hmem

theorem isAlphanumeric_smallForm (h : isAlphanumeric c = true) :
    isAlphanumeric (smallForm c) = true := by
  rcases smallForm_cases c with hsame | ⟨halnum, -⟩
  · rwa [hsame]
  · exact halnum

theorem isBlank_smallForm (c : Char) : isBlank (smallForm c) = isBlank c := by
  rcases smallForm_cases c with hsame | ⟨halnum, r, hr, hhas, -⟩
  · rw [hsame]
  · rw [isBlank_of_isAlphanumeric halnum]
    exact (not_mem_blankRanges hr hhas).symm

/-! ### Small characters -/

/-- **A small character**: lowering leaves it alone, wherever it stands. -/
structure IsSmall (c : Char) : Prop where
  smallForm_eq : smallForm c = c
  ne_dotted : c ≠ 'İ'

instance (c : Char) : Decidable (IsSmall c) :=
  decidable_of_iff (smallForm c = c ∧ c ≠ 'İ') ⟨fun h => ⟨h.1, h.2⟩, fun h => ⟨h.1, h.2⟩⟩

/-- **Small forms are small.** -/
theorem isSmall_smallForm (h : c ≠ 'İ') : IsSmall (smallForm c) := by
  rcases smallForm_cases c with hsame | ⟨-, r, hr, hhas, hsmall⟩
  · rw [hsame]
    exact ⟨hsame, h⟩
  · have hclear : ∀ s ∈ dottedRun :: capitalRuns, ¬s.Has (smallForm c).toNat := fun s hs => by
      rw [hsmall]
      exact CapitalRun.not_has_small (isClearOf_of_mem hr hs) hhas
    constructor
    · refine (smallForm_cases (smallForm c)).resolve_right ?_
      rintro ⟨-, s, hs, hhas', -⟩
      exact hclear s (List.mem_cons_of_mem _ hs) hhas'
    · intro hdotted
      rw [hdotted] at hclear
      exact hclear dottedRun List.mem_cons_self ⟨by decide, by decide, by decide⟩

theorem IsSmall.ne_capitalSigma (h : IsSmall c) : c ≠ 'Σ' := by
  rintro rfl
  exact absurd h (by decide)

theorem IsSmall.lowerCharBetween_eq (h : IsSmall c) (before after : List Char) :
    lowerCharBetween before c after = [c] := by
  rw [lowerCharBetween, if_neg h.ne_capitalSigma, lowerChar_of_ne h.ne_dotted, h.smallForm_eq]

/-! ### Lowering where a character stands -/

/-- The place of a character matters only for capital sigmas, and only for the form of the small
one. -/
theorem lowerCharBetween_cases (before : List Char) (c : Char) (after : List Char) :
    lowerCharBetween before c after = lowerChar c ∨
      c = 'Σ' ∧ lowerCharBetween before c after = ['ς'] := by
  rw [lowerCharBetween]
  split
  · rename_i hsigma
    split
    · exact Or.inr ⟨hsigma, rfl⟩
    · left
      rw [hsigma]
      decide
  · exact Or.inl rfl

theorem lowerCharBetween_dotted (before after : List Char) :
    lowerCharBetween before 'İ' after = ['i', '\u0307'] :=
  rfl

theorem lowerChar_ne_nil (c : Char) : lowerChar c ≠ [] := by
  rw [lowerChar]
  split
  · exact List.cons_ne_nil _ _
  · exact List.cons_ne_nil _ _

section Between

variable {before after : List Char}

theorem isSmall_of_mem_lowerCharBetween (h : d ∈ lowerCharBetween before c after) : IsSmall d := by
  by_cases hdotted : c = 'İ'
  · rw [hdotted, lowerCharBetween_dotted, List.mem_pair] at h
    rcases h with rfl | rfl
    · decide
    · decide
  · rcases lowerCharBetween_cases before c after with heq | ⟨-, heq⟩
    · rw [heq, lowerChar_of_ne hdotted, List.mem_singleton] at h
      rw [h]
      exact isSmall_smallForm hdotted
    · rw [heq, List.mem_singleton] at h
      rw [h]
      decide

theorem isAlphanumeric_of_mem_lowerCharBetween (hc : isAlphanumeric c = true)
    (h : d ∈ lowerCharBetween before c after) :
    isAlphanumeric d = true ∨ c = 'İ' ∧ d = '\u0307' := by
  by_cases hdotted : c = 'İ'
  · rw [hdotted, lowerCharBetween_dotted, List.mem_pair] at h
    rcases h with rfl | rfl
    · exact Or.inl (by decide)
    · exact Or.inr ⟨hdotted, rfl⟩
  · left
    rcases lowerCharBetween_cases before c after with heq | ⟨-, heq⟩
    · rw [heq, lowerChar_of_ne hdotted, List.mem_singleton] at h
      rw [h]
      exact isAlphanumeric_smallForm hc
    · rw [heq, List.mem_singleton] at h
      rw [h]
      decide +kernel

end Between

/-! ### Lowering a text -/

variable {cs : List Char}

/-- What is in a lowered text comes from one of its characters. -/
theorem exists_of_mem_lowerFrom {before : List Char} (h : d ∈ lowerFrom before cs) :
    ∃ c ∈ cs, ∃ before after, d ∈ lowerCharBetween before c after := by
  induction cs generalizing before with
  | nil => cases h
  | cons c cs ih =>
    rw [lowerFrom, List.mem_append] at h
    rcases h with h | h
    · exact ⟨c, List.mem_cons_self, before, cs, h⟩
    · obtain ⟨c', hc', hd⟩ := ih h
      exact ⟨c', List.mem_cons_of_mem c hc', hd⟩

/-- And every character is lowered to something. -/
theorem lowerFrom_eq_nil_iff {before : List Char} : lowerFrom before cs = [] ↔ cs = [] := by
  cases cs with
  | nil => exact Iff.rfl
  | cons c cs =>
    refine iff_of_false (fun h => ?_) (List.cons_ne_nil c cs)
    obtain ⟨hnil, -⟩ := List.append_eq_nil_iff.mp h
    rcases lowerCharBetween_cases before c cs with heq | ⟨-, heq⟩
    · exact lowerChar_ne_nil c (heq ▸ hnil)
    · rw [heq] at hnil
      cases hnil

/-- **A lowered text is small** in all its characters. -/
theorem isSmall_of_mem_lowerFrom {before : List Char} (h : d ∈ lowerFrom before cs) :
    IsSmall d := by
  obtain ⟨c, -, before', after, hd⟩ := exists_of_mem_lowerFrom h
  exact isSmall_of_mem_lowerCharBetween hd

/-- **Small texts stay as they are.** -/
theorem lowerFrom_eq_self (h : ∀ c ∈ cs, IsSmall c) (before : List Char) :
    lowerFrom before cs = cs := by
  induction cs generalizing before with
  | nil => rfl
  | cons c cs ih =>
    obtain ⟨hc, hcs⟩ := List.forall_mem_cons.mp h
    rw [lowerFrom, hc.lowerCharBetween_eq, ih hcs, List.singleton_append]

theorem toList_lowerCase (s : String) : (lowerCase s).toList = lowerFrom [] s.toList :=
  String.toList_ofList

/-- **Lowering twice is lowering once.** -/
theorem lowerCase_lowerCase (s : String) : lowerCase (lowerCase s) = lowerCase s := by
  have hsmall : ∀ c ∈ (lowerCase s).toList, IsSmall c := fun c hc => by
    rw [toList_lowerCase] at hc
    exact isSmall_of_mem_lowerFrom hc
  rw [lowerCase, lowerFrom_eq_self hsmall, String.ofList_toList]

/-- **Letters and numbers are lowered to letters and numbers**, but for the dot of a dotted capital
I. -/
theorem isAlphanumeric_of_mem_lowerFrom {before : List Char}
    (hcs : ∀ c ∈ cs, isAlphanumeric c = true) (h : d ∈ lowerFrom before cs) :
    isAlphanumeric d = true ∨ 'İ' ∈ cs ∧ d = '\u0307' := by
  obtain ⟨c, hc, before', after, hd⟩ := exists_of_mem_lowerFrom h
  rcases isAlphanumeric_of_mem_lowerCharBetween (hcs c hc) hd with halnum | ⟨rfl, hdot⟩
  · exact Or.inl halnum
  · exact Or.inr ⟨hc, hdot⟩

/-- The dot is always left behind. -/
theorem dot_mem_lowerFrom (h : 'İ' ∈ cs) (before : List Char) :
    '\u0307' ∈ lowerFrom before cs := by
  induction cs generalizing before with
  | nil => cases h
  | cons c cs ih =>
    rw [lowerFrom, List.mem_append]
    rcases List.mem_cons.mp h with rfl | h
    · left
      rw [lowerCharBetween_dotted]
      exact List.mem_cons_of_mem _ List.mem_cons_self
    · exact Or.inr (ih h _)

end FaultDiagnosis.Text
