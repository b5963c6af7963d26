import FaultDiagnosis.Proofs.Text.Lowered
import Mathlib.Data.List.Basic

/-!
# Texts that are spelled alike

Two users may write the same text with different blanks around it
(`FaultDiagnosis.Text.AlikeButBlanks`), and one of them in capitals
(`FaultDiagnosis.Text.AlikeButCase`). Trimming takes the first difference away
(`FaultDiagnosis.Text.AlikeButBlanks.trim_eq`), and lowering the second one, with an exception: the
form of a small sigma at the end of a word is chosen only where there was a capital one. So what is
left of two such texts may still differ in the forms of its small sigmas
(`FaultDiagnosis.Text.AlikeButCase.lowerCase`).
-/

namespace FaultDiagnosis.Text

/-! ### Blanks around a text -/

/-- **A text with blanks around it**, or around nothing new: the blanks may be missing, and the text
may begin and end with others. -/
def Pads (s core : String) : Prop :=
  ∃ front back : List Char, (∀ c ∈ front ++ back, isBlank c = true) ∧
    s.toList = front ++ core.toList ++ back

/-- **Two texts are alike but for blanks around them.** -/
def AlikeButBlanks (s t : String) : Prop :=
  ∃ core, Pads s core ∧ Pads t core

section Blanks

variable {α : Type} {p : α → Bool} {s t core : String}

theorem rdropWhile_append_of_pos {as bs : List α} (h : ∀ b ∈ bs, p b = true) :
    (as ++ bs).rdropWhile p = as.rdropWhile p := by
  rw [List.rdropWhile, List.rdropWhile, List.reverse_append, List.dropWhile_append_of_pos]
  exact fun b hb => h b (List.mem_reverse.mp hb)

/-- **Trimming drops the blanks that were put around a text.** -/
theorem Pads.trim_eq (h : Pads s core) : trim s = trim core := by
  obtain ⟨front, back, hblank, hs⟩ := h
  obtain ⟨hfront, hback⟩ := List.forall_mem_append.mp hblank
  refine String.toList_injective ?_
  rw [toList_trim, toList_trim, hs, List.append_assoc, List.dropWhile_append_of_pos hfront,
    List.dropWhile_append]
  split
  · rename_i hempty
    rw [List.isEmpty_iff.mp hempty, List.dropWhile_eq_nil_iff.mpr hback]
  · exact rdropWhile_append_of_pos hback

theorem Pads.refl (s : String) : Pads s s :=
  ⟨[], [], nofun, (List.append_nil _).symm⟩

theorem Pads.alike (h : Pads s t) : AlikeButBlanks s t :=
  ⟨t, h, .refl t⟩

theorem AlikeButBlanks.refl (s : String) : AlikeButBlanks s s :=
  (Pads.refl s).alike

theorem AlikeButBlanks.trim_eq (h : AlikeButBlanks s t) : trim s = trim t := by
  obtain ⟨core, hs, ht⟩ := h
  rw [hs.trim_eq, ht.trim_eq]

end Blanks

/-! ### Letters, whatever their case -/

/-- The small sigma has a form for the end of a word, which is the same letter. -/
def ordinarySigma (c : Char) : Char :=
  if c = 'ς' then 'σ' else c

/-- The letter that a character is, whatever its case. The dotted capital I counts as two. -/
def letterOf (c : Char) : List Char :=
  (lowerChar c).map ordinarySigma

/-- The letters of a text, whatever their case. -/
def letters (s : String) : List Char :=
  s.toList.flatMap letterOf

/-- **Two texts are alike but for their case** and the blanks around them. -/
def AlikeButCase (s t : String) : Prop :=
  ∃ core core', Pads s core ∧ Pads t core' ∧ letters core = letters core'

/-- **Two texts are alike but for the forms of their small sigmas.** -/
def AlikeButSigmas (s t : String) : Prop :=
  s.toList.map ordinarySigma = t.toList.map ordinarySigma

section Letters

variable {c d : Char} {s t : String}

theorem isBlank_ordinarySigma (c : Char) : isBlank (ordinarySigma c) = isBlank c := by
  rw [ordinarySigma]
  split
  · rename_i hfinal
    rw [hfinal]
    decide
  · rfl

/-- A blank has no case. -/
theorem letterOf_of_isBlank (h : isBlank c = true) : letterOf c = [c] := by
  have hdotted : c ≠ 'İ' := by
    rintro rfl
    exact absurd h (by decide)
  have hfinal : c ≠ 'ς' := by
    rintro rfl
    exact absurd h (by decide)
  have hsmall : smallForm c = c := by
    refine (smallForm_cases c).resolve_right ?_
    rintro ⟨-, r, hr, hhas, -⟩
    have hnot : isBlank c = false := not_mem_blankRanges hr hhas
    rw [hnot] at h
    cases h
  rw [letterOf, lowerChar_of_ne hdotted, hsmall, List.map_singleton, ordinarySigma, if_neg hfinal]

/-- And what is no blank has no blanks among its letters. -/
theorem isBlank_of_mem_letterOf (h : isBlank c = false) (hd : d ∈ letterOf c) :
    isBlank d = false := by
  obtain ⟨e, he, rfl⟩ := List.mem_map.mp hd
  rw [isBlank_ordinarySigma]
  by_cases hdotted : c = 'İ'
  · have htwo : lowerChar 'İ' = ['i', '\u0307'] := rfl
    rw [hdotted, htwo, List.mem_pair] at he
    rcases he with rfl | rfl
    · decide
    · decide
  · rw [lowerChar_of_ne hdotted, List.mem_singleton] at he
    rw [he, isBlank_smallForm, h]

theorem letterOf_ne_nil (c : Char) : letterOf c ≠ [] :=
  mt List.map_eq_nil_iff.mp (lowerChar_ne_nil c)

/-- **Lowering does not change the letters.** -/
theorem map_ordinarySigma_lowerFrom (before cs : List Char) :
    (lowerFrom before cs).map ordinarySigma = cs.flatMap letterOf := by
  induction cs generalizing before with
  | nil => rfl
  | cons c cs ih =>
    rw [lowerFrom, List.map_append, ih, List.flatMap_cons]
    refine congrArg (· ++ cs.flatMap letterOf) ?_
    rcases lowerCharBetween_cases before c cs with heq | ⟨rfl, heq⟩
    · rw [heq, letterOf]
    · rw [heq]
      decide

end Letters

/-! ### Trimming and letters -/

section Flat

variable {α : Type} {p : α → Bool} {f : α → List α}

/-- What is dropped goes along, and what is kept gives nothing to be dropped. -/
structure Keeps (p : α → Bool) (f : α → List α) : Prop where
  dropped : ∀ a, p a = true → f a = [a]
  kept : ∀ a, p a = false → f a ≠ [] ∧ ∀ b ∈ f a, p b = false

theorem Keeps.reverse (h : Keeps p f) : Keeps p (List.reverse ∘ f) where
  dropped a ha := by rw [Function.comp_apply, h.dropped a ha, List.reverse_singleton]
  kept a ha := by
    obtain ⟨hne, hall⟩ := h.kept a ha
    exact ⟨mt List.reverse_eq_nil_iff.mp hne, fun b hb => hall b (List.mem_reverse.mp hb)⟩

theorem Keeps.dropWhile_flatMap (h : Keeps p f) (as : List α) :
    (as.flatMap f).dropWhile p = (as.dropWhile p).flatMap f := by
  induction as with
  | nil => rfl
  | cons a as ih =>
    cases ha : p a with
    | true =>
      rw [List.flatMap_cons, h.dropped a ha, List.singleton_append, List.dropWhile_cons_of_pos ha,
        List.dropWhile_cons_of_pos ha, ih]
    | false =>
      obtain ⟨hne, hall⟩ := h.kept a ha
      obtain ⟨b, bs, hcons⟩ := List.exists_cons_of_ne_nil hne
      have hb : ¬p b = true := by
        rw [hall b (hcons ▸ List.mem_cons_self)]
        exact Bool.false_ne_true
      rw [List.dropWhile_cons_of_neg (by simp [ha]), List.flatMap_cons, hcons, List.cons_append,
        List.dropWhile_cons_of_neg hb]

theorem Keeps.rdropWhile_flatMap (h : Keeps p f) (as : List α) :
    (as.flatMap f).rdropWhile p = (as.rdropWhile p).flatMap f := by
  rw [List.rdropWhile, List.reverse_flatMap, h.reverse.dropWhile_flatMap, List.rdropWhile,
    List.flatMap_reverse]

end Flat

theorem keeps_letterOf : Keeps isBlank letterOf where
  dropped _ := letterOf_of_isBlank
  kept c hc := ⟨letterOf_ne_nil c, fun _ => isBlank_of_mem_letterOf hc⟩

theorem letters_trim (s : String) :
    letters (trim s) = ((letters s).dropWhile isBlank).rdropWhile isBlank := by
  rw [letters, toList_trim, letters, keeps_letterOf.dropWhile_flatMap,
    keeps_letterOf.rdropWhile_flatMap]

section Case

variable {s t : String}

/-- **What two texts come to that are alike but for their case**, when they are trimmed and lowered:
they are alike but for the forms of their small sigmas. -/
theorem AlikeButCase.lowerCase (h : AlikeButCase s t) :
    AlikeButSigmas (lowerCase (trim s)) (lowerCase (trim t)) := by
  obtain ⟨core, core', hs, ht, hletters⟩ := h
  have hlowered : ∀ u, (Text.lowerCase (trim u)).toList.map ordinarySigma = letters (trim u) :=
    fun u => by rw [toList_lowerCase, map_ordinarySigma_lowerFrom, letters]
  rw [AlikeButSigmas, hlowered, hlowered, hs.trim_eq, ht.trim_eq, letters_trim, hletters,
    ← letters_trim]

/-- Texts without small sigmas are alike to no others. -/
theorem eq_of_map_ordinarySigma_eq {cs ds : List Char}
    (h : cs.map ordinarySigma = ds.map ordinarySigma) (hd : 'σ' ∉ ds) (hd' : 'ς' ∉ ds) :
    cs = ds := by
  induction ds generalizing cs with
  | nil => exact List.map_eq_nil_iff.mp h
  | cons d ds ih =>
    obtain ⟨c, cs', rfl, hc, hcs⟩ := List.map_eq_cons_iff.mp h
    obtain ⟨hne, hds⟩ := not_or.mp (mt List.mem_cons.mpr hd)
    obtain ⟨hne', hds'⟩ := not_or.mp (mt List.mem_cons.mpr hd')
    rw [ordinarySigma, ordinarySigma, if_neg (Ne.symm hne')] at hc
    split at hc
    · exact absurd hc hne
    · rw [hc, ih hcs hds hds']

/-- So it does not matter which of two texts is compared with such a text. -/
theorem AlikeButSigmas.eq_iff {u : String} (h : AlikeButSigmas s t) (hu : 'σ' ∉ u.toList)
    (hu' : 'ς' ∉ u.toList) : s = u ↔ t = u := by
  constructor
  · rintro rfl
    exact String.toList_injective (eq_of_map_ordinarySigma_eq (Eq.symm h) hu hu')
  · rintro rfl
    exact String.toList_injective (eq_of_map_ordinarySigma_eq h hu hu')

end Case

end FaultDiagnosis.Text
