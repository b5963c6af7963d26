import FaultDiagnosis.Proofs.Contribution.Acceptable
import FaultDiagnosis.Proofs.Text.Lowered

/-!
# Identifiers derived from labels

An identifier is derived from a label by taking the words of the label in lower case and joining
them. It could be expected that deriving comes to an end there, so that the words of the identifier
are words again and that the same identifier is derived from them. As the label is taken apart
before it is lowered, this hangs on what lowering makes of letters and numbers. They stay what they
are, but for the dotted capital I, whose dot becomes a character that belongs to no word. So it is
this letter that decides (`FaultDiagnosis.deriveId_canonical`).
-/

namespace FaultDiagnosis

variable {W : Type}

/-! ### Words -/

/-- **A word**: some letters and numbers, and nothing else. -/
structure IsWord (w : String) : Prop where
  nonempty : w ≠ ""
  alphanumeric : ∀ c ∈ w.toList, Text.isAlphanumeric c = true

section Words

variable {text w : String} {c : Char}

/-- The characters of a stretch are all of one kind. -/
theorem isAlphanumeric_of_mem_stretch {stretch : List Char}
    (hstretch : stretch ∈
      text.toList.splitBy fun a b => Text.isAlphanumeric a == Text.isAlphanumeric b)
    (hany : stretch.any Text.isAlphanumeric = true) (hc : c ∈ stretch) :
    Text.isAlphanumeric c = true := by
  have hchain : (stretch.map Text.isAlphanumeric).IsChain (· = ·) := by
    rw [List.isChain_map]
    exact (List.isChain_of_mem_splitBy hstretch).imp fun _ _ => beq_iff_eq.mp
  obtain ⟨d, hd, halnum⟩ := List.any_eq_true.mp hany
  obtain ⟨first, rest, hcons⟩ := List.exists_cons_of_ne_nil (List.ne_nil_of_mem hd)
  have hfirst : Text.isAlphanumeric first ∈ (stretch.map Text.isAlphanumeric).head? := by
    rw [hcons, List.map_cons, List.head?_cons, Option.mem_some_iff]
  have hsame := List.isChain_eq_iff_eq_replicate.mp hchain _ hfirst
  obtain ⟨-, hsame⟩ := List.eq_replicate_iff.mp hsame
  rw [hsame _ (List.mem_map_of_mem hc), ← hsame _ (List.mem_map_of_mem hd), halnum]

theorem isWord_of_mem_words (hw : w ∈ words text) : IsWord w := by
  obtain ⟨stretch, hstretch, rfl⟩ := List.mem_map.mp hw
  obtain ⟨hstretch, hany⟩ := List.mem_filter.mp hstretch
  refine ⟨fun hempty => ?_, fun c hc => ?_⟩
  · exact List.ne_nil_of_mem_splitBy hstretch (String.ofList_eq_empty_iff.mp hempty)
  · rw [String.toList_ofList] at hc
    exact isAlphanumeric_of_mem_stretch hstretch hany hc

/-- The letters and numbers of a text are those of its words. -/
theorem exists_mem_words_iff (hc : Text.isAlphanumeric c = true) :
    (∃ w ∈ words text, c ∈ w.toList) ↔ c ∈ text.toList := by
  have hstretches := List.flatten_splitBy
    (fun a b => Text.isAlphanumeric a == Text.isAlphanumeric b) text.toList
  constructor
  · rintro ⟨w, hw, hcw⟩
    obtain ⟨stretch, hstretch, rfl⟩ := List.mem_map.mp hw
    rw [String.toList_ofList] at hcw
    rw [← hstretches, List.mem_flatten]
    exact ⟨stretch, (List.mem_filter.mp hstretch).1, hcw⟩
  · intro hmem
    rw [← hstretches, List.mem_flatten] at hmem
    obtain ⟨stretch, hstretch, hcw⟩ := hmem
    have hany : stretch.any Text.isAlphanumeric = true := List.any_eq_true.mpr ⟨c, hcw, hc⟩
    refine ⟨String.ofList stretch, ?_, ?_⟩
    · exact List.mem_map_of_mem (List.mem_filter.mpr ⟨hstretch, hany⟩)
    · rwa [String.toList_ofList]

end Words

/-! ### Joined words -/

section Joined

variable {w : String} {ws : List String} {c : Char}

/-- What is in a joined text, other than what joins it, is in what was joined. -/
theorem mem_intercalate_iff (hc : c ≠ '_') :
    c ∈ ("_".intercalate ws).toList ↔ ∃ w ∈ ws, c ∈ w.toList := by
  have hjoin : c ∉ "_".toList := by simpa using hc
  induction ws with
  | nil => simp
  | cons w ws ih =>
    cases ws with
    | nil => simp
    | cons w' ws =>
      simp only [String.intercalate_cons_cons, String.toList_append, List.mem_append, ih, hjoin,
        or_false, List.exists_mem_cons_iff]

/-- A single word is a stretch of its own. -/
theorem splitBy_of_isWord (hw : IsWord w) :
    (w.toList.splitBy fun a b => Text.isAlphanumeric a == Text.isAlphanumeric b) = [w.toList] := by
  refine List.splitBy_of_isChain (mt String.toList_eq_nil_iff.mp hw.nonempty) ?_
  refine (List.pairwise_of_forall_mem_list fun a ha b hb => ?_).isChain
  rw [beq_iff_eq, hw.alphanumeric a ha, hw.alphanumeric b hb]

theorem IsWord.any (hw : IsWord w) : w.toList.any Text.isAlphanumeric = true := by
  obtain ⟨c, hc⟩ := List.exists_mem_of_ne_nil _ (mt String.toList_eq_nil_iff.mp hw.nonempty)
  exact List.any_eq_true.mpr ⟨c, hc, hw.alphanumeric c hc⟩

theorem words_of_isWord (hw : IsWord w) : words w = [w] := by
  rw [words, splitBy_of_isWord hw, List.filter_singleton, hw.any, cond_true, List.map_singleton,
    String.ofList_toList]

/-- What joins words is in none of them. -/
theorem join_not_alphanumeric : Text.isAlphanumeric '_' = false := by
  decide +kernel

/-- A word is cut off from what is joined to it, if this begins with a letter or a number too. -/
theorem words_append {rest : String} (hw : IsWord w)
    (hrest : ∀ c ∈ rest.toList.head?, Text.isAlphanumeric c = true) :
    words (w ++ "_" ++ rest) = w :: words rest := by
  have htext : (w ++ "_" ++ rest).toList = w.toList ++ '_' :: rest.toList := by
    rw [String.toList_append, String.toList_append, List.append_assoc]
    rfl
  have hcut : ∀ c ∈ w.toList.getLast?,
      (Text.isAlphanumeric c == Text.isAlphanumeric '_') = false := fun c hc => by
    rw [hw.alphanumeric c (List.mem_of_mem_getLast? hc), join_not_alphanumeric]
    rfl
  have hcut' : ∀ a ∈ ['_'].getLast?, ∀ c ∈ rest.toList.head?,
      (Text.isAlphanumeric a == Text.isAlphanumeric c) = false := fun a ha c hc => by
    obtain rfl : '_' = a := Option.mem_some_iff.mp ha
    rw [join_not_alphanumeric, hrest c hc]
    rfl
  rw [words, htext, List.splitBy_append_cons _ hcut, splitBy_of_isWord hw,
    ← List.singleton_append (x := '_'), List.splitBy_append hcut']
  have hgap : ['_'].any Text.isAlphanumeric = false := by
    rw [List.any_cons, join_not_alphanumeric]
    rfl
  rw [List.splitBy_of_isChain (List.cons_ne_nil _ _) (List.isChain_singleton _),
    List.filter_append, List.filter_append, List.filter_singleton, List.filter_singleton, hw.any,
    hgap, cond_true, cond_false, List.nil_append, List.singleton_append, List.map_cons,
    String.ofList_toList]
  rfl

/-- **Joining words does not change them.** -/
theorem words_intercalate (hws : ∀ w ∈ ws, IsWord w) : words ("_".intercalate ws) = ws := by
  induction ws with
  | nil => rfl
  | cons w ws ih =>
    obtain ⟨hw, hws⟩ := List.forall_mem_cons.mp hws
    cases ws with
    | nil => exact words_of_isWord hw
    | cons w' ws =>
      have hw' := hws w' List.mem_cons_self
      have hrest : "_".intercalate (w' :: ws) = w' ++ "_".intercalate ("" :: ws) := by
        rw [← String.intercalate_cons_append, String.append_empty]
      rw [String.intercalate_cons_cons, words_append hw, ih hws]
      intro c hc
      rw [hrest, String.toList_append,
        List.head?_append_of_ne_nil _ (mt String.toList_eq_nil_iff.mp hw'.nonempty)] at hc
      exact hw'.alphanumeric c (List.mem_of_mem_head? hc)

end Joined

/-! ### Words in lower case -/

section Lowered

variable {w : String} {c : Char}

theorem dot_not_alphanumeric : ¬Text.isAlphanumeric '\u0307' = true := by
  decide +kernel

/-- What is in a lowered word: letters, numbers, and the dots that capitals have left behind. -/
theorem isAlphanumeric_of_mem_lowerCase (hw : IsWord w) (hc : c ∈ (Text.lowerCase w).toList) :
    Text.isAlphanumeric c = true ∨ 'İ' ∈ w.toList ∧ c = '\u0307' := by
  rw [Text.toList_lowerCase] at hc
  exact Text.isAlphanumeric_of_mem_lowerFrom hw.alphanumeric hc

theorem lowerCase_ne_empty (hw : w ≠ "") : Text.lowerCase w ≠ "" := by
  rw [Ne, ← String.toList_eq_nil_iff, Text.toList_lowerCase, Text.lowerFrom_eq_nil_iff,
    String.toList_eq_nil_iff]
  exact hw

theorem dot_mem_lowerCase_iff (hw : IsWord w) :
    '\u0307' ∈ (Text.lowerCase w).toList ↔ 'İ' ∈ w.toList := by
  constructor
  · intro hdot
    rcases isAlphanumeric_of_mem_lowerCase hw hdot with halnum | ⟨hdotted, -⟩
    · exact absurd halnum dot_not_alphanumeric
    · exact hdotted
  · intro hdotted
    rw [Text.toList_lowerCase]
    exact Text.dot_mem_lowerFrom hdotted []

/-- **A lowered word is a word again**, unless the word has a dotted capital I. -/
theorem isWord_lowerCase_iff (hw : IsWord w) : IsWord (Text.lowerCase w) ↔ 'İ' ∉ w.toList := by
  constructor
  · intro h hdotted
    have hdot := (dot_mem_lowerCase_iff hw).mpr hdotted
    exact dot_not_alphanumeric (h.alphanumeric _ hdot)
  · intro hdotted
    refine ⟨lowerCase_ne_empty hw.nonempty, fun c hc => ?_⟩
    exact (isAlphanumeric_of_mem_lowerCase hw hc).resolve_right fun h => hdotted h.1

theorem join_not_mem_lowerCase (hw : IsWord w) : '_' ∉ (Text.lowerCase w).toList := by
  intro h
  rcases isAlphanumeric_of_mem_lowerCase hw h with halnum | ⟨-, hdot⟩
  · rw [join_not_alphanumeric] at halnum
    cases halnum
  · exact absurd hdot (by decide)

end Lowered

/-! ### Derived identifiers -/

section Derived

variable {label : String}

/-- The words of an identifier derived from the label. -/
def idWords (label : String) : List String :=
  (words label).map Text.lowerCase

theorem derivedId_eq (label : String) :
    derivedId label = "user_" ++ "_".intercalate (idWords label) :=
  rfl

theorem isAlphanumeric_dotted : Text.isAlphanumeric 'İ' = true := by
  decide +kernel

/-- **The words of the identifier are words**, unless the label has a dotted capital I. -/
theorem forall_isWord_idWords_iff :
    (∀ w ∈ idWords label, IsWord w) ↔ 'İ' ∉ label.toList := by
  rw [← exists_mem_words_iff isAlphanumeric_dotted, idWords, List.forall_mem_map]
  constructor
  · rintro h ⟨w, hw, hdotted⟩
    exact (isWord_lowerCase_iff (isWord_of_mem_words hw)).mp (h w hw) hdotted
  · intro h w hw
    exact (isWord_lowerCase_iff (isWord_of_mem_words hw)).mpr fun hdotted => h ⟨w, hw, hdotted⟩

/-- The dots in an identifier come from the capitals in the label. -/
theorem dot_mem_derivedId_iff : '\u0307' ∈ (derivedId label).toList ↔ 'İ' ∈ label.toList := by
  have hstart : '\u0307' ∉ "user_".toList := by decide
  rw [derivedId_eq, String.toList_append, List.mem_append, or_iff_right hstart,
    mem_intercalate_iff (by decide), ← exists_mem_words_iff isAlphanumeric_dotted, idWords]
  simp only [List.mem_map, exists_exists_and_eq_and]
  exact exists_congr fun w => and_congr_right fun hw =>
    dot_mem_lowerCase_iff (isWord_of_mem_words hw)

/-- No identifier has a dotted capital I in its words, as these are in lower case. -/
theorem dotted_not_mem_intercalate : 'İ' ∉ ("_".intercalate (idWords label)).toList := by
  rw [mem_intercalate_iff (by decide)]
  rintro ⟨w, hw, hdotted⟩
  obtain ⟨w, -, rfl⟩ := List.mem_map.mp hw
  rw [Text.toList_lowerCase] at hdotted
  exact (Text.isSmall_of_mem_lowerFrom hdotted).ne_dotted rfl

theorem idWords_ne_nil (h : ∃ c ∈ label.toList, Text.isAlphanumeric c = true) :
    idWords label ≠ [] :=
  mt List.map_eq_nil_iff.mp fun hnil => words_eq_nil_iff.mp hnil h

/-- **From the words of an identifier the same identifier is derived**, unless the label has a
dotted capital I. -/
theorem deriveId_intercalate_iff (h : ∃ c ∈ label.toList, Text.isAlphanumeric c = true) :
    deriveId (W := W) ("_".intercalate (idWords label)) = .ok (derivedId label) ↔
      'İ' ∉ label.toList := by
  rw [deriveId_eq_ok_iff]
  constructor
  · -- the dots that the capitals have left behind are not derived again
    rintro ⟨-, hsame⟩ hdotted
    have hdot := dot_mem_derivedId_iff.mpr hdotted
    rw [hsame, dot_mem_derivedId_iff] at hdot
    exact dotted_not_mem_intercalate hdot
  · intro hdotted
    have hwords : words ("_".intercalate (idWords label)) = idWords label :=
      words_intercalate (forall_isWord_idWords_iff.mpr hdotted)
    have hlower : (idWords label).map Text.lowerCase = idWords label := by
      have htwice : Text.lowerCase ∘ Text.lowerCase = Text.lowerCase :=
        funext Text.lowerCase_lowerCase
      rw [idWords, List.map_map, htwice]
    refine ⟨?_, ?_⟩
    · have hsome : words ("_".intercalate (idWords label)) ≠ [] := by
        rw [hwords]
        exact idWords_ne_nil h
      exact not_not.mp (mt words_eq_nil_iff.mpr hsome)
    · rw [derivedId, derivedId, hwords, hlower]
      rfl

/-- **Derived identifiers are in canonical form unless the label has a dotted capital I.** From a
label an identifier can be derived exactly if there is a letter or a number in it. The identifier is
`user_` and some words joined by single underscores. These are not empty and have no underscores, so
they can be told apart; they consist of letters and numbers, and the same identifier is derived from
them, exactly if there is no dotted capital I in the label. -/
theorem deriveId_canonical (label : String) :
    ((∃ id, deriveId (W := W) label = .ok id) ↔
        ∃ c ∈ label.toList, Text.isAlphanumeric c = true) ∧
      ∀ id, deriveId (W := W) label = .ok id → ∃ ws : List String,
        id = "user_" ++ "_".intercalate ws ∧ ws ≠ [] ∧
        (∀ w ∈ ws, w ≠ "" ∧ '_' ∉ w.toList) ∧
        ((∀ w ∈ ws, ∀ c ∈ w.toList, Text.isAlphanumeric c = true) ↔ 'İ' ∉ label.toList) ∧
        (deriveId (W := W) ("_".intercalate ws) = .ok id ↔ 'İ' ∉ label.toList) := by
  constructor
  · simp only [deriveId_eq_ok_iff, exists_and_left, exists_eq, and_true]
  · intro id hid
    obtain ⟨hsome, rfl⟩ := deriveId_eq_ok_iff.mp hid
    have hparts : ∀ w ∈ idWords label, w ≠ "" ∧ '_' ∉ w.toList := by
      refine List.forall_mem_map.mpr fun w hw => ?_
      have hword := isWord_of_mem_words hw
      exact ⟨lowerCase_ne_empty hword.nonempty, join_not_mem_lowerCase hword⟩
    refine ⟨idWords label, rfl, idWords_ne_nil hsome, hparts, ?_, deriveId_intercalate_iff hsome⟩
    rw [← forall_isWord_idWords_iff]
    exact forall₂_congr fun w hw =>
      ⟨fun halnum => ⟨(hparts w hw).1, halnum⟩, IsWord.alphanumeric⟩

/-- **The dot of a dotted capital I is no part of a word.** It is in the identifier, and when the
identifier is taken apart again it divides a word in two. -/
theorem derived_dot_divides :
    deriveId (W := ℕ) "İstanbul" = .ok "user_i\u0307stanbul" ∧
      Text.isAlphanumeric '\u0307' = false ∧
      deriveId (W := ℕ) "i\u0307stanbul" = .ok "user_i_stanbul" := by
  decide +kernel

end Derived

end FaultDiagnosis
