import FaultDiagnosis.Proofs.Json.Glued

/-!
# A blank behind a text

A blank at the end of a text makes no difference to what is read of it, whether the text is JSON or
not (`FaultDiagnosis.Json.Reading.ofText_append_blank`). For a text with a value in it this is
because blanks may follow a value. The point is the other texts: nothing that breaks off at the end
is completed by a blank. A number is ended by it as by the end of the text, and it is no part of a
word, of an escape or of a mark; inside a quoted text it may be one more character, but the closing
mark is still missing.

So the reader does the same on the longer text, step by step, and leaves the blank over
(`FaultDiagnosis.Json.Reading.value_append_blank`). It is allowed more steps there. To see that they
are not needed, what is left of a text has to be shorter than the text
(`FaultDiagnosis.Json.Reading.value_suffix`).
-/

namespace FaultDiagnosis.Json.Reading

variable {fuel : Nat} {cs rest : List Char}

/-! ### What is left over is the end of the text -/

theorem skipBlanks_suffix (cs : List Char) : skipBlanks cs <:+ cs :=
  List.dropWhile_suffix _

/-- What follows the first character that is not blank is shorter than the text. -/
theorem length_lt_of_skipBlanks {c : Char} (h : skipBlanks cs = c :: rest) :
    rest.length < cs.length := by
  have hlength := (skipBlanks_suffix cs).length_le
  rwa [h, List.length_cons] at hlength

theorem suffix_of_skipBlanks {c : Char} (h : skipBlanks cs = c :: rest) : rest <:+ cs :=
  (List.suffix_cons c rest).trans (h ▸ skipBlanks_suffix cs)

theorem Passes.suffix (h : Passes cs rest) : rest <:+ cs := by
  obtain ⟨letters, -, heq⟩ := h
  exact ⟨letters, heq.symm⟩

theorem stringBody_suffix {read units : List TextUnit}
    (h : stringBody read cs = some (units, rest)) : rest <:+ cs := by
  fun_induction stringBody read cs with
  | case2 read tail =>
    obtain ⟨-, rfl⟩ := Prod.mk.inj (Option.some.inj h)
    exact List.suffix_cons _ _
  | case4 read a b c d tail n hunit ih => exact (ih h).trans ⟨['\\', 'u', a, b, c, d], rfl⟩
  | case6 read c tail _ e hescape ih => exact (ih h).trans ⟨['\\', c], rfl⟩
  | case8 read c tail _ _ _ _ ih => exact (ih h).trans (List.suffix_cons c tail)
  | _ => simp at h

theorem quotedText_suffix {s : Option String} (h : quotedText cs = some (s, rest)) :
    rest <:+ cs := by
  rw [quotedText] at h
  split at h
  · simp at h
  · next hbody =>
    obtain ⟨-, rfl⟩ := Prod.mk.inj (Option.some.inj h)
    exact stringBody_suffix hbody

/-- **What is left of a text is its end**, after any number of steps: by values, by items and by
members alike. -/
theorem suffix_induction (fuel : Nat) :
    (∀ cs v rest, value fuel cs = (v, some rest) → rest <:+ cs) ∧
      (∀ cs vs rest, items fuel cs = (vs, some rest) → rest <:+ cs) ∧
      ∀ cs ms rest, members fuel cs = (ms, some rest) → rest <:+ cs := by
  induction fuel with
  | zero =>
    refine ⟨fun cs v rest h => ?_, fun cs vs rest h => ?_, fun cs ms rest h => ?_⟩
    · simp [value] at h
    · simp [items] at h
    · simp [members] at h
  | succ fuel ih =>
    obtain ⟨hvalue, hitems, hmembers⟩ := ih
    refine ⟨fun cs v rest h => ?_, fun cs vs rest h => ?_, fun cs ms rest h => ?_⟩
    · obtain ⟨c, tail, hskip, hread⟩ := value_eq_some h
      have htail := suffix_of_skipBlanks hskip
      cases hread with
      | text hquoted => exact (quotedText_suffix hquoted).trans htail
      | emptyArray hclose => exact (suffix_of_skipBlanks hclose).trans htail
      | array hread => exact (hitems _ _ _ hread).trans ((skipBlanks_suffix _).trans htail)
      | emptyObject hclose => exact (suffix_of_skipBlanks hclose).trans htail
      | object hread => exact (hmembers _ _ _ hread).trans ((skipBlanks_suffix _).trans htail)
      | word _ hletters => exact List.IsSuffix.trans ⟨_, hletters.symm⟩ htail
      | number hnumeral =>
        exact (passes_of_numeral hnumeral).suffix.trans (hskip ▸ skipBlanks_suffix cs)
    · obtain ⟨v, tail, hv, ⟨more, vs', hcomma, hread⟩ | hclose⟩ := items_eq_some h
      · exact (hitems _ _ _ hread).trans ((suffix_of_skipBlanks hcomma).trans (hvalue _ _ _ hv))
      · exact (suffix_of_skipBlanks hclose).trans (hvalue _ _ _ hv)
    · obtain ⟨quoted, key, keyTail, colonTail, v, tail, hquote, hkey, hcolon, hv, hnext⟩ :=
        members_eq_some h
      have htail : tail <:+ cs := (hvalue _ _ _ hv).trans <| (suffix_of_skipBlanks hcolon).trans <|
        (quotedText_suffix hkey).trans (suffix_of_skipBlanks hquote)
      rcases hnext with ⟨more, ms', hcomma, hread⟩ | hclose
      · exact (hmembers _ _ _ hread).trans ((suffix_of_skipBlanks hcomma).trans htail)
      · exact (suffix_of_skipBlanks hclose).trans htail

theorem value_suffix {v : Reading} (h : value fuel cs = (v, some rest)) : rest <:+ cs :=
  (suffix_induction fuel).1 cs v rest h

/-! ### Steps to spare -/

/-- With so many steps, one more changes nothing about a value. -/
def ValueSettled (fuel : Nat) : Prop :=
  ∀ cs : List Char, 2 * cs.length ≤ fuel → value (fuel + 1) cs = value fuel cs

/-- With so many steps, one more changes nothing about items. -/
def ItemsSettled (fuel : Nat) : Prop :=
  ∀ cs : List Char, 2 * cs.length + 1 ≤ fuel → items (fuel + 1) cs = items fuel cs

/-- With so many steps, one more changes nothing about members. -/
def MembersSettled (fuel : Nat) : Prop :=
  ∀ cs : List Char, 2 * cs.length + 1 ≤ fuel → members (fuel + 1) cs = members fuel cs

theorem valueSettled_succ (hitems : ItemsSettled fuel) (hmembers : MembersSettled fuel) :
    ValueSettled (fuel + 1) := by
  intro cs hfuel
  cases hskip : skipBlanks cs with
  | nil => rw [value, value, hskip]
  | cons c tail =>
    -- an array or object has at least one character less to be read with one step less
    have hlength : 2 * (skipBlanks tail).length + 1 ≤ fuel := by
      have hless := length_lt_of_skipBlanks hskip
      have hle := (skipBlanks_suffix tail).length_le
      omega
    have hi := hitems _ hlength
    have hm := hmembers _ hlength
    rw [value, value, hskip]
    simp only
    generalize skipBlanks tail = inner at hi hm
    split
    · rfl
    · split
      · rfl
      · rw [hi]
    · split
      · rfl
      · rw [hm]
    all_goals rfl

theorem itemsSettled_succ (hvalue : ValueSettled fuel) (hitems : ItemsSettled fuel) :
    ItemsSettled (fuel + 1) := by
  intro cs hfuel
  rw [items, items, hvalue cs (by omega)]
  rcases hv : value fuel cs with ⟨v, _ | tail⟩
  · rfl
  · simp only
    split
    · next more hcomma =>
      have hless := length_lt_of_skipBlanks hcomma
      have hle := (value_suffix hv).length_le
      rw [hitems more (by omega)]
    · rfl
    · rfl

theorem membersSettled_succ (hvalue : ValueSettled fuel) (hmembers : MembersSettled fuel) :
    MembersSettled (fuel + 1) := by
  intro cs hfuel
  rw [members, members]
  split
  · next quoted hquote =>
    split
    · rfl
    · next key keyTail hkey =>
      split
      · next colonTail hcolon =>
        have hquoted := length_lt_of_skipBlanks hquote
        have hkeyTail := (quotedText_suffix hkey).length_le
        have hcolonTail := length_lt_of_skipBlanks hcolon
        rw [hvalue colonTail (by omega)]
        rcases hv : value fuel colonTail with ⟨v, _ | tail⟩
        · rfl
        · simp only
          split
          · next more hcomma =>
            have hless := length_lt_of_skipBlanks hcomma
            have hle := (value_suffix hv).length_le
            rw [hmembers more (by omega)]
          · rfl
          · rfl
      · rfl
  · rfl

theorem settled_induction (fuel : Nat) :
    ValueSettled fuel ∧ ItemsSettled fuel ∧ MembersSettled fuel := by
  induction fuel with
  | zero =>
    refine ⟨fun cs h => ?_, fun cs h => absurd h (by omega), fun cs h => absurd h (by omega)⟩
    obtain rfl : cs = [] := List.length_eq_zero_iff.mp (by omega)
    rfl
  | succ fuel ih =>
    obtain ⟨hvalue, hitems, hmembers⟩ := ih
    exact ⟨valueSettled_succ hitems hmembers, itemsSettled_succ hvalue hitems,
      membersSettled_succ hvalue hmembers⟩

/-- **Two steps per character are enough**: more of them change nothing. -/
theorem value_add (h : 2 * cs.length ≤ fuel) (spare : Nat) :
    value (fuel + spare) cs = value fuel cs := by
  induction spare with
  | zero => rfl
  | succ spare ih =>
    rw [← ih]
    exact (settled_induction (fuel + spare)).1 cs (by omega)

/-! ### Tokens with a blank behind them -/

/-- What was read, and one more character that is left over. -/
def leaving {α : Type} (b : Char) (p : α × List Char) : α × List Char :=
  (p.1, p.2 ++ [b])

/-- What was read, where one more character is left over unless the text broke off. -/
def keeping {α : Type} (b : Char) (p : α × Option (List Char)) : α × Option (List Char) :=
  (p.1, p.2.map (· ++ [b]))

theorem isBlank_cases {b : Char} (hb : isBlank b = true) :
    b = ' ' ∨ b = '\t' ∨ b = '\n' ∨ b = '\r' := by
  simpa only [isBlank, Bool.or_eq_true, decide_eq_true_eq, or_assoc] using hb

section Blank

variable {b : Char} (hb : isBlank b = true)

include hb

theorem ofChar?_of_isBlank : Digit.ofChar? b = none := by
  rcases isBlank_cases hb with rfl | rfl | rfl | rfl
  all_goals decide

theorem takeDigits_append_blank (cs : List Char) :
    Digit.takeDigits (cs ++ [b]) = leaving b (Digit.takeDigits cs) := by
  induction cs with
  | nil =>
    simp only [List.nil_append, Digit.takeDigits, ofChar?_of_isBlank hb]
    rfl
  | cons c cs ih =>
    rw [List.cons_append, Digit.takeDigits, Digit.takeDigits, ih]
    cases Digit.ofChar? c with
    | none => rfl
    | some d => rfl

theorem wholePart_append_blank (cs : List Char) :
    wholePart (cs ++ [b]) = (wholePart cs).map (leaving b) := by
  rw [wholePart, wholePart, takeDigits_append_blank hb]
  cases Digit.takeDigits cs with
  | mk ds rest =>
    cases ds with
    | nil => rfl
    | cons d ds =>
      simp only [leaving]
      split
      · rfl
      · rfl

theorem fractionPart_append_blank (cs : List Char) :
    fractionPart (cs ++ [b]) = (fractionPart cs).map (leaving b) := by
  cases cs with
  | nil =>
    rcases isBlank_cases hb with rfl | rfl | rfl | rfl
    all_goals rfl
  | cons c cs =>
    by_cases hc : c = '.'
    · subst hc
      simp only [List.cons_append, fractionPart, takeDigits_append_blank hb]
      cases Digit.takeDigits cs with
      | mk ds rest =>
        cases ds with
        | nil => rfl
        | cons d ds => rfl
    · -- without a point there is no fraction
      have hnone : ∀ cs, fractionPart (c :: cs) = some ([], c :: cs) := by
        intro cs
        rw [fractionPart]
        intro cs' heq
        exact hc (List.cons.inj heq).1
      rw [List.cons_append, hnone, hnone]
      rfl

theorem exponentDigits_append_blank (negative : Bool) (cs : List Char) :
    exponentDigits negative (cs ++ [b]) = (exponentDigits negative cs).map (leaving b) := by
  rw [exponentDigits, exponentDigits, takeDigits_append_blank hb]
  cases Digit.takeDigits cs with
  | mk ds rest =>
    cases ds with
    | nil => rfl
    | cons d ds => rfl

theorem exponentPart_append_blank (cs : List Char) :
    exponentPart (cs ++ [b]) = (exponentPart cs).map (leaving b) := by
  cases cs with
  | nil =>
    rcases isBlank_cases hb with rfl | rfl | rfl | rfl
    all_goals rfl
  | cons c cs =>
    rw [List.cons_append, exponentPart.eq_def (c :: (cs ++ [b])), exponentPart.eq_def (c :: cs)]
    simp only
    split
    · cases cs with
      | nil =>
        rcases isBlank_cases hb with rfl | rfl | rfl | rfl
        all_goals rfl
      | cons sign cs =>
        rw [List.cons_append]
        split
        · next heq =>
          obtain ⟨rfl, rfl⟩ := List.cons.inj heq
          exact exponentDigits_append_blank hb true cs
        · next heq =>
          obtain ⟨rfl, rfl⟩ := List.cons.inj heq
          exact exponentDigits_append_blank hb false cs
        · next hminus hplus =>
          split
          · next heq =>
            obtain ⟨rfl, rfl⟩ := List.cons.inj heq
            exact absurd rfl (hminus _)
          · next heq =>
            obtain ⟨rfl, rfl⟩ := List.cons.inj heq
            exact absurd rfl (hplus _)
          · exact exponentDigits_append_blank hb false (sign :: cs)
    · rfl

theorem unsignedNumeral_append_blank (negative : Bool) (cs : List Char) :
    unsignedNumeral negative (cs ++ [b]) = (unsignedNumeral negative cs).map (leaving b) := by
  rw [unsignedNumeral, unsignedNumeral, wholePart_append_blank hb]
  cases wholePart cs with
  | none => rfl
  | some whole =>
    simp only [Option.map_some, Option.bind_eq_bind, Option.bind_some, leaving,
      fractionPart_append_blank hb]
    cases fractionPart whole.2 with
    | none => rfl
    | some fraction =>
      simp only [Option.map_some, Option.bind_some, leaving, exponentPart_append_blank hb]
      cases exponentPart fraction.2 with
      | none => rfl
      | some exponent => rfl

/-- **A number is ended by a blank as by the end of the text.** -/
theorem numeral_append_blank (cs : List Char) :
    numeral (cs ++ [b]) = (numeral cs).map (leaving b) := by
  cases cs with
  | nil =>
    rcases isBlank_cases hb with rfl | rfl | rfl | rfl
    all_goals rfl
  | cons c cs =>
    by_cases hc : c = '-'
    · subst hc
      exact unsignedNumeral_append_blank hb true cs
    · have hplain : ∀ cs, numeral (c :: cs) = unsignedNumeral false (c :: cs) := by
        intro cs
        rw [numeral]
        intro cs' heq
        exact hc (List.cons.inj heq).1
      rw [List.cons_append, hplain, hplain]
      exact unsignedNumeral_append_blank hb false (c :: cs)

theorem hexUnit?_of_isBlank (x y z : Char) : hexUnit? x y z b = none := by
  have hvalue : hexValue? b = none := by
    rcases isBlank_cases hb with rfl | rfl | rfl | rfl
    all_goals rfl
  simp only [hexUnit?, hvalue, Option.bind_eq_bind, Option.bind_none, Option.bind_fun_none]

theorem escapeChar?_of_isBlank : escapeChar? b = none := by
  rcases isBlank_cases hb with rfl | rfl | rfl | rfl
  all_goals rfl

omit hb in
/-- A letter that is no escape ends the reading of a text, unless it starts an escape of four
digits. -/
theorem stringBody_of_escape_eq_none {c : Char} (read : List TextUnit) {tail : List Char}
    (hc : escapeChar? c = none)
    (hunit : ∀ x y z w more, c = 'u' → tail = x :: y :: z :: w :: more → hexUnit? x y z w = none) :
    stringBody read ('\\' :: c :: tail) = none := by
  rw [stringBody.eq_def]
  split
  · rfl
  · next heq => cases heq
  · next heq =>
    obtain ⟨rfl, rfl⟩ := List.cons.inj (List.cons.inj heq).2
    rw [hunit _ _ _ _ _ rfl rfl]
  · next heq =>
    obtain ⟨rfl, rfl⟩ := List.cons.inj (List.cons.inj heq).2
    rw [hc]
  · next hmore heq =>
    obtain ⟨rfl, rfl⟩ := List.cons.inj heq
    exact absurd rfl (hmore _ _ rfl)

/-- **A quoted text is not ended by a blank**: what lacks its closing mark, or the rest of an
escape, still lacks it. -/
theorem stringBody_append_blank (read : List TextUnit) (cs : List Char) :
    stringBody read (cs ++ [b]) = (stringBody read cs).map (leaving b) := by
  fun_induction stringBody read cs with
  | case1 read =>
    rcases isBlank_cases hb with rfl | rfl | rfl | rfl
    all_goals rfl
  | case2 read tail => rfl
  | case3 read x y z w tail hunit =>
    simp only [List.cons_append, stringBody, hunit]
    rfl
  | case4 read x y z w tail n hunit ih =>
    simp only [List.cons_append, stringBody, hunit]
    exact ih
  | case5 read c tail hshort hnone =>
    refine stringBody_of_escape_eq_none read hnone fun x y z w more hc htail => ?_
    rcases List.eq_nil_or_concat more with rfl | ⟨front, last, rfl⟩
    · -- there were three digits before, and the fourth is the blank
      have hfour : tail ++ [b] = [x, y, z] ++ [w] := htail
      have hw := (List.append_inj' hfour rfl).2
      rw [← (List.cons.inj hw).1]
      exact hexUnit?_of_isBlank hb x y z
    · rw [List.concat_eq_append] at htail
      have hfour : tail = x :: y :: z :: w :: front := List.append_inj_left' htail rfl
      exact absurd hfour (hshort _ _ _ _ _ hc)
  | case6 read c tail hshort e hsome ih =>
    have hstep : ∀ cs, stringBody read ('\\' :: c :: cs) = stringBody (.char e :: read) cs := by
      intro cs
      rw [stringBody, hsome]
      rintro _ _ _ _ _ rfl
      cases hsome
    rw [List.cons_append, List.cons_append, hstep]
    exact ih
  | case7 read c tail hquote hunit hescape hsmall =>
    by_cases hbackslash : c = '\\'
    · subst hbackslash
      exact absurd hsmall (by decide)
    · rw [List.cons_append, stringBody_cons read hquote hbackslash, if_pos hsmall]
      rfl
  | case8 read c tail hquote hunit hescape hlarge ih =>
    by_cases hbackslash : c = '\\'
    · subst hbackslash
      cases tail with
      | nil => exact stringBody_of_escape_eq_none read (escapeChar?_of_isBlank hb) (by simp)
      | cons c tail => exact absurd rfl (hescape c tail rfl)
    · rw [List.cons_append, stringBody_cons read hquote hbackslash, if_neg hlarge]
      exact ih

theorem quotedText_append_blank (cs : List Char) :
    quotedText (cs ++ [b]) = (quotedText cs).map (leaving b) := by
  rw [quotedText, quotedText, stringBody_append_blank hb]
  cases stringBody [] cs with
  | none => rfl
  | some p => rfl

/-- No word has a blank in it. -/
theorem word_append_blank {letters : List Char} (hletters : letters.any isBlank = false)
    (v : Reading) (cs : List Char) :
    word letters v (cs ++ [b]) = keeping b (word letters v cs) := by
  have hmem : b ∉ letters := fun hmem => List.any_eq_false.mp hletters b hmem hb
  have hprefix : letters.isPrefixOf (cs ++ [b]) = letters.isPrefixOf cs := by
    rw [Bool.eq_iff_iff, List.isPrefixOf_iff_prefix, List.isPrefixOf_iff_prefix,
      List.prefix_concat_iff]
    refine or_iff_right ?_
    rintro rfl
    exact hmem (List.mem_append_right cs List.mem_cons_self)
  rw [word, word, hprefix]
  split
  · next h =>
    have hlength := (List.isPrefixOf_iff_prefix.mp h).length_le
    simp only [keeping, List.drop_append_of_le_length hlength, Option.map_some]
  · rfl

/-! ### Values with a blank behind them -/

omit hb in
theorem value_nil (fuel : Nat) : value fuel [] = (.broken, none) := by
  cases fuel with
  | zero => rfl
  | succ fuel => rfl

omit hb in
theorem items_nil (fuel : Nat) : (items fuel []).2 = none := by
  cases fuel with
  | zero => rfl
  | succ fuel => rw [items, value_nil]

omit hb in
theorem members_nil (fuel : Nat) : (members fuel []).2 = none := by
  cases fuel with
  | zero => rfl
  | succ fuel => rfl

theorem skipBlanks_append_of_nil {cs : List Char} (h : skipBlanks cs = []) :
    skipBlanks (cs ++ [b]) = [] := by
  refine List.dropWhile_eq_nil_iff.mpr fun c hc => ?_
  rcases List.mem_append.mp hc with hc | hc
  · exact List.dropWhile_eq_nil_iff.mp h c hc
  · rw [List.mem_singleton.mp hc, hb]

omit hb in
theorem skipBlanks_append_of_cons {c : Char} {cs rest : List Char}
    (h : skipBlanks cs = c :: rest) : skipBlanks (cs ++ [b]) = c :: (rest ++ [b]) := by
  rw [skipBlanks] at h
  rw [skipBlanks, List.dropWhile_append, h]
  rfl

/-- In so many steps, a value is read as if the blank behind the text were not there. -/
def ValueKeeps (b : Char) (fuel : Nat) : Prop :=
  ∀ cs, value fuel (cs ++ [b]) = keeping b (value fuel cs)

/-- In so many steps, items are read as if the blank behind the text were not there. -/
def ItemsKeep (b : Char) (fuel : Nat) : Prop :=
  ∀ cs, items fuel (cs ++ [b]) = keeping b (items fuel cs)

/-- In so many steps, members are read as if the blank behind the text were not there. -/
def MembersKeep (b : Char) (fuel : Nat) : Prop :=
  ∀ cs, members fuel (cs ++ [b]) = keeping b (members fuel cs)

variable {fuel : Nat}

/-- Behind the bracket of an array. -/
theorem value_bracket_append_blank (hitems : ItemsKeep b fuel) (tail : List Char) :
    value (fuel + 1) ('[' :: (tail ++ [b])) = keeping b (value (fuel + 1) ('[' :: tail)) := by
  rw [value, value, skipBlanks_cons rfl, skipBlanks_cons rfl]
  simp only
  cases hskip : skipBlanks tail with
  | nil =>
    simp only [skipBlanks_append_of_nil hb hskip, items_nil]
    rfl
  | cons c more =>
    have hmore := hitems (c :: more)
    rw [List.cons_append] at hmore
    rw [skipBlanks_append_of_cons hskip]
    split
    · next heq =>
      obtain ⟨rfl, rfl⟩ := List.cons.inj heq
      rfl
    · next hopen =>
      split
      · next heq =>
        obtain ⟨rfl, rfl⟩ := List.cons.inj heq
        exact absurd rfl (hopen _)
      · simp only [hmore, keeping, Option.isSome_map]

/-- Behind the brace of an object. -/
theorem value_brace_append_blank (hmembers : MembersKeep b fuel) (tail : List Char) :
    value (fuel + 1) ('\x7b' :: (tail ++ [b])) = keeping b (value (fuel + 1) ('\x7b' :: tail)) := by
  rw [value, value, skipBlanks_cons rfl, skipBlanks_cons rfl]
  simp only
  cases hskip : skipBlanks tail with
  | nil =>
    simp only [skipBlanks_append_of_nil hb hskip, members_nil]
    rfl
  | cons c more =>
    have hmore := hmembers (c :: more)
    rw [List.cons_append] at hmore
    rw [skipBlanks_append_of_cons hskip]
    split
    · next heq =>
      obtain ⟨rfl, rfl⟩ := List.cons.inj heq
      rfl
    · next hopen =>
      split
      · next heq =>
        obtain ⟨rfl, rfl⟩ := List.cons.inj heq
        exact absurd rfl (hopen _)
      · simp only [hmore, keeping, Option.isSome_map]

theorem valueKeeps_succ (hitems : ItemsKeep b fuel) (hmembers : MembersKeep b fuel) :
    ValueKeeps b (fuel + 1) := by
  intro cs
  cases hskip : skipBlanks cs with
  | nil =>
    rw [value, value, hskip, skipBlanks_append_of_nil hb hskip]
    rfl
  | cons c tail =>
    rw [value, value, hskip, skipBlanks_append_of_cons hskip]
    simp only
    split
    · rw [quotedText_append_blank hb]
      cases quotedText tail with
      | none => rfl
      | some p => rfl
    · exact value_bracket_append_blank hb hitems tail
    · exact value_brace_append_blank hb hmembers tail
    · exact word_append_blank hb (by decide) _ tail
    · exact word_append_blank hb (by decide) _ tail
    · exact word_append_blank hb (by decide) _ tail
    · rw [← List.cons_append, numeral_append_blank hb]
      cases numeral (c :: tail) with
      | none => rfl
      | some p => rfl

theorem itemsKeep_succ (hvalue : ValueKeeps b fuel) (hitems : ItemsKeep b fuel) :
    ItemsKeep b (fuel + 1) := by
  intro cs
  rw [items, items, hvalue]
  rcases value fuel cs with ⟨v, _ | tail⟩
  · rfl
  · simp only [keeping, Option.map_some]
    cases hskip : skipBlanks tail with
    | nil =>
      rw [skipBlanks_append_of_nil hb hskip]
      rfl
    | cons c more =>
      rw [skipBlanks_append_of_cons hskip]
      split
      · next heq =>
        obtain ⟨rfl, rfl⟩ := List.cons.inj heq
        simp only [hitems more, keeping]
      · next heq =>
        obtain ⟨rfl, rfl⟩ := List.cons.inj heq
        rfl
      · next hcomma hclose =>
        -- no mark stands here, with or without the blank
        split
        · next heq =>
          obtain ⟨rfl, rfl⟩ := List.cons.inj heq
          exact absurd rfl (hcomma _)
        · next heq =>
          obtain ⟨rfl, rfl⟩ := List.cons.inj heq
          exact absurd rfl (hclose _)
        · rfl

omit hb in
theorem members_of_ne_quote {c : Char} {cs tail : List Char} (h : skipBlanks cs = c :: tail)
    (hc : c ≠ '"') : members (fuel + 1) cs = ([], none) := by
  rw [members, h]
  split
  · next heq => exact absurd (List.cons.inj heq).1 hc
  · rfl

omit hb in
theorem members_of_ne_colon {c : Char} {cs quoted keyTail tail : List Char} {key : Option String}
    (hquote : skipBlanks cs = '"' :: quoted) (hkey : quotedText quoted = some (key, keyTail))
    (h : skipBlanks keyTail = c :: tail) (hc : c ≠ ':') :
    members (fuel + 1) cs = ([(key, .broken)], none) := by
  simp only [members, hquote, hkey, h]
  split
  · next heq => exact absurd (List.cons.inj heq).1 hc
  · rfl

/-- From the colon of a member onwards. -/
theorem member_append_blank (hvalue : ValueKeeps b fuel) (hmembers : MembersKeep b fuel)
    {cs quoted keyTail colonTail : List Char} {key : Option String}
    (hquote : skipBlanks cs = '"' :: quoted) (hkey : quotedText quoted = some (key, keyTail))
    (hcolon : skipBlanks keyTail = ':' :: colonTail) :
    members (fuel + 1) (cs ++ [b]) = keeping b (members (fuel + 1) cs) := by
  have hkey' : quotedText (quoted ++ [b]) = some (key, keyTail ++ [b]) := by
    rw [quotedText_append_blank hb, hkey]
    rfl
  rw [members, members]
  simp only [hquote, hkey, hcolon, skipBlanks_append_of_cons hquote, hkey',
    skipBlanks_append_of_cons hcolon, hvalue colonTail]
  rcases value fuel colonTail with ⟨v, _ | tail⟩
  · rfl
  · simp only [keeping, Option.map_some]
    cases hskip : skipBlanks tail with
    | nil =>
      rw [skipBlanks_append_of_nil hb hskip]
      rfl
    | cons c more =>
      rw [skipBlanks_append_of_cons hskip]
      split
      · next heq =>
        obtain ⟨rfl, rfl⟩ := List.cons.inj heq
        simp only [hmembers more, keeping]
      · next heq =>
        obtain ⟨rfl, rfl⟩ := List.cons.inj heq
        rfl
      · next hcomma hclose =>
        split
        · next heq =>
          obtain ⟨rfl, rfl⟩ := List.cons.inj heq
          exact absurd rfl (hcomma _)
        · next heq =>
          obtain ⟨rfl, rfl⟩ := List.cons.inj heq
          exact absurd rfl (hclose _)
        · rfl

theorem membersKeep_succ (hvalue : ValueKeeps b fuel) (hmembers : MembersKeep b fuel) :
    MembersKeep b (fuel + 1) := by
  intro cs
  cases hquote : skipBlanks cs with
  | nil =>
    rw [members, members, hquote, skipBlanks_append_of_nil hb hquote]
    rfl
  | cons c quoted =>
    by_cases hc : c = '"'
    · subst hc
      cases hkey : quotedText quoted with
      | none =>
        simp only [members, hquote, skipBlanks_append_of_cons hquote, hkey,
          quotedText_append_blank hb]
        rfl
      | some p =>
        obtain ⟨key, keyTail⟩ := p
        cases hcolon : skipBlanks keyTail with
        | nil =>
          simp only [members, hquote, skipBlanks_append_of_cons hquote, hkey,
            quotedText_append_blank hb, Option.map_some, leaving, hcolon,
            skipBlanks_append_of_nil hb hcolon]
          rfl
        | cons c colonTail =>
          by_cases hc : c = ':'
          · subst hc
            exact member_append_blank hb hvalue hmembers hquote hkey hcolon
          · rw [members_of_ne_colon hquote hkey hcolon hc,
              members_of_ne_colon (skipBlanks_append_of_cons hquote)
                (by rw [quotedText_append_blank hb, hkey]; rfl)
                (skipBlanks_append_of_cons hcolon) hc]
            rfl
    · rw [members_of_ne_quote hquote hc, members_of_ne_quote (skipBlanks_append_of_cons hquote) hc]
      rfl

/-- **A blank behind the text is left over**, by values, by items and by members alike. -/
theorem keeps_induction (fuel : Nat) :
    ValueKeeps b fuel ∧ ItemsKeep b fuel ∧ MembersKeep b fuel := by
  induction fuel with
  | zero => exact ⟨fun cs => rfl, fun cs => rfl, fun cs => rfl⟩
  | succ fuel ih =>
    obtain ⟨hvalue, hitems, hmembers⟩ := ih
    exact ⟨valueKeeps_succ hb hitems hmembers, itemsKeep_succ hb hvalue hitems,
      membersKeep_succ hb hvalue hmembers⟩

theorem value_append_blank (fuel : Nat) (cs : List Char) :
    value fuel (cs ++ [b]) = keeping b (value fuel cs) :=
  (keeps_induction hb fuel).1 cs

/-- **A blank at the end of a text makes no difference** to what is read of it, JSON or not. -/
theorem ofText_append_blank (cs : List Char) :
    ofText (String.ofList (cs ++ [b])) = ofText (String.ofList cs) := by
  have hfuel : fuelFor (cs ++ [b]) = fuelFor cs + 2 := by
    rw [fuelFor, fuelFor, List.length_append, List.length_singleton]
    omega
  have hspare : value (fuelFor cs + 2) cs = value (fuelFor cs) cs :=
    value_add (by rw [fuelFor]; omega) 2
  rw [ofText, ofText, String.toList_ofList, String.toList_ofList, hfuel, value_append_blank hb,
    hspare]
  rcases value (fuelFor cs) cs with ⟨v, _ | rest⟩
  · rfl
  · simp only [keeping, Option.map_some]
    cases hskip : skipBlanks rest with
    | nil => rw [skipBlanks_append_of_nil hb hskip]
    | cons c tail => rw [skipBlanks_append_of_cons hskip]; rfl

end Blank

end FaultDiagnosis.Json.Reading
