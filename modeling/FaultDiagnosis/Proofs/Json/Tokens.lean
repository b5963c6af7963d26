import FaultDiagnosis.Json.Reading

/-!
# Texts and numbers are read back

The two kinds of tokens that JSON writes with more than one character of its own choice. A text is
written with its quotation marks, quotation marks and control characters inside it escaped; whatever
follows the closing mark, the reader gives back the text and that rest
(`FaultDiagnosis.Json.Reading.quotedText_append`). A number has no closing mark. It is read back
only if what follows does not go on with it (`FaultDiagnosis.Json.Reading.numeral_chars_append`),
and only if it is a *literal*: JSON wants a digit before the point, and no zero in front of others.
-/

namespace FaultDiagnosis.Json.Reading

/-! ### Texts -/

theorem hexValue?_hexDigit {n : Nat} (h : n < 16) : hexValue? (hexDigit n) = some n := by
  revert n
  decide

theorem hexUnit?_hexDigit {n : Nat} (h : n < 0x20) :
    hexUnit? '0' '0' (hexDigit (n / 16)) (hexDigit (n % 16)) = some n := by
  have hzero : hexValue? '0' = some 0 := rfl
  have hhigh := hexValue?_hexDigit (n := n / 16) (by omega)
  have hlow := hexValue?_hexDigit (n := n % 16) (by omega)
  simp only [hexUnit?, hzero, hhigh, hlow, Option.bind_eq_bind, Option.bind_some, Option.pure_def,
    Option.some.injEq]
  omega

/-- A small number is no half of a surrogate pair. -/
theorem TextUnit.ofNat_toNat {c : Char} (h : c.toNat < 0x20) : ofNat c.toNat = .char c := by
  have hhigh : isHighSurrogate c.toNat = false := by
    simp only [isHighSurrogate, decide_eq_false_iff_not]
    omega
  have hlow : isLowSurrogate c.toNat = false := by
    simp only [isLowSurrogate, decide_eq_false_iff_not]
    omega
  simp [ofNat, hhigh, hlow]

/-- A character that is neither a mark nor a backslash stands for itself, unless it is a control
character. -/
theorem stringBody_cons (read : List TextUnit) {c : Char} (hquote : c ≠ '"') (hbackslash : c ≠ '\\')
    (rest : List Char) :
    stringBody read (c :: rest) =
      if c.toNat < 0x20 then none else stringBody (.char c :: read) rest := by
  rw [stringBody.eq_def]
  split <;> simp_all

/-- A written character is read back, whatever follows it. -/
theorem stringBody_escapedChar (read : List TextUnit) (c : Char) (rest : List Char) :
    stringBody read (escapedChar c ++ rest) = stringBody (.char c :: read) rest := by
  unfold escapedChar
  split
  case h_8 c hquote hbackslash _ _ _ _ _ =>
    split
    · next hsmall =>
      simp only [List.cons_append, List.nil_append]
      rw [stringBody, hexUnit?_hexDigit hsmall]
      simp only [TextUnit.ofNat_toNat hsmall]
    · next hlarge =>
      -- the character stands for itself, which neither a mark nor a backslash does
      rw [List.cons_append, List.nil_append, stringBody_cons read hquote hbackslash,
        if_neg hlarge]
  all_goals rfl

theorem stringBody_append (read : List TextUnit) (cs rest : List Char) :
    stringBody read (cs.flatMap escapedChar ++ '"' :: rest) =
      some (read.reverse ++ cs.map .char, rest) := by
  induction cs generalizing read with
  | nil => simp [stringBody]
  | cons c cs ih =>
    rw [List.flatMap_cons, List.append_assoc, stringBody_escapedChar, ih]
    simp

theorem joinUnits_map_char (joined cs : List Char) :
    joinUnits joined (cs.map .char) = some (joined.reverse ++ cs) := by
  induction cs generalizing joined with
  | nil => simp [joinUnits]
  | cons c cs ih =>
    rw [List.map_cons, joinUnits, ih]
    simp

/-- **A written text is read back**, whatever follows its closing mark. -/
theorem quotedText_append (s : String) (rest : List Char) :
    quotedText (s.toList.flatMap escapedChar ++ '"' :: rest) = some (some s, rest) := by
  rw [quotedText, stringBody_append]
  simp [joinUnits_map_char]

/-! ### Numbers -/

/-- **A literal** of JSON: a digit stands before the point, no zero stands in front of other digits
there, and an exponent has digits. -/
structure IsLiteral (n : Numeral) : Prop where
  whole : n.whole ≠ []
  leading : ∀ d ds, n.whole = d :: ds → d.val = 0 → ds = []
  exponent : ∀ e, n.exponent = some e → e.digits ≠ []

/-- What stands after a number does not go on with it. -/
def EndsNumeral (rest : List Char) : Prop :=
  ∀ c cs, rest = c :: cs → Digit.ofChar? c = none ∧ c ≠ '.' ∧ c ≠ 'e' ∧ c ≠ 'E'

theorem endsNumeral_cons {c : Char} {cs : List Char}
    (h : Digit.ofChar? c = none ∧ c ≠ '.' ∧ c ≠ 'e' ∧ c ≠ 'E') : EndsNumeral (c :: cs) := by
  rintro _ _ ⟨⟩
  exact h

theorem endsNumeral_nil : EndsNumeral [] := by
  rintro _ _ ⟨⟩

/-- A fraction as it is written, with its point. -/
def fractionChars (ds : List Digit) : List Char :=
  if ds.isEmpty then [] else '.' :: Digit.chars ds

/-- An exponent as it is written, with its letter. -/
def exponentChars : Option Exponent → List Char
  | none => []
  | some e => 'e' :: (if e.negative then '-' else '+') :: Digit.chars e.digits

theorem chars_eq (n : Numeral) :
    n.chars = (if n.negative then ['-'] else []) ++ Digit.chars n.whole
      ++ fractionChars n.fraction ++ exponentChars n.exponent :=
  rfl

theorem wholePart_chars_append {n : Numeral} (h : IsLiteral n) {rest : List Char}
    (hrest : ∀ c cs, rest = c :: cs → Digit.ofChar? c = none) :
    wholePart (Digit.chars n.whole ++ rest) = some (n.whole, rest) := by
  rw [wholePart, Digit.takeDigits_chars_append _ hrest]
  cases hw : n.whole with
  | nil => exact absurd hw h.whole
  | cons d ds =>
    refine if_neg ?_
    rintro ⟨hzero, hmore⟩
    exact hmore (h.leading d ds hw hzero)

/-- The digits after the point, if there are any, are read back up to what follows. -/
theorem fractionPart_chars_append (ds : List Digit) {rest : List Char}
    (hrest : ∀ c cs, rest = c :: cs → Digit.ofChar? c = none ∧ c ≠ '.') :
    fractionPart (fractionChars ds ++ rest) = some (ds, rest) := by
  cases ds with
  | nil =>
    simp only [fractionChars, List.isEmpty_nil, if_true, List.nil_append]
    unfold fractionPart
    split
    · next cs => exact absurd rfl (hrest '.' cs rfl).2
    · rfl
  | cons d ds =>
    simp only [fractionChars, List.isEmpty_cons, Bool.false_eq_true, if_false, List.cons_append,
      fractionPart]
    rw [Digit.takeDigits_chars_append _ fun c cs h => (hrest c cs h).1]

theorem exponentDigits_chars_append (negative : Bool) {ds : List Digit} (hds : ds ≠ [])
    {rest : List Char} (hrest : ∀ c cs, rest = c :: cs → Digit.ofChar? c = none) :
    exponentDigits negative (Digit.chars ds ++ rest) = some (some ⟨negative, ds⟩, rest) := by
  rw [exponentDigits, Digit.takeDigits_chars_append _ hrest]
  cases ds with
  | nil => exact absurd rfl hds
  | cons d ds => rfl

/-- The exponent, if there is one, is read back up to what follows. -/
theorem exponentPart_chars_append (e : Option Exponent) (he : ∀ x, e = some x → x.digits ≠ [])
    {rest : List Char} (hrest : EndsNumeral rest) :
    exponentPart (exponentChars e ++ rest) = some (e, rest) := by
  have hdigit : ∀ c cs, rest = c :: cs → Digit.ofChar? c = none := fun c cs h => (hrest c cs h).1
  cases e with
  | none =>
    cases rest with
    | nil => rfl
    | cons c cs =>
      obtain ⟨-, -, hlower, hupper⟩ := hrest c cs rfl
      exact if_neg (not_or.mpr ⟨hlower, hupper⟩)
  | some e =>
    obtain ⟨negative, ds⟩ := e
    cases negative with
    | true => exact exponentDigits_chars_append true (he _ rfl) hdigit
    | false => exact exponentDigits_chars_append false (he _ rfl) hdigit

theorem unsignedNumeral_chars_append {n : Numeral} (h : IsLiteral n) {rest : List Char}
    (hrest : EndsNumeral rest) :
    unsignedNumeral n.negative (Digit.chars n.whole ++
      (fractionChars n.fraction ++ (exponentChars n.exponent ++ rest))) = some (n, rest) := by
  -- neither an exponent nor what follows the number starts with a digit or a point
  have htail : ∀ c cs, exponentChars n.exponent ++ rest = c :: cs →
      Digit.ofChar? c = none ∧ c ≠ '.' := by
    intro c cs hcs
    cases he : n.exponent with
    | none =>
      rw [he] at hcs
      exact ⟨(hrest c cs hcs).1, (hrest c cs hcs).2.1⟩
    | some e =>
      rw [he] at hcs
      obtain ⟨rfl, -⟩ := List.cons.inj hcs
      decide
  have hpoint : ∀ c cs, fractionChars n.fraction ++ (exponentChars n.exponent ++ rest) = c :: cs →
      Digit.ofChar? c = none := by
    intro c cs hcs
    cases hf : n.fraction with
    | nil =>
      rw [hf] at hcs
      exact (htail c cs hcs).1
    | cons d ds =>
      rw [hf] at hcs
      obtain ⟨rfl, -⟩ := List.cons.inj hcs
      rfl
  simp only [unsignedNumeral, wholePart_chars_append h hpoint,
    fractionPart_chars_append n.fraction htail,
    exponentPart_chars_append n.exponent h.exponent hrest, Option.bind_eq_bind, Option.bind_some,
    Option.pure_def]

/-- **A written literal is read back**, provided that what follows does not go on with it. -/
theorem numeral_chars_append {n : Numeral} (h : IsLiteral n) {rest : List Char}
    (hrest : EndsNumeral rest) : numeral (n.chars ++ rest) = some (n, rest) := by
  have hbody := unsignedNumeral_chars_append h hrest
  rw [chars_eq]
  simp only [List.append_assoc]
  cases hsign : n.negative with
  | true =>
    rw [hsign] at hbody
    exact hbody
  | false =>
    rw [hsign] at hbody
    simp only [Bool.false_eq_true, if_false, List.nil_append]
    cases hw : n.whole with
    | nil => exact absurd hw h.whole
    | cons d ds =>
      rw [hw] at hbody
      -- without a sign, the number starts with a digit, which is not taken for one
      simp only [Digit.chars, List.map_cons, List.cons_append] at hbody ⊢
      rw [numeral, hbody]
      intro cs hcs
      have hminus : ∀ d : Digit, d.toChar ≠ '-' := by decide
      exact hminus d (List.cons.inj hcs).1

end FaultDiagnosis.Json.Reading
