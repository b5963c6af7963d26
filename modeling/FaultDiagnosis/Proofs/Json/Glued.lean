import FaultDiagnosis.Json.Decoder
import FaultDiagnosis.Proofs.Json.RoundTrip

/-!
# An object with text in front of it

What happens when the text of an object is read together with other text that stands directly in
front of it? If that text consists of blanks, they are skipped and the object is read. Otherwise the
object is lost: what stands in front is taken for the beginning of a value, and this value ends
before the object, or it is a text whose closing mark is the first mark of the object, or it does
not end at all. In each case something is left over or missing, so the whole is no JSON
(`FaultDiagnosis.Json.Reading.isUsable_ofText_glued`).

The reason is that neither an opening brace nor the key behind it can go on with anything. Items of
an array and members of an object, for example, are followed by a comma or a closing bracket, so an
array that is open in front of the object never closes behind it.
-/

namespace FaultDiagnosis.Json.Reading

/-! ### What the readers do where they succeed -/

variable {fuel : Nat} {cs rest : List Char}

theorem word_eq_some {letters : List Char} {v r : Reading}
    (h : word letters v cs = (r, some rest)) : cs = letters ++ rest := by
  rw [word] at h
  split at h
  · next hprefix =>
    obtain ⟨tail, rfl⟩ := List.isPrefixOf_iff_prefix.mp hprefix
    have htail := (Prod.mk.inj h).2
    simp only [List.drop_left, Option.some.injEq] at htail
    rw [htail]
  · simp at h

/-- **How a value is read to its end**, given its first character and what follows it. -/
inductive ReadsValue (fuel : Nat) (rest : List Char) : Char → List Char → Prop
  | text {s : Option String} {tail : List Char} (h : quotedText tail = some (s, rest)) :
    ReadsValue fuel rest '"' tail
  | emptyArray {tail : List Char} (h : skipBlanks tail = ']' :: rest) :
    ReadsValue fuel rest '[' tail
  | array {vs : List Reading} {tail : List Char}
    (h : items fuel (skipBlanks tail) = (vs, some rest)) : ReadsValue fuel rest '[' tail
  | emptyObject {tail : List Char} (h : skipBlanks tail = '\x7d' :: rest) :
    ReadsValue fuel rest '\x7b' tail
  | object {ms : List (Option String × Reading)} {tail : List Char}
    (h : members fuel (skipBlanks tail) = (ms, some rest)) : ReadsValue fuel rest '\x7b' tail
  | word {c : Char} {letters tail : List Char} (hbrace : '\x7b' ∉ letters)
    (h : tail = letters ++ rest) : ReadsValue fuel rest c tail
  | number {c : Char} {n : Numeral} {tail : List Char} (h : numeral (c :: tail) = some (n, rest)) :
    ReadsValue fuel rest c tail

theorem value_eq_some {v : Reading} (h : value (fuel + 1) cs = (v, some rest)) :
    ∃ c tail, skipBlanks cs = c :: tail ∧ ReadsValue fuel rest c tail := by
  rw [value] at h
  split at h
  · simp at h
  · next c tail hskip =>
    refine ⟨c, tail, hskip, ?_⟩
    split at h
    · split at h
      · next hquoted =>
        obtain ⟨-, ⟨⟩⟩ := Prod.mk.inj h
        exact .text hquoted
      · simp at h
    · split at h
      · next hclose =>
        obtain ⟨-, ⟨⟩⟩ := Prod.mk.inj h
        exact .emptyArray hclose
      · exact .array (Prod.ext rfl (Prod.mk.inj h).2)
    · split at h
      · next hclose =>
        obtain ⟨-, ⟨⟩⟩ := Prod.mk.inj h
        exact .emptyObject hclose
      · exact .object (Prod.ext rfl (Prod.mk.inj h).2)
    · exact .word (by decide) (word_eq_some h)
    · exact .word (by decide) (word_eq_some h)
    · exact .word (by decide) (word_eq_some h)
    · split at h
      · next hnumeral =>
        obtain ⟨-, ⟨⟩⟩ := Prod.mk.inj h
        exact .number hnumeral
      · simp at h

/-- After an item comes another one, or the end of the array. -/
theorem items_eq_some {vs : List Reading} (h : items (fuel + 1) cs = (vs, some rest)) :
    ∃ v tail, value fuel cs = (v, some tail) ∧
      ((∃ more vs, skipBlanks tail = ',' :: more ∧ items fuel more = (vs, some rest)) ∨
        skipBlanks tail = ']' :: rest) := by
  rw [items] at h
  split at h
  · simp at h
  · next v tail hvalue =>
    refine ⟨v, tail, hvalue, ?_⟩
    split at h
    · next more hmore => exact Or.inl ⟨more, _, hmore, Prod.ext rfl (Prod.mk.inj h).2⟩
    · next hclose =>
      obtain ⟨-, ⟨⟩⟩ := Prod.mk.inj h
      exact Or.inr hclose
    · simp at h

/-- A member is a key, a colon and a value; after it comes another one, or the end of the object. -/
theorem members_eq_some {ms : List (Option String × Reading)}
    (h : members (fuel + 1) cs = (ms, some rest)) :
    ∃ quoted key keyTail colonTail v tail, skipBlanks cs = '"' :: quoted ∧
      quotedText quoted = some (key, keyTail) ∧ skipBlanks keyTail = ':' :: colonTail ∧
      value fuel colonTail = (v, some tail) ∧
      ((∃ more ms, skipBlanks tail = ',' :: more ∧ members fuel more = (ms, some rest)) ∨
        skipBlanks tail = '\x7d' :: rest) := by
  rw [members] at h
  split at h
  · next quoted hquote =>
    split at h
    · simp at h
    · next key keyTail hkey =>
      split at h
      · next colonTail hcolon =>
        split at h
        · simp at h
        · next v tail hvalue =>
          refine ⟨quoted, key, keyTail, colonTail, v, tail, hquote, hkey, hcolon, hvalue, ?_⟩
          split at h
          · next more hmore => exact Or.inl ⟨more, _, hmore, Prod.ext rfl (Prod.mk.inj h).2⟩
          · next hclose =>
            obtain ⟨-, ⟨⟩⟩ := Prod.mk.inj h
            exact Or.inr hclose
          · simp at h
      · simp at h
  · simp at h

theorem isUsable_broken (depth : Nat) : broken.isUsable depth = false := by
  cases depth <;> rfl

theorem isUsable_array_open (vs : List Reading) (depth : Nat) :
    (array vs false).isUsable depth = false := by
  cases depth with
  | zero => rfl
  | succ depth => exact Bool.and_false _

theorem isUsable_object_open (ms : List (Option String × Reading)) (depth : Nat) :
    (object ms false).isUsable depth = false := by
  cases depth with
  | zero => rfl
  | succ depth => exact Bool.and_false _

/-- A value that breaks off is of no use. -/
theorem isUsable_of_value_eq_none {v : Reading} (h : value fuel cs = (v, none)) (depth : Nat) :
    v.isUsable depth = false := by
  have hword : ∀ {letters : List Char} {r : Reading} {cs : List Char},
      word letters r cs = (v, none) → v.isUsable depth = false := by
    intro letters r cs h
    rw [word] at h
    split at h
    · simp at h
    · obtain ⟨⟨⟩, -⟩ := Prod.mk.inj h
      exact isUsable_broken depth
  cases fuel with
  | zero =>
    obtain ⟨⟨⟩, -⟩ := Prod.mk.inj h
    exact isUsable_broken depth
  | succ fuel =>
    rw [value] at h
    split at h
    · obtain ⟨⟨⟩, -⟩ := Prod.mk.inj h
      exact isUsable_broken depth
    · split at h
      · split at h
        · simp at h
        · obtain ⟨⟨⟩, -⟩ := Prod.mk.inj h
          exact isUsable_broken depth
      · split at h
        · simp at h
        · obtain ⟨rfl, hrest⟩ := Prod.mk.inj h
          rw [hrest]
          exact isUsable_array_open _ depth
      · split at h
        · simp at h
        · obtain ⟨rfl, hrest⟩ := Prod.mk.inj h
          rw [hrest]
          exact isUsable_object_open _ depth
      · exact hword h
      · exact hword h
      · exact hword h
      · split at h
        · simp at h
        · obtain ⟨⟨⟩, -⟩ := Prod.mk.inj h
          exact isUsable_broken depth

/-! ### Numbers do not contain braces -/

/-- From one text to the other, no opening brace is passed. -/
def Passes (cs rest : List Char) : Prop :=
  ∃ letters, '\x7b' ∉ letters ∧ cs = letters ++ rest

theorem Passes.refl (cs : List Char) : Passes cs cs :=
  ⟨[], List.not_mem_nil, rfl⟩

theorem Passes.cons {c : Char} (hc : c ≠ '\x7b') (h : Passes cs rest) : Passes (c :: cs) rest := by
  obtain ⟨letters, hbrace, rfl⟩ := h
  refine ⟨c :: letters, ?_, rfl⟩
  rw [List.mem_cons, not_or]
  exact ⟨hc.symm, hbrace⟩

theorem Passes.trans {more : List Char} (h : Passes cs rest) (h' : Passes rest more) :
    Passes cs more := by
  obtain ⟨letters, hbrace, rfl⟩ := h
  obtain ⟨letters', hbrace', rfl⟩ := h'
  refine ⟨letters ++ letters', ?_, (List.append_assoc ..).symm⟩
  rw [List.mem_append, not_or]
  exact ⟨hbrace, hbrace'⟩

theorem passes_takeDigits (cs : List Char) : Passes cs (Digit.takeDigits cs).2 := by
  induction cs with
  | nil => exact Passes.refl []
  | cons c cs ih =>
    rw [Digit.takeDigits]
    split
    · next d hd =>
      refine Passes.cons ?_ ih
      rintro rfl
      simp [Digit.ofChar?] at hd
    · exact Passes.refl _

theorem passes_of_wholePart {ds : List Digit} (h : wholePart cs = some (ds, rest)) :
    Passes cs rest := by
  have hdigits := passes_takeDigits cs
  rw [wholePart] at h
  split at h
  · simp at h
  · next heq =>
    rw [heq] at hdigits
    split at h
    · simp at h
    · obtain ⟨⟩ := h
      exact hdigits

theorem passes_of_fractionPart {ds : List Digit} (h : fractionPart cs = some (ds, rest)) :
    Passes cs rest := by
  rw [fractionPart.eq_def] at h
  split at h
  · next cs =>
    have hdigits := passes_takeDigits cs
    split at h
    · simp at h
    · next heq =>
      obtain ⟨⟩ := h
      rw [heq] at hdigits
      exact hdigits.cons (by decide)
  · obtain ⟨⟩ := h
    exact Passes.refl _

theorem passes_of_exponentDigits {negative : Bool} {e : Option Exponent}
    (h : exponentDigits negative cs = some (e, rest)) : Passes cs rest := by
  have hdigits := passes_takeDigits cs
  rw [exponentDigits] at h
  split at h
  · simp at h
  · next heq =>
    obtain ⟨⟩ := h
    rw [heq] at hdigits
    exact hdigits

theorem passes_of_exponentPart {e : Option Exponent} (h : exponentPart cs = some (e, rest)) :
    Passes cs rest := by
  rw [exponentPart.eq_def] at h
  split at h
  · next c cs =>
    split at h
    · next hletter =>
      have hc : c ≠ '\x7b' := by
        rintro rfl
        revert hletter
        decide
      refine Passes.cons hc ?_
      split at h
      · exact (passes_of_exponentDigits h).cons (by decide)
      · exact (passes_of_exponentDigits h).cons (by decide)
      · exact passes_of_exponentDigits h
    · obtain ⟨⟩ := h
      exact Passes.refl _
  · obtain ⟨⟩ := h
    exact Passes.refl _

theorem passes_of_unsignedNumeral {negative : Bool} {n : Numeral}
    (h : unsignedNumeral negative cs = some (n, rest)) : Passes cs rest := by
  simp only [unsignedNumeral, Option.bind_eq_bind, Option.bind_eq_some_iff, Option.pure_def,
    Option.some.injEq, Prod.mk.injEq, Prod.exists] at h
  obtain ⟨_, _, hwhole, _, _, hfraction, _, _, hexponent, -, rfl⟩ := h
  exact (passes_of_wholePart hwhole).trans
    ((passes_of_fractionPart hfraction).trans (passes_of_exponentPart hexponent))

theorem passes_of_numeral {n : Numeral} (h : numeral cs = some (n, rest)) : Passes cs rest := by
  rw [numeral.eq_def] at h
  split at h
  · exact (passes_of_unsignedNumeral h).cons (by decide)
  · exact passes_of_unsignedNumeral h

/-! ### Texts in front of an object -/

/-- What was read ends before the text `q`, which had `p` in front of it. -/
def Before (p q rest : List Char) : Prop :=
  ∃ p', p'.length ≤ p.length ∧ rest = p' ++ q

theorem Before.cons {p q : List Char} (h : Before p q rest) (c : Char) :
    Before (c :: p) q rest := by
  obtain ⟨p', hlength, rfl⟩ := h
  refine ⟨p', ?_, rfl⟩
  rw [List.length_cons]
  omega

/-- Characters without a brace, read from a text in front of an object, belong to that text. -/
theorem exists_of_append_eq {p q : List Char} (letters : List Char)
    (h : p ++ '\x7b' :: q = letters ++ rest) (hbrace : '\x7b' ∉ letters) :
    ∃ p', p = letters ++ p' ∧ rest = p' ++ '\x7b' :: q := by
  rcases List.append_eq_append_iff.mp h with ⟨l, rfl, hl⟩ | ⟨p', hp, hrest⟩
  · cases l with
    | nil => exact ⟨[], by simp, hl.symm⟩
    | cons c l =>
      obtain ⟨rfl, -⟩ := List.cons.inj hl
      exact absurd (List.mem_append_right p List.mem_cons_self) hbrace
  · exact ⟨p', hp, hrest⟩

/-- What is read without passing a brace ends before the next one. -/
theorem Passes.before {p q : List Char} (h : Passes (p ++ '\x7b' :: q) rest) :
    Before p ('\x7b' :: q) rest := by
  obtain ⟨letters, hbrace, heq⟩ := h
  obtain ⟨p', rfl, rfl⟩ := exists_of_append_eq letters heq hbrace
  refine ⟨p', ?_, rfl⟩
  rw [List.length_append]
  omega

/-- An escape does not contain a brace. -/
theorem not_mem_of_hexUnit? {a b c d : Char} {n : Nat} (h : hexUnit? a b c d = some n) :
    '\x7b' ∉ [a, b, c, d] := by
  have hhex : hexValue? '\x7b' = none := rfl
  intro hmem
  simp only [List.mem_cons, List.not_mem_nil, or_false] at hmem
  simp only [hexUnit?, Option.bind_eq_bind, Option.bind_eq_some_iff] at h
  obtain ⟨_, ha, _, hb, _, hc, _, hd, -⟩ := h
  rcases hmem with rfl | rfl | rfl | rfl
  · simp [hhex] at ha
  · simp [hhex] at hb
  · simp [hhex] at hc
  · simp [hhex] at hd

/-- **A text that begins in front of an object** ends there too, or it ends at the first quotation
mark of the object. -/
theorem stringBody_before {read units : List TextUnit} {p q : List Char}
    (h : stringBody read (p ++ '\x7b' :: '"' :: q) = some (units, rest)) :
    Before p ('\x7b' :: '"' :: q) rest ∨ rest = q := by
  generalize hcs : p ++ '\x7b' :: '"' :: q = cs at h
  fun_induction stringBody read cs generalizing p with
  | case2 read tail =>
    -- the closing mark is in front of the object
    obtain ⟨-, ⟨⟩⟩ := Prod.mk.inj (Option.some.inj h)
    obtain ⟨p', rfl, rfl⟩ := exists_of_append_eq ['"'] hcs (by decide)
    exact Or.inl ⟨p', Nat.le_succ _, rfl⟩
  | case4 read a b c d tail n hunit ih =>
    have hbrace : '\x7b' ∉ ['\\', 'u', a, b, c, d] := by
      have := not_mem_of_hexUnit? hunit
      simp_all
    obtain ⟨p', rfl, rfl⟩ := exists_of_append_eq ['\\', 'u', a, b, c, d] hcs hbrace
    exact (ih rfl h).imp_left fun hbefore =>
      (((((hbefore.cons d).cons c).cons b).cons a).cons 'u').cons '\\'
  | case6 read c tail _ e hescape ih =>
    have hbrace : '\x7b' ∉ ['\\', c] := by
      rintro (_ | ⟨_, _ | ⟨_, ⟨⟩⟩⟩)
      simp [escapeChar?] at hescape
    obtain ⟨p', rfl, rfl⟩ := exists_of_append_eq ['\\', c] hcs hbrace
    exact (ih rfl h).imp_left fun hbefore => (hbefore.cons c).cons '\\'
  | case8 read c tail _ _ _ _ ih =>
    cases p with
    | nil =>
      -- the text runs into the object, and its first quotation mark comes next
      obtain ⟨rfl, rfl⟩ := List.cons.inj hcs
      simp only [stringBody, Option.some.injEq, Prod.mk.injEq] at h
      exact Or.inr h.2.symm
    | cons c' p' =>
      obtain ⟨rfl, htail⟩ := List.cons.inj hcs
      exact (ih htail h).imp_left fun hbefore => hbefore.cons _
  | _ => simp at h

theorem quotedText_before {s : Option String} {p q : List Char}
    (h : quotedText (p ++ '\x7b' :: '"' :: q) = some (s, rest)) :
    Before p ('\x7b' :: '"' :: q) rest ∨ rest = q := by
  rw [quotedText] at h
  split at h
  · simp at h
  · next hbody =>
    obtain ⟨-, ⟨⟩⟩ := Prod.mk.inj (Option.some.inj h)
    exact stringBody_before hbody

/-! ### Values in front of an object -/

/-- The first character of a key goes on with nothing that was read before it. -/
structure IsKeyStart (k : Char) : Prop where
  notBlank : isBlank k = false
  ne_colon : k ≠ ':'
  ne_comma : k ≠ ','
  ne_bracket : k ≠ ']'
  ne_brace : k ≠ '\x7d'

/-- **A closed object**: the text of an object with a key, which is read to its end. -/
structure IsClosedObject (q : List Char) : Prop where
  start : ∃ k tail, q = '\x7b' :: '"' :: k :: tail ∧ IsKeyStart k
  closed : ∀ fuel, 2 * q.length ≤ fuel → (value fuel q).2 = some []

/-- **Where a value ends** that is read from the text `p` and the object `q` behind it. -/
inductive Ends (p q : List Char) : List Char → Prop
  /-- It ends before the object. -/
  | before {rest : List Char} (h : Before p q rest) : Ends p q rest
  /-- It is a text that begins before the object and ends inside. -/
  | inside {k : Char} {tail : List Char} (hk : IsKeyStart k) : Ends p q (k :: tail)
  /-- It is the object. -/
  | behind (h : ∀ c ∈ p, isBlank c = true) : Ends p q []

/-- Blanks are skipped up to a character in front of the object, or up to the object. -/
theorem skipBlanks_append_cases (p : List Char) {c : Char} (hc : isBlank c = false)
    (q : List Char) :
    ((∀ b ∈ p, isBlank b = true) ∧ skipBlanks (p ++ c :: q) = c :: q) ∨
      ∃ b p', p'.length < p.length ∧ skipBlanks (p ++ c :: q) = b :: (p' ++ c :: q) := by
  induction p with
  | nil => exact Or.inl ⟨by simp, skipBlanks_cons hc q⟩
  | cons b p ih =>
    cases hb : isBlank b with
    | false => exact Or.inr ⟨b, p, Nat.lt_succ_self _, skipBlanks_cons hb _⟩
    | true =>
      have hskip : skipBlanks (b :: p ++ c :: q) = skipBlanks (p ++ c :: q) := by
        rw [List.cons_append, skipBlanks, List.dropWhile_cons, hb]
        rfl
      rw [hskip]
      rcases ih with ⟨hblank, heq⟩ | ⟨b', p', hlength, heq⟩
      · exact Or.inl ⟨List.forall_mem_cons.mpr ⟨hb, hblank⟩, heq⟩
      · exact Or.inr ⟨b', p', Nat.lt_succ_of_lt hlength, heq⟩

/-- A mark that is read after blanks stands in front of the object, unless it opens the object. -/
theorem exists_of_skipBlanks {p q : List Char} {c : Char} (hc : c ≠ '\x7b')
    (h : skipBlanks (p ++ '\x7b' :: q) = c :: rest) :
    ∃ p', p'.length < p.length ∧ rest = p' ++ '\x7b' :: q := by
  rcases skipBlanks_append_cases p (c := '\x7b') rfl q with ⟨-, heq⟩ | ⟨b, p', hlength, heq⟩
  · rw [h] at heq
    exact absurd (List.cons.inj heq).1 hc
  · rw [h] at heq
    exact ⟨p', hlength, (List.cons.inj heq).2⟩

theorem Before.of_skipBlanks {p q : List Char} {c : Char} (hc : c ≠ '\x7b')
    (h : skipBlanks (p ++ '\x7b' :: q) = c :: rest) : Before p ('\x7b' :: q) rest := by
  obtain ⟨p', hlength, hrest⟩ := exists_of_skipBlanks hc h
  exact ⟨p', Nat.le_of_lt hlength, hrest⟩

theorem Before.mono {p p' q : List Char} (hlength : p'.length ≤ p.length) (h : Before p' q rest) :
    Before p q rest := by
  obtain ⟨p'', hlength', rfl⟩ := h
  exact ⟨p'', Nat.le_trans hlength' hlength, rfl⟩

theorem exists_skipBlanks_append (p q : List Char) :
    ∃ p', p'.length ≤ p.length ∧ skipBlanks (p ++ '\x7b' :: q) = p' ++ '\x7b' :: q := by
  rcases skipBlanks_append_cases p (c := '\x7b') rfl q with ⟨-, heq⟩ | ⟨b, p', hlength, heq⟩
  · exact ⟨[], Nat.zero_le _, heq⟩
  · exact ⟨b :: p', hlength, heq⟩

/-- With so many steps, every value ends at one of the three places. -/
def ValueEnds (q : List Char) (fuel : Nat) : Prop :=
  ∀ (p : List Char) (v : Reading) (rest : List Char), 2 * (p.length + q.length) ≤ fuel →
    value fuel (p ++ q) = (v, some rest) → Ends p q rest

/-- With so many steps, items only end before the object. -/
def ItemsEnd (q : List Char) (fuel : Nat) : Prop :=
  ∀ (p : List Char) (vs : List Reading) (rest : List Char), 2 * (p.length + q.length) + 1 ≤ fuel →
    items fuel (p ++ q) = (vs, some rest) → Before p q rest

/-- With so many steps, members only end before the object. -/
def MembersEnd (q : List Char) (fuel : Nat) : Prop :=
  ∀ (p : List Char) (ms : List (Option String × Reading)) (rest : List Char),
    2 * (p.length + q.length) + 1 ≤ fuel → members fuel (p ++ q) = (ms, some rest) →
    Before p q rest

variable {q : List Char}

theorem valueEnds_succ (hq : IsClosedObject q) (hitems : ItemsEnd q fuel)
    (hmembers : MembersEnd q fuel) : ValueEnds q (fuel + 1) := by
  intro p v rest hfuel h
  obtain ⟨k, tail, rfl, hk⟩ := hq.start
  rcases skipBlanks_append_cases p (c := '\x7b') rfl ('"' :: k :: tail) with
    ⟨hblank, hskip⟩ | ⟨b, p', hlength, hskip⟩
  · -- the blanks are skipped, and the value is the object
    have hclosed := hq.closed (fuel + 1) (by omega)
    rw [value_congr (hskip.trans (skipBlanks_cons rfl _).symm)] at h
    rw [h] at hclosed
    obtain rfl : rest = [] := Option.some.inj hclosed
    exact .behind hblank
  · -- the value starts with a character in front of the object
    obtain ⟨c, tail', hc, hread⟩ := value_eq_some h
    obtain ⟨rfl, rfl⟩ := List.cons.inj (hskip.symm.trans hc)
    have hle : p'.length ≤ p.length := Nat.le_of_lt hlength
    obtain ⟨p'', hlength'', hskip''⟩ := exists_skipBlanks_append p' ('"' :: k :: tail)
    have hfuel'' : 2 * (p''.length + ('\x7b' :: '"' :: k :: tail).length) + 1 ≤ fuel := by omega
    cases hread with
    | text hquoted =>
      rcases quotedText_before hquoted with hbefore | rfl
      · exact .before (hbefore.mono hle)
      · exact .inside hk
    | emptyArray hclose => exact .before ((Before.of_skipBlanks (by decide) hclose).mono hle)
    | array hread =>
      rw [hskip''] at hread
      exact .before ((hitems p'' _ rest hfuel'' hread).mono (Nat.le_trans hlength'' hle))
    | emptyObject hclose => exact .before ((Before.of_skipBlanks (by decide) hclose).mono hle)
    | object hread =>
      rw [hskip''] at hread
      exact .before ((hmembers p'' _ rest hfuel'' hread).mono (Nat.le_trans hlength'' hle))
    | word hbrace hletters =>
      exact .before ((Passes.before ⟨_, hbrace, hletters⟩).mono hle)
    | number hnumeral =>
      have hbefore : Before (b :: p') ('\x7b' :: '"' :: k :: tail) rest :=
        (passes_of_numeral hnumeral).before
      have hlength' : (b :: p').length ≤ p.length := hlength
      exact .before (hbefore.mono hlength')

/-- A mark that is due after a value is found only if the value ended before the object: no such
mark stands at the start of a key, and none stands behind the object. -/
theorem Ends.exists_of_skipBlanks {p more : List Char} {c : Char} (hq : IsClosedObject q)
    (h : Ends p q rest) (hc : c = ',' ∨ c = ']' ∨ c = '\x7d')
    (hskip : skipBlanks rest = c :: more) :
    ∃ p', p'.length < p.length ∧ more = p' ++ q := by
  obtain ⟨_, _, rfl, -⟩ := hq.start
  cases h with
  | before hbefore =>
    obtain ⟨p', hlength, rfl⟩ := hbefore
    have hbrace : c ≠ '\x7b' := by
      rcases hc with rfl | rfl | rfl
      all_goals decide
    obtain ⟨p'', hlength', rfl⟩ := Reading.exists_of_skipBlanks hbrace hskip
    exact ⟨p'', Nat.lt_of_lt_of_le hlength' hlength, rfl⟩
  | inside hk =>
    rw [skipBlanks_cons hk.notBlank] at hskip
    obtain ⟨rfl, -⟩ := List.cons.inj hskip
    rcases hc with rfl | rfl | rfl
    · exact absurd rfl hk.ne_comma
    · exact absurd rfl hk.ne_bracket
    · exact absurd rfl hk.ne_brace
  | behind => cases hskip

theorem itemsEnd_succ (hq : IsClosedObject q) (hvalue : ValueEnds q fuel)
    (hitems : ItemsEnd q fuel) : ItemsEnd q (fuel + 1) := by
  intro p vs rest hfuel h
  obtain ⟨v, tail, hv, hnext⟩ := items_eq_some h
  have hends := hvalue p v tail (by omega) hv
  rcases hnext with ⟨more, vs', hcomma, hread⟩ | hclose
  · obtain ⟨p', hlength, rfl⟩ := hends.exists_of_skipBlanks hq (by decide) hcomma
    exact (hitems p' vs' rest (by omega) hread).mono (by omega)
  · obtain ⟨p', hlength, rfl⟩ := hends.exists_of_skipBlanks hq (by decide) hclose
    exact ⟨p', Nat.le_of_lt hlength, rfl⟩

theorem membersEnd_succ (hq : IsClosedObject q) (hvalue : ValueEnds q fuel)
    (hmembers : MembersEnd q fuel) : MembersEnd q (fuel + 1) := by
  intro p ms rest hfuel h
  obtain ⟨quoted, key, keyTail, colonTail, v, tail, hquote, hkey, hcolon, hv, hnext⟩ :=
    members_eq_some h
  obtain ⟨_, _, heq, hk⟩ := hq.start
  rw [heq] at hquote
  obtain ⟨p₁, hlength₁, rfl⟩ := exists_of_skipBlanks (by decide) hquote
  rcases quotedText_before hkey with ⟨p₂, hlength₂, rfl⟩ | rfl
  · obtain ⟨p₃, hlength₃, rfl⟩ := exists_of_skipBlanks (by decide) hcolon
    rw [← heq] at hv
    have hends := hvalue p₃ v tail (by omega) hv
    rcases hnext with ⟨more, ms', hcomma, hread⟩ | hclose
    · obtain ⟨p₄, hlength₄, rfl⟩ := hends.exists_of_skipBlanks hq (by decide) hcomma
      exact (hmembers p₄ ms' rest (by omega) hread).mono (by omega)
    · obtain ⟨p₄, hlength₄, rfl⟩ := hends.exists_of_skipBlanks hq (by decide) hclose
      exact ⟨p₄, by omega, rfl⟩
  · -- a key that ends inside the object has no colon behind it
    rw [skipBlanks_cons hk.notBlank] at hcolon
    exact absurd (List.cons.inj hcolon).1 hk.ne_colon

theorem ends_induction (hq : IsClosedObject q) (fuel : Nat) :
    ValueEnds q fuel ∧ ItemsEnd q fuel ∧ MembersEnd q fuel := by
  induction fuel with
  | zero =>
    refine ⟨fun p v rest _ h => ?_, fun p vs rest hfuel => ?_, fun p ms rest hfuel => ?_⟩
    · simp [value] at h
    · exact absurd hfuel (by omega)
    · exact absurd hfuel (by omega)
  | succ fuel ih =>
    obtain ⟨hvalue, hitems, hmembers⟩ := ih
    exact ⟨valueEnds_succ hq hitems hmembers, itemsEnd_succ hq hvalue hitems,
      membersEnd_succ hq hvalue hmembers⟩

/-- **An object with anything but blanks in front of it is lost**: the whole is of no use. -/
theorem isUsable_ofText_glued (hq : IsClosedObject q) {p : List Char}
    (hp : ∃ c ∈ p, isBlank c = false) (depth : Nat) :
    (ofText (String.ofList (p ++ q))).isUsable depth = false := by
  obtain ⟨k, key, hstart, hk⟩ := hq.start
  rw [ofText, String.toList_ofList]
  cases h : value (fuelFor (p ++ q)) (p ++ q) with
  | mk v rest =>
    cases rest with
    | none => exact isUsable_of_value_eq_none h depth
    | some rest =>
      have hfuel : 2 * (p.length + q.length) ≤ fuelFor (p ++ q) := by
        rw [fuelFor, List.length_append]
        omega
      have hrest : (skipBlanks rest).isEmpty = false := by
        cases (ends_induction hq _).1 p v rest hfuel h with
        | before hbefore =>
          obtain ⟨p', -, rfl⟩ := hbefore
          obtain ⟨p'', -, hskip⟩ := exists_skipBlanks_append p' ('"' :: k :: key)
          rw [hstart, hskip]
          cases p'' <;> rfl
        | inside hk' =>
          rw [skipBlanks_cons hk'.notBlank]
          rfl
        | behind hblank =>
          obtain ⟨c, hc, hnot⟩ := hp
          rw [hblank c hc] at hnot
          cases hnot
      simp only [hrest, Bool.false_eq_true, if_false]
      exact isUsable_broken depth

end FaultDiagnosis.Json.Reading
