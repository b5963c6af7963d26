import FaultDiagnosis.Proofs.Json.Tokens
import Mathlib.Data.List.DropRight

/-!
# The layout of a text does not matter

JSON is written in two ways here, without blanks and with one item or member per line, and the
reader is to see the same value in both. What the two texts have in common is that they put blanks
in the same places, in one case none at all. A `FaultDiagnosis.Json.Layout` says which blanks, and
`FaultDiagnosis.Json.laidOut` is the text with them; the compact text and the indented one are laid
out in this sense (`FaultDiagnosis.Json.chars_eq_laidOut`,
`FaultDiagnosis.Json.prettyChars_eq_laidOut`).

Whatever the layout, what is read of the text is the value
(`FaultDiagnosis.Json.Reading.value_laidOut_append`), only that its arrays and objects are marked as
closed, its keys as present, and a numeral that no double is near to as too large
(`FaultDiagnosis.Json.asRead`). All that has to be asked is that the numerals are literals, as JSON
would not take them for numbers otherwise.

The reader takes as many steps as it is allowed, and it is allowed two per character: one for a
value and one for the list that the value stands in.
-/

namespace FaultDiagnosis.Json

open Reading (IsLiteral EndsNumeral endsNumeral_cons isBlank skipBlanks quotedText ofNumeral)

/-! ### What is read of a value -/

/-- A numeral that some double is near to is read as it is. -/
theorem Reading.ofNumeral_of_not_isTooLarge {n : Numeral} (h : n.isTooLarge = false) :
    ofNumeral n = .number n := by
  rw [ofNumeral, h]
  rfl

mutual

/-- **What is read of the text of a value.** -/
def asRead : Json → Reading
  | .null => .null
  | .bool b => .bool b
  | .number n => ofNumeral n
  | .string s => .string s
  | .array items => .array (itemsAsRead items) true
  | .object members => .object (membersAsRead members) true

/-- What is read of the items of an array. -/
def itemsAsRead : List Json → List Reading
  | [] => []
  | v :: vs => asRead v :: itemsAsRead vs

/-- What is read of the members of an object. -/
def membersAsRead : List (String × Json) → List (Option String × Reading)
  | [] => []
  | (k, v) :: ms => (some k, asRead v) :: membersAsRead ms

end

mutual

/-- **Legible values**: their numerals are literals. -/
def IsLegible : Json → Prop
  | .number n => IsLiteral n
  | .array items => AreLegible items
  | .object members => MembersLegible members
  | .null | .bool _ | .string _ => True

/-- All items are legible. -/
def AreLegible : List Json → Prop
  | [] => True
  | v :: vs => IsLegible v ∧ AreLegible vs

/-- All members are legible. -/
def MembersLegible : List (String × Json) → Prop
  | [] => True
  | (_, v) :: ms => IsLegible v ∧ MembersLegible ms

end

/-! ### Texts with blanks -/

/-- **A layout**: the blanks in front of an item, a member or a closing bracket, which depend on how
deep it is nested, and those between a key and its value. -/
structure Layout where
  line : Nat → List Char
  space : List Char
  blank_line : ∀ level, ∀ c ∈ line level, isBlank c = true
  blank_space : ∀ c ∈ space, isBlank c = true

namespace Layout

/-- No blanks anywhere. -/
def compact : Layout where
  line _ := []
  space := []
  blank_line _ _ h := absurd h List.not_mem_nil
  blank_space _ h := absurd h List.not_mem_nil

/-- Every item and every member on a line of its own. -/
def indented : Layout where
  line := lineBreak
  space := [' ']
  blank_line level c h := by
    rcases List.mem_cons.mp h with rfl | h
    · rfl
    · rw [List.eq_of_mem_replicate h]
      rfl
  blank_space c h := by
    rw [List.mem_singleton.mp h]
    rfl

end Layout

mutual

/-- **The text of a value in a layout**, where the value stands at the given level. -/
def laidOut (l : Layout) (level : Nat) : Json → List Char
  | .null => "null".toList
  | .bool b => if b then "true".toList else "false".toList
  | .number n => n.chars
  | .string s => stringChars s
  | .array items => '[' :: laidOutItems l level items
  | .object members => '\x7b' :: laidOutMembers l level members

/-- The items of an array up to and including the closing bracket. -/
def laidOutItems (l : Layout) (level : Nat) : List Json → List Char
  | [] => [']']
  | v :: vs => l.line (level + 1) ++ (laidOut l (level + 1) v ++ itemsAfter l level vs)

/-- What follows an item: a comma and the next item, or the closing bracket. -/
def itemsAfter (l : Layout) (level : Nat) : List Json → List Char
  | [] => l.line level ++ [']']
  | v :: vs => ',' :: (l.line (level + 1) ++ (laidOut l (level + 1) v ++ itemsAfter l level vs))

/-- The members of an object up to and including the closing brace. -/
def laidOutMembers (l : Layout) (level : Nat) : List (String × Json) → List Char
  | [] => ['\x7d']
  | (k, v) :: ms => l.line (level + 1) ++ (stringChars k ++
      ':' :: (l.space ++ (laidOut l (level + 1) v ++ membersAfter l level ms)))

/-- What follows a member: a comma and the next member, or the closing brace. -/
def membersAfter (l : Layout) (level : Nat) : List (String × Json) → List Char
  | [] => l.line level ++ ['\x7d']
  | (k, v) :: ms => ',' :: (l.line (level + 1) ++ (stringChars k ++
      ':' :: (l.space ++ (laidOut l (level + 1) v ++ membersAfter l level ms))))

end

theorem itemsAfter_cons (l : Layout) (level : Nat) (v : Json) (vs : List Json) :
    itemsAfter l level (v :: vs) = ',' :: laidOutItems l level (v :: vs) := by
  rw [itemsAfter, laidOutItems]

theorem membersAfter_cons (l : Layout) (level : Nat) (m : String × Json)
    (ms : List (String × Json)) :
    membersAfter l level (m :: ms) = ',' :: laidOutMembers l level (m :: ms) := by
  rw [membersAfter, laidOutMembers]

/-! ### The two layouts in use -/

mutual

/-- **The compact text has no blanks.** -/
theorem chars_eq_laidOut : ∀ (level : Nat) (j : Json), chars j = laidOut .compact level j
  | _, .null => rfl
  | _, .bool _ => rfl
  | _, .number _ => rfl
  | _, .string _ => rfl
  | level, .array vs => by rw [chars, laidOut, itemsChars_eq_laidOut level vs]
  | level, .object ms => by rw [chars, laidOut, membersChars_eq_laidOut level ms]

theorem itemsChars_eq_laidOut : ∀ (level : Nat) (vs : List Json),
    itemsChars vs = laidOutItems .compact level vs
  | _, [] => rfl
  | level, v :: vs => by
    rw [itemsChars, laidOutItems, chars_eq_laidOut (level + 1) v, itemsTail_eq_laidOut level vs]
    rfl

theorem itemsTail_eq_laidOut : ∀ (level : Nat) (vs : List Json),
    itemsTail vs = itemsAfter .compact level vs
  | _, [] => rfl
  | level, v :: vs => by
    rw [itemsTail, itemsAfter, chars_eq_laidOut (level + 1) v, itemsTail_eq_laidOut level vs]
    rfl

theorem membersChars_eq_laidOut : ∀ (level : Nat) (ms : List (String × Json)),
    membersChars ms = laidOutMembers .compact level ms
  | _, [] => rfl
  | level, (k, v) :: ms => by
    rw [membersChars, laidOutMembers, chars_eq_laidOut (level + 1) v,
      membersTail_eq_laidOut level ms, List.append_assoc]
    rfl

theorem membersTail_eq_laidOut : ∀ (level : Nat) (ms : List (String × Json)),
    membersTail ms = membersAfter .compact level ms
  | _, [] => rfl
  | level, (k, v) :: ms => by
    rw [membersTail, membersAfter, chars_eq_laidOut (level + 1) v,
      membersTail_eq_laidOut level ms, List.append_assoc]
    rfl

end

mutual

/-- **The indented text** breaks lines and indents them. -/
theorem prettyChars_eq_laidOut : ∀ (level : Nat) (j : Json),
    prettyChars level j = laidOut .indented level j
  | _, .null => rfl
  | _, .bool _ => rfl
  | _, .number _ => rfl
  | _, .string _ => rfl
  | _, .array [] => rfl
  | level, .array (v :: vs) => by
    rw [prettyChars, laidOut, laidOutItems, prettyChars_eq_laidOut (level + 1) v,
      prettyItems_eq_laidOut level vs, List.append_assoc]
    rfl
  | _, .object [] => rfl
  | level, .object ((k, v) :: ms) => by
    rw [prettyChars, laidOut, laidOutMembers, prettyChars_eq_laidOut (level + 1) v,
      prettyMembers_eq_laidOut level ms, List.append_assoc, List.append_assoc]
    rfl

theorem prettyItems_eq_laidOut : ∀ (level : Nat) (vs : List Json),
    prettyItems level vs = itemsAfter .indented level vs
  | _, [] => rfl
  | level, v :: vs => by
    rw [prettyItems, itemsAfter, prettyChars_eq_laidOut (level + 1) v,
      prettyItems_eq_laidOut level vs, List.append_assoc]
    rfl

theorem prettyMembers_eq_laidOut : ∀ (level : Nat) (ms : List (String × Json)),
    prettyMembers level ms = membersAfter .indented level ms
  | _, [] => rfl
  | level, (k, v) :: ms => by
    rw [prettyMembers, membersAfter, prettyChars_eq_laidOut (level + 1) v,
      prettyMembers_eq_laidOut level ms, List.append_assoc, List.append_assoc]
    rfl

end

/-! ### How values start -/

/-- A literal starts with a minus sign or a digit. -/
theorem exists_chars_eq_cons_of_isLiteral {n : Numeral} (h : IsLiteral n) :
    ∃ c cs, n.chars = c :: cs ∧ (c = '-' ∨ ∃ d : Digit, c = d.toChar) := by
  rw [Reading.chars_eq]
  cases n.negative with
  | true => exact ⟨'-', _, rfl, Or.inl rfl⟩
  | false =>
    cases hw : n.whole with
    | nil => exact absurd hw h.whole
    | cons d ds => exact ⟨d.toChar, _, rfl, Or.inr ⟨d, rfl⟩⟩

/-- Such a character starts nothing else, and it is no blank. -/
theorem ne_of_startsNumeral {c : Char} (h : c = '-' ∨ ∃ d : Digit, c = d.toChar) :
    isBlank c = false ∧ c ≠ ']' ∧ c ≠ '"' ∧ c ≠ '[' ∧ c ≠ '\x7b' ∧ c ≠ 'n' ∧ c ≠ 't' ∧ c ≠ 'f' := by
  have hdigit : ∀ d : Digit, isBlank d.toChar = false ∧ d.toChar ≠ ']' ∧ d.toChar ≠ '"' ∧
      d.toChar ≠ '[' ∧ d.toChar ≠ '\x7b' ∧ d.toChar ≠ 'n' ∧ d.toChar ≠ 't' ∧ d.toChar ≠ 'f' := by
    decide
  rcases h with rfl | ⟨d, rfl⟩
  · decide
  · exact hdigit d

/-- The text of a value starts with a character that is neither blank nor a closing bracket. -/
theorem exists_laidOut_eq_cons (l : Layout) (level : Nat) {j : Json} (h : IsLegible j) :
    ∃ c cs, laidOut l level j = c :: cs ∧ isBlank c = false ∧ c ≠ ']' := by
  cases j with
  | null => exact ⟨'n', "ull".toList, rfl, rfl, by decide⟩
  | bool b =>
    cases b with
    | true => exact ⟨'t', "rue".toList, rfl, rfl, by decide⟩
    | false => exact ⟨'f', "alse".toList, rfl, rfl, by decide⟩
  | number n =>
    obtain ⟨c, cs, hc, hstart⟩ := exists_chars_eq_cons_of_isLiteral h
    have hne := ne_of_startsNumeral hstart
    exact ⟨c, cs, hc, hne.1, hne.2.1⟩
  | string s => exact ⟨'"', _, rfl, rfl, by decide⟩
  | array items => exact ⟨'[', _, rfl, rfl, by decide⟩
  | object members => exact ⟨'\x7b', _, rfl, rfl, by decide⟩

namespace Reading

/-! ### Blanks -/

theorem skipBlanks_cons {c : Char} (h : isBlank c = false) (cs : List Char) :
    skipBlanks (c :: cs) = c :: cs := by
  rw [skipBlanks, List.dropWhile_cons, h]
  rfl

theorem skipBlanks_append {p : List Char} (hp : ∀ c ∈ p, isBlank c = true) (cs : List Char) :
    skipBlanks (p ++ cs) = skipBlanks cs := by
  induction p with
  | nil => rfl
  | cons c p ih =>
    obtain ⟨hc, hp⟩ := List.forall_mem_cons.mp hp
    rw [List.cons_append, skipBlanks, List.dropWhile_cons, hc]
    exact ih hp

/-- Neither a value nor a list of them depends on the blanks in front of it. -/
theorem value_congr {fuel : Nat} {cs cs' : List Char} (h : skipBlanks cs = skipBlanks cs') :
    value fuel cs = value fuel cs' := by
  cases fuel with
  | zero => rw [value, value]
  | succ fuel => rw [value, value, h]

theorem items_congr {fuel : Nat} {cs cs' : List Char} (h : skipBlanks cs = skipBlanks cs') :
    items fuel cs = items fuel cs' := by
  cases fuel with
  | zero => rw [items, items]
  | succ fuel => rw [items, items, value_congr h]

theorem members_congr {fuel : Nat} {cs cs' : List Char} (h : skipBlanks cs = skipBlanks cs') :
    members fuel cs = members fuel cs' := by
  cases fuel with
  | zero => rw [members, members]
  | succ fuel => rw [members, members, h]

/-- No blank goes on with a number. -/
theorem endsNumeral_append {p : List Char} (hp : ∀ c ∈ p, isBlank c = true) {cs : List Char}
    (hcs : EndsNumeral cs) : EndsNumeral (p ++ cs) := by
  cases p with
  | nil => exact hcs
  | cons c p =>
    have hblank : isBlank c = true := hp c List.mem_cons_self
    simp only [isBlank, Bool.or_eq_true, decide_eq_true_eq] at hblank
    refine endsNumeral_cons ?_
    rcases hblank with ((rfl | rfl) | rfl) | rfl
    all_goals decide

/-! ### The start of a value -/

/-- A value that starts with none of the other characters is a number. -/
theorem value_of_numeral {n : Numeral} (h : IsLiteral n) (fuel : Nat) {rest : List Char}
    (hrest : EndsNumeral rest) :
    value (fuel + 1) (n.chars ++ rest) = (ofNumeral n, some rest) := by
  have hread := numeral_chars_append h hrest
  obtain ⟨c, cs, hc, hstart⟩ := exists_chars_eq_cons_of_isLiteral h
  rw [hc, List.cons_append] at hread ⊢
  obtain ⟨hblank, -, hquote, hbracket, hbrace, hn, ht, hf⟩ := ne_of_startsNumeral hstart
  rw [value, skipBlanks_cons hblank]
  simp only
  split <;> simp_all

/-- An array that does not close at once has items. -/
theorem value_array (fuel : Nat) {c : Char} {cs rest : List Char} (h : skipBlanks cs = c :: rest)
    (hc : c ≠ ']') :
    value (fuel + 1) ('[' :: cs) = (.array (items fuel cs).1 (items fuel cs).2.isSome,
      (items fuel cs).2) := by
  have hitems : items fuel cs = items fuel (c :: rest) := by
    refine items_congr ?_
    rw [h, ← h, skipBlanks, skipBlanks, List.dropWhile_idempotent]
  rw [hitems, value, skipBlanks_cons rfl]
  simp only [h]
  split <;> simp_all

/-- An object that does not close at once has members. -/
theorem value_object (fuel : Nat) {c : Char} {cs rest : List Char} (h : skipBlanks cs = c :: rest)
    (hc : c ≠ '\x7d') :
    value (fuel + 1) ('\x7b' :: cs) = (.object (members fuel cs).1 (members fuel cs).2.isSome,
      (members fuel cs).2) := by
  have hmembers : members fuel cs = members fuel (c :: rest) := by
    refine members_congr ?_
    rw [h, ← h, skipBlanks, skipBlanks, List.dropWhile_idempotent]
  rw [hmembers, value, skipBlanks_cons rfl]
  simp only [h]
  split <;> simp_all

/-! ### Values -/

mutual

/-- **A laid-out value is read**, in front of anything that does not go on with a number. -/
theorem value_laidOut_append (l : Layout) : ∀ (j : Json) (level fuel : Nat) (rest : List Char),
    IsLegible j → 2 * (laidOut l level j).length ≤ fuel → EndsNumeral rest →
    value fuel (laidOut l level j ++ rest) = (asRead j, some rest)
  | .null, _, fuel + 1, rest, _, _, _ => rfl
  | .bool true, _, fuel + 1, rest, _, _, _ => rfl
  | .bool false, _, fuel + 1, rest, _, _, _ => rfl
  | .number n, _, fuel + 1, rest, h, _, hrest => value_of_numeral h fuel hrest
  | .string s, _, fuel + 1, rest, _, _, _ => by
    rw [laidOut, stringChars, List.cons_append, List.cons_append, List.append_assoc, value,
      skipBlanks_cons rfl]
    simp only [List.cons_append, List.nil_append, quotedText_append]
    rfl
  | .array [], _, fuel + 1, rest, _, _, _ => rfl
  | .array (v :: vs), level, fuel + 1, rest, h, hfuel, _ => by
    simp only [laidOut, List.length_cons] at hfuel
    have hitems := items_laidOut_append l (v :: vs) level fuel rest h (List.cons_ne_nil v vs)
      (by omega)
    -- the first item does not look like the end of an empty array
    obtain ⟨c, cs, hc, hblank, hbracket⟩ := exists_laidOut_eq_cons l (level + 1) h.1
    have hskip : skipBlanks (laidOutItems l level (v :: vs) ++ rest) =
        c :: (cs ++ (itemsAfter l level vs ++ rest)) := by
      rw [laidOutItems, hc, List.append_assoc, skipBlanks_append (l.blank_line _),
        List.append_assoc, List.cons_append, skipBlanks_cons hblank]
    rw [laidOut, List.cons_append, value_array fuel hskip hbracket, hitems]
    rfl
  | .object [], _, fuel + 1, rest, _, _, _ => rfl
  | .object ((k, v) :: ms), level, fuel + 1, rest, h, hfuel, _ => by
    simp only [laidOut, List.length_cons] at hfuel
    have hmembers := members_laidOut_append l ((k, v) :: ms) level fuel rest h
      (List.cons_ne_nil _ ms) (by omega)
    have hskip : skipBlanks (laidOutMembers l level ((k, v) :: ms) ++ rest) =
        '"' :: (k.toList.flatMap escapedChar ++ ['"'] ++
          (':' :: (l.space ++ (laidOut l (level + 1) v ++ membersAfter l level ms)) ++ rest)) := by
      rw [laidOutMembers, List.append_assoc, skipBlanks_append (l.blank_line _), stringChars,
        List.append_assoc]
      exact skipBlanks_cons rfl _
    rw [laidOut, List.cons_append, value_object fuel hskip (by decide), hmembers]
    rfl
  | j, level, 0, rest, h, hfuel, _ => by
    -- a text is never empty, so the bound leaves at least one step
    obtain ⟨c, cs, hc, -⟩ := exists_laidOut_eq_cons l level h
    simp [hc] at hfuel

/-- Laid-out items are read up to the closing bracket. -/
theorem items_laidOut_append (l : Layout) : ∀ (vs : List Json) (level fuel : Nat)
    (rest : List Char), AreLegible vs → vs ≠ [] →
    2 * (laidOutItems l level vs).length + 1 ≤ fuel →
    items fuel (laidOutItems l level vs ++ rest) = (itemsAsRead vs, some rest)
  | [], _, _, _, _, hne, _ => absurd rfl hne
  | [v], level, fuel + 1, rest, h, _, hfuel => by
    simp only [laidOutItems, List.length_append] at hfuel
    have hv := value_laidOut_append l v (level + 1) fuel (l.line level ++ ']' :: rest) h.1
      (by omega) (endsNumeral_append (l.blank_line _) (endsNumeral_cons (by decide)))
    rw [laidOutItems, itemsAfter, List.append_assoc,
      items_congr (skipBlanks_append (l.blank_line _) _), List.append_assoc, List.append_assoc,
      List.cons_append, List.nil_append, items, hv]
    simp only [skipBlanks_append (l.blank_line level), skipBlanks_cons (c := ']') rfl]
    rfl
  | v :: w :: vs, level, fuel + 1, rest, h, _, hfuel => by
    rw [laidOutItems, itemsAfter_cons, List.length_append, List.length_append,
      List.length_cons] at hfuel
    have hv := value_laidOut_append l v (level + 1) fuel
      (',' :: (laidOutItems l level (w :: vs) ++ rest)) h.1 (by omega)
      (endsNumeral_cons (by decide))
    have hvs := items_laidOut_append l (w :: vs) level fuel rest h.2 (List.cons_ne_nil w vs)
      (by omega)
    rw [laidOutItems, itemsAfter_cons, List.append_assoc,
      items_congr (skipBlanks_append (l.blank_line _) _), List.append_assoc, List.cons_append,
      items, hv]
    simp only [skipBlanks_cons (c := ',') rfl, hvs]
    rfl

/-- Laid-out members are read up to the closing brace. -/
theorem members_laidOut_append (l : Layout) : ∀ (ms : List (String × Json)) (level fuel : Nat)
    (rest : List Char), MembersLegible ms → ms ≠ [] →
    2 * (laidOutMembers l level ms).length + 1 ≤ fuel →
    members fuel (laidOutMembers l level ms ++ rest) = (membersAsRead ms, some rest)
  | [], _, _, _, _, hne, _ => absurd rfl hne
  | [(k, v)], level, fuel + 1, rest, h, _, hfuel => by
    simp only [laidOutMembers, List.length_append, List.length_cons] at hfuel
    have hv := value_laidOut_append l v (level + 1) fuel (l.line level ++ '\x7d' :: rest) h.1
      (by omega) (endsNumeral_append (l.blank_line _) (endsNumeral_cons (by decide)))
    rw [← value_congr (skipBlanks_append l.blank_space _)] at hv
    rw [laidOutMembers, membersAfter, List.append_assoc,
      members_congr (skipBlanks_append (l.blank_line _) _), stringChars]
    simp only [List.append_assoc, List.cons_append, List.nil_append]
    rw [members, skipBlanks_cons rfl]
    simp only [quotedText_append, skipBlanks_cons (c := ':') rfl, hv,
      skipBlanks_append (l.blank_line level), skipBlanks_cons (c := '\x7d') rfl]
    rfl
  | (k, v) :: m :: ms, level, fuel + 1, rest, h, _, hfuel => by
    rw [laidOutMembers, membersAfter_cons] at hfuel
    simp only [List.length_append, List.length_cons] at hfuel
    have hv := value_laidOut_append l v (level + 1) fuel
      (',' :: (laidOutMembers l level (m :: ms) ++ rest)) h.1 (by omega)
      (endsNumeral_cons (by decide))
    have hms := members_laidOut_append l (m :: ms) level fuel rest h.2 (List.cons_ne_nil m ms)
      (by omega)
    rw [← value_congr (skipBlanks_append l.blank_space _)] at hv
    rw [laidOutMembers, membersAfter_cons, List.append_assoc,
      members_congr (skipBlanks_append (l.blank_line _) _), stringChars]
    simp only [List.append_assoc, List.cons_append, List.nil_append]
    rw [members, skipBlanks_cons rfl]
    simp only [quotedText_append, skipBlanks_cons (c := ':') rfl, hv,
      skipBlanks_cons (c := ',') rfl, hms]
    rfl

end

/-! ### Whole texts -/

/-- A list of blanks is nothing but blanks to skip. -/
theorem skipBlanks_eq_nil {p : List Char} (hp : ∀ c ∈ p, isBlank c = true) : skipBlanks p = [] := by
  have hskip := skipBlanks_append hp []
  rwa [List.append_nil] at hskip

/-- **The value at the start of a text is read**, whatever follows it. -/
theorem ofPrefix_laidOut (l : Layout) (level : Nat) {j : Json} (h : IsLegible j)
    {rest : List Char} (hrest : EndsNumeral rest) :
    ofPrefix (String.ofList (laidOut l level j ++ rest)) = asRead j := by
  have hread := value_laidOut_append l j level (fuelFor (laidOut l level j ++ rest)) rest h
    (by rw [fuelFor, List.length_append]; omega) hrest
  rw [ofPrefix, String.toList_ofList, hread]

/-- **A whole text is read**, also with blanks around the value. -/
theorem ofText_laidOut (l : Layout) (level : Nat) {j : Json} (h : IsLegible j) {p q : List Char}
    (hp : ∀ c ∈ p, isBlank c = true) (hq : ∀ c ∈ q, isBlank c = true) :
    ofText (String.ofList (p ++ (laidOut l level j ++ q))) = asRead j := by
  have hends : EndsNumeral q := List.append_nil q ▸ endsNumeral_append hq endsNumeral_nil
  have hread := value_laidOut_append l j level (fuelFor (p ++ (laidOut l level j ++ q))) q h
    (by rw [fuelFor, List.length_append, List.length_append]; omega) hends
  rw [ofText, String.toList_ofList, value_congr (skipBlanks_append hp _), hread]
  simp only [skipBlanks_eq_nil hq, List.isEmpty_nil, if_true]

/-- Nothing but the value stands in a compact text. -/
theorem ofText_compact {j : Json} (h : IsLegible j) : ofText j.compact = asRead j := by
  have hread := ofText_laidOut .compact 0 h (fun _ h => absurd h List.not_mem_nil)
    (fun _ h => absurd h List.not_mem_nil)
  rwa [List.append_nil, List.nil_append, ← chars_eq_laidOut] at hread

/-- Nor does anything else in an indented one, but for blanks that end it. -/
theorem ofText_pretty_append {j : Json} (h : IsLegible j) {q : String}
    (hq : ∀ c ∈ q.toList, isBlank c = true) : ofText (j.pretty ++ q) = asRead j := by
  have hread := ofText_laidOut .indented 0 h (fun _ h => absurd h List.not_mem_nil) hq
  rwa [List.nil_append, ← prettyChars_eq_laidOut, String.ofList_append, String.ofList_toList]
    at hread

end Reading

end FaultDiagnosis.Json
