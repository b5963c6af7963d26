import FaultDiagnosis.Diagnosis.Report
import Mathlib.Data.List.Basic

/-!
# Listings of symptoms

A listing is made in one pass: each symptom is placed with the others of its category, wherever in
the list it stands. Shipped and contributed symptoms of both categories may come in any order. What
has been placed so far is always what a look at each category by itself would give
(`FaultDiagnosis.Report.Groups.inOrder`): its symptoms in the order of the list, and no group at all
where there are none.

This is what one more symptom keeps (`FaultDiagnosis.Report.Groups.place_inOrder`), and the pass is
the induction over it. The order of the categories matters in one place only: a category that comes
up for the first time goes before all that rank behind it, and these are the rest of the groups.

Every symptom has one line (`FaultDiagnosis.Report.line`), with its identifier and its label, and
every category that is shown has one heading above the lines of its symptoms. In the text itself, a
heading is told from a symptom by how its line starts: with an escape sequence, or with spaces. So
the headings can be found again (`FaultDiagnosis.Report.headings_symptoms`), unless somebody has
written more than one line into an identifier or a label.
-/

namespace FaultDiagnosis

namespace Category

theorem mem_all (c : Category) : c ∈ all := by
  cases c with
  | hardware => exact List.mem_cons_self
  | software => exact List.mem_cons_of_mem _ List.mem_cons_self

theorem pairwise_all : all.Pairwise fun c d => c.rank < d.rank := by
  decide

end Category

namespace Report

/-- The symptoms of a category, in the order of the list. -/
def ofCategory (c : Category) (list : List Symptom) : List Symptom :=
  list.filter fun s => s.category = c

variable {c : Category} {s : Symptom} {list : List Symptom}

theorem ofCategory_concat_self (h : s.category = c) :
    ofCategory c (list ++ [s]) = ofCategory c list ++ [s] := by
  simp [ofCategory, h]

theorem ofCategory_concat_of_ne (h : s.category ≠ c) :
    ofCategory c (list ++ [s]) = ofCategory c list := by
  simp [ofCategory, h]

namespace Groups

/-- The group of a category, if it has symptoms in the list. -/
def alone (list : List Symptom) (c : Category) : Groups :=
  match ofCategory c list with
  | [] => []
  | members => [(c, members)]

/-- **The groups of a list**, found for each of the given categories by itself. -/
def inOrder (cs : List Category) (list : List Symptom) : Groups :=
  cs.flatMap (alone list)

theorem category_of_mem_alone {g : Category × List Symptom} (h : g ∈ alone list c) : g.1 = c := by
  rw [alone] at h
  split at h
  · cases h
  · rw [List.mem_singleton.mp h]

theorem category_mem_of_mem_inOrder {cs : List Category} {g : Category × List Symptom}
    (h : g ∈ inOrder cs list) : g.1 ∈ cs := by
  obtain ⟨c, hc, hg⟩ := List.mem_flatMap.mp h
  rwa [category_of_mem_alone hg]

/-! ### Placing one symptom -/

theorem alone_concat_of_ne (h : s.category ≠ c) : alone (list ++ [s]) c = alone list c := by
  rw [alone, ofCategory_concat_of_ne h, alone]

theorem alone_concat_self (h : s.category = c) :
    alone (list ++ [s]) c = [(c, ofCategory c list ++ [s])] := by
  rw [alone, ofCategory_concat_self h]
  split
  · next hnil => simp at hnil
  · rfl

/-- Other categories do not notice a symptom. -/
theorem inOrder_concat_of_not_mem {cs : List Category} (h : s.category ∉ cs) :
    inOrder cs (list ++ [s]) = inOrder cs list := by
  rw [inOrder, inOrder]
  exact List.flatMap_congr fun c hc => alone_concat_of_ne fun heq => h (heq ▸ hc)

/-- A category that ranks before all others goes to the front. -/
theorem place_of_forall_lt {groups : Groups} (h : ∀ g ∈ groups, s.category.rank < g.1.rank) :
    groups.place s = (s.category, [s]) :: groups := by
  cases groups with
  | nil => rfl
  | cons g groups =>
    have hlt : s.category.rank < g.1.rank := h g List.mem_cons_self
    have hne : s.category ≠ g.1 := by
      intro heq
      rw [heq] at hlt
      exact Nat.lt_irrefl _ hlt
    rw [place, if_neg hne, if_pos hlt]

/-- A symptom of the first category joins its group, or opens it. -/
theorem place_alone_append_self (h : s.category = c) {later : Groups}
    (hlater : ∀ g ∈ later, c.rank < g.1.rank) :
    place s (alone list c ++ later) = alone (list ++ [s]) c ++ later := by
  rw [alone_concat_self h, alone]
  split
  · next hnil =>
    rw [hnil, List.nil_append, place_of_forall_lt (h ▸ hlater), h]
    rfl
  · exact if_pos h

/-- A symptom of a later category passes the first one by. -/
theorem place_alone_append_of_lt (h : c.rank < s.category.rank) (later : Groups) :
    place s (alone list c ++ later) = alone (list ++ [s]) c ++ later.place s := by
  have hne : s.category ≠ c := by
    intro heq
    rw [heq] at h
    exact Nat.lt_irrefl _ h
  rw [alone_concat_of_ne hne, alone]
  split
  · rfl
  · change place s ((c, _) :: later) = (c, _) :: later.place s
    rw [place, if_neg hne, if_neg (Nat.lt_asymm h)]

/-- **Placing one more symptom** among the groups of a list gives the groups of the list with it at
the end. -/
theorem place_inOrder {cs : List Category} (hcs : cs.Pairwise fun c d => c.rank < d.rank)
    (list : List Symptom) (hs : s.category ∈ cs) :
    (inOrder cs list).place s = inOrder cs (list ++ [s]) := by
  -- Along the categories. Those that are passed by rank lower, and all that come later rank higher.
  induction cs with
  | nil => cases hs
  | cons c cs ih =>
    obtain ⟨hlt, hcs⟩ := List.pairwise_cons.mp hcs
    have hlater : ∀ g ∈ inOrder cs list, c.rank < g.1.rank :=
      fun g hg => hlt g.1 (category_mem_of_mem_inOrder hg)
    change place s (alone list c ++ inOrder cs list) =
      alone (list ++ [s]) c ++ inOrder cs (list ++ [s])
    rcases List.mem_cons.mp hs with heq | hs
    · have hnot : s.category ∉ cs := fun hmem => Nat.lt_irrefl _ (heq ▸ hlt s.category hmem)
      rw [place_alone_append_self heq hlater, inOrder_concat_of_not_mem hnot]
    · rw [place_alone_append_of_lt (hlt s.category hs), ih hcs hs]

/-! ### The whole pass -/

theorem foldl_place (list more : List Symptom) :
    more.foldl (fun groups s => groups.place s) (inOrder Category.all list) =
      inOrder Category.all (list ++ more) := by
  induction more generalizing list with
  | nil => rw [List.foldl_nil, List.append_nil]
  | cons s more ih =>
    rw [List.foldl_cons, place_inOrder Category.pairwise_all list s.category.mem_all, ih,
      List.append_assoc]
    rfl

/-- **One pass finds what a look at each category finds.** -/
theorem ofList_eq_inOrder (list : List Symptom) : ofList list = inOrder Category.all list :=
  foldl_place [] list

end Groups

/-! ### Lines -/

theorem setAttribute_zero : setAttribute 0 = "\x1b[0m" := by
  decide +kernel

theorem bold_eq (text : String) : bold text = "\x1b[1m" ++ text ++ "\x1b[0m" := by
  have hon : setAttribute 1 = "\x1b[1m" := by decide +kernel
  rw [bold, styled, hon, setAttribute_zero]

theorem italic_eq (text : String) : italic text = "\x1b[3m" ++ text ++ "\x1b[0m" := by
  have hon : setAttribute 3 = "\x1b[3m" := by decide +kernel
  rw [italic, styled, hon, setAttribute_zero]

/-- The name of a category as a heading shows it. -/
def title : Category → String
  | .hardware => "\x1b[1mHARDWARE\x1b[0m"
  | .software => "\x1b[1mSOFTWARE\x1b[0m"

theorem heading_eq (c : Category) : heading c = title c ++ "\n" := by
  rw [heading, bold_eq]
  cases c with
  | hardware => decide
  | software => decide

/-- The label as the line of a symptom shows it. That of a contribution is in italics and marked. -/
def shownLabel (s : Symptom) : String :=
  match s.origin with
  | .shipped => s.label
  | .user => "\x1b[3m" ++ (s.label ++ " [contributed]") ++ "\x1b[0m"

/-- **The line of a symptom**: two spaces, its identifier with spaces up to twenty characters,
another space, and its label. -/
def line (s : Symptom) : String :=
  "  " ++ s.id ++ String.ofList (List.replicate (20 - s.id.length) ' ') ++ " " ++ shownLabel s ++
    "\n"

theorem symptomLine_eq (s : Symptom) : symptomLine s = line s := by
  rw [symptomLine, line, padded, idWidth, shownLabel, Symptom.displayLabel, italic_eq]
  cases s.origin <;> simp only [String.append_assoc]

/-! ### What is shown -/

/-- **What is shown of a category**: one heading and the line of each of its symptoms, in the order
of the list. A category without symptoms is not shown. -/
def shown (c : Category) (list : List Symptom) : String :=
  match ofCategory c list with
  | [] => ""
  | members => title c ++ "\n" ++ String.join (members.map line)

theorem join_alone (list : List Symptom) (c : Category) :
    String.join ((Groups.alone list c).map fun g => group g.1 g.2) = shown c list := by
  rw [Groups.alone, shown]
  split
  · rfl
  · simp [group, heading_eq, funext symptomLine_eq]

theorem symptoms_eq (list : List Symptom) :
    symptoms list = shown .hardware list ++ shown .software list := by
  have hgroups : Groups.inOrder Category.all list =
      Groups.alone list .hardware ++ Groups.alone list .software := by
    simp [Groups.inOrder, Category.all]
  rw [symptoms, Groups.ofList_eq_inOrder, hgroups, List.map_append, String.join_append, join_alone,
    join_alone]

/-! ### The headings in the text -/

/-- Does a line start with a style? Headings do, and the lines of symptoms start with spaces. -/
def isHeading (line : String) : Bool :=
  line.toList.head? = some '\x1b'

/-- The headings among the lines of a text that is given by its characters. -/
def headingsFrom (cs : List Char) : List String :=
  ((cs.splitOnP (· = '\n')).map String.ofList).filter isHeading

/-- The first line of a text is one of its headings or is passed over. -/
theorem headingsFrom_line {cs : List Char} (h : '\n' ∉ cs) (rest : List Char) :
    headingsFrom (cs ++ '\n' :: rest) =
      [String.ofList cs].filter isHeading ++ headingsFrom rest := by
  have hsplit : (cs ++ '\n' :: rest).splitOnP (· = '\n') = cs :: rest.splitOnP (· = '\n') := by
    refine List.splitOnP_append_cons_of_forall_mem (fun c hc => decide_eq_false ?_) '\n' rfl rest
    rintro rfl
    exact h hc
  rw [headingsFrom, hsplit, List.map_cons, headingsFrom, ← List.filter_append,
    List.singleton_append]

theorem headingsFrom_title (c : Category) (rest : List Char) :
    headingsFrom ((title c ++ "\n").toList ++ rest) = title c :: headingsFrom rest := by
  have hnot : '\n' ∉ (title c).toList := by cases c <;> decide
  have htitle : isHeading (title c) = true := by cases c <;> decide
  rw [String.toList_append, List.append_assoc]
  refine (headingsFrom_line hnot rest).trans ?_
  rw [String.ofList_toList, List.filter_cons_of_pos htitle]
  rfl

/-- **A symptom is no heading**, if its identifier and its label stay on one line. -/
theorem headingsFrom_line_symptom (hid : '\n' ∉ s.id.toList) (hlabel : '\n' ∉ s.label.toList)
    (rest : List Char) : headingsFrom ((line s).toList ++ rest) = headingsFrom rest := by
  -- the line end is the one that stands at the end: identifier, spaces and label have none
  obtain ⟨cs, hline, hnot⟩ : ∃ cs, (line s).toList = (' ' :: cs) ++ ['\n'] ∧
      '\n' ∉ ' ' :: cs := by
    have hspaces : '\n' ∉ List.replicate (20 - s.id.length) ' ' := fun h =>
      absurd (List.eq_of_mem_replicate h) (by decide)
    have hshown : '\n' ∉ (shownLabel s).toList := by
      rw [shownLabel]
      cases s.origin <;> simp [hlabel]
    refine ⟨' ' :: s.id.toList ++ List.replicate (20 - s.id.length) ' ' ++
      ' ' :: (shownLabel s).toList, by simp [line], ?_⟩
    simp [hid, hspaces, hshown]
  have hspace : isHeading (String.ofList (' ' :: cs)) = false := by
    rw [isHeading, String.toList_ofList]
    rfl
  rw [hline, List.append_assoc, List.singleton_append, headingsFrom_line hnot,
    List.filter_singleton, hspace]
  rfl

/-- Are the identifier and the label of each symptom on one line? -/
def OnOneLine (list : List Symptom) : Prop :=
  ∀ s ∈ list, '\n' ∉ s.id.toList ∧ '\n' ∉ s.label.toList

instance (list : List Symptom) : Decidable (OnOneLine list) :=
  inferInstanceAs (Decidable (∀ s ∈ list, '\n' ∉ s.id.toList ∧ '\n' ∉ s.label.toList))

theorem headingsFrom_join_line {members : List Symptom} (h : OnOneLine members)
    (rest : List Char) :
    headingsFrom ((String.join (members.map line)).toList ++ rest) = headingsFrom rest := by
  induction members with
  | nil => rfl
  | cons s members ih =>
    obtain ⟨⟨hid, hlabel⟩, h⟩ := List.forall_mem_cons.mp h
    rw [List.map_cons, String.join_cons, String.toList_append, List.append_assoc,
      headingsFrom_line_symptom hid hlabel, ih h]

/-- **A category that is shown has one heading.** -/
theorem headingsFrom_shown (h : OnOneLine list) (c : Category) (rest : List Char) :
    headingsFrom ((shown c list).toList ++ rest) =
      (if ofCategory c list = [] then [] else [title c]) ++ headingsFrom rest := by
  have hmembers : OnOneLine (ofCategory c list) := fun s hs => h s (List.mem_of_mem_filter hs)
  rw [shown]
  split
  · next hnil =>
    rw [if_pos hnil]
    rfl
  · next hne =>
    rw [if_neg hne, String.toList_append, List.append_assoc, headingsFrom_title,
      headingsFrom_join_line hmembers]
    rfl

/-- The headings among the lines of a text. -/
def headings (text : String) : List String :=
  headingsFrom text.toList

/-- **Each category that occurs has one heading**, and there are no others. -/
theorem headings_symptoms (h : OnOneLine list) :
    headings (symptoms list) =
      (Category.all.filter fun c => ofCategory c list ≠ []).map title := by
  have htext : (symptoms list).toList =
      (shown .hardware list).toList ++ ((shown .software list).toList ++ []) := by
    rw [symptoms_eq, String.toList_append, List.append_nil]
  have hend : headingsFrom [] = [] := by decide
  rw [headings, htext, headingsFrom_shown h, headingsFrom_shown h]
  -- Either category may be missing, and its heading with it.
  by_cases hhardware : ofCategory .hardware list = [] <;>
    by_cases hsoftware : ofCategory .software list = [] <;>
      simp [Category.all, hhardware, hsoftware, hend]

/-- **A listing neither loses nor repeats nor splits.** It shows hardware and then software: for
each of the two that occurs, one heading and then the lines of its symptoms in the order of the
list. Where identifiers and labels stay on one line each, the lines of the text that are headings
are those of the categories that occur, each of them once. So lists with the same symptoms of each
category, in the same order, are listed alike, wherever the symptoms of one category stand between
those of the other. -/
theorem symptoms_by_category :
    (∀ list, symptoms list = shown .hardware list ++ shown .software list) ∧
    (∀ list, OnOneLine list → headings (symptoms list) =
      (Category.all.filter fun c => ofCategory c list ≠ []).map title) ∧
    ∀ list list', (∀ c, ofCategory c list = ofCategory c list') →
      symptoms list = symptoms list' := by
  refine ⟨symptoms_eq, fun _ => headings_symptoms, fun list list' h => ?_⟩
  rw [symptoms_eq, symptoms_eq, shown, shown, h, h]
  rfl

/-- A fan that a user has reported after the shipped symptoms. -/
def lateFan : Symptom where
  id := "user_fan_noise"
  label := "Fan makes a grinding noise"
  category := .hardware
  origin := .user

/-- A shipped symptom of the hardware. -/
def noPower : Symptom where
  id := "no_power"
  label := "The PC does not power on"
  category := .hardware
  origin := .shipped

/-- A shipped symptom of the software. -/
def systemSlow : Symptom where
  id := "system_slow"
  label := "The system is slow"
  category := .software
  origin := .shipped

/-- The fan comes after the software and is listed with the hardware, as if it had come before. -/
theorem symptoms_by_category_lateFan :
    let late := [noPower, systemSlow, lateFan]
    let early := [noPower, lateFan, systemSlow]
    OnOneLine late ∧ (∀ c, ofCategory c late = ofCategory c early) ∧
      symptoms late = symptoms early ∧
      symptoms late =
        "\x1b[1mHARDWARE\x1b[0m\n" ++
        "  no_power             The PC does not power on\n" ++
        "  user_fan_noise       \x1b[3mFan makes a grinding noise [contributed]\x1b[0m\n" ++
        "\x1b[1mSOFTWARE\x1b[0m\n" ++
        "  system_slow          The system is slow\n" ∧
      headings (symptoms late) = ["\x1b[1mHARDWARE\x1b[0m", "\x1b[1mSOFTWARE\x1b[0m"] := by
  intro late early
  have hline : OnOneLine late := by decide
  have hsame : ∀ c, ofCategory c late = ofCategory c early := by
    intro c
    cases c <;> decide
  obtain ⟨hshown, hheadings, hlisted⟩ := symptoms_by_category
  refine ⟨hline, hsame, hlisted late early hsame, ?_, hheadings late hline⟩
  rw [hshown]
  decide +kernel

end Report

end FaultDiagnosis
