import FaultDiagnosis.Proofs.Store.FileTree
import Mathlib.Data.List.DropRight

/-!
# The directory that a file is in

Before a file is written, the directory around it is created, by a path that is cut out of the
file's own (`FaultDiagnosis.FileTree.parent?`). The cut is made in the text: parts at its end that
lead nowhere are dropped, and an empty rest stands for the working directory, or for the root. This
file says that what is left leads where it should, along the same names up to the last one
(`FaultDiagnosis.FileTree.exists_parent`). So where there is a file already, the directories around
it are all there, and none has to be created
(`FaultDiagnosis.FileTree.createDirectory_of_leads`).
-/

namespace FaultDiagnosis.FileTree

variable {t : FileTree} {cs part : List Char} {place steps : List String} {path : String}

/-! ### Parts -/

/-- Does a part of a path lead somewhere? -/
def isStep (part : String) : Bool :=
  part ≠ "" && part ≠ "."

theorem names_eq (path : String) : names path = (parts path).filter isStep :=
  rfl

theorem not_mem_of_mem_splitOn (h : part ∈ cs.splitOn '/') : '/' ∉ part := by
  rw [List.splitOn_eq_splitOnP] at h
  induction cs generalizing part with
  | nil =>
    rw [List.splitOnP_nil, List.mem_singleton] at h
    rw [h]
    exact List.not_mem_nil
  | cons c cs ih =>
    rw [List.splitOnP_cons_eq_if_modifyHead] at h
    split at h
    · rcases List.mem_cons.mp h with rfl | h
      · exact List.not_mem_nil
      · exact ih h
    · next hc =>
      -- the character joins the first part
      cases hparts : cs.splitOnP (· == '/') with
      | nil => exact absurd hparts (List.splitOnP_ne_nil _ _)
      | cons first others =>
        rw [hparts] at h ih
        rcases List.mem_cons.mp h with rfl | h
        · rw [List.mem_cons, not_or]
          exact ⟨fun heq => hc (beq_iff_eq.mpr heq.symm), ih List.mem_cons_self⟩
        · exact ih (List.mem_cons_of_mem first h)

theorem parts_ne_nil (path : String) : parts path ≠ [] := by
  intro h
  exact List.splitOnP_ne_nil _ _ (List.map_eq_nil_iff.mp h)

theorem map_toList_parts (path : String) :
    (parts path).map String.toList = path.toList.splitOn '/' := by
  have hinverse : String.toList ∘ String.ofList = id := funext fun _ => String.toList_ofList
  rw [parts, List.map_map, hinverse, List.map_id, List.splitOn_eq_splitOnP]
  rfl

theorem not_mem_of_mem_parts {p : String} (h : p ∈ parts path) : '/' ∉ p.toList := by
  have hmem := List.mem_map_of_mem (f := String.toList) h
  rw [map_toList_parts] at hmem
  exact not_mem_of_mem_splitOn hmem

/-- The parts of a path, put together again. -/
theorem intercalate_parts (path : String) : "/".intercalate (parts path) = path := by
  refine String.toList_inj.mp ?_
  rw [String.toList_intercalate, map_toList_parts]
  exact List.intercalate_splitOn '/'

/-- Parts that are put together are found again. -/
theorem parts_intercalate {ps : List String} (hps : ps ≠ [])
    (hslash : ∀ p ∈ ps, '/' ∉ p.toList) : parts ("/".intercalate ps) = ps := by
  have hsplit : (("/".intercalate ps).toList.splitOn '/') = ps.map String.toList := by
    rw [String.toList_intercalate]
    refine List.splitOn_intercalate '/' (fun cs hcs => ?_) (by simpa using hps)
    obtain ⟨p, hp, rfl⟩ := List.mem_map.mp hcs
    exact hslash p hp
  rw [← map_toList_parts] at hsplit
  exact List.map_injective_iff.mpr (fun _ _ => String.toList_inj.mp) hsplit

theorem names_intercalate {ps : List String} (hslash : ∀ p ∈ ps, '/' ∉ p.toList) :
    names ("/".intercalate ps) = ps.filter isStep := by
  rcases eq_or_ne ps [] with rfl | hps
  · decide +kernel
  · rw [names_eq, parts_intercalate hps hslash]

/-- The first parts of a path make the beginning of its text. -/
theorem intercalate_isPrefix {ps : List String} (h : ps <+: parts path) :
    ("/".intercalate ps).toList <+: path.toList := by
  obtain ⟨qs, hqs⟩ := h
  rcases eq_or_ne ps [] with rfl | hps
  · exact List.nil_prefix
  · rw [← intercalate_parts path, ← hqs]
    rcases eq_or_ne qs [] with rfl | hne
    · exact ⟨[], by simp⟩
    · rw [String.intercalate_append_of_ne_nil hps hne, String.append_assoc, String.toList_append]
      exact List.prefix_append _ _

/-! ### Parts that lead nowhere -/

/-- A part that leads nowhere, and its position: a dot at the front is kept. -/
def isIdle (part : String × Nat) : Bool :=
  part.1 = "" || (part.1 = "." && part.2 ≠ 0)

theorem trimParts_eq (ps : List String) :
    trimParts ps = (ps.zipIdx.rdropWhile isIdle).map Prod.fst :=
  rfl

theorem isStep_of_isIdle {part : String × Nat} (h : isIdle part = true) :
    isStep part.1 = false := by
  simp only [isIdle, Bool.or_eq_true, Bool.and_eq_true, decide_eq_true_eq] at h
  rcases h with h | ⟨h, -⟩
  · simp [isStep, h]
  · simp [isStep, h]

theorem not_isIdle_of_isStep {part : String × Nat} (h : isStep part.1 = true) :
    ¬isIdle part = true := by
  intro hidle
  rw [isStep_of_isIdle hidle] at h
  cases h

/-- Only parts that lead nowhere are dropped. -/
theorem exists_trimParts_append (ps : List String) :
    ∃ dropped, trimParts ps ++ dropped = ps ∧ dropped.filter isStep = [] := by
  refine ⟨(ps.zipIdx.rtakeWhile isIdle).map Prod.fst, ?_, ?_⟩
  · rw [trimParts_eq, ← List.map_append, List.rdropWhile_append_rtakeWhile, List.zipIdx_map_fst]
  · refine List.filter_eq_nil_iff.mpr fun p hp => ?_
    obtain ⟨part, hpart, rfl⟩ := List.mem_map.mp hp
    rw [isStep_of_isIdle (List.mem_rtakeWhile_imp hpart)]
    exact Bool.false_ne_true

theorem trimParts_isPrefix (ps : List String) : trimParts ps <+: ps := by
  obtain ⟨dropped, h, -⟩ := exists_trimParts_append ps
  exact ⟨dropped, h⟩

theorem filter_trimParts (ps : List String) :
    (trimParts ps).filter isStep = ps.filter isStep := by
  obtain ⟨dropped, h, hnil⟩ := exists_trimParts_append ps
  rw [← congrArg (List.filter isStep) h, List.filter_append, hnil, List.append_nil]

/-- A last part that leads somewhere keeps everything. -/
theorem trimParts_concat (ps : List String) {last : String} (h : isStep last = true) :
    trimParts (ps ++ [last]) = ps ++ [last] := by
  have hlast : ¬isIdle (last, 0 + ps.length) = true := not_isIdle_of_isStep h
  rw [trimParts_eq, List.zipIdx_append, List.zipIdx_singleton,
    List.rdropWhile_concat_neg _ _ _ hlast, List.map_append, List.zipIdx_map_fst]
  rfl

/-! ### The directory around a file -/

/-- The path of a file ends in a part that leads somewhere. -/
theorem IsFilePath.exists_parts (h : IsFilePath path) :
    ∃ front last, parts path = front ++ [last] ∧ isStep last = true := by
  rcases List.eq_nil_or_concat' (parts path) with hnil | ⟨front, last, hparts⟩
  · exact absurd hnil (parts_ne_nil path)
  · refine ⟨front, last, hparts, ?_⟩
    have hend := h.endsInName
    rw [asksForDirectory, hparts, List.getLast?_concat] at hend
    simpa [isStep] using hend

/-- A text at the front of a path starts where the path does. -/
theorem start_of_prefix {front : String} (h : front.toList <+: path.toList) (hne : front ≠ "") :
    start front = start path := by
  obtain ⟨rest, hrest⟩ := h
  cases hfront : front.toList with
  | nil => exact absurd (String.toList_eq_nil_iff.mp hfront) hne
  | cons c cs =>
    rw [hfront] at hrest
    rw [start, start, isAbsolute, isAbsolute, hfront, ← hrest]
    rfl

/-- **The directory around a file is on the way to it.** Its path starts where that of the file
does, and goes along the same names but for the last one. -/
theorem IsFilePath.exists_parent (h : IsFilePath path) :
    ∃ directory last, parent? path = some directory ∧ names path = names directory ++ [last] ∧
      start directory = start path ∧ directory.toList.contains '\x00' = false := by
  obtain ⟨front, last, hparts, hlast⟩ := h.exists_parts
  -- the text in front of the last part, without the parts at its end that lead nowhere
  have hfront : trimParts front <+: parts path := by
    rw [hparts]
    exact (trimParts_isPrefix front).trans (List.prefix_append _ _)
  have hnames : names path = names ("/".intercalate (trimParts front)) ++ [last] := by
    rw [names_intercalate fun p hp => not_mem_of_mem_parts (hfront.subset hp), filter_trimParts,
      names_eq, hparts, List.filter_append, List.filter_singleton, hlast]
    rfl
  have htext := intercalate_isPrefix hfront
  have hparent : parent? path = some (if "/".intercalate (trimParts front) = "" ∧ isAbsolute path
      then "/" else "/".intercalate (trimParts front)) := by
    rw [parent?, hparts, trimParts_concat front hlast]
    split
    · next hnil => exact absurd hnil (List.concat_ne_nil last front)
    · rw [List.dropLast_concat]
  rw [hparent]
  generalize "/".intercalate (trimParts front) = directory at hnames htext
  split
  · next hroot =>
    obtain ⟨rfl, habsolute⟩ := hroot
    refine ⟨"/", last, rfl, hnames, ?_, by decide⟩
    rw [start, start, habsolute]
    rfl
  · next hroot =>
    refine ⟨directory, last, rfl, hnames, ?_, ?_⟩
    · rcases eq_or_ne directory "" with rfl | hne
      · have habsolute : isAbsolute path = false := by simpa using hroot
        rw [start, start, habsolute]
        rfl
      · exact start_of_prefix htext hne
    · -- the text of the path has no such character
      have hnul := h.noNul
      rw [← Bool.not_eq_true, List.contains_iff_mem] at hnul ⊢
      exact fun hmem => hnul (htext.subset hmem)

/-! ### Nothing to create -/

/-- Along directories that are there, nothing is created. -/
theorem makeDirectories_of_leads (h : t.Leads place steps)
    (hend : t.node? (steps.foldl next place) = some .directory) :
    t.makeDirectories place steps = (t, true) := by
  induction steps generalizing place with
  | nil => rfl
  | cons name steps ih =>
    have hnext : t.node? (if name = ".." then place.dropLast else place ++ [name]) =
        some .directory := by
      cases steps with
      | nil => exact hend
      | cons name' steps => exact h.2.1
    simp only [makeDirectories, hnext]
    exact ih h.2 hend

/-- **Where a path leads to, the directory around it need not be created.** -/
theorem createDirectory_of_leads (hpath : IsFilePath path)
    (hleads : t.Leads (start path) (names path)) :
    ∃ directory, parent? path = some directory ∧ t.createDirectory directory = (t, true) := by
  obtain ⟨directory, last, hparent, hnames, hstart, hnul⟩ := hpath.exists_parent
  rw [hnames, leads_append_singleton, ← hstart] at hleads
  refine ⟨directory, hparent, ?_⟩
  rw [createDirectory, hnul, if_neg Bool.false_ne_true]
  exact makeDirectories_of_leads hleads.1 hleads.2

end FaultDiagnosis.FileTree
