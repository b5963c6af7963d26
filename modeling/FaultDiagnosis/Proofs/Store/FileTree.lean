import FaultDiagnosis.Store.FileTree

/-!
# Appending to a file

When bytes are appended to a file, they are found at its end afterwards, a file that was not there
holds these bytes alone, and other files stay as they are. `FaultDiagnosis.FileTree.Appends` is all
that happens to the tree, and `FaultDiagnosis.FileTree.HasText.append` is what it means for the text
of a file that may have been missing together with the directories around it.

A path leads somewhere by way of directories. They stay directories when a node is put at a place
that is none (`FaultDiagnosis.FileTree.Leads.put`), and when missing directories are created
(`FaultDiagnosis.FileTree.AddsDirectories`), so the path still leads to the same place.
-/

namespace FaultDiagnosis

/-- What a node is found as. -/
def Found.ofNode : Option FileNode → Found
  | none => .absent
  | some .directory => .directory
  | some (.file content) => .file content

theorem Found.ofNode_eq_file_iff {node : Option FileNode} {content : ByteArray} :
    ofNode node = .file content ↔ node = some (.file content) := by
  rcases node with _ | _ | content'
  all_goals simp [ofNode]

theorem Found.ofNode_eq_directory_iff {node : Option FileNode} :
    ofNode node = .directory ↔ node = some .directory := by
  rcases node with _ | _ | content
  all_goals simp [ofNode]

theorem Found.ofNode_eq_absent_iff {node : Option FileNode} :
    ofNode node = .absent ↔ node = none := by
  rcases node with _ | _ | content
  all_goals simp [ofNode]

namespace FileTree

variable {t t' : FileTree} {place : List String} {steps : List String} {path : String}

/-! ### Nodes -/

theorem lookup_filter_ne {p : List String} (h : p ≠ place)
    (nodes : List (List String × FileNode)) :
    (nodes.filter fun e => e.1 ≠ place).lookup p = nodes.lookup p := by
  induction nodes with
  | nil => rfl
  | cons e nodes ih =>
    obtain ⟨q, node⟩ := e
    by_cases hq : q = place
    · subst hq
      have hne : (p == q) = false := by simpa using h
      simp only [ne_eq, List.filter_cons, not_true_eq_false, decide_false, Bool.false_eq_true,
        if_false, List.lookup_cons, hne]
      exact ih
    · simp only [ne_eq, List.filter_cons, hq, not_false_eq_true, decide_true, if_true,
        List.lookup_cons]
      cases p == q with
      | true => rfl
      | false => exact ih

theorem node?_put_of_ne {p : List String} (h : p ≠ place) (node : FileNode) :
    (t.put place node).node? p = t.node? p := by
  have hne : (p == place) = false := by simpa using h
  rw [node?, node?, put, List.lookup_cons, hne]
  simp only [lookup_filter_ne h]

/-- A node is found where it was put, unless the working directory or the root is there. -/
theorem node?_put (h : t.node? place ≠ some .directory) (node : FileNode) :
    (t.put place node).node? place = some node := by
  rw [node?] at h
  split at h
  · exact absurd rfl h
  · next hplace => rw [node?, if_neg hplace, put, List.lookup_cons_self]

/-! ### Ways -/

/-- The place that a name leads to. -/
def next (place : List String) (name : String) : List String :=
  if name = ".." then place.dropLast else place ++ [name]

theorem placeOf_eq (path : String) : placeOf path = (names path).foldl next (start path) :=
  rfl

/-- **The names lead on from a place**: they pass directories only. -/
def Leads (t : FileTree) : List String → List String → Prop
  | _, [] => True
  | place, name :: steps => t.node? place = some .directory ∧ Leads t (next place name) steps

theorem walk_eq_of_leads (h : t.Leads place steps) :
    t.walk place steps = Found.ofNode (t.node? (steps.foldl next place)) := by
  induction steps generalizing place with
  | nil =>
    rw [walk, List.foldl_nil]
    rcases t.node? place with _ | _ | content <;> rfl
  | cons name steps ih =>
    rw [walk, h.1]
    exact ih h.2

/-- What is found at the end of a way can be reached. -/
theorem leads_of_walk (h : t.walk place steps = .directory ∨ ∃ c, t.walk place steps = .file c) :
    t.Leads place steps := by
  induction steps generalizing place with
  | nil => trivial
  | cons name steps ih =>
    rw [walk] at h
    split at h
    · simp at h
    · simp at h
    · next hplace => exact ⟨hplace, ih h⟩

theorem leads_append_singleton (name : String) :
    t.Leads place (steps ++ [name]) ↔
      t.Leads place steps ∧ t.node? (steps.foldl next place) = some .directory := by
  induction steps generalizing place with
  | nil => simp [Leads]
  | cons x steps ih =>
    rw [List.cons_append, Leads, Leads, ih, List.foldl_cons, and_assoc]

theorem Leads.mono (h : t.Leads place steps)
    (hdirectory : ∀ p, t.node? p = some .directory → t'.node? p = some .directory) :
    t'.Leads place steps := by
  induction steps generalizing place with
  | nil => trivial
  | cons name steps ih => exact ⟨hdirectory _ h.1, ih h.2⟩

/-- A node that is put where no directory is blocks no way. -/
theorem Leads.put (h : t.Leads place steps) {p : List String}
    (hp : t.node? p ≠ some .directory) (node : FileNode) : (t.put p node).Leads place steps := by
  refine h.mono fun q hq => ?_
  have hne : q ≠ p := by
    rintro rfl
    exact hp hq
  rw [node?_put_of_ne hne, hq]

/-! ### Paths -/

/-- A path that can name a file. -/
structure IsFilePath (path : String) : Prop where
  ne_empty : path ≠ ""
  noNul : path.toList.contains '\x00' = false
  endsInName : asksForDirectory path = false

/-- **Where a file is found**: the path leads to it. -/
theorem find_eq_file_iff {content : ByteArray} :
    t.find path = .file content ↔ IsFilePath path ∧ t.Leads (start path) (names path) ∧
      t.node? (placeOf path) = some (.file content) := by
  constructor
  · intro h
    rw [find] at h
    split at h
    · simp at h
    · next hempty =>
      split at h
      · simp at h
      · next hnul =>
        split at h
        · next content' hwalk =>
          split at h
          · simp at h
          · next hend =>
            have hleads := leads_of_walk (Or.inr ⟨content', hwalk⟩)
            rw [walk_eq_of_leads hleads, ← placeOf_eq, h] at hwalk
            exact ⟨⟨hempty, by simpa using hnul, by simpa using hend⟩, hleads,
              Found.ofNode_eq_file_iff.mp hwalk⟩
        · next hwalk => exact absurd h (hwalk content)
  · rintro ⟨hpath, hleads, hnode⟩
    rw [find, if_neg hpath.ne_empty, hpath.noNul, if_neg Bool.false_ne_true,
      walk_eq_of_leads hleads, ← placeOf_eq, hnode]
    rw [hpath.endsInName]
    rfl

theorem node?_start (t : FileTree) (path : String) : t.node? (start path) = some .directory := by
  refine if_pos ?_
  rw [start]
  split
  · exact Or.inr rfl
  · exact Or.inl rfl

/-- A path of one name leads to a file in the directory that it starts from. -/
theorem find_eq_file_of_name {name : String} {content : ByteArray} (hpath : IsFilePath path)
    (hnames : names path = [name]) (hnode : t.node? (placeOf path) = some (.file content)) :
    t.find path = .file content := by
  refine find_eq_file_iff.mpr ⟨hpath, ?_, hnode⟩
  rw [hnames]
  exact ⟨t.node?_start path, trivial⟩

/-! ### Appending -/

/-- The bytes of the file at a place, if one is there. -/
def contentAt (t : FileTree) (place : List String) : Option ByteArray :=
  match t.node? place with
  | some (.file content) => some content
  | _ => none

theorem contentAt_of_file {content : ByteArray} (h : t.node? place = some (.file content)) :
    t.contentAt place = some content := by
  rw [contentAt, h]

theorem contentAt_of_none (h : t.node? place = none) : t.contentAt place = none := by
  rw [contentAt, h]

/-- If nothing is found where the directory around it is, nothing stands in the way. -/
theorem leads_of_absent (h : t.walk place steps = .absent)
    (hdirectory : t.walk place steps.dropLast = .directory) :
    t.Leads place steps ∧ t.node? (steps.foldl next place) = none := by
  have hleads : t.Leads place steps := by
    rcases List.eq_nil_or_concat steps with rfl | ⟨front, name, rfl⟩
    · trivial
    · -- the way leads to a directory, and one name further
      rw [List.concat_eq_append, List.dropLast_concat] at hdirectory
      have hfront := leads_of_walk (Or.inl hdirectory)
      rw [walk_eq_of_leads hfront, Found.ofNode_eq_directory_iff] at hdirectory
      rw [List.concat_eq_append, leads_append_singleton]
      exact ⟨hfront, hdirectory⟩
  rw [walk_eq_of_leads hleads, Found.ofNode_eq_absent_iff] at h
  exact ⟨hleads, h⟩

/-- **What appending does**: the path leads to a place where there is no directory, and the file
there, or an empty one, has the bytes put at its end. -/
structure Appends (t : FileTree) (path : String) (bytes : ByteArray) (t' : FileTree) : Prop where
  isFilePath : IsFilePath path
  leads : t.Leads (start path) (names path)
  noDirectory : t.node? (placeOf path) ≠ some .directory
  tree : t' = t.put (placeOf path) (.file ((t.contentAt (placeOf path)).getD .empty ++ bytes))

theorem appends_of_append {bytes : ByteArray} (h : t.append path bytes = some t') :
    t.Appends path bytes t' := by
  rw [append] at h
  split at h
  · next content hfind =>
    obtain ⟨hpath, hleads, hnode⟩ := find_eq_file_iff.mp hfind
    refine ⟨hpath, hleads, by rw [hnode]; simp, ?_⟩
    rw [contentAt_of_file hnode]
    exact (Option.some.inj h).symm
  · next hfind =>
    split at h
    · next hdirectory =>
      split at h
      · cases h
      · next hend =>
        obtain ⟨hempty, hname⟩ := not_or.mp hend
        -- nothing is found, so nothing is wrong with the path either
        rw [find, if_neg hempty] at hfind
        split at hfind
        · cases hfind
        · next hnul =>
          split at hfind
          · cases hfind
          · obtain ⟨hleads, hnode⟩ := leads_of_absent hfind hdirectory
            rw [← placeOf_eq] at hnode
            refine ⟨⟨hempty, by simpa using hnul, by simpa using hname⟩, hleads,
              by rw [hnode]; simp, ?_⟩
            rw [contentAt_of_none hnode, Option.getD_none, ByteArray.empty_append]
            exact (Option.some.inj h).symm
    · cases h
  · cases h
  · cases h

/-- Whether bytes can be added to a file does not depend on the bytes. -/
theorem isSome_append_eq (t : FileTree) (path : String) (bytes bytes' : ByteArray) :
    (t.append path bytes).isSome = (t.append path bytes').isSome := by
  unfold append
  split
  · rfl
  · split
    · split
      · rfl
      · rfl
    · rfl
  · rfl
  · rfl

namespace Appends

variable {bytes : ByteArray}

/-- What was appended stands at the end of the file. -/
theorem find_eq (h : t.Appends path bytes t') :
    t'.find path = .file ((t.contentAt (placeOf path)).getD .empty ++ bytes) := by
  rw [h.tree]
  exact find_eq_file_iff.mpr ⟨h.isFilePath, h.leads.put h.noDirectory _, node?_put h.noDirectory _⟩

/-- Files at other places stay as they are. -/
theorem find_of_ne (h : t.Appends path bytes t') {other : String} {content : ByteArray}
    (hother : t.find other = .file content) (hne : placeOf other ≠ placeOf path) :
    t'.find other = .file content := by
  obtain ⟨hpath, hleads, hnode⟩ := find_eq_file_iff.mp hother
  rw [h.tree]
  refine find_eq_file_iff.mpr ⟨hpath, hleads.put h.noDirectory _, ?_⟩
  rw [node?_put_of_ne hne, hnode]

end Appends

/-! ### Directories that were missing -/

/-- **Nothing but directories is new**, and they stand where nothing was. -/
def AddsDirectories (t t' : FileTree) : Prop :=
  ∀ p, t'.node? p = t.node? p ∨ (t.node? p = none ∧ t'.node? p = some .directory)

theorem AddsDirectories.refl (t : FileTree) : t.AddsDirectories t :=
  fun _ => Or.inl rfl

theorem AddsDirectories.trans {t'' : FileTree} (h : t.AddsDirectories t')
    (h' : t'.AddsDirectories t'') : t.AddsDirectories t'' := by
  intro p
  rcases h p with heq | ⟨hnone, hdirectory⟩
  · rw [← heq]
    exact h' p
  · rcases h' p with heq' | ⟨hnone', -⟩
    · exact Or.inr ⟨hnone, heq'.trans hdirectory⟩
    · rw [hdirectory] at hnone'
      cases hnone'

theorem addsDirectories_put (h : t.node? place = none) :
    t.AddsDirectories (t.put place .directory) := by
  intro p
  by_cases hp : p = place
  · subst hp
    exact Or.inr ⟨h, node?_put (by rw [h]; simp) _⟩
  · exact Or.inl (node?_put_of_ne hp _)

/-- Whether the way could be cleared to its end or not, only directories have been added. -/
theorem addsDirectories_makeDirectories (t : FileTree) (place steps : List String) :
    t.AddsDirectories (t.makeDirectories place steps).1 := by
  induction steps generalizing t place with
  | nil => exact .refl t
  | cons name steps ih =>
    rw [makeDirectories]
    split
    · exact ih t _
    · exact .refl t
    · next hnone => exact (addsDirectories_put hnone).trans (ih _ _)

theorem addsDirectories_createDirectory (t : FileTree) (path : String) :
    t.AddsDirectories (t.createDirectory path).1 := by
  rw [createDirectory]
  split
  · exact .refl t
  · exact addsDirectories_makeDirectories t _ _

/-- A file that was there is still found. -/
theorem AddsDirectories.find_eq_file (h : t.AddsDirectories t') {content : ByteArray}
    (hfind : t.find path = .file content) : t'.find path = .file content := by
  obtain ⟨hpath, hleads, hnode⟩ := find_eq_file_iff.mp hfind
  refine find_eq_file_iff.mpr ⟨hpath, hleads.mono fun p hp => ?_, ?_⟩
  · rcases h p with heq | ⟨hnone, -⟩
    · rw [heq, hp]
    · rw [hp] at hnone
      cases hnone
  · rcases h (placeOf path) with heq | ⟨hnone, -⟩
    · rw [heq, hnode]
    · rw [hnode] at hnone
      cases hnone

/-- Every file is what it was, whichever paths lead to it. -/
theorem AddsDirectories.contentAt_eq (h : t.AddsDirectories t') (place : List String) :
    t'.contentAt place = t.contentAt place := by
  rcases h place with heq | ⟨hnone, hdirectory⟩
  · rw [contentAt, contentAt, heq]
  · rw [contentAt, contentAt, hnone, hdirectory]

/-! ### The text of a file -/

/-- **The text of a file**, which is empty if there is no such file and nothing else in its place.
-/
inductive HasText (t : FileTree) (path : String) : String → Prop
  | file {text : String} (h : t.find path = .file text.toUTF8) : HasText t path text
  | missing (h : t.find path = .absent) (hnode : t.node? (placeOf path) = none) : HasText t path ""

theorem HasText.getD_contentAt {text : String} (h : t.HasText path text) :
    (t.contentAt (placeOf path)).getD .empty = text.toUTF8 := by
  cases h with
  | file h => rw [contentAt_of_file (find_eq_file_iff.mp h).2.2, Option.getD_some]
  | missing h hnode =>
    rw [contentAt_of_none hnode]
    rfl

/-- **What is appended stands at the end**, behind the text that was there before, and before the
directories around it were created. -/
theorem HasText.append {text entry : String} {t₁ t₂ : FileTree} (h : t.HasText path text)
    (hadds : t.AddsDirectories t₁) (happend : t₁.Appends path entry.toUTF8 t₂) :
    t₂.HasText path (text ++ entry) := by
  refine .file ?_
  rw [happend.find_eq, hadds.contentAt_eq, h.getD_contentAt]
  rfl

/-! ### Reading it -/

theorem fromUTF8?_toUTF8 (text : String) : String.fromUTF8? text.toUTF8 = some text :=
  dif_pos text.isValidUTF8

theorem readText_of_file {text : String} (h : t.find path = .file text.toUTF8) :
    t.readText path = .ok text := by
  rw [readText, h]
  simp only [fromUTF8?_toUTF8]

end FileTree

end FaultDiagnosis
