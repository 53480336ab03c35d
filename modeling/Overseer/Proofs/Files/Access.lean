import Overseer.Files.Access

/-!
What working on files by path comes to: reading and deleting in terms of what is found at the end of
a path, and how the deletion of one file shows at the end of another path.
-/

namespace Overseer.Files

/-- Opening for reading finds what stands at the end of the path, and fails only if nothing does. -/
theorem openForReading_eq_ok_iff {files : Files} {p : Path} {node : Node} :
    files.openForReading p = .ok node ↔ files.find? p = some node := by
  unfold openForReading find?
  cases files.locateChecked p with
  | error r => simp [bind, Except.bind]
  | ok loc => cases hnode : files.node? loc <;> simp [bind, Except.bind, hnode]

/-- Everything at the end of a path can be read, directories apart. -/
theorem read_eq_ok_iff {files : Files} {p : Path} {content : Bytes} :
    files.read p = .ok content ↔
      ∃ node, files.find? p = some node ∧ node ≠ .directory ∧ node.content = content := by
  cases hopen : files.openForReading p with
  | error r =>
    have hnone : ∀ node, files.find? p ≠ some node := by
      intro node hfind
      rw [openForReading_eq_ok_iff.2 hfind] at hopen
      cases hopen
    simp [read, hopen, bind, Except.bind, hnone]
  | ok node =>
    have hfind := openForReading_eq_ok_iff.1 hopen
    cases node <;> simp [read, hopen, hfind, bind, Except.bind]

/-- The current directory is named from the root as long as it exists. -/
theorem currentDirectory_eq_ok_iff {files : Files} {here : Path} :
    files.currentDirectory = .ok here ↔
      files.node? files.cwd = some .directory ∧
        here = ⟨Path.slash :: Path.ofNames files.cwd⟩ := by
  unfold currentDirectory
  split
  · next hnode => simp [hnode, eq_comm]
  · next hnode => simp [show files.node? files.cwd ≠ some .directory from hnode]

theorem isAbsolute_of_currentDirectory {files : Files} {here : Path}
    (hhere : files.currentDirectory = .ok here) : here.IsAbsolute := by
  obtain ⟨-, rfl⟩ := currentDirectory_eq_ok_iff.1 hhere
  rfl

theorem remove_eq_ok_iff {files left : Files} {p : Path} :
    files.remove p = .ok left ↔
      ∃ loc node, files.locateChecked p = .ok loc ∧ files.node? loc = some node ∧
        node ≠ .directory ∧ left = files.erase loc := by
  unfold remove
  cases files.locateChecked p with
  | error r => simp [bind, Except.bind]
  | ok loc =>
    cases hnode : files.node? loc with
    | none => simp [bind, Except.bind, hnode]
    | some node => cases node <;> simp [bind, Except.bind, hnode, eq_comm]

/-- What stands at the end of a path can be deleted, unless it is a directory. -/
theorem exists_remove_eq_ok {files : Files} {p : Path} {node : Node}
    (hfind : files.find? p = some node) (hnode : node ≠ .directory) :
    ∃ left, files.remove p = .ok left := by
  unfold find? at hfind
  cases hloc : files.locateChecked p with
  | error r =>
    rw [hloc] at hfind
    cases hfind
  | ok loc =>
    rw [hloc] at hfind
    exact ⟨_, remove_eq_ok_iff.2 ⟨loc, node, hloc, hfind, hnode, rfl⟩⟩

/-- A step down goes through a directory that exists. -/
theorem node?_of_descend {files : Files} {here loc : Location} {name : Bytes}
    (hdescend : files.descend here name = .ok loc) : files.node? here = some .directory := by
  unfold descend at hdescend
  split at hdescend
  · cases hdescend
  · assumption
  · cases hdescend

/-- Names are followed one at a time. -/
theorem foldlM_descend_cons_eq_ok_iff {files : Files} {here loc : Location} {name : Bytes}
    {names : List Bytes} :
    (name :: names).foldlM files.descend here = .ok loc ↔
      ∃ next, files.descend here name = .ok next ∧ names.foldlM files.descend next = .ok loc := by
  rw [List.foldlM_cons]
  cases files.descend here name <;> simp [bind, Except.bind]

theorem mapError_eq_ok_iff {x : Except Errno Location} {f : Errno → Refusal}
    {loc : Location} : x.mapError f = .ok loc ↔ x = .ok loc := by
  constructor
  · intro hmapped
    cases x with
    | error e => cases hmapped
    | ok found =>
      cases hmapped
      rfl
  · rintro rfl
    rfl

/-- Files with the same directories and the same place to start from. -/
structure SameDirectories (files other : Files) : Prop where
  cwd : other.cwd = files.cwd
  directory : ∀ loc, other.node? loc = some .directory ↔ files.node? loc = some .directory

/-- A file that is no directory can be taken away without changing the directories. -/
theorem sameDirectories_erase {files : Files} {gone : Location}
    (hgone : files.node? gone ≠ some .directory) : files.SameDirectories (files.erase gone) := by
  have hroot : gone ≠ [] := by
    rintro rfl
    exact hgone rfl
  refine ⟨rfl, fun loc => ?_⟩
  by_cases hsame : loc = gone
  · subst hsame
    simp [node?_erase_self files hroot, hgone]
  · rw [node?_erase_of_ne files hsame]

/-- The node at a place that is no directory can be exchanged without changing the directories. -/
theorem sameDirectories_put {files : Files} {loc : Location} {node : Node}
    (hloc : files.node? loc ≠ some .directory) (hnode : node ≠ .directory) :
    files.SameDirectories (files.put loc node) := by
  have hroot : loc ≠ [] := by
    rintro rfl
    exact hloc rfl
  refine ⟨rfl, fun other => ?_⟩
  by_cases hsame : other = loc
  · subst hsame
    simp [node?_put_self files hroot, hloc, hnode]
  · rw [node?_put_of_ne files hsame]

namespace SameDirectories

variable {files other : Files}

theorem refl (files : Files) : files.SameDirectories files :=
  ⟨rfl, fun _ => Iff.rfl⟩

theorem trans {later : Files} (hother : files.SameDirectories other)
    (hlater : other.SameDirectories later) : files.SameDirectories later :=
  ⟨hlater.cwd.trans hother.cwd, fun loc => (hlater.directory loc).trans (hother.directory loc)⟩

theorem descend_eq_ok_iff (hsame : files.SameDirectories other) {here loc : Location}
    {name : Bytes} : other.descend here name = .ok loc ↔ files.descend here name = .ok loc := by
  by_cases hhere : files.node? here = some .directory
  · rw [descend, descend, hhere, (hsame.directory here).2 hhere]
  · constructor
    · intro hdescend
      exact absurd ((hsame.directory here).1 (node?_of_descend hdescend)) hhere
    · intro hdescend
      exact absurd (node?_of_descend hdescend) hhere

theorem foldlM_descend_eq_ok_iff (hsame : files.SameDirectories other) {names : List Bytes}
    {here loc : Location} :
    names.foldlM other.descend here = .ok loc ↔ names.foldlM files.descend here = .ok loc := by
  induction names generalizing here with
  | nil => rfl
  | cons name rest ih =>
    simp only [foldlM_descend_cons_eq_ok_iff, hsame.descend_eq_ok_iff, ih]

theorem follow_eq_ok_iff (hsame : files.SameDirectories other) {p : Path} {names : List Bytes}
    {loc : Location} : other.follow p names = .ok loc ↔ files.follow p names = .ok loc := by
  unfold follow origin
  rw [hsame.cwd]
  split
  · simp
  · split
    · simp
    · exact hsame.foldlM_descend_eq_ok_iff

/-- Paths lead to the same places. -/
theorem locateChecked_eq_ok_iff (hsame : files.SameDirectories other) {p : Path}
    {loc : Location} : other.locateChecked p = .ok loc ↔ files.locateChecked p = .ok loc := by
  unfold locateChecked
  split
  · simp
  · rw [mapError_eq_ok_iff, mapError_eq_ok_iff, locate, locate, hsame.follow_eq_ok_iff]

end SameDirectories

/-- Taking a file away shows on the paths that lead to it and on no other. -/
theorem find?_erase_eq_some_iff {files : Files} {gone : Location}
    (hgone : files.node? gone ≠ some .directory) {p : Path} {node : Node} :
    (files.erase gone).find? p = some node ↔
      files.locateChecked p ≠ .ok gone ∧ files.find? p = some node := by
  have hroot : gone ≠ [] := by
    rintro rfl
    exact hgone rfl
  have hsame := sameDirectories_erase hgone
  unfold find?
  cases hloc : files.locateChecked p with
  | ok loc =>
    rw [hsame.locateChecked_eq_ok_iff.2 hloc]
    by_cases hloc : loc = gone
    · subst hloc
      simp [node?_erase_self files hroot]
    · simp [hloc, node?_erase_of_ne files hloc]
  | error r =>
    cases herased : (files.erase gone).locateChecked p with
    | error r => simp
    | ok loc =>
      rw [hsame.locateChecked_eq_ok_iff.1 herased] at hloc
      cases hloc

/-- A deletion takes one file away, and nothing is put anywhere. -/
theorem find?_remove_eq_some_iff {files left : Files} {p q : Path} {node : Node}
    (hremove : files.remove p = .ok left) :
    left.find? q = some node ↔
      files.locateChecked q ≠ files.locateChecked p ∧ files.find? q = some node := by
  obtain ⟨gone, taken, hloc, hnode, hdirectory, rfl⟩ := remove_eq_ok_iff.1 hremove
  have hgone : files.node? gone ≠ some .directory := by
    rw [hnode]
    exact fun h => hdirectory (Option.some.inj h)
  rw [find?_erase_eq_some_iff hgone, hloc]

/-- Nothing is found where something was deleted. -/
theorem find?_remove_self {files left : Files} {p : Path} (hremove : files.remove p = .ok left) :
    left.find? p = none := by
  rw [Option.eq_none_iff_forall_ne_some]
  intro node hfind
  exact ((find?_remove_eq_some_iff hremove).1 hfind).1 rfl

end Overseer.Files
