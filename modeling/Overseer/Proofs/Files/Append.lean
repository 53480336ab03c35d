import Overseer.Proofs.Files.Access

/-!
Adding bytes to a file by its path: what is read there afterwards.
-/

namespace Overseer.Files

theorem find?_eq_some_iff {files : Files} {p : Path} {node : Node} :
    files.find? p = some node ↔
      ∃ loc, files.locateChecked p = .ok loc ∧ files.node? loc = some node := by
  unfold find?
  cases files.locateChecked p <;> simp

theorem locateChecked_eq_ok_iff {files : Files} {p : Path} {loc : Location} :
    files.locateChecked p = .ok loc ↔ 0 ∉ p.bytes ∧ files.follow p (steps p) = .ok loc := by
  unfold locateChecked locate
  split
  · simp [*]
  · simp [*, mapError_eq_ok_iff]

/-- Names are followed on a path that is neither empty nor too long. -/
theorem follow_eq_ok_iff {files : Files} {p : Path} {names : List Bytes} {loc : Location} :
    files.follow p names = .ok loc ↔ p.bytes ≠ [] ∧ p.bytes.length < maxPathLength ∧
      names.foldlM files.descend (files.origin p) = .ok loc := by
  by_cases hempty : p.bytes = []
  · simp [follow, hempty]
  by_cases hlong : p.bytes.length ≥ maxPathLength
  · simp [follow, hempty, hlong, Nat.not_lt.2 hlong]
  · simp [follow, hempty, hlong, Nat.not_le.1 hlong]

/-- Names that end in a dot lead to a directory or nowhere. -/
theorem node?_of_follow_dot {files : Files} {p : Path} {names : List Bytes} {loc : Location}
    (hfollow : files.follow p (names ++ [Path.dot]) = .ok loc) :
    files.node? loc = some .directory := by
  obtain ⟨-, -, hfold⟩ := follow_eq_ok_iff.1 hfollow
  rw [List.foldlM_append] at hfold
  cases hnames : List.foldlM files.descend (files.origin p) names with
  | error e =>
    rw [hnames] at hfold
    cases hfold
  | ok here =>
    rw [hnames] at hfold
    obtain ⟨next, hdot, hnext⟩ := foldlM_descend_cons_eq_ok_iff.1 hfold
    have hdirectory := node?_of_descend hdot
    simp only [descend, hdirectory, if_true, Except.ok.injEq] at hdot
    cases hnext
    rw [← hdot, hdirectory]

/-- A path with a slash at the end leads to a directory or nowhere. -/
theorem getLast?_ne_slash {files : Files} {p : Path} {node : Node}
    (hfind : files.find? p = some node) (hnode : node ≠ .directory) :
    p.bytes.getLast? ≠ some Path.slash := by
  intro hslash
  obtain ⟨loc, hloc, hlocnode⟩ := find?_eq_some_iff.1 hfind
  obtain ⟨-, hfollow⟩ := locateChecked_eq_ok_iff.1 hloc
  rw [steps, if_pos hslash] at hfollow
  rw [node?_of_follow_dot hfollow] at hlocnode
  exact hnode (Option.some.inj hlocnode).symm

/-- A path that leads to anything but a directory is opened for writing there. -/
theorem openForWriting_of_ne_directory {files : Files} {p : Path} {loc : Location} {node : Node}
    (hloc : files.locateChecked p = .ok loc) (hnode : files.node? loc = some node)
    (hfile : node ≠ .directory) : files.openForWriting p = .ok (loc, files) := by
  obtain ⟨hzero, hfollow⟩ := locateChecked_eq_ok_iff.1 hloc
  have hslash := getLast?_ne_slash (find?_eq_some_iff.2 ⟨loc, hloc, hnode⟩) hfile
  have hsteps : stepsForWriting p = steps p := by
    simp [stepsForWriting, steps, hslash]
  have hwhere : (files.follow p (steps p)).mapError Refusal.system = .ok loc :=
    mapError_eq_ok_iff.2 hfollow
  cases node with
  | directory => exact absurd rfl hfile
  | file | device | program =>
    simp [openForWriting, hzero, hsteps, hwhere, hnode, bind, Except.bind]

/-- A path that leads to a file is opened for writing there. -/
theorem openForWriting_eq {files : Files} {p : Path} {loc : Location} {content : Bytes}
    {executable : Bool} (hloc : files.locateChecked p = .ok loc)
    (hnode : files.node? loc = some (.file content executable)) :
    files.openForWriting p = .ok (loc, files) :=
  openForWriting_of_ne_directory hloc hnode Node.noConfusion

/-- Bytes added by a path go behind the content of the file that it leads to. Nothing else about the
    tree changes. -/
theorem appendTo_eq {files : Files} {p : Path} {loc : Location} {content : Bytes}
    {executable : Bool} (hloc : files.locateChecked p = .ok loc)
    (hnode : files.node? loc = some (.file content executable)) (bytes : Bytes) :
    ∃ left, files.appendTo p bytes = (.done, left) ∧ files.SameDirectories left ∧
      left.node? loc = some (.file (content ++ bytes) executable) := by
  have hroot : loc ≠ [] := by
    rintro rfl
    cases hnode
  have happend : files.append loc bytes = files.put loc (.file (content ++ bytes) executable) := by
    simp [append, edit, hnode, Node.regular?]
  refine ⟨files.append loc bytes, ?_, ?_, ?_⟩
  · simp [appendTo, openForWriting_eq hloc hnode, hnode]
  · rw [happend]
    exact sameDirectories_put (by simp [hnode]) Node.noConfusion
  · rw [happend]
    exact node?_put_self files hroot _

/-- Bytes added one after the other, by paths that all lead to one file, stand there in the same
    order. -/
theorem foldl_appendTo {files : Files} {loc : Location} {content : Bytes} {executable : Bool}
    (hnode : files.node? loc = some (.file content executable)) (pieces : List (Path × Bytes))
    (hloc : ∀ piece ∈ pieces, files.locateChecked piece.1 = .ok loc) :
    let after := pieces.foldl (fun files piece => (files.appendTo piece.1 piece.2).2) files
    files.SameDirectories after ∧
      after.node? loc = some (.file (content ++ pieces.flatMap Prod.snd) executable) := by
  induction pieces generalizing files content with
  | nil => exact ⟨.refl files, by simpa using hnode⟩
  | cons piece later ih =>
    rw [List.forall_mem_cons] at hloc
    obtain ⟨left, happend, hsame, hleft⟩ := appendTo_eq hloc.1 hnode piece.2
    have hlater : ∀ piece ∈ later, left.locateChecked piece.1 = .ok loc := fun piece hpiece =>
      hsame.locateChecked_eq_ok_iff.2 (hloc.2 piece hpiece)
    obtain ⟨hafter, hcontent⟩ := ih hleft hlater
    rw [List.append_assoc, ← List.flatMap_cons] at hcontent
    simp only [List.foldl_cons, happend]
    exact ⟨hsame.trans hafter, hcontent⟩

/-- By a path of its own, a file is found with what was added by any paths that lead to it. -/
theorem find?_foldl_appendTo {files : Files} {p : Path} {content : Bytes} {executable : Bool}
    (hfind : files.find? p = some (.file content executable)) (pieces : List (Path × Bytes))
    (hplace : ∀ piece ∈ pieces, files.locateChecked piece.1 = files.locateChecked p) :
    (pieces.foldl (fun files piece => (files.appendTo piece.1 piece.2).2) files).find? p =
      some (.file (content ++ pieces.flatMap Prod.snd) executable) := by
  obtain ⟨loc, hloc, hnode⟩ := find?_eq_some_iff.1 hfind
  rw [hloc] at hplace
  obtain ⟨hsame, hafter⟩ := foldl_appendTo hnode pieces hplace
  exact find?_eq_some_iff.2 ⟨loc, hsame.locateChecked_eq_ok_iff.2 hloc, hafter⟩

end Overseer.Files
