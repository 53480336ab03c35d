import Overseer.Proofs.Files.Write

/-!
Writing to a file by its path or through an open file, seen from another place: what stands there is
left alone.
-/

namespace Overseer.Files

variable {files left : Files} {p q : Path} {loc : Location} {bytes : Bytes}

/-- Files that differ at most where a path leads. -/
structure DifferAtEnd (files left : Files) (q : Path) : Prop where
  same : files.SameDirectories left
  elsewhere : ∀ here, files.locateChecked q ≠ .ok here → left.node? here = files.node? here

namespace DifferAtEnd

theorem refl (files : Files) (q : Path) : files.DifferAtEnd files q :=
  ⟨.refl files, fun _ _ => rfl⟩

theorem of_differAt (hleads : files.locateChecked q = .ok loc) (hdiffer : files.DifferAt left loc) :
    files.DifferAtEnd left q := by
  refine ⟨hdiffer.same, fun here hhere => hdiffer.elsewhere here ?_⟩
  rintro rfl
  exact hhere hleads

end DifferAtEnd

theorem differAtEnd_create {handle : Handle} (hcreate : files.create q = .ok (handle, left)) :
    files.DifferAtEnd left q := by
  obtain ⟨loc, opened, -, hleads, hdiffer, -⟩ := create_cases hcreate
  exact .of_differAt hleads hdiffer

theorem differAtEnd_overwrite (files : Files) (q : Path) (bytes : Bytes) :
    files.DifferAtEnd (files.overwrite q bytes).2 q := by
  rcases files.overwrite_cases q bytes with ⟨r, -, hsame⟩ | ⟨loc, opened, hleads, hdiffer, -⟩
  · rw [hsame]
    exact .refl files q
  · exact .of_differAt hleads hdiffer

theorem differAtEnd_appendTo (files : Files) (q : Path) (bytes : Bytes) :
    files.DifferAtEnd (files.appendTo q bytes).2 q := by
  unfold appendTo
  cases hopen : files.openForWriting q with
  | error r => exact .refl files q
  | ok opening =>
    obtain ⟨loc, opened⟩ := opening
    obtain ⟨hleads, hdiffer, -⟩ := openForWriting_cases hopen
    dsimp only
    split
    · exact .of_differAt hleads hdiffer
    · exact .of_differAt hleads (hdiffer.trans (differAt_edit opened loc _))

/-- Two paths that do not lead to one place. -/
def Apart (files : Files) (p q : Path) : Prop :=
  ∀ loc, files.locateChecked p = .ok loc → files.locateChecked q ≠ .ok loc

theorem Apart.of_sameDirectories (hapart : files.Apart p q) (hsame : files.SameDirectories left) :
    left.Apart p q := by
  intro loc hp hq
  rw [hsame.locateChecked_eq_ok_iff] at hp hq
  exact hapart loc hp hq

/-- What is written behind the last byte is added. -/
theorem overlay_length (content bytes : Bytes) :
    overlay content content.length bytes = content ++ bytes := by
  simp [overlay]

/-- A regular file takes what is written through a handle, wherever the handle has got to. -/
theorem write_file {content : Bytes} {executable : Bool}
    (hnode : files.node? loc = some (.file content executable)) (position : Nat) (bytes : Bytes) :
    files.write ⟨some loc, position⟩ bytes = .ok (⟨some loc, position + bytes.length⟩,
      files.edit loc fun content => overlay content position bytes) := by
  have htaken : ¬(files.node? loc = some (.device true) ∧ bytes ≠ []) := by
    simp [hnode]
  simp only [write, if_neg htaken, writeAt]

/-- What is written through a handle behind the last byte of a regular file is added to it. -/
theorem write_at_end {content : Bytes} {executable : Bool}
    (hnode : files.node? loc = some (.file content executable)) (bytes : Bytes) :
    files.write ⟨some loc, content.length⟩ bytes =
      .ok (⟨some loc, (content ++ bytes).length⟩, files.edit loc (· ++ bytes)) := by
  have hedit : (files.edit loc fun old => overlay old content.length bytes) =
      files.edit loc (· ++ bytes) := by
    simp only [edit, hnode, Option.bind_some, Node.regular?, overlay_length]
  rw [write_file hnode, hedit, List.length_append]

/-- Writing through a handle leaves every place alone but that of the handle, and the handle stays
    there. -/
theorem write_elsewhere {handle further : Handle}
    (hwrite : files.write handle bytes = .ok (further, left)) :
    further.location = handle.location ∧ files.SameDirectories left ∧
      ∀ here, handle.location ≠ some here → left.node? here = files.node? here := by
  unfold write at hwrite
  dsimp only at hwrite
  cases hlocation : handle.location with
  | none =>
    rw [hlocation] at hwrite
    cases hwrite
    exact ⟨rfl, .refl files, fun _ _ => rfl⟩
  | some loc =>
    rw [hlocation] at hwrite
    dsimp only at hwrite
    split at hwrite
    · cases hwrite
    · cases hwrite
      have hdiffer := differAt_edit files loc fun content => overlay content handle.position bytes
      refine ⟨rfl, hdiffer.same, fun here hhere => hdiffer.elsewhere here ?_⟩
      rintro rfl
      exact hhere rfl

end Overseer.Files
