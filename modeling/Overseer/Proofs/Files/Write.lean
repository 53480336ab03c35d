import Overseer.Proofs.Files.Append

/-!
Writing to files by their paths: what is found at the end of the same path, or of any other path,
afterwards.
-/

namespace Overseer

/-- Changes the bytes of a regular file and leaves every other node alone. -/
def Node.edit (f : Bytes → Bytes) (node : Node) : Node :=
  match node.regular? with
  | some (content, executable) => .file (f content) executable
  | none => node

theorem Node.regular?_edit (f : Bytes → Bytes) (node : Node) :
    (node.edit f).regular? = node.regular?.map fun (content, executable) => (f content, executable) := by
  cases node <;> rfl

namespace Files

variable {files left other : Files} {p q : Path} {loc : Location} {f : Bytes → Bytes}

/-- Files that differ at one place only, and not by a directory. -/
structure DifferAt (files other : Files) (loc : Location) : Prop where
  same : files.SameDirectories other
  elsewhere : ∀ here ≠ loc, other.node? here = files.node? here

namespace DifferAt

theorem refl (files : Files) (loc : Location) : files.DifferAt files loc :=
  ⟨.refl files, fun _ _ => rfl⟩

theorem trans (hother : files.DifferAt other loc) (hleft : other.DifferAt left loc) :
    files.DifferAt left loc :=
  ⟨hother.same.trans hleft.same, fun here hhere =>
    (hleft.elsewhere here hhere).trans (hother.elsewhere here hhere)⟩

/-- A path leads to the place of the difference, or to what was there before. -/
theorem find?_cases (hdiffer : files.DifferAt other loc) {node : Node}
    (hfind : other.find? q = some node) :
    files.locateChecked q = .ok loc ∧ other.node? loc = some node ∨ files.find? q = some node := by
  obtain ⟨here, hhere, hnode⟩ := find?_eq_some_iff.1 hfind
  have hleads := hdiffer.same.locateChecked_eq_ok_iff.1 hhere
  by_cases hplace : here = loc
  · subst hplace
    exact .inl ⟨hleads, hnode⟩
  · rw [hdiffer.elsewhere here hplace] at hnode
    exact .inr (find?_eq_some_iff.2 ⟨here, hleads, hnode⟩)

end DifferAt

theorem differAt_put {node : Node} (hloc : files.node? loc ≠ some .directory)
    (hnode : node ≠ .directory) : files.DifferAt (files.put loc node) loc :=
  ⟨sameDirectories_put hloc hnode, fun _ hhere => node?_put_of_ne files hhere node⟩

theorem differAt_edit (files : Files) (loc : Location) (f : Bytes → Bytes) :
    files.DifferAt (files.edit loc f) loc := by
  unfold edit
  split
  · next content executable hregular =>
    refine differAt_put (fun hdirectory => ?_) Node.noConfusion
    rw [hdirectory] at hregular
    cases hregular
  · exact .refl files loc

theorem node?_edit_self (files : Files) (loc : Location) (f : Bytes → Bytes) :
    (files.edit loc f).node? loc = (files.node? loc).map (Node.edit f) := by
  unfold edit
  split
  · next content executable hregular =>
    obtain ⟨node, hnode, hbytes⟩ := Option.bind_eq_some_iff.1 hregular
    have hroot : loc ≠ [] := by
      rintro rfl
      cases hnode
      cases hbytes
    rw [node?_put_self files hroot, hnode, Option.map_some, Node.edit, hbytes]
  · next hnone =>
    cases hnode : files.node? loc with
    | none => rfl
    | some node =>
      rw [hnode, Option.bind_some] at hnone
      rw [Option.map_some, Node.edit, hnone]

/-- Where a path does not lead to a directory, it is written at the place that it leads to. -/
theorem locateChecked_of_follow (hzero : 0 ∉ p.bytes)
    (hfollow : files.follow p (stepsForWriting p) = .ok loc)
    (hloc : files.node? loc ≠ some .directory) : files.locateChecked p = .ok loc := by
  have hslash : p.bytes.getLast? ≠ some Path.slash := by
    intro hslash
    rw [stepsForWriting, if_neg (Classical.not_not.2 hslash)] at hfollow
    exact hloc (node?_of_follow_dot hfollow)
  have hsteps : stepsForWriting p = steps p := by
    simp [stepsForWriting, steps, hslash]
  rw [hsteps] at hfollow
  exact locateChecked_eq_ok_iff.2 ⟨hzero, hfollow⟩

/-- A path that is opened for writing leads to the place that it is written at, and if there was
    nothing, there is an empty file. -/
theorem openForWriting_cases (hopen : files.openForWriting p = .ok (loc, left)) :
    files.locateChecked p = .ok loc ∧ files.DifferAt left loc ∧
      ∃ node, left.node? loc = some node ∧ node ≠ .directory ∧
        (files.node? loc = some node ∨ node = .file [] false) := by
  unfold openForWriting at hopen
  by_cases hzero : 0 ∈ p.bytes
  · rw [if_pos hzero] at hopen
    cases hopen
  rw [if_neg hzero] at hopen
  cases hfollow : files.follow p (stepsForWriting p) with
  | error e =>
    rw [hfollow] at hopen
    cases hopen
  | ok here =>
    have hplace := locateChecked_of_follow hzero hfollow
    have hwhere : (files.follow p (stepsForWriting p)).mapError Refusal.system = .ok here :=
      mapError_eq_ok_iff.2 hfollow
    simp only [hwhere, bind, Except.bind] at hopen
    cases hnode : files.node? here with
    | none =>
      simp only [hnode] at hopen
      split at hopen
      · have hfile : files.node? here ≠ some .directory := by simp [hnode]
        have hroot : here ≠ [] := by
          rintro rfl
          exact hfile rfl
        cases hopen
        exact ⟨hplace hfile, differAt_put hfile Node.noConfusion, _, node?_put_self files hroot _,
          Node.noConfusion, .inr rfl⟩
      · cases hopen
    | some node =>
      have hsame : node ≠ .directory ∧ here = loc ∧ files = left := by
        cases node with
        | directory =>
          simp only [hnode] at hopen
          cases hopen
        | file | device | program =>
          simp only [hnode] at hopen
          cases hopen
          exact ⟨Node.noConfusion, rfl, rfl⟩
      obtain ⟨hdirectory, rfl, rfl⟩ := hsame
      refine ⟨hplace ?_, .refl files here, node, hnode, hdirectory, .inl hnode⟩
      rw [hnode]
      exact fun h => hdirectory (Option.some.inj h)

/-- A created file is empty, and it stands where its path leads. -/
theorem create_cases {handle : Handle} (hcreate : files.create p = .ok (handle, left)) :
    ∃ loc opened, handle = ⟨some loc, 0⟩ ∧ files.locateChecked p = .ok loc ∧
      files.DifferAt left loc ∧ left.node? loc = some (opened.edit fun _ => []) ∧
        opened ≠ .directory ∧ (files.node? loc = some opened ∨ opened = .file [] false) := by
  unfold create at hcreate
  cases hopen : files.openForWriting p with
  | error r =>
    rw [hopen] at hcreate
    cases hcreate
  | ok opening =>
    obtain ⟨loc, between⟩ := opening
    rw [hopen] at hcreate
    obtain ⟨hleads, hdiffer, opened, hopened, hfile, hbefore⟩ := openForWriting_cases hopen
    cases hcreate
    refine ⟨loc, opened, rfl, hleads, hdiffer.trans (differAt_edit between loc _), ?_, hfile, hbefore⟩
    rw [empty, node?_edit_self, hopened]
    rfl

/-- At the end of any path a creation leaves what was there, or an empty file. -/
theorem find?_create {handle : Handle} (hcreate : files.create p = .ok (handle, left)) {node : Node}
    (hfind : left.find? q = some node) :
    files.find? q = some node ∨ ∃ executable, node = .file [] executable := by
  obtain ⟨loc, opened, -, -, hdiffer, hcreated, -, hbefore⟩ := create_cases hcreate
  rcases hdiffer.find?_cases hfind with ⟨hleads, hnode⟩ | hsame
  · rw [hcreated] at hnode
    cases hnode
    cases opened with
    | file | program => exact .inr ⟨_, rfl⟩
    | directory | device =>
      rcases hbefore with hbefore | hbefore
      · exact .inl (find?_eq_some_iff.2 ⟨loc, hleads, hbefore⟩)
      · cases hbefore
  · exact .inl hsame

/-- Files with nothing new but empty files, as far as paths lead to them. -/
def AddsNothing (files left : Files) : Prop :=
  ∀ p node, left.find? p = some node →
    files.find? p = some node ∨ ∃ executable, node = .file [] executable

theorem AddsNothing.refl (files : Files) : files.AddsNothing files :=
  fun _ _ hfind => .inl hfind

theorem AddsNothing.trans (hother : files.AddsNothing other) (hleft : other.AddsNothing left) :
    files.AddsNothing left := by
  intro p node hfind
  rcases hleft p node hfind with hbefore | hempty
  · exact hother p node hbefore
  · exact .inr hempty

theorem addsNothing_create {handle : Handle} (hcreate : files.create p = .ok (handle, left)) :
    files.AddsNothing left :=
  fun _ _ hfind => find?_create hcreate hfind

theorem AddsNothing.read (hadds : files.AddsNothing left) {content : Bytes} (hcontent : content ≠ [])
    (hread : left.read p = .ok content) : files.read p = .ok content := by
  obtain ⟨node, hfind, hfile, hnode⟩ := read_eq_ok_iff.1 hread
  rcases hadds p node hfind with hbefore | ⟨executable, rfl⟩
  · exact read_eq_ok_iff.2 ⟨node, hbefore, hfile, hnode⟩
  · exact absurd hnode.symm hcontent

theorem write_eq_ok {handle further : Handle} {bytes : Bytes}
    (hwrite : files.write handle bytes = .ok (further, left)) :
    left = files ∨ ∃ loc, left = files.edit loc fun content =>
      overlay content handle.position bytes := by
  unfold write at hwrite
  dsimp only at hwrite
  split at hwrite
  · cases hwrite
    exact .inl rfl
  · split at hwrite
    · cases hwrite
    · cases hwrite
      exact .inr ⟨_, rfl⟩

theorem overlay_nil (bytes : Bytes) : overlay [] 0 bytes = bytes := by
  simp [overlay]

/-- What is overwritten is emptied at once, if it can be opened at all. -/
theorem overwrite_cases (files : Files) (p : Path) (bytes : Bytes) :
    (∃ r, files.openForWriting p = .error r ∧ files.overwrite p bytes = (.error r, files)) ∨
      ∃ (loc : Location) (opened : Node), files.locateChecked p = .ok loc ∧
        files.DifferAt (files.overwrite p bytes).2 loc ∧
        (files.overwrite p bytes).2.node? loc = some (opened.edit fun _ => bytes) ∧
        opened ≠ .directory := by
  cases hcreate : files.create p with
  | error r =>
    refine .inl ⟨r, ?_, by simp only [overwrite, hcreate]⟩
    unfold create at hcreate
    cases hopen : files.openForWriting p with
    | error refusal =>
      rw [hopen] at hcreate
      cases hcreate
      rfl
    | ok opening =>
      rw [hopen] at hcreate
      cases hcreate
  | ok creation =>
    obtain ⟨handle, created⟩ := creation
    obtain ⟨loc, opened, rfl, hleads, hdiffer, hnode, hfile, -⟩ := create_cases hcreate
    refine .inr ⟨loc, opened, hleads, ?_⟩
    by_cases hfull : created.node? loc = some (.device true) ∧ bytes ≠ []
    · have hoverwrite : (files.overwrite p bytes).2 = created := by
        simp only [overwrite, hcreate, write, if_pos hfull]
      rw [hoverwrite]
      refine ⟨hdiffer, ?_, hfile⟩
      rw [hnode] at hfull
      rw [hnode]
      cases opened with
      | file | program => cases hfull.1
      | directory | device => rfl
    · have hoverwrite : (files.overwrite p bytes).2 =
          created.edit loc fun content => overlay content 0 bytes := by
        simp only [overwrite, hcreate, write, if_neg hfull, writeAt]
      rw [hoverwrite]
      refine ⟨hdiffer.trans (differAt_edit created loc _), ?_, hfile⟩
      rw [node?_edit_self, hnode]
      cases opened with
      | file | program => simp [Node.edit, Node.regular?, overlay_nil]
      | directory | device => rfl

/-- A regular file that is found where something was overwritten holds what was written, whether that
    was accepted or not. -/
theorem find?_overwrite_self {bytes content : Bytes} {executable : Bool} {node : Node}
    (hfind : (files.overwrite p bytes).2.find? p = some node)
    (hregular : node.regular? = some (content, executable)) : content = bytes := by
  rcases files.overwrite_cases p bytes with ⟨r, hopen, hoverwrite⟩ | ⟨loc, opened, hleads, hdiffer,
    hnode, -⟩
  · rw [hoverwrite] at hfind
    obtain ⟨loc, hleads, hnode⟩ := find?_eq_some_iff.1 hfind
    have hfile : node ≠ .directory := by
      rintro rfl
      cases hregular
    rw [openForWriting_of_ne_directory hleads hnode hfile] at hopen
    cases hopen
  · obtain ⟨here, hhere, hfound⟩ := find?_eq_some_iff.1 hfind
    have hplace := hdiffer.same.locateChecked_eq_ok_iff.1 hhere
    rw [hleads] at hplace
    cases hplace
    rw [hnode] at hfound
    cases hfound
    rw [Node.regular?_edit, Option.map_eq_some_iff] at hregular
    obtain ⟨before, -, hbytes⟩ := hregular
    exact (congrArg Prod.fst hbytes).symm

theorem exists_find?_overwrite {bytes : Bytes} (hok : (files.overwrite p bytes).1 = .ok ()) :
    ∃ node, (files.overwrite p bytes).2.find? p = some node ∧ node ≠ .directory := by
  rcases files.overwrite_cases p bytes with ⟨r, -, hoverwrite⟩ | ⟨loc, opened, hleads, hdiffer,
    hnode, hfile⟩
  · rw [hoverwrite] at hok
    cases hok
  · refine ⟨_, find?_eq_some_iff.2 ⟨loc, hdiffer.same.locateChecked_eq_ok_iff.2 hleads, hnode⟩, ?_⟩
    cases opened with
    | directory => exact absurd rfl hfile
    | file | device | program => exact Node.noConfusion

/-- A regular file at the end of a path, if there is one, has at least so many bytes. -/
def HoldsAtLeast (files : Files) (p : Path) (n : Nat) : Prop :=
  ∀ node content executable, files.find? p = some node →
    node.regular? = some (content, executable) → n ≤ content.length

variable {n : Nat} {bytes : Bytes}

theorem holdsAtLeast_overwrite (files : Files) (p : Path) (bytes : Bytes) :
    (files.overwrite p bytes).2.HoldsAtLeast p bytes.length := by
  intro node content executable hfind hregular
  have hcontent := find?_overwrite_self hfind hregular
  exact Nat.le_of_eq (congrArg List.length hcontent.symm)

namespace HoldsAtLeast

theorem of_find? (hholds : files.HoldsAtLeast q n)
    (hsame : ∀ node, left.find? q = some node → files.find? q = some node) :
    left.HoldsAtLeast q n :=
  fun node content executable hfind => hholds node content executable (hsame node hfind)

theorem edit (hholds : files.HoldsAtLeast q n)
    (hedit : ∀ content, content.length ≤ (f content).length) :
    (files.edit loc f).HoldsAtLeast q n := by
  intro node content executable hfind hregular
  rcases (differAt_edit files loc f).find?_cases hfind with ⟨hleads, hnode⟩ | hsame
  · rw [node?_edit_self] at hnode
    obtain ⟨old, hbefore, rfl⟩ := Option.map_eq_some_iff.1 hnode
    rw [Node.regular?_edit, Option.map_eq_some_iff] at hregular
    obtain ⟨⟨bytes, permitted⟩, hold, hafter⟩ := hregular
    cases hafter
    have hlength := hholds old bytes executable (find?_eq_some_iff.2 ⟨loc, hleads, hbefore⟩) hold
    exact Nat.le_trans hlength (hedit bytes)
  · exact hholds node content executable hsame hregular

theorem write (hholds : files.HoldsAtLeast q n) {handle further : Handle}
    (hwrite : files.write handle bytes = .ok (further, left)) : left.HoldsAtLeast q n := by
  rcases write_eq_ok hwrite with rfl | ⟨loc, rfl⟩
  · exact hholds
  · refine hholds.edit fun content => ?_
    simp only [overlay, List.length_append, List.length_take, List.length_replicate,
      List.length_drop]
    omega

/-- Adding bytes makes files longer; one that is new has all of them. -/
theorem appendTo (hholds : files.HoldsAtLeast q n) (hbytes : n ≤ bytes.length) (p : Path) :
    (files.appendTo p bytes).2.HoldsAtLeast q n := by
  unfold Files.appendTo
  cases hopen : files.openForWriting p with
  | error r => exact hholds
  | ok opening =>
    obtain ⟨loc, opened⟩ := opening
    obtain ⟨-, hdiffer, node, hnode, -, hbefore⟩ := openForWriting_cases hopen
    dsimp only
    split
    · next hfull =>
      refine hholds.of_find? fun found hfind => ?_
      rcases hdiffer.find?_cases hfind with ⟨hleads, hfound⟩ | hsame
      · rw [hfound] at hnode
        cases hnode
        rcases hbefore with hbefore | rfl
        · exact find?_eq_some_iff.2 ⟨loc, hleads, hbefore⟩
        · rw [hfull.1] at hfound
          cases hfound
      · exact hsame
    · intro found content executable hfind hregular
      have hboth := hdiffer.trans (differAt_edit opened loc (· ++ bytes))
      rcases hboth.find?_cases hfind with ⟨-, hfound⟩ | hsame
      · rw [node?_edit_self, hnode] at hfound
        cases hfound
        rw [Node.regular?_edit, Option.map_eq_some_iff] at hregular
        obtain ⟨⟨old, permitted⟩, -, hafter⟩ := hregular
        cases hafter
        rw [List.length_append]
        omega
      · exact hholds found content executable hsame hregular

theorem read_ne (hholds : files.HoldsAtLeast p n) {b : UInt8} (hn : 1 < n) :
    files.read p ≠ .ok [b] := by
  intro hread
  obtain ⟨node, hfind, -, hcontent⟩ := read_eq_ok_iff.1 hread
  unfold Node.content at hcontent
  cases hregular : node.regular? with
  | none =>
    rw [hregular] at hcontent
    cases hcontent
  | some regular =>
    have hlength := hholds node regular.1 regular.2 hfind hregular
    have hone : regular.1 = [b] := by
      rw [hregular] at hcontent
      exact hcontent
    rw [hone, List.length_singleton] at hlength
    omega

end HoldsAtLeast

end Files

end Overseer
