import Overseer.Proofs.Files.Append
import Overseer.Proofs.Path

/-!
File trees: every node stands in a directory under a name that the system accepts. Where a path leads
to in a tree, its cleaned form behind the current directory leads too.
-/

namespace Overseer.Files

/-- Files that form a tree: all names are proper ones that the system accepts, and every node stands in
    a directory. -/
structure IsTree (files : Files) : Prop where
  isName : ∀ entry ∈ files.nodes, ∀ name ∈ entry.1,
    Path.IsName name ∧ 0 ∉ name ∧ name.length ≤ maxNameLength
  parent : ∀ entry ∈ files.nodes, files.node? entry.1.dropLast = some .directory

/-- What a clean path names. It is found there unless the path is too long to be looked up. -/
structure StandsAt (files : Files) (p : Path) (node : Node) : Prop where
  node?_eq : files.node? p.names = some node
  find?_eq : p.bytes.length < maxPathLength → files.find? p = some node

variable {files : Files} {p q : Path} {node : Node} {loc next : Location} {name : Bytes}
  {names : List Bytes}

theorem exists_entry_of_node? (hloc : loc ≠ []) (hnode : files.node? loc = some node) :
    ∃ entry ∈ files.nodes, entry.1 = loc := by
  rw [node?, if_neg hloc] at hnode
  obtain ⟨entry, hfind, -⟩ := Option.map_eq_some_iff.1 hnode
  exact ⟨entry, List.mem_of_find?_eq_some hfind, by simpa using List.find?_some hfind⟩

namespace IsTree

theorem isName_of_node? (htree : files.IsTree) (hnode : files.node? loc = some node) :
    ∀ name ∈ loc, Path.IsName name ∧ 0 ∉ name ∧ name.length ≤ maxNameLength := by
  intro name hname
  obtain ⟨entry, hentry, rfl⟩ := exists_entry_of_node? (List.ne_nil_of_mem hname) hnode
  exact htree.isName entry hentry name hname

theorem node?_dropLast (htree : files.IsTree) (hnode : files.node? loc = some node) :
    files.node? loc.dropLast = some .directory := by
  by_cases hroot : loc = []
  · rw [hroot]
    rfl
  · obtain ⟨entry, hentry, rfl⟩ := exists_entry_of_node? hroot hnode
    exact htree.parent entry hentry

/-- Above a node there are only directories. -/
theorem node?_above (htree : files.IsTree) (hnode : files.node? (loc ++ name :: names) = some node) :
    files.node? loc = some .directory := by
  induction names using List.reverseRecOn generalizing node with
  | nil => simpa using htree.node?_dropLast hnode
  | append_singleton names last ih =>
    rw [← List.cons_append, ← List.append_assoc] at hnode
    have habove := htree.node?_dropLast hnode
    rw [List.dropLast_concat] at habove
    exact ih habove

end IsTree

section Walk

variable {here : Location}

/-- A step down keeps to names and does what cleaning does with its name, single dots apart. -/
theorem reverse_of_descend (hdots : Path.dotDot ∉ here) (hdescend : files.descend here name = .ok next) :
    Path.dotDot ∉ next ∧
      next.reverse = if name = Path.dot then here.reverse
        else Path.cleanStep true here.reverse name := by
  rw [descend, node?_of_descend hdescend] at hdescend
  dsimp only at hdescend
  by_cases hdot : name = Path.dot
  · rw [if_pos hdot] at hdescend ⊢
    cases hdescend
    exact ⟨hdots, rfl⟩
  rw [if_neg hdot] at hdescend ⊢
  by_cases hup : name = Path.dotDot
  · rw [if_pos hup] at hdescend
    cases hdescend
    refine ⟨fun hmem => hdots (List.dropLast_subset here hmem), ?_⟩
    rcases List.eq_nil_or_concat here with rfl | ⟨above, last, rfl⟩
    · simp [Path.cleanStep, hup]
    · have hlast : last ≠ Path.dotDot := by
        rintro rfl
        simp at hdots
      simp [Path.cleanStep, hup, hlast]
  · rw [if_neg hup] at hdescend
    split at hdescend
    · cases hdescend
    · cases hdescend
      simp [Path.cleanStep, hup, hdots, Ne.symm hup]

/-- Where names lead to is what cleaning makes of them. -/
theorem reverse_of_foldlM_descend (hdots : Path.dotDot ∉ here)
    (hfold : names.foldlM files.descend here = .ok loc) :
    loc.reverse = (names.filter (· ≠ Path.dot)).foldl (Path.cleanStep true) here.reverse := by
  induction names generalizing here with
  | nil =>
    cases hfold
    rfl
  | cons name more ih =>
    obtain ⟨next, hdescend, hrest⟩ := foldlM_descend_cons_eq_ok_iff.1 hfold
    obtain ⟨hnext, hreverse⟩ := reverse_of_descend hdots hdescend
    rw [ih hnext hrest, hreverse]
    by_cases hdot : name = Path.dot <;> simp [hdot]

end Walk

theorem filter_steps (p : Path) : (steps p).filter (· ≠ Path.dot) = p.names := by
  have hend : (if p.bytes.getLast? = some Path.slash then [Path.dot] else []).filter
      (· ≠ Path.dot) = [] := by
    split <;> simp
  rw [steps, List.filter_append, hend, List.append_nil, List.filter_filter, Path.names]
  refine List.filter_congr fun part _ => ?_
  by_cases hempty : part = [] <;> simp [Path.isIdle, hempty, Bool.beq_eq_decide_eq]

/-- A path leads to where its cleaned form behind the current directory points. -/
theorem names_clean_join_of_follow (hcwd : ∀ name ∈ files.cwd, Path.IsName name)
    (hfollow : files.follow q (steps q) = .ok loc) :
    (Path.join ⟨Path.slash :: Path.ofNames files.cwd⟩ q).clean.names = loc := by
  have hdots : Path.dotDot ∉ files.cwd := fun hmem => (hcwd _ hmem).2.2.1 rfl
  have hhere : Path.IsAbsolute ⟨Path.slash :: Path.ofNames files.cwd⟩ := rfl
  obtain ⟨-, -, hfold⟩ := follow_eq_ok_iff.1 hfollow
  rw [Path.names_clean (Path.isAbsolute_join hhere q), Path.cleanNames, List.reverse_eq_iff]
  by_cases habsolute : q.IsAbsolute
  · rw [origin, if_pos habsolute] at hfold
    rw [Path.join, if_pos (.inl habsolute),
      reverse_of_foldlM_descend (by simp) hfold, filter_steps, List.reverse_nil]
  · rw [origin, if_neg habsolute] at hfold
    have hclean : files.cwd.foldl (Path.cleanStep true) [] = files.cwd.reverse :=
      List.reverse_eq_iff.1 (Path.cleanNames_eq_self fun name hname => (hcwd name hname).2.2.1)
    rw [Path.names_join habsolute (by simp), Path.names_of_isName hcwd, List.foldl_append, hclean,
      reverse_of_foldlM_descend hdots hfold, filter_steps]

/-- The names to follow on a clean path are its own, and the root stays where it is. -/
theorem steps_of_isClean (hclean : p.IsClean) :
    steps p = if p.names = [] then [Path.dot] else p.names := by
  have hempty : ∀ name ∈ p.names, name ≠ [] := fun name hname => (hclean.isName name hname).1
  by_cases hroot : p.names = []
  · have hbytes : p.bytes = [Path.slash] := by rw [hclean.bytes_eq, hroot]; rfl
    rw [if_pos hroot, steps, hbytes]
    decide
  have hcut := hclean.cut_bytes hroot
  have hlast : p.bytes.getLast? ≠ some Path.slash := by
    intro hslash
    obtain ⟨before, hbefore⟩ := List.getLast?_eq_some_iff.1 hslash
    have hend : (Text.cut Path.slash p.bytes).getLast? = some [] := by
      rw [hbefore, Text.cut_append_sep, Text.cut_nil, List.getLast?_concat]
    obtain ⟨name, more, hnames⟩ := List.exists_cons_of_ne_nil hroot
    rw [hcut, hnames, List.getLast?_cons_cons, ← hnames] at hend
    exact hempty [] (List.mem_of_getLast? hend) rfl
  rw [if_neg hroot, steps, if_neg hlast, hcut, List.append_nil]
  simpa [List.filter_eq_self] using hempty

theorem IsTree.foldlM_descend (htree : files.IsTree) {here : Location}
    (hnode : files.node? (here ++ names) = some node) :
    names.foldlM files.descend here = .ok (here ++ names) := by
  induction names generalizing here with
  | nil => simp [pure, Except.pure]
  | cons name more ih =>
    have hhere := htree.node?_above hnode
    obtain ⟨⟨-, hdot, hup, -⟩, -, hshort⟩ := htree.isName_of_node? hnode name (by simp)
    have hdescend : files.descend here name = .ok (here ++ [name]) := by
      rw [descend, hhere]
      simp [hdot, hup, Nat.not_lt.2 hshort]
    rw [List.append_cons] at hnode ⊢
    exact foldlM_descend_cons_eq_ok_iff.2 ⟨_, hdescend, ih hnode⟩

/-- In a tree, what a clean path names is found there. -/
theorem IsTree.find?_of_isClean (htree : files.IsTree) (hclean : p.IsClean)
    (hnode : files.node? p.names = some node) (hshort : p.bytes.length < maxPathLength) :
    files.find? p = some node := by
  have hzero : 0 ∉ p.bytes := by
    rw [hclean.bytes_eq]
    intro hmem
    rcases List.mem_cons.1 hmem with hslash | hmem
    · cases hslash
    rcases Path.mem_ofNames hmem with hslash | ⟨name, hname, hbyte⟩
    · cases hslash
    · exact (htree.isName_of_node? hnode name hname).2.1 hbyte
  have hfold : (steps p).foldlM files.descend (files.origin p) = .ok p.names := by
    rw [origin, if_pos hclean.isAbsolute, steps_of_isClean hclean]
    split
    · next hroot =>
      rw [hroot]
      rfl
    · have hbelow : files.node? ([] ++ p.names) = some node := hnode
      exact htree.foldlM_descend hbelow
  have hempty : p.bytes ≠ [] := by simp [hclean.bytes_eq]
  exact find?_eq_some_iff.2 ⟨p.names,
    locateChecked_eq_ok_iff.2 ⟨hzero, follow_eq_ok_iff.2 ⟨hempty, hshort, hfold⟩⟩, hnode⟩

/-- What a path leads to stands at its cleaned form behind the current directory. -/
theorem IsTree.standsAt_clean_join {here : Path} (htree : files.IsTree)
    (hhere : files.currentDirectory = .ok here) (hfind : files.find? q = some node) :
    files.StandsAt (here.join q).clean node := by
  have hclean := Path.isClean_clean (Path.isAbsolute_join (isAbsolute_of_currentDirectory hhere) q)
  obtain ⟨hcwd, rfl⟩ := currentDirectory_eq_ok_iff.1 hhere
  obtain ⟨loc, hloc, hnode⟩ := find?_eq_some_iff.1 hfind
  have hnames := names_clean_join_of_follow
    (fun name hname => (htree.isName_of_node? hcwd name hname).1) (locateChecked_eq_ok_iff.1 hloc).2
  rw [← hnames] at hnode
  exact ⟨hnode, htree.find?_of_isClean hclean hnode⟩

/-- Nothing is found by a relative path from a directory that has gone. -/
theorem exists_currentDirectory_of_find? (hrelative : ¬q.IsAbsolute)
    (hfind : files.find? q = some node) : ∃ here, files.currentDirectory = .ok here := by
  obtain ⟨loc, hloc, -⟩ := find?_eq_some_iff.1 hfind
  obtain ⟨-, hfollow⟩ := locateChecked_eq_ok_iff.1 hloc
  obtain ⟨hempty, -, hfold⟩ := follow_eq_ok_iff.1 hfollow
  rw [origin, if_neg hrelative] at hfold
  obtain ⟨first, rest, hbytes⟩ := List.exists_cons_of_ne_nil hempty
  have hfirst : first ≠ Path.slash := by
    rintro rfl
    exact hrelative (by rw [Path.IsAbsolute, hbytes]; rfl)
  obtain ⟨piece, more, hcut⟩ := List.exists_cons_of_ne_nil (Text.cut_ne_nil Path.slash rest)
  rw [steps, hbytes, Text.cut_cons_of_ne hfirst hcut, List.filter_cons_of_pos (by simp),
    List.cons_append] at hfold
  obtain ⟨next, hdescend, -⟩ := foldlM_descend_cons_eq_ok_iff.1 hfold
  exact ⟨_, currentDirectory_eq_ok_iff.2 ⟨node?_of_descend hdescend, rfl⟩⟩

end Overseer.Files
