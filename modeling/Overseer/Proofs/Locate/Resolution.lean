import Overseer.Proofs.Files.Access
import Overseer.Proofs.Invocation.Mode
import Overseer.Proofs.Path

/-!
The path of the agent's own program file: however it was found, it is clean, and it stands for itself
from every directory.
-/

namespace Overseer

/-- An environment in which every variable has a text as its value, and the home directory of the
    account is one. -/
structure Environment.IsText (env : Environment) : Prop where
  value : ∀ name value, env.value? name = some value → value.IsText
  accountHome : env.accountHome.IsText

namespace Locate

variable {env : Environment} {files : Files} {name : String} {p q here : Path} {paths : List Path}

/-- Where the search path leads for a name: to the first of the paths to try that leads to a
    program. -/
def FoundOnSearchPath (env : Environment) (files : Files) (here : Path) (name : String)
    (q : Path) : Prop :=
  ∃ paths, candidates env here (Path.ofString name) = some paths ∧
    paths.find? (isRunnable files) = some q

/-- Where a relative name is found from a directory: at the name itself if anything is there, else on
    the search path. -/
def FoundAt (env : Environment) (files : Files) (here : Path) (name : String) (q : Path) : Prop :=
  files.contains (Path.ofString name) = true ∧ q = Path.ofString name ∨
    files.contains (Path.ofString name) = false ∧ FoundOnSearchPath env files here name q

/-- An absolute name is cleaned, and a relative one is put behind the current directory first. -/
theorem resolve_eq_ok_iff :
    resolve env files name = .ok p ↔
      (Path.ofString name).IsAbsolute ∧ p = (Path.ofString name).clean ∨
      ¬(Path.ofString name).IsAbsolute ∧ ∃ here q, files.currentDirectory = .ok here ∧
        FoundAt env files here name q ∧ p = (here.join q).clean := by
  by_cases habsolute : (Path.ofString name).IsAbsolute
  · simp [resolve_of_isAbsolute habsolute, habsolute, eq_comm]
  rw [resolve, if_neg habsolute]
  simp only [habsolute, false_and, not_false_eq_true, true_and, false_or, FoundAt,
    FoundOnSearchPath]
  cases files.currentDirectory with
  | error e => simp
  | ok here =>
    cases hcontains : files.contains (Path.ofString name) with
    | true => simp [eq_comm]
    | false =>
      cases hpaths : candidates env here (Path.ofString name) with
      | none => simp [hpaths]
      | some paths =>
        cases hfind : paths.find? (isRunnable files) <;> simp [hpaths, hfind, eq_comm]

/-- On every way to it, the path of the program is an absolute one that has been cleaned. -/
theorem exists_clean_of_resolve (hresolve : resolve env files name = .ok p) :
    ∃ q : Path, q.IsAbsolute ∧ p = q.clean := by
  rcases resolve_eq_ok_iff.1 hresolve with ⟨habsolute, rfl⟩ | ⟨-, here, q, hhere, -, rfl⟩
  · exact ⟨_, habsolute, rfl⟩
  · exact ⟨_, Path.isAbsolute_join (Files.isAbsolute_of_currentDirectory hhere) q, rfl⟩

section Text

theorem isText_homeDirectory (henv : env.IsText) : (homeDirectory env).IsText := by
  unfold homeDirectory
  split
  · exact henv.accountHome
  · exact henv.accountHome
  · next home _ hhome => exact henv.value homeVariable home hhome

theorem isText_searchDirectory (henv : env.IsText) {dir : Bytes} (hdir : dir.IsText) :
    (searchDirectory env dir).IsText := by
  unfold searchDirectory
  dsimp only
  split
  · refine (isText_homeDirectory henv).join (Path.isText_ofNames fun name hname => ?_)
    exact Path.IsText.of_mem_names (p := ⟨dir⟩) hdir (List.mem_of_mem_tail hname)
  · exact hdir

theorem isText_of_mem_candidates (henv : env.IsText) (hhere : here.IsText) (hp : p.IsText)
    (hpaths : candidates env here p = some paths) (hq : q ∈ paths) : q.IsText := by
  unfold candidates at hpaths
  split at hpaths
  · cases hpaths
    obtain rfl := List.mem_singleton.1 hq
    exact hhere.join hp
  · obtain ⟨search, hsearch, rfl⟩ := Option.map_eq_some_iff.1 hpaths
    obtain ⟨dir, hdir, rfl⟩ := List.mem_map.1 hq
    have htext := (henv.value searchVariable search hsearch).of_mem_cut (by decide) hdir
    exact (isText_searchDirectory henv htext).join hp

theorem isText_of_currentDirectory (hcwd : ∀ name ∈ files.cwd, name.IsText)
    (hhere : files.currentDirectory = .ok here) : here.IsText := by
  obtain ⟨-, rfl⟩ := Files.currentDirectory_eq_ok_iff.1 hhere
  exact Path.isText_slash.append (Path.isText_ofNames hcwd)

/-- Where the current directory and the environment are text, the path of the program is. -/
theorem isText_of_resolve (henv : env.IsText) (hcwd : ∀ name ∈ files.cwd, name.IsText)
    (hresolve : resolve env files name = .ok p) : p.IsText := by
  have hname : (Path.ofString name).IsText := Bytes.isText_ofString name
  rcases resolve_eq_ok_iff.1 hresolve with
    ⟨habsolute, rfl⟩ | ⟨-, here, q, hhere, ⟨-, rfl⟩ | ⟨-, paths, hpaths, hfind⟩, rfl⟩
  · exact hname.clean habsolute
  · have hdir := isText_of_currentDirectory hcwd hhere
    exact (hdir.join hname).clean (Path.isAbsolute_join (Files.isAbsolute_of_currentDirectory hhere) _)
  · have hdir := isText_of_currentDirectory hcwd hhere
    have hq := isText_of_mem_candidates henv hdir hname hpaths (List.mem_of_find?_eq_some hfind)
    exact (hdir.join hq).clean (Path.isAbsolute_join (Files.isAbsolute_of_currentDirectory hhere) q)

end Text

/-- The path of the program outlives a change of directory: it starts at the root, its parts are names
    and neither empty nor dots nor steps upwards, and given as a name it stands for itself whatever
    the current directory, the search path and the files are. It can be given as a name where the
    current directory and the environment are text. -/
theorem resolved_path_outlives_directory_change (hresolve : resolve env files name = .ok p) :
    p.IsAbsolute ∧ p.IsClean ∧
    (∀ again, Path.ofString again = p → ∀ env' files', resolve env' files' again = .ok p) ∧
    (env.IsText → (∀ dir ∈ files.cwd, dir.IsText) → ∃ again, Path.ofString again = p) := by
  obtain ⟨q, habsolute, rfl⟩ := exists_clean_of_resolve hresolve
  have hclean := Path.isClean_clean habsolute
  refine ⟨hclean.isAbsolute, hclean, ?_, fun henv hcwd => ?_⟩
  · intro again hagain env' files'
    rw [← hagain] at hclean
    rw [resolve_of_isAbsolute hclean.isAbsolute, hclean.clean_eq, hagain]
  · obtain ⟨again, hagain⟩ := isText_of_resolve henv hcwd hresolve
    exact ⟨again, congrArg Path.mk hagain.symm⟩

/-- A program that is found above the current directory, through a relative part of the search path,
    is named from the root. -/
theorem resolved_path_outlives_directory_change_through_search :
    let dir := Bytes.ofString "bin"
    let files : Files := ⟨[([Bytes.ofString "work"], .directory), ([dir], .directory),
      ([dir, Bytes.ofString "tool"], .file [] true)], [Bytes.ofString "work"], []⟩
    let env : Environment := ⟨[(searchVariable, Bytes.ofString "tools:.././bin//")], Path.ofString "/"⟩
    let p := Path.ofString "/bin/tool"
    resolve env files "tool" = .ok p ∧ p.IsClean ∧
      ∀ env' files', resolve env' files' "/bin/tool" = .ok p := by
  intro dir files env p
  have hresolve : resolve env files "tool" = .ok p := rfl
  obtain ⟨-, hclean, hagain, -⟩ := resolved_path_outlives_directory_change hresolve
  exact ⟨hresolve, hclean, hagain "/bin/tool" rfl⟩

end Locate

end Overseer
