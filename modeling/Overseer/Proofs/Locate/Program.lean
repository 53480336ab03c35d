import Overseer.Proofs.Files.Tree
import Overseer.Proofs.Locate.Resolution
import Overseer.Settings.Load

/-!
What a relative program name stands for in a file tree: whatever it leads to from the current
directory, and a directory too. Only where it leads to nothing is the search path consulted, on which
executable files alone count.
-/

namespace Overseer

variable {env : Environment} {files : Files} {name : String} {p q here exe : Path} {node : Node}

/-- The settings of a program stand beside its file, unless the environment names them. -/
theorem Settings.names_pathFor (hclean : exe.IsClean) (hne : exe.names ≠ [])
    (hvariable : env.nonEmpty? pathVariable = none) :
    (pathFor env exe).names = exe.names.dropLast ++ [Bytes.ofString fileName] := by
  have habove : ∀ name ∈ exe.names.dropLast, Path.IsName name := fun name hname =>
    hclean.isName name (List.dropLast_subset _ hname)
  have hfile : (Path.ofString fileName).names = [Bytes.ofString fileName] := by decide +kernel
  simp only [pathFor, hvariable, hclean.directory?_eq hne]
  rw [Path.names_join (by decide +kernel) (by simp), Path.names_of_isName habove, hfile]

namespace Locate

theorem isRunnable_eq_true_iff :
    isRunnable files p = true ↔ ∃ node, files.find? p = some node ∧ node.isExecutable = true := by
  unfold isRunnable
  cases files.find? p <;> simp

/-- The search path leads to executable files only. -/
theorem FoundOnSearchPath.exists_isExecutable (hfound : FoundOnSearchPath env files here name q) :
    ∃ node, files.find? q = some node ∧ node.isExecutable = true := by
  obtain ⟨paths, -, hfind⟩ := hfound
  exact isRunnable_eq_true_iff.1 (List.find?_some hfind)

/-- What a relative name leads to from the current directory is what it is resolved to. -/
theorem exists_resolve_of_find? (env : Environment) (htree : files.IsTree)
    (hrelative : ¬(Path.ofString name).IsAbsolute)
    (hfind : files.find? (Path.ofString name) = some node) :
    ∃ p, resolve env files name = .ok p ∧ files.StandsAt p node := by
  obtain ⟨here, hhere⟩ := Files.exists_currentDirectory_of_find? hrelative hfind
  have hcontains : files.contains (Path.ofString name) = true := by simp [Files.contains, hfind]
  refine ⟨_, ?_, htree.standsAt_clean_join hhere hfind⟩
  exact resolve_eq_ok_iff.2 (.inr ⟨hrelative, here, _, hhere, .inl ⟨hcontains, rfl⟩, rfl⟩)

/-- A relative name that leads to nothing is searched on the search path. -/
theorem resolve_eq_ok_iff_of_find?_eq_none (hrelative : ¬(Path.ofString name).IsAbsolute)
    (hfind : files.find? (Path.ofString name) = none) :
    resolve env files name = .ok p ↔ ∃ here q, files.currentDirectory = .ok here ∧
      FoundOnSearchPath env files here name q ∧ p = (here.join q).clean := by
  have hcontains : files.contains (Path.ofString name) = false := by simp [Files.contains, hfind]
  simp [resolve_eq_ok_iff, hrelative, FoundAt, hcontains]

/-- A name that is not resolved is reported with the reason. -/
theorem exists_reason_of_resolve {fault : Fault} (hresolve : resolve env files name = .error fault) :
    ∃ reason, fault = .programNotFound name reason := by
  unfold resolve at hresolve
  grind

/-- A relative name stands for whatever it leads to from the current directory, and for what the
    search path leads to only if that is nothing. What it is resolved to exists, and it is a directory
    exactly if the name leads to one; from the search path come executable files alone. A name that is
    found nowhere is reported. An invocation works from the path that its first argument is resolved
    to, and the settings file stands beside it. -/
theorem relative_name_leads_to_directory_iff (env : Environment) (htree : files.IsTree)
    (hrelative : ¬(Path.ofString name).IsAbsolute) :
    let named := files.find? (Path.ofString name)
    (∀ node, named = some node → ∃ p, resolve env files name = .ok p ∧ files.StandsAt p node) ∧
    (named = none → ∀ p, resolve env files name = .ok p ↔ ∃ here q,
      files.currentDirectory = .ok here ∧ FoundOnSearchPath env files here name q ∧
        p = (here.join q).clean) ∧
    (∀ p, resolve env files name = .ok p → ∃ node, files.StandsAt p node ∧
      (node = .directory ↔ named = some .directory) ∧ (named = none → node.isExecutable = true)) ∧
    (∀ fault, resolve env files name = .error fault →
      ∃ reason, fault = .programNotFound name reason) ∧
    ∀ args invocation, Invocation.parse env files (name :: args) = .ok invocation →
      resolve env files name = .ok invocation.exe ∧
      (env.nonEmpty? Settings.pathVariable = none → invocation.exe.names ≠ [] →
        (Settings.pathFor env invocation.exe).names =
          invocation.exe.names.dropLast ++ [Bytes.ofString Settings.fileName]) := by
  intro named
  refine ⟨fun node => exists_resolve_of_find? env htree hrelative,
    fun hnone p => resolve_eq_ok_iff_of_find?_eq_none hrelative hnone, fun p hresolve => ?_,
    fun fault => exists_reason_of_resolve, fun args invocation hparse => ?_⟩
  · cases hnamed : named with
    | some node =>
      obtain ⟨p', hresolve', hnode⟩ := exists_resolve_of_find? env htree hrelative hnamed
      cases hresolve.symm.trans hresolve'
      exact ⟨node, hnode, by simp, by simp⟩
    | none =>
      obtain ⟨here, q, hhere, hfound, rfl⟩ :=
        (resolve_eq_ok_iff_of_find?_eq_none hrelative hnamed).1 hresolve
      obtain ⟨node, hfind, hexecutable⟩ := hfound.exists_isExecutable
      refine ⟨node, htree.standsAt_clean_join hhere hfind, ?_, fun _ => hexecutable⟩
      have hfile : node ≠ .directory := by
        rintro rfl
        cases hexecutable
      simp [hfile]
  · obtain ⟨exe, mode, hresolve, -, rfl⟩ := Invocation.parse_eq_ok_iff.1 hparse
    obtain ⟨q, habsolute, hexe⟩ := exists_clean_of_resolve hresolve
    refine ⟨hresolve, fun hvariable hne => ?_⟩
    exact Settings.names_pathFor (hexe ▸ Path.isClean_clean habsolute) hne hvariable

/-- A program above the current directory is found through a relative part of the search path. -/
theorem relative_name_leads_to_program_above :
    let bin := Bytes.ofString "bin"
    let work := Bytes.ofString "work"
    let files : Files := ⟨[([work], .directory), ([bin], .directory),
      ([bin, Bytes.ofString "tool"], .file [] true)], [work], []⟩
    let env : Environment := ⟨[(searchVariable, Bytes.ofString "tools:../bin")], Path.ofString "/"⟩
    let p := Path.ofString "/bin/tool"
    files.IsTree ∧ ¬(Path.ofString "tool").IsAbsolute ∧
      files.find? (Path.ofString "tool") = none ∧ resolve env files "tool" = .ok p ∧
      ∃ node, files.StandsAt p node ∧ node.isExecutable = true := by
  intro bin work files env p
  have htree : files.IsTree := ⟨by decide +kernel, by decide +kernel⟩
  have hrelative : ¬(Path.ofString "tool").IsAbsolute := by decide +kernel
  have hnone : files.find? (Path.ofString "tool") = none := rfl
  have hresolve : resolve env files "tool" = .ok p := rfl
  obtain ⟨-, -, hstands, -⟩ := relative_name_leads_to_directory_iff env htree hrelative
  obtain ⟨node, hnode, -, hexecutable⟩ := hstands p hresolve
  exact ⟨htree, hrelative, hnone, hresolve, node, hnode, hexecutable hnone⟩

/-- A directory in the current directory is taken for the program of its name, although the search path
    leads to one: an invocation works from the directory, and the settings file is sought beside it. -/
theorem directory_shadows_program_on_search_path :
    let work := Bytes.ofString "work"
    let bin := Bytes.ofString "bin"
    let tool := Bytes.ofString "tool"
    let files : Files := ⟨[([work], .directory), ([work, tool], .directory),
      ([work, bin], .directory), ([work, bin, tool], .file [] true)], [work], []⟩
    let env : Environment := ⟨[(searchVariable, bin)], Path.ofString "/"⟩
    let p := Path.ofString "/work/tool"
    files.IsTree ∧ ¬(Path.ofString "tool").IsAbsolute ∧
      FoundOnSearchPath env files (Path.ofString "/work") "tool" (Path.ofString "bin/tool") ∧
      resolve env files "tool" = .ok p ∧ files.find? p = some .directory ∧
      Invocation.parse env files ["tool"] = .ok ⟨.interpreter [], ["tool"], p⟩ ∧
      Settings.pathFor env p = Path.ofString "/work/flowguard.config" :=
  ⟨⟨by decide +kernel, by decide +kernel⟩, by decide +kernel, ⟨_, rfl, rfl⟩, rfl, rfl, rfl,
    by decide +kernel⟩

end Locate

end Overseer
