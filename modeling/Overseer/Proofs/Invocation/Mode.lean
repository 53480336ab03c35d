import Overseer.Invocation

/-!
What an argument list has to be like for each mode: an invocation is understood exactly if its
program file is found and the arguments behind the program name make sense.
-/

namespace Overseer

/-- An absolute name stands for itself. -/
theorem Locate.resolve_of_isAbsolute {env : Environment} {files : Files} {name : String}
    (habsolute : (Path.ofString name).IsAbsolute) :
    resolve env files name = .ok (Path.ofString name).clean :=
  if_pos habsolute

namespace Invocation

/-- Once the program file is found, the mode decides. -/
theorem parse_of_resolve {env : Environment} {files : Files} {name : String} {exe : Path}
    (hexe : Locate.resolve env files name = .ok exe) (args : List String) :
    parse env files (name :: args) = (parseMode args).map fun mode => ⟨mode, name :: args, exe⟩ := by
  rw [parse, hexe]
  cases parseMode args <;> rfl

/-- An invocation works from the program file that its first argument stands for, in the mode that
    the others ask for. -/
theorem parse_eq_ok_iff {env : Environment} {files : Files} {name : String} {args : List String}
    {invocation : Invocation} :
    parse env files (name :: args) = .ok invocation ↔
      ∃ exe mode, Locate.resolve env files name = .ok exe ∧ parseMode args = .ok mode ∧
        invocation = ⟨mode, name :: args, exe⟩ := by
  rw [parse]
  cases Locate.resolve env files name with
  | error fault => simp [bind, Except.bind]
  | ok exe => cases parseMode args <;> simp [bind, Except.bind, pure, Except.pure, eq_comm]

/-- The mode of an invocation is that of the arguments behind the program name. -/
theorem parseMode_of_parse {env : Environment} {files : Files} {args : List String}
    {invocation : Invocation} (hparse : parse env files args = .ok invocation) :
    ∃ name rest, args = name :: rest ∧ parseMode rest = .ok invocation.mode := by
  cases args with
  | nil => cases hparse
  | cons name rest =>
    obtain ⟨exe, mode, -, hmode, rfl⟩ := parse_eq_ok_iff.1 hparse
    exact ⟨name, rest, rfl, hmode⟩

/-- Only the kill mode ends a process group. -/
theorem parseKill_of_parseMode {args : List String} {group : Int}
    (hmode : parseMode args = .ok (.kill group)) :
    ∃ rest, args = "kill" :: rest ∧ parseKill rest = .ok group := by
  unfold parseMode at hmode
  split at hmode
  · next rest => cases hexec : parseExec rest <;> rw [hexec] at hmode <;> cases hmode
  · next rest =>
    cases hkill : parseKill rest with
    | error fault =>
      rw [hkill] at hmode
      cases hmode
    | ok number =>
      rw [hkill] at hmode
      cases hmode
      exact ⟨rest, rfl, hkill⟩
  · cases hmode

end Invocation

end Overseer
