import Overseer.Proofs.Invocation.Mode
import Overseer.Proofs.Text.Numeral

/-!
The kill mode: which parameters it takes, and which numbers of process groups come of them.
-/

namespace Overseer.Invocation

variable {args : List String} {value : String} {group : Int}

theorem killGroup_eq_ok_iff :
    killGroup args = .ok group ↔ ∃ value, killParameters? args = some [value] ∧
      Text.NumeralRange.int32.read? value = some group := by
  unfold killGroup
  match killParameters? args with
  | none | some [] | some (_ :: _ :: _) => simp
  | some [value] =>
    dsimp only
    cases hread : Text.NumeralRange.int32.read? value with
    | none => simp [hread]
    | some number => simp [hread]

/-- A process group is given by one parameter that is the numeral of a positive number. -/
theorem parseKill_eq_ok_iff : parseKill args = .ok group ↔ killGroup args = .ok group ∧ 0 < group := by
  unfold parseKill
  cases killGroup args with
  | error problem => simp
  | ok number =>
    by_cases hnumber : number ≤ 0
    · simp only [hnumber, if_true, reduceCtorEq, Except.ok.injEq, false_iff, not_and]
      rintro rfl
      exact Int.not_lt.2 hnumber
    · simp only [hnumber, if_false, Except.ok.injEq, iff_self_and]
      rintro rfl
      exact Int.not_le.1 hnumber

/-- The parameters of the kill mode are among its arguments. -/
theorem killParameters?_subset {parameters : List String}
    (hparameters : killParameters? args = some parameters) : parameters ⊆ args := by
  rw [killParameters?] at hparameters
  split at hparameters
  · cases hparameters
  · cases hparameters
    refine List.append_subset.2 ⟨List.takeWhile_subset _, ?_⟩
    exact fun value hvalue => List.dropWhile_subset _ (List.mem_of_mem_tail hvalue)

/-- What the kill mode accepts is the numeral of a positive number among its arguments. -/
theorem exists_mem_of_parseKill (hkill : parseKill args = .ok group) :
    ∃ value ∈ args, Text.NumeralRange.int32.read? value = some group ∧ 0 < group := by
  obtain ⟨hgroup, hpositive⟩ := parseKill_eq_ok_iff.1 hkill
  obtain ⟨value, hparameters, hread⟩ := killGroup_eq_ok_iff.1 hgroup
  exact ⟨value, killParameters?_subset hparameters (List.mem_singleton.2 rfl), hread, hpositive⟩

/-- A group to end is given by one of the arguments. -/
theorem exists_mem_of_parse {env : Environment} {files : Files} {invocation : Invocation}
    (hparse : parse env files args = .ok invocation) (hmode : invocation.mode = .kill group) :
    ∃ value ∈ args, Text.NumeralRange.int32.read? value = some group ∧ 0 < group := by
  obtain ⟨name, rest, rfl, hrest⟩ := parseMode_of_parse hparse
  rw [hmode] at hrest
  obtain ⟨parameters, rfl, hkill⟩ := parseKill_of_parseMode hrest
  obtain ⟨value, hvalue, hread⟩ := exists_mem_of_parseKill hkill
  exact ⟨value, .tail _ (.tail _ hvalue), hread⟩

/-- A parameter that stands alone is taken, unless it ends the options or looks like one. -/
theorem killParameters?_singleton (value : String) :
    killParameters? [value] = if value = terminator then some []
      else if isOption value then none else some [value] := by
  by_cases hvalue : value = terminator <;> simp [killParameters?, hvalue]

/-- The numeral of a positive number does not look like an option. -/
theorem isOption_eq_false (hread : Text.NumeralRange.int32.read? value = some group)
    (hpositive : 0 < group) : isOption value = false := by
  cases hoption : isOption value with
  | false => rfl
  | true =>
    rw [isOption, Bool.and_eq_true, beq_iff_eq] at hoption
    have hzero := Text.NumeralRange.read?_le_zero (by decide) hoption.1 hread
    exact absurd hpositive (Int.not_lt.2 hzero)

/-- A parameter that stands alone is accepted exactly if it is the numeral of a positive number. -/
theorem parseKill_singleton_iff :
    parseKill [value] = .ok group ↔
      Text.NumeralRange.int32.read? value = some group ∧ 0 < group := by
  rw [parseKill_eq_ok_iff, killGroup_eq_ok_iff, killParameters?_singleton]
  refine and_congr_left fun hpositive => ⟨?_, fun hread => ?_⟩
  · rintro ⟨parameter, hparameters, hread⟩
    split at hparameters
    · cases hparameters
    · split at hparameters
      · cases hparameters
      · cases hparameters
        exact hread
  · have hoption := isOption_eq_false hread hpositive
    have hne : value ≠ terminator := by
      rintro rfl
      cases hoption
    exact ⟨value, by simp [hne, hoption], hread⟩

end Overseer.Invocation
