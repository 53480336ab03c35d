import Overseer.Text.Numeral

/-!
The range of what is read: a numeral stands for a number of its range, and behind a minus sign for
none above zero.
-/

namespace Overseer.Text.NumeralRange

variable {r : NumeralRange} {s : String} {cs : List Char} {value v : Int}

/-- Digits lead further away from zero, but not out of the range. -/
theorem readDigits_bounds (negative : Bool)
    (hvalue : if negative then r.lo ≤ value ∧ value ≤ 0 else 0 ≤ value ∧ value ≤ r.hi)
    (hread : readDigits r negative value cs = .ok v) :
    if negative then r.lo ≤ v ∧ v ≤ 0 else 0 ≤ v ∧ v ≤ r.hi := by
  induction cs generalizing value with
  | nil =>
    cases hread
    exact hvalue
  | cons c rest ih =>
    rw [readDigits] at hread
    cases hdigit : digit? r.base c with
    | none =>
      rw [hdigit] at hread
      cases hread
    | some d =>
      rw [hdigit] at hread
      have hbase : (0 : Int) ≤ r.base := Int.natCast_nonneg _
      cases negative with
      | false =>
        simp only [Bool.false_eq_true, if_false] at hread hvalue ih ⊢
        have hnext : 0 ≤ value * r.base := Int.mul_nonneg hvalue.1 hbase
        split at hread
        · cases hread
        · exact ih ⟨by omega, by omega⟩ hread
      | true =>
        simp only [if_true] at hread hvalue ih ⊢
        have hnext : value * r.base ≤ 0 := Int.mul_nonpos_of_nonpos_of_nonneg hvalue.2 hbase
        split at hread
        · cases hread
        · exact ih ⟨by omega, by omega⟩ hread

theorem read?_eq_some_iff : r.read? s = some v ↔ r.read s = .ok v := by
  unfold read?
  cases r.read s <;> simp [Except.toOption]

/-- A numeral stands for a number of its range. -/
theorem read?_bounds (hlo : r.lo ≤ 0) (hhi : 0 ≤ r.hi) (hread : r.read? s = some v) :
    r.lo ≤ v ∧ v ≤ r.hi := by
  have hup {digits : List Char} (h : readDigits r false 0 digits = .ok v) : r.lo ≤ v ∧ v ≤ r.hi := by
    have hbounds := readDigits_bounds false ⟨Int.le_refl 0, hhi⟩ h
    simp only [Bool.false_eq_true, if_false] at hbounds
    exact ⟨Int.le_trans hlo hbounds.1, hbounds.2⟩
  rw [read?_eq_some_iff, read] at hread
  split at hread
  · cases hread
  · cases hread
  · cases hread
  · exact hup hread
  · split at hread
    · have hbounds := readDigits_bounds true ⟨hlo, Int.le_refl 0⟩ hread
      exact ⟨hbounds.1, Int.le_trans hbounds.2 hhi⟩
    · cases hread
  · exact hup hread

/-- Behind a minus sign there is no number above zero. -/
theorem read?_le_zero (hlo : r.lo ≤ 0) (hminus : s.toList.head? = some '-')
    (hread : r.read? s = some v) : v ≤ 0 := by
  obtain ⟨rest, hs⟩ := List.head?_eq_some_iff.1 hminus
  rw [read?_eq_some_iff, read, hs] at hread
  cases rest with
  | nil => cases hread
  | cons c digits =>
    simp only at hread
    split at hread
    · have hbounds := readDigits_bounds true ⟨hlo, Int.le_refl 0⟩ hread
      exact hbounds.2
    · cases hread

end Overseer.Text.NumeralRange
