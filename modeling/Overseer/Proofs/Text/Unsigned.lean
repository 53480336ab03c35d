import Mathlib.Data.Nat.Digits.Lemmas
import Overseer.Proofs.Text.Numeral

/-!
Numerals of natural numbers: which texts are read as which numbers in a range that starts at zero.
-/

namespace Overseer.Text

/-- A character that stands for a number below a base: a decimal digit, or a letter in either case. -/
def IsDigit (base : Nat) (c : Char) (d : Nat) : Prop :=
  d < base ∧ c.toLower = Nat.digitChar d

/-- Characters that give a number in a base: digits, the highest one first, with leading zeros or
    without, and possibly a plus sign in front. -/
def IsNumeral (base : Nat) (cs : List Char) (n : Nat) : Prop :=
  ∃ sign digits values, cs = sign ++ digits ∧ (sign = [] ∨ sign = ['+']) ∧ digits ≠ [] ∧
    List.Forall₂ (IsDigit base) digits values ∧ n = Nat.ofDigits base values.reverse

theorem toNat_digitChar {d : Nat} (hd : d < 16) :
    (Nat.digitChar d).toNat = if d < 10 then 48 + d else 87 + d := by
  revert d
  decide

theorem toNat_toLower (c : Char) :
    c.toLower.toNat = if 65 ≤ c.toNat ∧ c.toNat ≤ 90 then c.toNat + 32 else c.toNat := by
  have hrange : (c.val ≥ 'A'.val ∧ c.val ≤ 'Z'.val) ↔ 65 ≤ c.toNat ∧ c.toNat ≤ 90 := Iff.rfl
  unfold Char.toLower
  split
  · next hupper =>
    have hbounds := hrange.1 hupper
    have hsum : (c.val + ('a'.val - 'A'.val)).toNat = (c.toNat + 32) % 2 ^ 32 :=
      UInt32.toNat_add c.val ('a'.val - 'A'.val)
    rw [if_pos hbounds]
    refine hsum.trans (Nat.mod_eq_of_lt ?_)
    omega
  · next hother => rw [if_neg (hrange.not.1 hother)]

section Digits

variable {base : Nat} {c : Char}

/-- Digits are read as what they stand for. -/
theorem digit?_eq_some_iff (hbase : base ≤ 16) {d : Nat} :
    NumeralRange.digit? base c = some d ↔ IsDigit base c d := by
  have hlower : IsDigit base c d ↔ d < base ∧
      (if 65 ≤ c.toNat ∧ c.toNat ≤ 90 then c.toNat + 32 else c.toNat) =
        if d < 10 then 48 + d else 87 + d := by
    refine and_congr_right fun hd => ?_
    rw [← toNat_toLower, ← toNat_digitChar (by omega), Char.toNat_inj]
  rw [hlower, NumeralRange.digit?, Option.ite_none_right_eq_some, Option.some.injEq]
  generalize c.toNat = n
  grind

/-- What is not read stands for no digit. -/
theorem not_isDigit (hbase : base ≤ 16) (hc : NumeralRange.digit? base c = none) (d : Nat) :
    ¬IsDigit base c d := by
  rw [← digit?_eq_some_iff hbase, hc]
  intro hread
  cases hread

theorem isNumeral_plus_iff (hbase : base ≤ 16) {digits : List Char} {n : Nat} :
    IsNumeral base ('+' :: digits) n ↔ digits ≠ [] ∧
      ∃ values, List.Forall₂ (IsDigit base) digits values ∧
        n = Nat.ofDigits base values.reverse := by
  have hplus : NumeralRange.digit? base '+' = none := by simp [NumeralRange.digit?]
  constructor
  · rintro ⟨sign, behind, values, hcs, hsign, hne, hvalues, hn⟩
    rcases hsign with rfl | rfl
    · rw [List.nil_append] at hcs
      subst hcs
      obtain ⟨d, later, hd, -⟩ := List.forall₂_cons_left_iff.1 hvalues
      exact absurd hd (not_isDigit hbase hplus d)
    · obtain rfl : digits = behind := (List.cons.inj hcs).2
      exact ⟨hne, values, hvalues, hn⟩
  · rintro ⟨hne, values, hvalues, hn⟩
    exact ⟨['+'], digits, values, rfl, .inr rfl, hne, hvalues, hn⟩

theorem isNumeral_cons_iff (hc : c ≠ '+') {rest : List Char} {n : Nat} :
    IsNumeral base (c :: rest) n ↔
      ∃ values, List.Forall₂ (IsDigit base) (c :: rest) values ∧
        n = Nat.ofDigits base values.reverse := by
  constructor
  · rintro ⟨sign, digits, values, hcs, hsign, -, hvalues, hn⟩
    rcases hsign with rfl | rfl
    · rw [List.nil_append] at hcs
      exact ⟨values, hcs ▸ hvalues, hn⟩
    · exact absurd (List.cons.inj hcs).1 hc
  · rintro ⟨values, hvalues, hn⟩
    exact ⟨[], c :: rest, values, rfl, .inl rfl, List.cons_ne_nil _ _, hvalues, hn⟩

theorem not_isNumeral_minus (hbase : base ≤ 16) (rest : List Char) (n : Nat) :
    ¬IsNumeral base ('-' :: rest) n := by
  have hminus : NumeralRange.digit? base '-' = none := by simp [NumeralRange.digit?]
  intro hnumeral
  obtain ⟨values, hvalues, -⟩ := (isNumeral_cons_iff (by decide)).1 hnumeral
  obtain ⟨d, later, hd, -⟩ := List.forall₂_cons_left_iff.1 hvalues
  exact not_isDigit hbase hminus d hd

theorem le_foldl_digits (hpositive : 0 < base) (values : List Nat) (n : Nat) :
    n ≤ values.foldl (fun n d => d + base * n) n := by
  induction values generalizing n with
  | nil => exact Nat.le_refl n
  | cons d later ih =>
    calc n ≤ base * n := Nat.le_mul_of_pos_left n hpositive
      _ ≤ d + base * n := Nat.le_add_left _ _
      _ ≤ _ := ih (d + base * n)

theorem foldl_digits_zero (values : List Nat) :
    values.foldl (fun n d => d + base * n) 0 = Nat.ofDigits base values.reverse := by
  rw [Nat.ofDigits_eq_foldr, List.foldr_reverse]
  rfl

end Digits

namespace NumeralRange

variable {r : NumeralRange}

/-- Digits behind a number that was read already are read as long as the number stays in its range. -/
theorem readDigits_eq_ok_iff (hpositive : 0 < r.base) (hbase : r.base ≤ 16) (cs : List Char)
    {value : Nat} (hvalue : (value : Int) ≤ r.hi) (v : Int) :
    r.readDigits false value cs = .ok v ↔
      ∃ values, List.Forall₂ (IsDigit r.base) cs values ∧
        (values.foldl (fun n d => d + r.base * n) value : Nat) ≤ r.hi ∧
        v = (values.foldl (fun n d => d + r.base * n) value : Nat) := by
  induction cs generalizing value with
  | nil =>
    rw [readDigits, Except.ok.injEq]
    constructor
    · rintro rfl
      exact ⟨[], .nil, hvalue, rfl⟩
    · rintro ⟨values, hvalues, -, rfl⟩
      cases hvalues
      rfl
  | cons c rest ih =>
    rw [readDigits]
    cases hdigit : digit? r.base c with
    | none =>
      refine iff_of_false (by rintro ⟨⟩) ?_
      rintro ⟨values, hvalues, -⟩
      obtain ⟨d, later, hd, -⟩ := List.forall₂_cons_left_iff.1 hvalues
      exact not_isDigit hbase hdigit d hd
    | some d =>
      have hnext : (value : Int) * r.base + d = (d + r.base * value : Nat) := by
        push_cast
        ring
      simp only [Bool.false_eq_true, if_false, hnext]
      split
      · next hlarge =>
        refine iff_of_false (by rintro ⟨⟩) ?_
        rintro ⟨values, hvalues, hsmall, -⟩
        obtain ⟨e, later, he, -, rfl⟩ := List.forall₂_cons_left_iff.1 hvalues
        rw [(digit?_eq_some_iff hbase).2 he] at hdigit
        cases hdigit
        have hgrows := le_foldl_digits hpositive later (d + r.base * value)
        rw [List.foldl_cons] at hsmall
        omega
      · next hsmall =>
        rw [ih (Int.not_lt.1 hsmall)]
        constructor
        · rintro ⟨later, hlater, hrange, hv⟩
          exact ⟨d :: later, .cons ((digit?_eq_some_iff hbase).1 hdigit) hlater, hrange, hv⟩
        · rintro ⟨values, hvalues, hrange, hv⟩
          obtain ⟨e, later, he, hlater, rfl⟩ := List.forall₂_cons_left_iff.1 hvalues
          rw [(digit?_eq_some_iff hbase).2 he] at hdigit
          cases hdigit
          exact ⟨later, hlater, hrange, hv⟩

/-- A text is read as a number exactly if it is a numeral of the number, and the number fits. -/
theorem read_eq_ok_iff (hpositive : 0 < r.base) (hbase : r.base ≤ 16) (hlo : r.lo = 0)
    (hhi : 0 ≤ r.hi) {s : String} {v : Int} :
    r.read s = .ok v ↔ ∃ n : Nat, IsNumeral r.base s.toList n ∧ n ≤ r.hi ∧ v = n := by
  have hdigits (digits : List Char) : r.readDigits false 0 digits = .ok v ↔
      ∃ n : Nat, (∃ values, List.Forall₂ (IsDigit r.base) digits values ∧
        n = Nat.ofDigits r.base values.reverse) ∧ n ≤ r.hi ∧ v = n := by
    have hzero : ((0 : Nat) : Int) ≤ r.hi := hhi
    have hread := readDigits_eq_ok_iff hpositive hbase digits hzero v
    rw [Int.natCast_zero] at hread
    simp only [hread, foldl_digits_zero]
    constructor
    · rintro ⟨values, hvalues, hrange, hv⟩
      exact ⟨_, ⟨values, hvalues, rfl⟩, hrange, hv⟩
    · rintro ⟨n, ⟨values, hvalues, rfl⟩, hrange, hv⟩
      exact ⟨values, hvalues, hrange, hv⟩
  rw [read]
  split
  · next hempty =>
    refine iff_of_false (by rintro ⟨⟩) ?_
    rintro ⟨n, ⟨sign, digits, values, hcs, -, hne, -⟩, -⟩
    rw [hempty] at hcs
    exact hne (List.append_eq_nil_iff.1 hcs.symm).2
  · next hplus =>
    rw [hplus]
    refine iff_of_false (by rintro ⟨⟩) ?_
    rintro ⟨n, hnumeral, -⟩
    exact ((isNumeral_plus_iff hbase).1 hnumeral).1 rfl
  · next hminus =>
    rw [hminus]
    refine iff_of_false (by rintro ⟨⟩) ?_
    rintro ⟨n, hnumeral, -⟩
    exact not_isNumeral_minus hbase _ n hnumeral
  · next digits hempty hcs =>
    have hne : digits ≠ [] := hempty
    simp only [hcs, hdigits, isNumeral_plus_iff hbase, and_iff_right hne]
  · next digits hminus hcs =>
    rw [if_neg (by omega), hcs]
    refine iff_of_false (by rintro ⟨⟩) ?_
    rintro ⟨n, hnumeral, -⟩
    exact not_isNumeral_minus hbase _ n hnumeral
  · next hempty hplus hminus hplusDigits hminusDigits =>
    rw [hdigits]
    cases hcs : s.toList with
    | nil => exact absurd hcs hempty
    | cons c rest =>
      have hc : c ≠ '+' := by
        rintro rfl
        exact hplusDigits rest hcs
      simp only [isNumeral_cons_iff hc]

theorem read_eq_ok_natCast_iff (hpositive : 0 < r.base) (hbase : r.base ≤ 16) (hlo : r.lo = 0)
    (hhi : 0 ≤ r.hi) {s : String} {n : Nat} :
    r.read s = .ok (n : Int) ↔ IsNumeral r.base s.toList n ∧ n ≤ r.hi := by
  rw [read_eq_ok_iff hpositive hbase hlo hhi]
  constructor
  · rintro ⟨m, hnumeral, hrange, hsame⟩
    obtain rfl : n = m := Int.ofNat.inj hsame
    exact ⟨hnumeral, hrange⟩
  · rintro ⟨hnumeral, hrange⟩
    exact ⟨n, hnumeral, hrange, rfl⟩

theorem exists_natCast_of_read (hpositive : 0 < r.base) (hbase : r.base ≤ 16) (hlo : r.lo = 0)
    (hhi : 0 ≤ r.hi) {s : String} {v : Int} (hread : r.read s = .ok v) : ∃ n : Nat, v = n := by
  obtain ⟨n, -, -, hn⟩ := (read_eq_ok_iff hpositive hbase hlo hhi).1 hread
  exact ⟨n, hn⟩

end NumeralRange

end Overseer.Text
