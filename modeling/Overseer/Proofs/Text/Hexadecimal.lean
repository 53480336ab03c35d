import Overseer.Proofs.Text.Lines
import Overseer.Proofs.Text.Unsigned
import Overseer.Text.Quoted

/-!
Numerals in base sixteen: which texts are read as which numbers, and how the printed form of a number
compares with its other numerals.
-/

namespace Overseer.Text

/-- A character that stands for a number below sixteen: a decimal digit, or a letter in either
    case. -/
def IsHexDigit (c : Char) (d : Nat) : Prop :=
  d < 16 ∧ c.toLower = Nat.digitChar d

/-- Characters that give a number in base sixteen: digits, the highest one first, with leading zeros
    or without, and possibly a plus sign in front. -/
def IsHexNumeral (cs : List Char) (n : Nat) : Prop :=
  ∃ sign digits values, cs = sign ++ digits ∧ (sign = [] ∨ sign = ['+']) ∧ digits ≠ [] ∧
    List.Forall₂ IsHexDigit digits values ∧ n = Nat.ofDigits 16 values.reverse

/-- A text is read as a number exactly if it is a numeral of the number, and the number fits. -/
theorem read?_hex32_eq_some_iff {s : String} {v : Int} :
    NumeralRange.hex32.read? s = some v ↔
      ∃ n : Nat, IsHexNumeral s.toList n ∧ n < 2 ^ 32 ∧ v = n := by
  rw [NumeralRange.read?_eq_some_iff,
    NumeralRange.read_eq_ok_iff (by decide) (by decide) rfl (by decide)]
  refine exists_congr fun n => and_congr Iff.rfl (and_congr_left' ?_)
  have hhi : NumeralRange.hex32.hi = 0xFFFFFFFF := rfl
  omega

theorem isHexDigit_digitChar {d : Nat} (hd : d < 16) : IsHexDigit (Nat.digitChar d) d := by
  refine ⟨hd, ?_⟩
  revert d
  decide

/-- A number is printed as a numeral of it. -/
theorem isHexNumeral_toDigits (n : Nat) : IsHexNumeral (Nat.toDigits 16 n) n := by
  have hdigits : ∃ values, List.Forall₂ IsHexDigit (Nat.toDigits 16 n) values ∧
      n = Nat.ofDigits 16 values.reverse := by
    induction n using Nat.base_induction 16 (by decide) with
    | single d hd =>
      rw [Nat.toDigits_of_lt_base hd]
      exact ⟨[d], .cons (isHexDigit_digitChar hd) .nil, Nat.ofDigits_singleton.symm⟩
    | digit m d hd hm ih =>
      obtain ⟨values, hvalues, hvalue⟩ := ih
      rw [← Nat.toDigits_append_toDigits (by decide) hm hd, Nat.toDigits_of_lt_base hd]
      refine ⟨values ++ [d], List.rel_append hvalues (.cons (isHexDigit_digitChar hd) .nil), ?_⟩
      rw [List.reverse_append, List.reverse_singleton, List.singleton_append, Nat.ofDigits_cons,
        ← hvalue, Nat.add_comm]
  obtain ⟨values, hvalues, hn⟩ := hdigits
  exact ⟨[], _, values, rfl, .inl rfl, Nat.toDigits_ne_nil, hvalues, hn⟩

theorem exists_of_forall₂ {α β : Type} {R : α → β → Prop} {xs : List α} {ys : List β}
    (hall : List.Forall₂ R xs ys) : ∀ x ∈ xs, ∃ y, R x y := by
  induction hall with
  | nil => exact List.forall_mem_nil _
  | cons hxy _ ih => exact List.forall_mem_cons.2 ⟨⟨_, hxy⟩, ih⟩

/-- No numeral of a number is shorter than the printed one. -/
theorem IsHexNumeral.length_toDigits_le {cs : List Char} {n : Nat} (hcs : IsHexNumeral cs n) :
    (Nat.toDigits 16 n).length ≤ cs.length := by
  obtain ⟨sign, digits, values, rfl, -, hne, hvalues, rfl⟩ := hcs
  have hlength : values.reverse.length = digits.length := by
    rw [List.length_reverse, hvalues.length_eq]
  have hsmall : ∀ d ∈ values.reverse, d < 16 := by
    intro d hd
    have hflipped : List.Forall₂ (flip IsHexDigit) values digits := .flip hvalues
    obtain ⟨c, hdigit⟩ := exists_of_forall₂ hflipped d (List.mem_reverse.1 hd)
    exact hdigit.1
  have hbound := Nat.ofDigits_lt_base_pow_length (by decide : 1 < 16) hsmall
  rw [hlength, ← Nat.length_toDigits_le_iff (by decide) (List.length_pos_iff.2 hne)] at hbound
  rw [List.length_append]
  omega

/-- The last digit of a numeral is that of the number. -/
theorem IsHexNumeral.isHexDigit_last {cs : List Char} {c : Char} {n : Nat}
    (hcs : IsHexNumeral (cs ++ [c]) n) : IsHexDigit c (n % 16) := by
  obtain ⟨sign, digits, values, hsplit, -, hne, hvalues, rfl⟩ := hcs
  obtain ⟨before, last, rfl⟩ := (List.eq_nil_or_concat digits).resolve_left hne
  rw [List.concat_eq_append] at hsplit hvalues
  rw [← List.append_assoc] at hsplit
  obtain rfl : c = last := (List.cons.inj (List.append_inj_right' hsplit rfl)).1
  have hreverse := List.forall₂_reverse_iff.2 hvalues
  rw [List.reverse_append, List.reverse_singleton, List.singleton_append] at hreverse
  obtain ⟨d, later, hd, -, hlater⟩ := List.forall₂_cons_left_iff.1 hreverse
  rw [hlater, Nat.ofDigits_cons, Nat.add_mul_mod_self_left, Nat.mod_eq_of_lt hd.1]
  exact hd

/-- There is nothing in a numeral but digits and the sign. -/
theorem IsHexNumeral.notMem {cs : List Char} {n : Nat} (hcs : IsHexNumeral cs n) {c : Char}
    (hsign : c ≠ '+') (hdigit : NumeralRange.digit? 16 c = none) : c ∉ cs := by
  obtain ⟨sign, digits, values, rfl, hplus, -, hvalues, -⟩ := hcs
  rw [List.mem_append, not_or]
  constructor
  · rcases hplus with rfl | rfl
    · exact List.not_mem_nil
    · simpa using hsign
  · intro hmem
    obtain ⟨d, hd⟩ := exists_of_forall₂ hvalues c hmem
    exact not_isDigit (by decide) hdigit d hd

theorem isBlank_of_isHexDigit {c : Char} {d : Nat} (hc : IsHexDigit c d) : isBlank c = false := by
  rw [IsHexDigit, ← IsDigit, ← digit?_eq_some_iff (by decide), NumeralRange.digit?,
    Option.ite_none_right_eq_some] at hc
  have hrange : 48 ≤ c.toNat ∧ c.toNat ≤ 102 := by
    have hsmall := hc.1
    generalize c.toNat = n at hsmall
    grind
  simp only [isBlank, Bool.or_eq_false_iff, Bool.and_eq_false_iff, decide_eq_false_iff_not,
    beq_eq_false_iff_ne]
  omega

/-- There are no blanks in a numeral. -/
theorem IsHexNumeral.not_isBlank {cs : List Char} {n : Nat} (hcs : IsHexNumeral cs n) {c : Char}
    (hc : c ∈ cs) : isBlank c = false := by
  by_contra hblank
  refine hcs.notMem ?_ ?_ hc
  · rintro rfl
    exact hblank (by decide)
  · rw [Option.eq_none_iff_forall_ne_some]
    exact fun d hd => hblank (isBlank_of_isHexDigit ((digit?_eq_some_iff (by decide)).1 hd))

/-- The last digit that is printed is that of the number. -/
theorem exists_toDigits_eq (n : Nat) :
    ∃ before, Nat.toDigits 16 n = before ++ [Nat.digitChar (n % 16)] := by
  rw [Nat.toDigits_eq_if (by decide)]
  split
  · next hsmall => exact ⟨[], by rw [Nat.mod_eq_of_lt hsmall, List.nil_append]⟩
  · exact ⟨_, rfl⟩

end Overseer.Text
