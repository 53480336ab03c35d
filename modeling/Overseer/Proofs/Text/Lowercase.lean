import Overseer.Proofs.Text.Unsigned
import Overseer.Text.Lowercase

/-!
Words in any letter case: which texts have a word of plain letters as their lower-case form.
-/

namespace Overseer.Text.Lowercase

/-- A character that is the lower-case form of nothing but ASCII characters. The letter k is that of
    the Kelvin sign as well. -/
def IsSettled (c : Char) : Prop :=
  c.toNat < 128 ∧ c ≠ 'k'

instance (c : Char) : Decidable (IsSettled c) :=
  inferInstanceAs (Decidable (_ ∧ _))

/-- The capital letters of the table have small ones beyond ASCII too, the Kelvin sign apart. -/
theorem offset_of_mem_runs : ∀ run ∈ runs,
    (run.first = run.last ∧ run.first + run.offset = 0x6B) ∨
      128 ≤ run.first + run.offset ∧
        (run.last + run.offset < 0xD800 ∨
          0xE000 ≤ run.first + run.offset ∧ run.last + run.offset < 0x110000) := by
  decide +kernel

theorem ofChar_of_lt {c : Char} (hc : c.toNat < 128) : ofChar c = [c.toLower] :=
  if_pos hc

/-- Nothing beyond ASCII has a lower-case form that settled characters make up. -/
theorem exists_not_isSettled_of_le {c : Char} (hc : 128 ≤ c.toNat) :
    ∃ d ∈ ofChar c, ¬IsSettled d := by
  have hlarge : ¬c.toNat < 128 := Nat.not_lt.2 hc
  rw [ofChar, if_neg hlarge]
  split
  · exact ⟨Char.ofNat 0x307, by simp, by decide⟩
  · split
    · next run hfind =>
      refine ⟨_, List.mem_singleton_self _, ?_⟩
      have hrange := List.find?_some hfind
      simp only [Bool.and_eq_true, decide_eq_true_eq] at hrange
      obtain ⟨⟨hfirst, hlast⟩, -⟩ := hrange
      rcases offset_of_mem_runs run (List.mem_of_find?_eq_some hfind) with
        ⟨hone, hk⟩ | ⟨hbeyond, hvalid⟩
      · have hvalue : (c.toNat + run.offset).toNat = 0x6B := by omega
        rw [hvalue]
        decide
      · have hchar : (c.toNat + run.offset).toNat.isValidChar := by
          unfold Nat.isValidChar
          omega
        have hvalue : (Char.ofNat (c.toNat + run.offset).toNat).toNat =
            (c.toNat + run.offset).toNat := by
          rw [Char.ofNat, dif_pos hchar]
          rfl
        rintro ⟨hsmall, -⟩
        rw [hvalue] at hsmall
        omega
    · exact ⟨c, List.mem_singleton_self c, fun hsettled => hlarge hsettled.1⟩

theorem not_isSettled_sigma (before after : List Char) : ¬IsSettled (sigma before after) := by
  unfold sigma
  split <;> decide

theorem toLower_of_le {c : Char} (hc : 128 ≤ c.toNat) : c.toLower = c := by
  rw [← Char.toNat_inj, toNat_toLower, if_neg (by omega)]

/-- Settled characters are the lower-case form of the same ones in any letter case, and of no
    others. -/
theorem ofCharsAfter_eq_iff {word : List Char} (hword : ∀ d ∈ word, IsSettled d)
    (before cs : List Char) : ofCharsAfter before cs = word ↔ cs.map Char.toLower = word := by
  induction cs generalizing before word with
  | nil => rfl
  | cons c after ih =>
    rw [ofCharsAfter, List.map_cons]
    by_cases hc : c.toNat < 128
    · have hsigma : c ≠ 'Σ' := by
        rintro rfl
        exact absurd hc (by decide)
      rw [if_neg hsigma, ofChar_of_lt hc, List.singleton_append]
      cases word with
      | nil => simp
      | cons d rest =>
        rw [List.forall_mem_cons] at hword
        rw [List.cons.injEq, List.cons.injEq, ih hword.2]
    · have hlarge := Nat.not_lt.1 hc
      have hform : ∃ d ∈ if c = 'Σ' then [sigma before after] else ofChar c, ¬IsSettled d := by
        split
        · exact ⟨_, List.mem_singleton_self _, not_isSettled_sigma before after⟩
        · exact exists_not_isSettled_of_le hlarge
      obtain ⟨d, hd, hunsettled⟩ := hform
      refine iff_of_false ?_ ?_
      · rintro rfl
        exact hunsettled (hword d (List.mem_append_left _ hd))
      · rintro rfl
        rw [toLower_of_le hlarge, List.forall_mem_cons] at hword
        exact hc hword.1.1

/-- A word of settled characters is the lower-case form of its spellings in any letter case, and of
    no other text. -/
theorem ofString_eq_iff {s word : String} (hword : ∀ d ∈ word.toList, IsSettled d) :
    ofString s = word ↔ s.toList.map Char.toLower = word.toList := by
  rw [← ofCharsAfter_eq_iff hword [], ofString]
  constructor
  · rintro rfl
    rw [String.toList_ofList]
  · intro hform
    rw [hform, String.ofList_toList]

end Overseer.Text.Lowercase
