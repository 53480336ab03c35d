import Overseer.Proofs.Seal.Flushing

/-!
Sealed images that were damaged. As long as the trailer stays what it was, an image is accepted
exactly if its body still has the same checksum, and a small change never leaves that the same.
-/

namespace Overseer.Seal

variable {front body changed : Bytes} {a b : UInt8}

/-- A small change of a body: one byte becomes another one, or two neighbours that differ change
    places. -/
inductive Slip : Bytes → Bytes → Prop
  | replaced (front rest : Bytes) {a b : UInt8} (hne : a ≠ b) :
    Slip (front ++ a :: rest) (front ++ b :: rest)
  | swapped (front rest : Bytes) {a b : UInt8} (hne : a ≠ b) :
    Slip (front ++ a :: b :: rest) (front ++ b :: a :: rest)

theorem checksum_concat (front : Bytes) (b : UInt8) :
    checksum (front ++ [b]) = checksum front * 33 + b.toUInt32 := by
  rw [checksum, List.foldl_append]
  rfl

/-- Thirty-three is odd, so that no sum is lost when it is multiplied. -/
theorem mul_add_inj {m n c : UInt32} : m * 33 + c = n * 33 + c ↔ m = n := by
  constructor
  · intro hsame
    have hproduct : m * 33 = n * 33 := by simpa using hsame
    have hinverse : (33 : UInt32) * 1041204193 = 1 := by decide
    calc m = m * 33 * 1041204193 := by rw [UInt32.mul_assoc, hinverse, UInt32.mul_one]
      _ = n * 33 * 1041204193 := by rw [hproduct]
      _ = n := by rw [UInt32.mul_assoc, hinverse, UInt32.mul_one]
  · rintro rfl
    rfl

/-- What stands behind a difference does not make up for it. -/
theorem checksum_append_inj {other : Bytes} (rest : Bytes) :
    checksum (front ++ rest) = checksum (other ++ rest) ↔ checksum front = checksum other := by
  induction rest generalizing front other with
  | nil => rw [List.append_nil, List.append_nil]
  | cons b rest ih =>
    rw [List.append_cons front, List.append_cons other, ih, checksum_concat, checksum_concat,
      mul_add_inj]

theorem toUInt32_inj : a.toUInt32 = b.toUInt32 ↔ a = b := by
  rw [← UInt32.toNat_inj, ← UInt8.toNat_inj, UInt8.toNat_toUInt32, UInt8.toNat_toUInt32]

/-- The last byte counts for less than the modulus. -/
theorem checksum_concat_inj : checksum (front ++ [a]) = checksum (front ++ [b]) ↔ a = b := by
  rw [checksum_concat, checksum_concat, UInt32.add_right_inj, toUInt32_inj]

/-- Two bytes that change places make a difference of thirty-two times their own, which is less than
    the modulus. -/
theorem checksum_swap_inj :
    checksum (front ++ [a, b]) = checksum (front ++ [b, a]) ↔ a = b := by
  have hpair (x y : UInt8) : checksum (front ++ [x, y]) =
      (checksum front * 33 + x.toUInt32) * 33 + y.toUInt32 := by
    rw [List.append_cons, checksum_concat, checksum_concat]
  have ha := a.toNat_lt
  have hb := b.toNat_lt
  rw [hpair, hpair, ← UInt32.toNat_inj, ← UInt8.toNat_inj]
  simp only [UInt32.toNat_add, UInt32.toNat_mul, UInt8.toNat_toUInt32, UInt32.reduceToNat]
  omega

/-- A small change always shows in the checksum. -/
theorem Slip.checksum_ne (hslip : Slip body changed) :
    checksum changed ≠ checksum body := by
  cases hslip with
  | @replaced front rest a b hne =>
    rw [List.append_cons front b, List.append_cons front a, ne_eq, checksum_append_inj,
      checksum_concat_inj]
    exact hne.symm
  | @swapped front rest a b hne =>
    have hsplit (x y : UInt8) : front ++ x :: y :: rest = front ++ [x, y] ++ rest := by simp
    rw [hsplit, hsplit, ne_eq, checksum_append_inj, checksum_swap_inj]
    exact hne.symm

/-- Under the trailer of a body, an image is accepted exactly if what stands before has the checksum
    of that body. The marker of the trailer is the last one, whatever stands before it. -/
theorem verify_append_trailer_iff :
    verify (changed ++ trailer body) = true ↔ checksum changed = checksum body := by
  obtain ⟨text, hsealed, hnumeral⟩ := seals_trailer body
  rw [List.append_assoc, List.append_cancel_left_eq] at hsealed
  have hlast := not_infix_tail_marker (hash_notMem_of_isHexNumeral hnumeral)
  have hvalue : value? (Bytes.ofString text) = some ((checksum body).toNat : Int) :=
    value?_eq_some_iff.2 ⟨text, rfl, hnumeral, (checksum body).toNat_lt⟩
  rw [hsealed, ← List.append_assoc, verify_append hlast, hvalue, beq_iff_eq, Option.some_inj,
    Int.natCast_inj, UInt32.toNat_inj]
  exact eq_comm

/-- A damaged body does not pass under its old trailer: what is accepted in its place are exactly
    the bodies with the same checksum, and no body has the same checksum after one of its bytes was
    replaced by another one, or two different neighbours were swapped. It makes no difference
    whether a marker appears in the body by this, or disappears from it. -/
theorem small_change_is_detected (body : Bytes) :
    (∀ changed, verify (changed ++ trailer body) = true ↔ checksum changed = checksum body) ∧
      ∀ changed, Slip body changed → verify (changed ++ trailer body) = false := by
  refine ⟨fun changed => verify_append_trailer_iff, fun changed hslip => ?_⟩
  rw [← Bool.not_eq_true, verify_append_trailer_iff]
  exact hslip.checksum_ne

/-- An older trailer in a script loses its marker by one byte, and gains it by the reverse change or
    by a swap. All three are detected. -/
theorem small_change_is_detected_in_marker :
    let marked := Bytes.ofString "true\n# Checksum: 419060"
    let unmarked := Bytes.ofString "true\n# checksum: 419060"
    let swapped := Bytes.ofString "true\n #Checksum: 419060"
    marker <:+: marked ∧ ¬marker <:+: unmarked ∧ ¬marker <:+: swapped ∧
      verify (unmarked ++ trailer marked) = false ∧ verify (marked ++ trailer unmarked) = false ∧
      verify (marked ++ trailer swapped) = false := by
  intro marked unmarked swapped
  have hlost : Slip marked unmarked := .replaced (Bytes.ofString "true\n# ")
    (Bytes.ofString "hecksum: 419060") (a := 67) (b := 99) (by decide)
  have hgained : Slip unmarked marked := .replaced (Bytes.ofString "true\n# ")
    (Bytes.ofString "hecksum: 419060") (a := 99) (b := 67) (by decide)
  have hswapped : Slip swapped marked := .swapped (Bytes.ofString "true\n")
    (Bytes.ofString "Checksum: 419060") (a := 32) (b := 35) (by decide)
  refine ⟨by decide +kernel, by decide +kernel, by decide +kernel, ?_, ?_, ?_⟩
  · exact (small_change_is_detected marked).2 unmarked hlost
  · exact (small_change_is_detected unmarked).2 marked hgained
  · exact (small_change_is_detected swapped).2 marked hswapped

end Overseer.Seal
