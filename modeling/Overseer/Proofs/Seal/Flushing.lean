import Overseer.Proofs.Seal.Acceptance
import Overseer.Readiness

/-!
Scripts that are still being written. What is on disk then is the start of a sealed image, and it is
not accepted before the last digit of the checksum is there.
-/

namespace Overseer

namespace Seal

variable {body part more other : Bytes}

/-- The digits that a trailer gives. -/
def digits (body : Bytes) : Bytes :=
  Bytes.ofString (Text.Quoted.hex (checksum body).toNat)

theorem trailer_eq_digits (body : Bytes) :
    trailer body = marker ++ digits body ++ [Bytes.newline] := rfl

theorem length_marker_lt_length_trailer (body : Bytes) : marker.length < (trailer body).length := by
  simp only [trailer_eq_digits, List.length_append, List.length_singleton]
  omega

/-- The digits alone are a text that gives the checksum. -/
theorem seals_digits (body : Bytes) : Seals (body ++ marker ++ digits body) body := by
  have hdigits := Text.isHexNumeral_toDigits (checksum body).toNat
  refine ⟨_, rfl, ?_⟩
  rw [Text.Quoted.hex, String.toList_ofList, Text.trim_eq_self fun c hc => hdigits.not_isBlank hc]
  exact hdigits

theorem hash_notMem_digits (body : Bytes) : hash ∉ digits body := by
  obtain ⟨text, hsame, hnumeral⟩ := seals_digits body
  rw [List.append_cancel_left hsame]
  exact hash_notMem_of_isHexNumeral hnumeral

/-- No start of the digits gives the same number, since no numeral of a number is shorter than the
    printed one. -/
theorem eq_digits_of_isPrefix {text : String} (hstart : Bytes.ofString text <+: digits body)
    (hnumeral : Text.IsHexNumeral (Text.trim text.toList) (checksum body).toNat) :
    Bytes.ofString text = digits body := by
  obtain ⟨rest, hrest⟩ := hstart
  have hchars := Bytes.isPrefix_of_ofString_append hrest
  rw [Text.Quoted.hex, String.toList_ofList] at hchars
  have hlength := hnumeral.length_toDigits_le.trans (Text.length_trim_le _)
  have hall := hchars.eq_of_length_le hlength
  rw [digits, Text.Quoted.hex, ← hall, String.ofList_toList]

/-- What has been written of a trailer behind its comment sign is accepted only if all digits are
    there. -/
theorem eq_of_seals (hmore : more <+: caption ++ digits body)
    (hseals : Seals ((body ++ [Bytes.newline]) ++ hash :: more) other) :
    more = caption ++ digits body := by
  have hhash : hash ∉ more := by
    intro hmem
    rcases List.mem_append.1 (hmore.mem hmem) with hcaption | hdigits
    · exact absurd hcaption (by decide)
    · exact hash_notMem_digits body hdigits
  obtain ⟨text, hsame, hnumeral⟩ := hseals
  rw [append_marker_append] at hsame
  obtain ⟨hfront, rfl⟩ :=
    append_cons_inj_of_notMem hhash (hash_notMem_caption_append hnumeral) hsame
  obtain rfl := List.append_cancel_right hfront
  rw [List.prefix_append_right_inj] at hmore
  rw [eq_digits_of_isPrefix hmore hnumeral]

/-- A start of a sealed image that reaches into the trailer is accepted exactly if it lacks the line
    end only. -/
theorem verify_eq_true_iff_of_isPrefix (hpart : part <+: body ++ trailer body)
    (hpartial : part ≠ body ++ trailer body) (hlength : body.length + 2 ≤ part.length) :
    verify part = true ↔ part ++ [Bytes.newline] = body ++ trailer body := by
  have hwhole : body ++ trailer body =
      (body ++ [Bytes.newline, hash]) ++ (caption ++ digits body ++ [Bytes.newline]) := by
    rw [trailer_eq_digits, marker_eq]
    simp only [List.append_assoc, List.cons_append, List.nil_append]
  rw [hwhole] at hpart hpartial ⊢
  obtain ⟨more, rfl⟩ : body ++ [Bytes.newline, hash] <+: part := by
    refine List.prefix_of_prefix_length_le (List.prefix_append _ _) hpart ?_
    rwa [List.length_append]
  rw [List.prefix_append_right_inj, List.prefix_concat_iff] at hpart
  have hmore : more <+: caption ++ digits body := by
    refine hpart.resolve_left ?_
    rintro rfl
    exact hpartial rfl
  have hcut (more : Bytes) : (body ++ [Bytes.newline, hash]) ++ more =
      (body ++ [Bytes.newline]) ++ hash :: more := by
    simp only [List.append_assoc, List.cons_append, List.nil_append]
  rw [List.append_assoc (body ++ _) more, List.append_cancel_left_eq, List.append_cancel_right_eq,
    hcut, verify_eq_true_iff]
  constructor
  · rintro ⟨other, hseals⟩
    exact eq_of_seals hmore hseals
  · rintro rfl
    rw [← append_marker_append]
    exact ⟨body, seals_digits body⟩

/-- A start of a sealed image that does not reach into the trailer is not accepted, unless the marker
    occurs in the body. -/
theorem verify_eq_false_of_isPrefix (habsent : ¬marker <:+: body)
    (hpart : part <+: body ++ trailer body) (hlength : part.length < body.length + 2) :
    verify part = false := by
  have hfront : part <+: body ++ [Bytes.newline] := by
    refine List.prefix_of_prefix_length_le hpart ?_ ?_
    · rw [List.prefix_append_right_inj, trailer_eq_digits, marker_eq]
      exact ⟨_, rfl⟩
    · rw [List.length_append, List.length_singleton]
      omega
  rw [← Bool.not_eq_true, verify_eq_true_iff]
  rintro ⟨other, text, rfl, -⟩
  have hoccurs := (List.infix_append other marker (Bytes.ofString text)).trans hfront.isInfix
  rw [List.infix_concat_iff] at hoccurs
  refine hoccurs.elim (fun hend => ?_) habsent
  rcases List.suffix_concat_iff.1 hend with hempty | ⟨before, hlast, -⟩
  · exact absurd hempty (by decide)
  · have hblank : marker.getLast? = some Bytes.newline := by rw [hlast, List.getLast?_concat]
    exact absurd hblank (by decide)

end Seal

/-- The gate opens exactly if one of its looks finds a sealed image. -/
theorem Readiness.passes_eq_true_iff {iterations : Nat} {looks : Nat → Option Bytes} :
    passes iterations looks = true ↔
      ∃ i < iterations, ∃ content, looks i = some content ∧ Seal.verify content = true := by
  induction iterations generalizing looks with
  | zero => simp [passes]
  | succ iterations ih =>
    rw [Nat.exists_lt_succ_left, passes]
    cases hlook : looks 0 with
    | none =>
      rw [ih]
      simp
    | some content =>
      by_cases hverify : Seal.verify content = true
      · simp [hverify]
      · simp only [hverify, Bool.false_eq_true, if_false, ih, Option.some.injEq, exists_eq_left',
          false_or, Function.comp_apply]

/-- A trailer that is being written is not accepted before its last digit is there. Cut off behind
    its comment sign, an image is accepted exactly if it lacks the line end only; cut off earlier, it
    is not, unless an older marker occurs in its body. So the gate opens for a script that is being
    written only at a look that finds all of it, but for the line end. -/
theorem Seal.partial_trailer_is_refused (body : Bytes) :
    (∀ part, part <+: body ++ trailer body → part ≠ body ++ trailer body →
      (body.length + 2 ≤ part.length →
        (verify part = true ↔ part ++ [Bytes.newline] = body ++ trailer body)) ∧
      (¬marker <:+: body → part.length < body.length + 2 → verify part = false)) ∧
    (¬marker <:+: body → ∀ iterations (looks : Nat → Option Bytes),
      (∀ i content, looks i = some content → content <+: body ++ trailer body) →
      (Readiness.passes iterations looks = true ↔ ∃ i < iterations, ∃ content,
        looks i = some content ∧ (content = body ++ trailer body ∨
          content ++ [Bytes.newline] = body ++ trailer body))) := by
  refine ⟨fun part hpart hpartial => ⟨verify_eq_true_iff_of_isPrefix hpart hpartial,
    fun habsent => verify_eq_false_of_isPrefix habsent hpart⟩, ?_⟩
  intro habsent iterations looks hlooks
  rw [Readiness.passes_eq_true_iff]
  refine exists_congr fun i => and_congr_right fun _ => exists_congr fun content =>
    and_congr_right fun hlook => ?_
  have hpart := hlooks i content hlook
  by_cases hwhole : content = body ++ trailer body
  · rw [hwhole]
    exact iff_of_true (verify_eq_true_iff.2 ⟨body, seals_trailer body⟩) (.inl rfl)
  · rw [or_iff_right hwhole]
    by_cases hlength : body.length + 2 ≤ content.length
    · exact verify_eq_true_iff_of_isPrefix hpart hwhole hlength
    · have hshort := Nat.not_le.1 hlength
      rw [verify_eq_false_of_isPrefix habsent hpart hshort]
      refine iff_of_false Bool.false_ne_true fun hend => ?_
      have hsame := congrArg List.length hend
      rw [List.length_append, List.length_append, List.length_singleton] at hsame
      have htrailer := length_marker_lt_length_trailer body
      rw [show marker.length = 13 by decide] at htrailer
      omega

/-- A script that is being written, cut behind the first line end of its trailer, in the marker, in
    the digits, and before the last line end. Only the last cut is accepted. -/
theorem Seal.partial_trailer_is_refused_of_script :
    let body := Bytes.ofString "#!/bin/sh\ntrue"
    let written (count : Nat) := (body ++ trailer body).take count
    verify (written 15) = false ∧ ¬verify (written 20) = true ∧ ¬verify (written 30) = true ∧
      verify (body ++ trailer body).dropLast = true ∧
      Readiness.passes 3 (fun i => [written 15, written 20, written 30][i]?) = false := by
  intro body written
  obtain ⟨hpart, hgate⟩ := partial_trailer_is_refused body
  have habsent : ¬marker <:+: body := by decide +kernel
  have hwritten (count : Nat) : written count <+: body ++ trailer body := List.take_prefix _ _
  refine ⟨?_, ?_, ?_, ?_, ?_⟩
  · exact (hpart (written 15) (hwritten 15) (by decide +kernel)).2 habsent (by decide +kernel)
  · rw [(hpart (written 20) (hwritten 20) (by decide +kernel)).1 (by decide +kernel)]
    decide +kernel
  · rw [(hpart (written 30) (hwritten 30) (by decide +kernel)).1 (by decide +kernel)]
    decide +kernel
  · rw [(hpart _ (List.dropLast_prefix _) (by decide +kernel)).1 (by decide +kernel)]
    decide +kernel
  · rw [← Bool.not_eq_true, hgate habsent 3]
    · decide +kernel
    · intro i content hlook
      obtain ⟨count, -, rfl⟩ : ∃ count ∈ [15, 20, 30], written count = content :=
        List.mem_map.1 (List.mem_of_getElem? hlook)
      exact hwritten count

end Overseer
