import Overseer.GeneratedScript
import Overseer.Proofs.Text.Hexadecimal

/-!
Which images are sealed. The last marker of an image is the only one that can begin its trailer, so
an image has at most one body, and the trailer of a body seals it whatever the body holds.
-/

namespace Overseer

namespace Seal

variable {pattern before after bs body value image : Bytes}

/-- The comment sign of a trailer line. -/
def hash : UInt8 := 35

/-- What stands between the comment sign and the value of a trailer line. -/
def caption : Bytes := Bytes.ofString " Checksum: "

theorem marker_eq : marker = Bytes.newline :: hash :: caption := by decide

/-- An image that ends in a trailer line for a body: behind the body and the marker, there is nothing
    but a numeral of its checksum, possibly with blanks around it. -/
def Seals (image body : Bytes) : Prop :=
  ∃ value : String, image = body ++ marker ++ Bytes.ofString value ∧
    Text.IsHexNumeral (Text.trim value.toList) (checksum body).toNat

theorem lastIndexFrom_of_not_infix (hpattern : pattern ≠ []) (habsent : ¬pattern <:+: bs)
    (found : Option Nat) (position : Nat) : lastIndexFrom pattern found position bs = found := by
  induction bs generalizing position with
  | nil => rw [lastIndexFrom, if_neg hpattern]
  | cons b rest ih =>
    rw [List.infix_cons_iff, not_or, ← List.isPrefixOf_iff_prefix] at habsent
    rw [lastIndexFrom, if_neg habsent.1, ih habsent.2]

/-- An occurrence that no later one follows is found. -/
theorem lastIndexFrom_append (hpattern : pattern ≠ [])
    (hlast : ¬pattern <:+: (pattern ++ after).tail) (found : Option Nat) (position : Nat) :
    lastIndexFrom pattern found position (before ++ pattern ++ after) =
      some (position + before.length) := by
  induction before generalizing found position with
  | nil =>
    obtain ⟨b, rest, hcons⟩ := List.exists_cons_of_ne_nil hpattern
    have himage : [] ++ pattern ++ after = b :: (rest ++ after) := by rw [hcons]; rfl
    have htail : (pattern ++ after).tail = rest ++ after := by rw [hcons]; rfl
    have hoccurs : pattern.isPrefixOf (b :: (rest ++ after)) = true := by
      rw [List.isPrefixOf_iff_prefix, hcons]
      exact List.prefix_append (b :: rest) after
    rw [htail] at hlast
    rw [himage, lastIndexFrom, if_pos hoccurs, lastIndexFrom_of_not_infix hpattern hlast]
    rfl
  | cons b rest ih =>
    rw [List.cons_append, List.cons_append, lastIndexFrom, ih, List.length_cons]
    congr 1
    omega

/-- Among the occurrences of a pattern there is a last one. -/
theorem exists_last_of_infix (hpattern : pattern ≠ []) (hoccurs : pattern <:+: bs) :
    ∃ before after, bs = before ++ pattern ++ after ∧
      ¬pattern <:+: (pattern ++ after).tail := by
  induction bs with
  | nil => exact absurd (List.infix_nil.1 hoccurs) hpattern
  | cons b rest ih =>
    by_cases hlater : pattern <:+: rest
    · obtain ⟨before, after, rfl, hlast⟩ := ih hlater
      exact ⟨b :: before, after, rfl, hlast⟩
    · obtain ⟨after, hsplit⟩ := (List.infix_cons_iff.1 hoccurs).resolve_right hlater
      refine ⟨[], after, hsplit.symm, ?_⟩
      rw [hsplit]
      exact hlater

/-- An occurrence cannot begin where its first element is missing. -/
theorem infix_of_infix_append {b : UInt8} {rest missing : Bytes} (hmissing : b ∉ missing)
    (hoccurs : b :: rest <:+: missing ++ after) : b :: rest <:+: after := by
  induction missing with
  | nil => exact hoccurs
  | cons c more ih =>
    rw [List.mem_cons, not_or] at hmissing
    rw [List.cons_append, List.infix_cons_iff, List.cons_prefix_cons] at hoccurs
    exact ih hmissing.2 (hoccurs.resolve_left fun h => hmissing.1 h.1)

/-- Without a comment sign behind it, a marker is the last one. -/
theorem not_infix_tail_marker (hvalue : hash ∉ value) : ¬marker <:+: (marker ++ value).tail := by
  intro hoccurs
  have htail : (marker ++ value).tail = hash :: caption ++ value := by
    rw [marker_eq]
    rfl
  rw [htail, marker_eq] at hoccurs
  have hlater := infix_of_infix_append (by decide) hoccurs
  exact hvalue (hlater.subset (List.mem_cons_of_mem _ (List.mem_cons_self ..)))

/-- The value behind the last marker decides. -/
theorem verify_append (hlast : ¬marker <:+: (marker ++ value).tail) :
    verify (body ++ marker ++ value) =
      (value? value == some ((checksum body).toNat : Int)) := by
  have hindex : lastIndex? marker (body ++ marker ++ value) = some body.length := by
    rw [lastIndex?, lastIndexFrom_append (by decide) hlast, Nat.zero_add]
  have hbehind : (body ++ marker ++ value).drop (body.length + marker.length) = value := by
    rw [← List.length_append, List.drop_left]
  have hbefore : (body ++ marker ++ value).take body.length = body := by
    rw [List.append_assoc, List.take_left]
  simp only [verify, hindex, hbehind, hbefore]

/-- Bytes give a number exactly if they are a text that is a numeral of it, but for blanks. -/
theorem value?_eq_some_iff {n : Nat} :
    value? bs = some (n : Int) ↔
      ∃ text : String, bs = Bytes.ofString text ∧
        Text.IsHexNumeral (Text.trim text.toList) n ∧ n < 2 ^ 32 := by
  have htrim (text : String) : (Text.trimmed text).toList = Text.trim text.toList :=
    String.toList_ofList
  simp only [value?, Option.bind_eq_some_iff, Bytes.toString?_eq_some_iff,
    Text.read?_hex32_eq_some_iff, htrim, Int.natCast_inj]
  constructor
  · rintro ⟨text, htext, m, hnumeral, hrange, rfl⟩
    exact ⟨text, htext, hnumeral, hrange⟩
  · rintro ⟨text, htext, hnumeral, hrange⟩
    exact ⟨text, htext, n, hnumeral, hrange, rfl⟩

/-- There is no comment sign in a numeral, nor in the blanks around it. -/
theorem hash_notMem_of_isHexNumeral {text : String} {n : Nat}
    (hnumeral : Text.IsHexNumeral (Text.trim text.toList) n) : hash ∉ Bytes.ofString text := by
  rw [Bytes.mem_ofString_iff (by decide)]
  rintro ⟨c, hmem, hvalue⟩
  obtain rfl : c = '#' := Char.toNat_inj.1 hvalue
  exact hnumeral.notMem (by decide) (by decide) (Text.mem_trim_of_mem hmem (by decide))

theorem hash_notMem_caption_append {text : String} {n : Nat}
    (hnumeral : Text.IsHexNumeral (Text.trim text.toList) n) :
    hash ∉ caption ++ Bytes.ofString text := by
  rw [List.mem_append, not_or]
  exact ⟨by decide, hash_notMem_of_isHexNumeral hnumeral⟩

/-- An image is accepted exactly if it is sealed. -/
theorem verify_eq_true_iff : verify image = true ↔ ∃ body, Seals image body := by
  constructor
  · intro hverify
    have hoccurs : marker <:+: image := by
      by_contra habsent
      have hnone : lastIndex? marker image = none :=
        lastIndexFrom_of_not_infix (by decide) habsent none 0
      simp only [verify, hnone, Bool.false_eq_true] at hverify
    obtain ⟨body, value, rfl, hlast⟩ := exists_last_of_infix (by decide) hoccurs
    rw [verify_append hlast, beq_iff_eq] at hverify
    obtain ⟨text, rfl, hnumeral, -⟩ := value?_eq_some_iff.1 hverify
    exact ⟨body, text, rfl, hnumeral⟩
  · rintro ⟨body, text, rfl, hnumeral⟩
    have hlast := not_infix_tail_marker (hash_notMem_of_isHexNumeral hnumeral)
    have hrange : (checksum body).toNat < 2 ^ 32 := (checksum body).toNat_lt
    rw [verify_append hlast, beq_iff_eq]
    exact value?_eq_some_iff.2 ⟨text, rfl, hnumeral, hrange⟩

/-- There is one way to cut a list at the last occurrence of an element. -/
theorem append_cons_inj_of_notMem {b : UInt8} {xs ys us vs : Bytes} (hys : b ∉ ys) (hvs : b ∉ vs)
    (hsame : xs ++ b :: ys = us ++ b :: vs) : xs = us ∧ ys = vs := by
  rcases List.append_eq_append_iff.1 hsame with ⟨between, hus, hcut⟩ | ⟨between, hxs, hcut⟩
  · cases between with
    | nil => exact ⟨by rw [hus, List.append_nil], (List.cons.inj hcut).2⟩
    | cons c more =>
      refine absurd ?_ hys
      rw [(List.cons.inj hcut).2]
      exact List.mem_append_right _ (List.mem_cons_self ..)
  · cases between with
    | nil => exact ⟨by rw [hxs, List.append_nil], (List.cons.inj hcut).2.symm⟩
    | cons c more =>
      refine absurd ?_ hvs
      rw [(List.cons.inj hcut).2]
      exact List.mem_append_right _ (List.mem_cons_self ..)

theorem append_marker_append (body value : Bytes) :
    body ++ marker ++ value = (body ++ [Bytes.newline]) ++ hash :: (caption ++ value) := by
  simp only [marker_eq, List.append_assoc, List.cons_append, List.nil_append]

/-- A body stands in front of the last comment sign, so there is only one. -/
theorem Seals.body_eq {other : Bytes} (hbody : Seals image body) (hother : Seals image other) :
    body = other := by
  obtain ⟨text, rfl, hnumeral⟩ := hbody
  obtain ⟨words, hsame, hwords⟩ := hother
  rw [append_marker_append, append_marker_append] at hsame
  obtain ⟨hfront, -⟩ := append_cons_inj_of_notMem (hash_notMem_caption_append hnumeral)
    (hash_notMem_caption_append hwords) hsame
  exact List.append_cancel_right hfront

/-- The line end behind a numeral is trimmed away, and nothing else. -/
theorem trim_line {cs : List Char} (hcs : ∀ c ∈ cs, Text.isBlank c = false) :
    Text.trim (cs ++ ['\n']) = cs := by
  rw [Text.trim_append_of_isBlank (by decide), Text.trim_eq_self hcs]

/-- A trailer as text. -/
theorem trailer_eq (body : Bytes) :
    trailer body = marker ++
      Bytes.ofString (String.ofList (Nat.toDigits 16 (checksum body).toNat ++ ['\n'])) := by
  rw [String.ofList_append, Bytes.ofString_append, trailer, List.append_assoc]
  rfl

/-- The trailer of a body seals it. -/
theorem seals_trailer (body : Bytes) : Seals (body ++ trailer body) body := by
  have hdigits := Text.isHexNumeral_toDigits (checksum body).toNat
  refine ⟨_, by rw [trailer_eq, List.append_assoc], ?_⟩
  rw [String.toList_ofList, trim_line fun c hc => hdigits.not_isBlank hc]
  exact hdigits

end Seal

namespace GeneratedScript

open Seal

/-- With its last digit changed, a trailer has a digit there that is not the last one of the
    checksum. -/
theorem exists_corruptTrailer_eq (body : Bytes) :
    ∃ before c, Nat.toDigits 16 (checksum body).toNat =
        before ++ [Nat.digitChar ((checksum body).toNat % 16)] ∧
      (c = '0' ∨ c = '1') ∧ ¬Text.IsHexDigit c ((checksum body).toNat % 16) ∧
      corruptTrailer body = marker ++ Bytes.ofString (String.ofList (before ++ [c] ++ ['\n'])) := by
  obtain ⟨before, hdigits⟩ := Text.exists_toDigits_eq (checksum body).toNat
  have hlast : (checksum body).toNat % 16 < 16 := Nat.mod_lt _ (by decide)
  have hchange : ∀ d < 16, let c := if d = 0 then '1' else '0'
      (c = '0' ∨ c = '1') ∧ c.toLower ≠ Nat.digitChar d ∧
        Bytes.ofString (String.ofList [Nat.digitChar d]) = [Bytes.ofAscii (Nat.digitChar d)] ∧
        Bytes.ofString (String.ofList [c]) = [otherDigit (Bytes.ofAscii (Nat.digitChar d))] := by
    decide
  obtain ⟨hc, hother, hdigit, hchanged⟩ := hchange _ hlast
  refine ⟨before, _, hdigits, hc, fun h => hother h.2, ?_⟩
  have hline : (trailer body).dropLast = marker ++ Bytes.ofString (String.ofList before) ++
      [Bytes.ofAscii (Nat.digitChar ((checksum body).toNat % 16))] := by
    rw [trailer, List.dropLast_concat, Text.Quoted.hex, hdigits, String.ofList_append,
      Bytes.ofString_append, hdigit, List.append_assoc]
  rw [corruptTrailer, hline, List.dropLast_concat, List.getLast?_concat, Option.map_some,
    Option.toList_some, String.ofList_append, String.ofList_append, Bytes.ofString_append,
    Bytes.ofString_append, hchanged, List.append_assoc, List.append_assoc, List.append_assoc]
  rfl

/-- A corrupt trailer is never accepted. -/
theorem verify_corruptTrailer (body : Bytes) :
    verify (body ++ corruptTrailer body) = false := by
  obtain ⟨before, c, hdigits, hc, hother, hcorrupt⟩ := exists_corruptTrailer_eq body
  have hprinted := Text.isHexNumeral_toDigits (checksum body).toNat
  rw [hdigits] at hprinted
  have hchars : ∀ x ∈ before ++ [c], Text.isBlank x = false ∧ x ≠ '#' := by
    intro x hx
    rcases List.mem_append.1 hx with hbefore | hlast
    · have hx := List.mem_append_left [Nat.digitChar ((checksum body).toNat % 16)] hbefore
      refine ⟨hprinted.not_isBlank hx, ?_⟩
      rintro rfl
      exact hprinted.notMem (by decide) (by decide) hx
    · rw [List.mem_singleton] at hlast
      subst hlast
      rcases hc with rfl | rfl <;> decide
  have hhash : hash ∉ Bytes.ofString (String.ofList (before ++ [c] ++ ['\n'])) := by
    rw [Bytes.mem_ofString_iff (by decide), String.toList_ofList]
    rintro ⟨x, hx, hvalue⟩
    obtain rfl : x = '#' := Char.toNat_inj.1 hvalue
    rcases List.mem_append.1 hx with hx | hx
    · exact (hchars '#' hx).2 rfl
    · exact absurd (List.mem_singleton.1 hx) (by decide)
  rw [hcorrupt, ← List.append_assoc, verify_append (not_infix_tail_marker hhash),
    beq_eq_false_iff_ne]
  intro hvalue
  obtain ⟨text, htext, hnumeral, -⟩ := value?_eq_some_iff.1 hvalue
  obtain rfl := Bytes.ofString_injective htext
  rw [String.toList_ofList, trim_line fun x hx => (hchars x hx).1] at hnumeral
  exact hother hnumeral.isHexDigit_last

end GeneratedScript

namespace Seal

/-- The seal of an image is checked exactly: an image is accepted if and only if it consists of a
    body, the marker and a text that is a numeral of the checksum of the body, but for blanks. There
    is no more than one such body, even if the marker occurs in it. So every body with its trailer is
    accepted, whatever older trailers are in it, as are sealed scripts, and scripts with a corrupt
    trailer never are. -/
theorem verify_accepts_sealed_images :
    (∀ image, verify image = true ↔ ∃ body, Seals image body) ∧
      (∀ image body other, Seals image body → Seals image other → body = other) ∧
      (∀ body, verify (body ++ trailer body) = true) ∧
      ∀ commands, verify (GeneratedScript.image commands .sealed) = true ∧
        verify (GeneratedScript.image commands .corrupt) = false := by
  have hsealed (body : Bytes) : verify (body ++ trailer body) = true :=
    verify_eq_true_iff.2 ⟨body, seals_trailer body⟩
  refine ⟨fun image => verify_eq_true_iff, fun image body other hbody hother => hbody.body_eq hother,
    hsealed, fun commands => ⟨hsealed _, ?_⟩⟩
  exact GeneratedScript.verify_corruptTrailer _

/-- A script that was sealed before and then added to: the older marker in it does not count. -/
theorem verify_accepts_script_sealed_twice :
    let older := GeneratedScript.image "true" .sealed
    let body := older ++ Bytes.ofString "echo again"
    verify (body ++ trailer body) = true ∧ ¬verify body = true ∧
      ∃! sealed, Seals (body ++ trailer body) sealed := by
  intro older body
  obtain ⟨haccepts, hunique, htrailer, -⟩ := verify_accepts_sealed_images
  refine ⟨htrailer body, by decide +kernel, body, seals_trailer body, fun other hother => ?_⟩
  exact hunique _ other body hother (seals_trailer body)

end Seal

end Overseer
