import Overseer.Text.Utf8

/-!
Texts as bytes: characters are written one after the other, what is read back is what was written,
and bytes compare as the texts that they stand for.
-/

namespace Overseer.Bytes

/-- A text is written character by character. -/
theorem ofString_eq_flatMap (s : String) :
    ofString s = s.toList.flatMap String.utf8EncodeChar := by
  rw [ofString, ← String.utf8Encode_toList, List.utf8Encode, List.toList_data_toByteArray]

theorem ofString_ofList (cs : List Char) :
    ofString (String.ofList cs) = cs.flatMap String.utf8EncodeChar := by
  rw [ofString_eq_flatMap, String.toList_ofList]

@[simp] theorem ofString_append (s t : String) :
    ofString (s ++ t) = ofString s ++ ofString t := by
  rw [ofString_eq_flatMap, ofString_eq_flatMap, ofString_eq_flatMap, String.toList_append,
    List.flatMap_append]

/-- Bytes are read as the text that they were written from, and as no other. -/
theorem toString?_eq_some_iff {bs : Bytes} {s : String} :
    toString? bs = some s ↔ bs = ofString s := by
  unfold toString? String.fromUTF8? ofString
  constructor
  · intro hread
    split at hread
    · cases hread
      rfl
    · cases hread
  · rintro rfl
    rw [dif_pos s.isValidUTF8]
    rfl

@[simp] theorem toString?_ofString (s : String) : toString? (ofString s) = some s :=
  toString?_eq_some_iff.2 rfl

/-- Text is shown as it is. -/
@[simp] theorem readLossily_ofString (s : String) : Text.Utf8.readLossily (ofString s) = s := by
  rw [Text.Utf8.readLossily, toString?_ofString]

theorem ofString_injective {s t : String} (h : ofString s = ofString t) : s = t := by
  rw [← toString?_eq_some_iff, toString?_ofString] at h
  exact Option.some.inj h

/-- The bytes of one text start with those of another only if the text starts with the other. -/
theorem isPrefix_of_ofString_append {s t : String} {rest : Bytes}
    (h : ofString s ++ rest = ofString t) : s.toList <+: t.toList := by
  apply List.isPrefix_of_utf8Encode_append_eq_utf8Encode rest.toByteArray
  apply ByteArray.ext
  apply Array.toList_inj.1
  rw [String.utf8Encode_toList, String.utf8Encode_toList, ByteArray.data_append,
    Array.toList_append, List.toList_data_toByteArray]
  exact h

/-- Bytes below the first multi-byte range stand for characters of their own. -/
theorem mem_utf8EncodeChar_iff {b : UInt8} (hb : b.toNat < 128) {c : Char} :
    b ∈ String.utf8EncodeChar c ↔ c.toNat = b.toNat := by
  have hvalue : c.toNat = c.val.toNat := rfl
  have hbound : c.val.toNat < 0x110000 := by
    rcases c.valid with h | h <;> omega
  unfold String.utf8EncodeChar
  simp only [hvalue]
  split
  · simp only [List.mem_singleton, ← UInt8.toNat_inj, UInt8.toNat_ofNat']
    omega
  · split
    · simp only [List.mem_cons, List.not_mem_nil, or_false, ← UInt8.toNat_inj,
          UInt8.toNat_ofNat']
      omega
    · split
      · simp only [List.mem_cons, List.not_mem_nil, or_false, ← UInt8.toNat_inj,
          UInt8.toNat_ofNat']
        omega
      · simp only [List.mem_cons, List.not_mem_nil, or_false, ← UInt8.toNat_inj,
          UInt8.toNat_ofNat']
        omega

/-- Characters are written so that the bytes of a greater one are greater. -/
theorem utf8EncodeChar_lt_utf8EncodeChar {c d : Char} (h : c < d) :
    String.utf8EncodeChar c < String.utf8EncodeChar d := by
  have hlt : c.val.toNat < d.val.toNat := h
  have hbound : d.val.toNat < 0x110000 := by
    rcases d.valid with h | h <;> omega
  unfold String.utf8EncodeChar
  dsimp only
  generalize c.val.toNat = m at hlt
  generalize d.val.toNat = n at hlt hbound
  have hthird (k : Nat) : k / 64 / 64 = k / 4096 := Nat.div_div_eq_div_mul k 64 64
  have hfourth (k : Nat) : k / 4096 / 64 = k / 262144 := Nat.div_div_eq_div_mul k 4096 64
  have := hthird m
  have := hthird n
  have := hfourth m
  have := hfourth n
  repeat' split
  all_goals
    simp only [List.cons_lt_cons_iff, List.nil_lt_cons, UInt8.lt_iff_toNat_lt, ← UInt8.toNat_inj,
      UInt8.toNat_ofNat', List.not_lt_nil, and_false, or_false]
    simp (disch := omega) only [Nat.mod_eq_of_lt]
    omega

/-- The bytes of one character do not start with those of another. -/
theorem not_isPrefix_utf8EncodeChar {c d : Char} (h : c ≠ d) :
    ¬String.utf8EncodeChar c <+: String.utf8EncodeChar d := by
  rintro ⟨rest, hrest⟩
  have hwhole : ofString (String.ofList [c]) ++ rest = ofString (String.ofList [d]) := by
    rw [ofString_ofList, ofString_ofList, List.flatMap_singleton, List.flatMap_singleton]
    exact hrest
  have hstart := isPrefix_of_ofString_append hwhole
  rw [String.toList_ofList, String.toList_ofList] at hstart
  exact h (List.cons.inj (hstart.eq_of_length rfl)).1

private theorem append_lt_append {xs ys : Bytes} (hlt : xs < ys) (hstart : ¬xs <+: ys)
    (us vs : Bytes) : xs ++ us < ys ++ vs := by
  induction hlt with
  | nil => exact absurd List.nil_prefix hstart
  | rel hxy => exact .rel hxy
  | cons _ ih =>
    refine .cons (ih fun h => hstart ?_)
    exact List.cons_prefix_cons.2 ⟨rfl, h⟩

/-- Texts in ascending order are in ascending order as bytes. -/
theorem ofString_lt_ofString {s t : String} (h : s < t) : ofString s < ofString t := by
  have hchars : s.toList < t.toList := h
  rw [ofString_eq_flatMap, ofString_eq_flatMap]
  generalize s.toList = cs at hchars
  generalize t.toList = ds at hchars
  induction hchars with
  | @nil d ds =>
    obtain ⟨b, more, hbytes⟩ :=
      List.exists_cons_of_ne_nil (String.utf8EncodeChar_ne_nil (c := d))
    rw [List.flatMap_cons, hbytes]
    exact .nil
  | rel hcd =>
    rw [List.flatMap_cons, List.flatMap_cons]
    exact append_lt_append (utf8EncodeChar_lt_utf8EncodeChar hcd)
      (not_isPrefix_utf8EncodeChar (Char.ne_of_lt hcd)) _ _
  | cons _ ih =>
    rw [List.flatMap_cons, List.flatMap_cons]
    exact List.append_left_lt ih

end Overseer.Bytes
