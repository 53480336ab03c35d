import Overseer.Proofs.Text.Form
import Overseer.Proofs.Text.Lines
import Overseer.Settings.Source

/-!
Lines of a settings file, read in two ways: by the first equals sign, and by the form of a setting,
whose key is as short as the rest of the form allows. Both read the same.
-/

namespace Overseer.Settings.Source

open Text

variable {line : List Char} {k v : String}

/-- A line that sets a key: behind the blanks in front of its first equals sign there is something,
    and it is no comment. -/
def Sets (line : List Char) (k v : String) : Prop :=
  ∃ before value, line = before ++ '=' :: value ∧ '=' ∉ before ∧ trim before ≠ [] ∧
    (trim before).head? ≠ some '#' ∧
    k = Lowercase.ofString (String.ofList (trim before)) ∧ v = String.ofList value

theorem setting?_eq_some_iff : setting? line = some (k, v) ↔ Sets line k v := by
  unfold setting? Sets
  constructor
  · intro hread
    split at hread
    · cases hread
    · next before value hcut =>
      obtain ⟨hline, hbefore⟩ := cutFirst?_eq_some_iff.1 hcut
      dsimp only at hread
      split at hread
      · cases hread
      · next hkey =>
        rw [not_or] at hkey
        obtain ⟨rfl, rfl⟩ := Prod.mk.inj (Option.some.inj hread)
        exact ⟨before, value, hline, hbefore, hkey.1, hkey.2, rfl, rfl⟩
  · rintro ⟨before, value, hline, hbefore, hkey, hcomment, rfl, rfl⟩
    rw [cutFirst?_eq_some_iff.2 ⟨hline, hbefore⟩]
    exact if_neg (not_or.2 ⟨hkey, hcomment⟩)

/-- Lines that set nothing are passed over. -/
theorem setting?_eq_none_iff : setting? line = none ↔ ∀ k v, ¬Sets line k v := by
  simp only [← setting?_eq_some_iff, Option.eq_none_iff_forall_ne_some, Prod.forall]

/-- A line sets one key, to one value. -/
theorem Sets.unique {k' v' : String} (h : Sets line k v) (h' : Sets line k' v') :
    k = k' ∧ v = v' := by
  rw [← setting?_eq_some_iff] at h h'
  exact Prod.mk.inj (Option.some.inj (h.symm.trans h'))

/-- The form of a line that sets a key: the first character of the key, and as few more as possible,
    stand between blanks, and everything behind the equals sign is the value. -/
def form : List Part :=
  [⟨isBlank, .most⟩, ⟨fun c => decide (c ≠ '#' ∧ c ≠ '=') && !isBlank c, .one⟩,
    ⟨fun c => decide (c ≠ '='), .fewest⟩, ⟨isBlank, .most⟩, ⟨fun c => decide (c = '='), .one⟩,
    ⟨fun c => decide (c ≠ '\n'), .most⟩]

/-- Reads a line by its form, unless it is blank or a comment. -/
def byForm? (line : List Char) : Option (String × String) :=
  if trim line = [] ∨ (trimStart line).head? = some '#' then none
  else
    match divide? form line with
    | some [_, first, more, _, _, value] =>
      some (Lowercase.ofString (String.ofList (first ++ more)), String.ofList value)
    | _ => none

/-- A key, its first character first, between blanks. -/
structure IsKey (front : List Char) (c : Char) (rest back : List Char) : Prop where
  front : ∀ d ∈ front, isBlank d = true
  back : ∀ d ∈ back, isBlank d = true
  noComment : c ≠ '#'
  noSign : '=' ∉ c :: rest
  first : isBlank c = false
  last : ∀ d ∈ rest.getLast?, isBlank d = false

namespace IsKey

variable {front rest back : List Char} {c : Char}

/-- A key is what is left between the blanks. -/
theorem trim_eq (hkey : IsKey front c rest back) :
    trim (front ++ (c :: rest) ++ back) = c :: rest := by
  rw [trim_append_append hkey.front hkey.back]
  refine trim_eq_self_of_ends (fun d hd => ?_) fun d hd => ?_
  · obtain rfl := Option.some.inj hd
    exact hkey.first
  · rw [List.getLast?_cons] at hd
    cases hlast : rest.getLast? with
    | none =>
      rw [hlast] at hd
      obtain rfl := Option.some.inj hd
      exact hkey.first
    | some e =>
      rw [hlast] at hd
      obtain rfl := Option.some.inj hd
      exact hkey.last _ hlast

/-- With an equals sign behind it, a key is set. -/
theorem sets (hkey : IsKey front c rest back) (value : List Char) :
    Sets (front ++ (c :: rest) ++ back ++ '=' :: value)
      (Lowercase.ofString (String.ofList (c :: rest))) (String.ofList value) := by
  have hblank (cs : List Char) (hcs : ∀ d ∈ cs, isBlank d = true) : '=' ∉ cs :=
    fun hmem => absurd (hcs '=' hmem) (by decide)
  have hbefore : '=' ∉ front ++ (c :: rest) ++ back := by
    rw [List.mem_append, List.mem_append, not_or, not_or]
    exact ⟨⟨hblank front hkey.front, hkey.noSign⟩, hblank back hkey.back⟩
  refine ⟨front ++ (c :: rest) ++ back, value, rfl, hbefore, ?_⟩
  rw [hkey.trim_eq]
  simp [hkey.noComment]

/-- A line with a key is neither blank nor a comment. -/
theorem not_isPassedOver (hkey : IsKey front c rest back) (after : List Char) :
    ¬(trim (front ++ (c :: rest) ++ back ++ after) = [] ∨
      (trimStart (front ++ (c :: rest) ++ back ++ after)).head? = some '#') := by
  have hkept : trim (front ++ (c :: rest) ++ back ++ after) ≠ [] :=
    List.ne_nil_of_mem (mem_trim_of_mem (c := c) (by simp) hkey.first)
  have hstart : trimStart (front ++ (c :: rest) ++ back ++ after) =
      c :: (rest ++ back ++ after) := by
    rw [List.append_assoc, List.append_assoc, trimStart, List.dropWhile_append_of_pos hkey.front,
      List.cons_append, List.dropWhile_cons_of_neg (by simp [hkey.first]), List.append_assoc]
  rw [hstart, not_or]
  exact ⟨hkept, fun hcomment => hkey.noComment (Option.some.inj hcomment)⟩

end IsKey

/-- A key does not end in a blank, since it could be shorter then. -/
theorem isBlank_last_of_divide?_form {front first rest back sign value : List Char}
    (h : divide? form line = some [front, first, rest, back, sign, value]) :
    ∀ d ∈ rest.getLast?, isBlank d = false := by
  have htakes := (of_divide? h).2
  simp only [form, List.forall₂_cons] at htakes
  obtain ⟨-, -, -, ⟨hback, -⟩, hsign, hvalue, -⟩ := htakes
  intro d hd
  by_contra hblank
  rw [Bool.not_eq_false] at hblank
  obtain ⟨shorter, rfl⟩ := List.getLast?_eq_some_iff.1 hd
  have hkey := divide?_flatten_of_cons (divide?_flatten_of_cons h)
  have hnone := divide?_eq_none_of_fewest rfl hkey (n := shorter.length) (by simp)
  have hlonger : List.Forall₂ Part.Takes _ [d :: back, sign, value] :=
    .cons ⟨List.forall_mem_cons.2 ⟨hblank, hback⟩, by simp⟩ (.cons hsign (.cons hvalue .nil))
  obtain ⟨found, hfound⟩ := exists_divide?_flatten hlonger
  have hdrop : [shorter ++ [d], back, sign, value].flatten.drop shorter.length =
      [d :: back, sign, value].flatten := by simp
  rw [hdrop, hfound] at hnone
  cases hnone

/-- What a line of this form is divided into: a key between blanks, the equals sign, and a value. -/
theorem exists_of_divide?_form {texts : List (List Char)} (h : divide? form line = some texts) :
    ∃ front c rest back value, texts = [front, [c], rest, back, ['='], value] ∧
      line = front ++ (c :: rest) ++ back ++ '=' :: value ∧ IsKey front c rest back := by
  obtain ⟨hline, htakes⟩ := of_divide? h
  simp only [form, List.forall₂_cons_left_iff, List.forall₂_nil_left_iff] at htakes
  obtain ⟨front, _, ⟨hfront, -⟩, ⟨first, _, ⟨hfirst, hone⟩, ⟨rest, _, ⟨hrest, -⟩, ⟨back, _,
    ⟨hback, -⟩, ⟨sign, _, ⟨hsign, hsingle⟩, ⟨value, _, -, rfl, rfl⟩, rfl⟩, rfl⟩, rfl⟩,
    rfl⟩, rfl⟩ := htakes
  obtain ⟨c, rfl⟩ := List.length_eq_one_iff.1 (hone rfl)
  obtain ⟨e, rfl⟩ := List.length_eq_one_iff.1 (hsingle rfl)
  obtain rfl : e = '=' := of_decide_eq_true (hsign e (List.mem_singleton_self e))
  have hc := hfirst c (List.mem_singleton_self c)
  simp only [Bool.and_eq_true, decide_eq_true_eq, Bool.not_eq_true'] at hc
  have hsigns : '=' ∉ c :: rest := by
    intro hmem
    rcases List.mem_cons.1 hmem with hsame | hmem
    · exact hc.1.2 hsame.symm
    · have hother : decide ('=' ≠ '=') = true := hrest '=' hmem
      exact of_decide_eq_true hother rfl
  refine ⟨front, c, rest, back, value, rfl, ?_, hfront, hback, hc.1.1, hsigns, hc.2,
    isBlank_last_of_divide?_form h⟩
  rw [← hline]
  simp

/-- A line that sets a key is of the form. -/
theorem exists_divide?_form (hline : '\n' ∉ line) (hsets : Sets line k v) :
    ∃ texts, divide? form line = some texts := by
  obtain ⟨before, value, rfl, hbefore, hkey, hcomment, -, -⟩ := hsets
  obtain ⟨front, back, hsplit, hfront, hback⟩ := exists_append_trim before
  obtain ⟨c, rest, htrim⟩ := List.exists_cons_of_ne_nil hkey
  rw [htrim] at hsplit hcomment
  have hhead : c ∈ (trim before).head? := by rw [htrim]; rfl
  have hc : isBlank c = false := isBlank_of_mem_head?_trim hhead
  have hequals : ∀ d ∈ c :: rest, d ≠ '=' := by
    rintro d hd rfl
    refine hbefore ?_
    rw [hsplit]
    exact List.mem_append_left _ (List.mem_append_right _ hd)
  rw [List.forall_mem_cons] at hequals
  have hnewline : ∀ d ∈ value, d ≠ '\n' := by
    rintro d hd rfl
    exact hline (List.mem_append_right _ (List.mem_cons_of_mem _ hd))
  have hhash : c ≠ '#' := fun hsame => hcomment (by rw [hsame]; rfl)
  have htakes : List.Forall₂ Part.Takes form [front, [c], rest, back, ['='], value] := by
    refine .cons ⟨hfront, by simp⟩ (.cons ⟨?_, by simp⟩ (.cons ⟨?_, by simp⟩
      (.cons ⟨hback, by simp⟩ (.cons ⟨by simp, by simp⟩ (.cons ⟨?_, by simp⟩ .nil)))))
    · simp [hhash, hequals.1, hc]
    · simpa using hequals.2
    · simpa using hnewline
  obtain ⟨texts, htexts⟩ := exists_divide?_flatten htakes
  refine ⟨texts, ?_⟩
  rw [← htexts, hsplit]
  simp

/-- Both ways to read a line agree. -/
theorem byForm?_eq (hline : '\n' ∉ line) : byForm? line = setting? line := by
  cases hdivide : divide? form line with
  | none =>
    have hnone : setting? line = none := by
      rw [Option.eq_none_iff_forall_ne_some]
      rintro ⟨k, v⟩ hread
      obtain ⟨texts, htexts⟩ := exists_divide?_form hline (setting?_eq_some_iff.1 hread)
      rw [hdivide] at htexts
      cases htexts
    rw [hnone, byForm?, hdivide, ite_self]
  | some texts =>
    obtain ⟨front, c, rest, back, value, rfl, rfl, hkey⟩ := exists_of_divide?_form hdivide
    rw [setting?_eq_some_iff.2 (hkey.sets value), byForm?, if_neg (hkey.not_isPassedOver _),
      hdivide]
    rfl

example : byForm? " Name \t=a = b".toList = some ("name", "a = b") := by decide +kernel

end Overseer.Settings.Source
