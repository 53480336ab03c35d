import Mathlib.Data.List.Forall2
import Overseer.Text.Bytes

/-!
Texts of a given form: parts that follow one another, each of characters of its kind. There may be
several ways to divide a text into the parts; each part says whether it prefers to be long or short,
and earlier parts come first.
-/

namespace Overseer.Text

/-- How many characters a part has: one, or any number, with the most or the fewest preferred. -/
inductive Extent
  | one
  | most
  | fewest
  deriving DecidableEq, Repr

/-- A part of a form. -/
structure Part where
  accepts : Char → Bool
  extent : Extent

namespace Part

/-- Whether a text can be what a part is to be. -/
def Takes (part : Part) (text : List Char) : Prop :=
  (∀ c ∈ text, part.accepts c = true) ∧ (part.extent = .one → text.length = 1)

/-- How much of a text a part can take from its front, in order of preference. -/
def lengths (part : Part) (cs : List Char) : List Nat :=
  let run := (cs.takeWhile part.accepts).length
  match part.extent with
  | .one => (List.range (run + 1)).filter (· = 1)
  | .most => (List.range (run + 1)).reverse
  | .fewest => List.range (run + 1)

end Part

/-- A text as it is divided into the parts of a form, all of it. -/
def divide? : List Part → List Char → Option (List (List Char))
  | [], cs => if cs = [] then some [] else none
  | part :: more, cs =>
    (part.lengths cs).findSome? fun n => (divide? more (cs.drop n)).map (cs.take n :: ·)

namespace Part

variable {part : Part} {cs : List Char} {n : Nat}

theorem le_length_takeWhile_iff {p : Char → Bool} :
    n ≤ (cs.takeWhile p).length ↔ n ≤ cs.length ∧ ∀ c ∈ cs.take n, p c = true := by
  induction cs generalizing n with
  | nil => simp
  | cons c rest ih =>
    cases n with
    | zero => simp
    | succ n =>
      by_cases hc : p c = true
      · simp [hc, ih]
      · simp [hc]

/-- A part can take from the front what it can be. -/
theorem mem_lengths_iff : n ∈ part.lengths cs ↔ n ≤ cs.length ∧ part.Takes (cs.take n) := by
  have hrun : n ≤ (cs.takeWhile part.accepts).length ↔
      n ≤ cs.length ∧ ∀ c ∈ cs.take n, part.accepts c = true := le_length_takeWhile_iff
  unfold lengths Takes
  cases part.extent with
  | one =>
    have hone : n ≤ cs.length → ((cs.take n).length = 1 ↔ n = 1) := by
      intro hn
      rw [List.length_take, Nat.min_eq_left hn]
    simp only [List.mem_filter, List.mem_range, Nat.lt_succ_iff, hrun, decide_eq_true_eq,
      forall_const, and_assoc]
    exact and_congr_right fun hn => and_congr_right fun _ => (hone hn).symm
  | most =>
    rw [List.mem_reverse, List.mem_range, Nat.lt_succ_iff, hrun]
    simp
  | fewest =>
    rw [List.mem_range, Nat.lt_succ_iff, hrun]
    simp

end Part

variable {part : Part} {more : List Part} {cs : List Char} {texts : List (List Char)}

theorem divide?_cons_eq_some_iff :
    divide? (part :: more) cs = some texts ↔ ∃ before n after rest,
      part.lengths cs = before ++ n :: after ∧ divide? more (cs.drop n) = some rest ∧
        texts = cs.take n :: rest ∧ ∀ m ∈ before, divide? more (cs.drop m) = none := by
  rw [divide?, List.findSome?_eq_some_iff]
  simp only [Option.map_eq_some_iff, Option.map_eq_none_iff]
  constructor
  · rintro ⟨before, n, after, hlengths, ⟨rest, hrest, rfl⟩, hearlier⟩
    exact ⟨before, n, after, rest, hlengths, hrest, rfl, hearlier⟩
  · rintro ⟨before, n, after, rest, hlengths, hrest, rfl, hearlier⟩
    exact ⟨before, n, after, hlengths, ⟨rest, hrest, rfl⟩, hearlier⟩

/-- What a text is divided into is the text, and each piece is what its part takes. -/
theorem of_divide? {parts : List Part} (h : divide? parts cs = some texts) :
    texts.flatten = cs ∧ List.Forall₂ Part.Takes parts texts := by
  induction parts generalizing cs texts with
  | nil =>
    rw [divide?] at h
    split at h
    · next hempty =>
      cases h
      exact ⟨hempty.symm, .nil⟩
    · cases h
  | cons part more ih =>
    obtain ⟨before, n, after, rest, hlengths, hrest, rfl, -⟩ := divide?_cons_eq_some_iff.1 h
    obtain ⟨hflatten, htakes⟩ := ih hrest
    have hn : n ∈ part.lengths cs := by
      rw [hlengths]
      exact List.mem_append_right _ (List.mem_cons_self ..)
    refine ⟨?_, .cons (Part.mem_lengths_iff.1 hn).2 htakes⟩
    rw [List.flatten_cons, hflatten, List.take_append_drop]

/-- Behind the first part, the rest is divided into the rest. -/
theorem divide?_flatten_of_cons {text : List Char}
    (h : divide? (part :: more) cs = some (text :: texts)) :
    divide? more texts.flatten = some texts := by
  obtain ⟨-, n, -, rest, -, hrest, htexts, -⟩ := divide?_cons_eq_some_iff.1 h
  obtain ⟨-, rfl⟩ := List.cons.inj htexts
  rw [(of_divide? hrest).1, hrest]

/-- A text that can be divided is divided. -/
theorem exists_divide?_flatten {parts : List Part} (h : List.Forall₂ Part.Takes parts texts) :
    ∃ found, divide? parts texts.flatten = some found := by
  rw [← Option.isSome_iff_exists]
  induction h with
  | nil => rfl
  | @cons part text more rest htakes _ ih =>
    rw [divide?, List.findSome?_isSome_iff]
    refine ⟨text.length, Part.mem_lengths_iff.2 ?_, ?_⟩
    · rw [List.flatten_cons, List.take_left, List.length_append]
      exact ⟨Nat.le_add_right _ _, htakes⟩
    · rw [List.flatten_cons, List.drop_left, Option.isSome_map]
      exact ih

/-- A part that prefers to be short takes no more than the later parts need it to. -/
theorem divide?_eq_none_of_fewest {text : List Char} (hextent : part.extent = .fewest)
    (h : divide? (part :: more) cs = some (text :: texts)) {n : Nat} (hn : n < text.length) :
    divide? more (cs.drop n) = none := by
  obtain ⟨before, m, after, rest, hlengths, -, htext, hearlier⟩ := divide?_cons_eq_some_iff.1 h
  obtain ⟨rfl, rfl⟩ := List.cons.inj htext
  have hnm : n < m := Nat.lt_of_lt_of_le hn (List.length_take_le m cs)
  have hrange : part.lengths cs = List.range ((cs.takeWhile part.accepts).length + 1) := by
    rw [Part.lengths, hextent]
  rw [hrange] at hlengths
  have hm : m ∈ List.range ((cs.takeWhile part.accepts).length + 1) := by
    rw [hlengths]
    exact List.mem_append_right _ (List.mem_cons_self ..)
  have hmem : n ∈ before ++ m :: after := by
    rw [← hlengths, List.mem_range]
    exact Nat.lt_trans hnm (List.mem_range.1 hm)
  have hascending : (before ++ m :: after).Pairwise (· < ·) := hlengths ▸ List.pairwise_lt_range
  refine hearlier n ((List.mem_append.1 hmem).resolve_right fun hlater => ?_)
  obtain ⟨-, hfrom, -⟩ := List.pairwise_append.1 hascending
  rcases List.mem_cons.1 hlater with rfl | hafter
  · exact Nat.lt_irrefl _ hnm
  · exact Nat.lt_asymm hnm ((List.pairwise_cons.1 hfrom).1 n hafter)

end Overseer.Text
