import Mathlib.Data.List.DropRight
import Overseer.Proofs.Text.Encoding
import Overseer.Text.Blank
import Overseer.Text.Lines

/-!
Lines and blanks: the lines of content that is written piece by piece, and trimming.
-/

namespace Overseer

namespace Text

/-- A blank character behind is trimmed away. -/
theorem trim_append_of_isBlank {c : Char} (hc : isBlank c = true) (cs : List Char) :
    trim (cs ++ [c]) = trim cs := by
  unfold trim trimStart trimEnd
  rw [List.dropWhile_append]
  split
  · next hempty =>
    rw [List.isEmpty_iff.1 hempty]
    simp [hc]
  · rw [List.reverse_append, List.reverse_singleton, List.singleton_append,
      List.dropWhile_cons_of_pos hc]

theorem trimEnd_eq_rdropWhile (cs : List Char) : trimEnd cs = cs.rdropWhile isBlank := rfl

theorem trim_sublist (cs : List Char) : (trim cs).Sublist cs := by
  rw [trim, trimEnd_eq_rdropWhile]
  exact (List.rdropWhile_prefix _ _).sublist.trans (List.dropWhile_sublist _)

theorem length_trim_le (cs : List Char) : (trim cs).length ≤ cs.length :=
  (trim_sublist cs).length_le

/-- Trimmed characters begin with one that is not blank. -/
theorem isBlank_of_mem_head?_trim {c : Char} {cs : List Char} (hc : c ∈ (trim cs).head?) :
    isBlank c = false := by
  obtain ⟨blanks, hblanks⟩ := List.rdropWhile_prefix isBlank (trimStart cs)
  cases htrim : trim cs with
  | nil =>
    rw [htrim] at hc
    cases hc
  | cons d rest =>
    rw [htrim] at hc
    obtain rfl := Option.some.inj hc
    rw [trim, trimEnd_eq_rdropWhile] at htrim
    have hkept : cs.dropWhile isBlank = d :: (rest ++ blanks) := by
      rw [← List.cons_append, ← htrim]
      exact hblanks.symm
    have hfirst := List.head?_dropWhile_not isBlank cs
    rw [hkept] at hfirst
    simpa using hfirst

/-- Characters with no blank at either end are left as they are. -/
theorem trim_eq_self_of_ends {cs : List Char} (hfirst : ∀ c ∈ cs.head?, isBlank c = false)
    (hlast : ∀ c ∈ cs.getLast?, isBlank c = false) : trim cs = cs := by
  have hstart : trimStart cs = cs := by
    cases cs with
    | nil => rfl
    | cons c rest => exact List.dropWhile_cons_of_neg (by simp [hfirst c rfl])
  rw [trim, hstart, trimEnd_eq_rdropWhile, List.rdropWhile_eq_self_iff]
  intro hne
  simp [hlast _ (List.getLast?_eq_some_getLast hne)]

/-- Trimmed characters have no blanks left at their ends. -/
theorem trim_trim (cs : List Char) : trim (trim cs) = trim cs := by
  have hstart : trimStart (trim cs) = trim cs := by
    cases htrim : trim cs with
    | nil => rfl
    | cons c rest =>
      have hhead : c ∈ (trim cs).head? := by rw [htrim]; rfl
      have hc : isBlank c = false := isBlank_of_mem_head?_trim hhead
      exact List.dropWhile_cons_of_neg (by simp [hc])
  rw [trim, hstart, trim, trimEnd_eq_rdropWhile, trimEnd_eq_rdropWhile,
    List.rdropWhile_idempotent]

/-- Only blanks are trimmed away. -/
theorem exists_append_trim (cs : List Char) : ∃ front back, cs = front ++ trim cs ++ back ∧
    (∀ c ∈ front, isBlank c = true) ∧ ∀ c ∈ back, isBlank c = true := by
  refine ⟨cs.takeWhile isBlank, (trimStart cs).rtakeWhile isBlank, ?_,
    fun c hc => List.mem_takeWhile_imp hc, fun c hc => List.mem_rtakeWhile_imp hc⟩
  rw [List.append_assoc, trim, trimEnd_eq_rdropWhile, List.rdropWhile_append_rtakeWhile, trimStart,
    List.takeWhile_append_dropWhile]

/-- Blanks around characters are trimmed away. -/
theorem trim_append_append {front back : List Char} (hfront : ∀ c ∈ front, isBlank c = true)
    (hback : ∀ c ∈ back, isBlank c = true) (cs : List Char) :
    trim (front ++ cs ++ back) = trim cs := by
  have hbehind : trim (cs ++ back) = trim cs := by
    induction back using List.reverseRecOn with
    | nil => rw [List.append_nil]
    | append_singleton back c ih =>
      rw [← List.append_assoc, trim_append_of_isBlank (hback c (by simp)),
        ih fun d hd => hback d (List.mem_append_left _ hd)]
  rw [← hbehind, List.append_assoc, trim, trimStart, List.dropWhile_append_of_pos hfront]
  rfl

/-- What is not blank is not trimmed away. -/
theorem mem_trim_of_mem {c : Char} {cs : List Char} (hmem : c ∈ cs) (hc : isBlank c = false) :
    c ∈ trim cs := by
  have hkept (xs : List Char) (hx : c ∈ xs) : c ∈ xs.dropWhile isBlank := by
    rw [← List.takeWhile_append_dropWhile (p := isBlank) (l := xs), List.mem_append] at hx
    refine hx.resolve_left fun hblank => ?_
    rw [List.mem_takeWhile_imp hblank] at hc
    cases hc
  rw [trim, trimEnd, List.mem_reverse]
  exact hkept _ (List.mem_reverse.2 (hkept cs hmem))

/-- Without blanks there is nothing to trim. -/
theorem trim_eq_self {cs : List Char} (hcs : ∀ c ∈ cs, isBlank c = false) : trim cs = cs :=
  trim_eq_self_of_ends (fun c hc => hcs c (List.mem_of_mem_head? hc))
    fun c hc => hcs c (List.mem_of_mem_getLast? hc)

variable {α : Type} [DecidableEq α]

/-- The pieces hold nothing new. -/
theorem mem_of_mem_cut {sep x : α} {xs piece : List α} (hpiece : piece ∈ cut sep xs)
    (hx : x ∈ piece) : x ∈ xs := by
  obtain ⟨first, more, hcut⟩ := List.exists_cons_of_ne_nil (cut_ne_nil sep xs)
  have hjoin := join_cut sep xs
  rw [hcut] at hpiece hjoin
  rw [← hjoin, join, List.mem_append, List.mem_flatMap]
  rcases List.mem_cons.1 hpiece with rfl | hmore
  · exact .inl hx
  · exact .inr ⟨piece, hmore, List.mem_append_right _ hx⟩

/-- A separator between two lists cuts them apart. -/
theorem cut_append_sep (sep : α) (xs rest : List α) :
    cut sep (xs ++ sep :: rest) = cut sep xs ++ cut sep rest := by
  induction xs with
  | nil => rw [List.nil_append, cut_cons_self, cut_nil, List.singleton_append]
  | cons x more ih =>
    rw [List.cons_append]
    by_cases hx : x = sep
    · subst hx
      rw [cut_cons_self, cut_cons_self, ih, List.cons_append]
    · obtain ⟨piece, others, hcut⟩ := List.exists_cons_of_ne_nil (cut_ne_nil sep more)
      rw [hcut, List.cons_append] at ih
      rw [cut_cons_of_ne hx ih, cut_cons_of_ne hx hcut, List.cons_append]

/-- A character other than the separator joins the last piece. -/
theorem exists_cut_concat {sep x : α} (hne : x ≠ sep) (xs : List α) :
    ∃ earlier last, cut sep xs = earlier ++ [last] ∧
      cut sep (xs ++ [x]) = earlier ++ [last ++ [x]] := by
  induction xs with
  | nil => exact ⟨[], [], rfl, cut_cons_of_ne hne rfl⟩
  | cons y rest ih =>
    obtain ⟨earlier, last, hcut, hconcat⟩ := ih
    rw [List.cons_append]
    by_cases hy : y = sep
    · subst hy
      refine ⟨[] :: earlier, last, ?_, ?_⟩
      · rw [cut_cons_self, hcut, List.cons_append]
      · rw [cut_cons_self, hconcat, List.cons_append]
    · cases earlier with
      | nil => exact ⟨[], y :: last, cut_cons_of_ne hy hcut, cut_cons_of_ne hy hconcat⟩
      | cons first more =>
        exact ⟨(y :: first) :: more, last, cut_cons_of_ne hy hcut, cut_cons_of_ne hy hconcat⟩

/-- What is split at a separator is split where it comes first. -/
theorem cutFirst?_eq_some_iff {sep : α} {xs before after : List α} :
    cutFirst? sep xs = some (before, after) ↔ xs = before ++ sep :: after ∧ sep ∉ before := by
  unfold cutFirst?
  constructor
  · intro hcut
    split at hcut
    · cases hcut
    · next first rest hrest =>
      obtain ⟨rfl, rfl⟩ := Prod.mk.inj (Option.some.inj hcut)
      have hfirst := List.head?_dropWhile_not (· ≠ sep) xs
      rw [hrest] at hfirst
      have hsep : first = sep := by simpa using hfirst
      refine ⟨?_, fun hmem => ?_⟩
      · rw [← hsep, ← hrest, hsep, List.takeWhile_append_dropWhile]
      · simpa using List.mem_takeWhile_imp hmem
  · rintro ⟨rfl, hsep⟩
    have hbefore : ∀ x ∈ before, decide (x ≠ sep) = true := by
      intro x hx
      simpa using fun hsame : x = sep => hsep (hsame ▸ hx)
    rw [List.dropWhile_append_of_pos hbefore, List.takeWhile_append_of_pos hbefore,
      List.dropWhile_cons_of_neg (by simp), List.takeWhile_cons_of_neg (by simp), List.append_nil]

/-- Trimmed pieces do not show whether a carriage return was dropped at the end. -/
theorem map_trim_cut_dropReturn (sep : Char) (hsep : sep ≠ '\r') (cs : List Char) :
    (cut sep (dropReturn cs)).map trim = (cut sep cs).map trim := by
  unfold dropReturn
  split
  · next hlast =>
    obtain ⟨kept, rfl⟩ := List.getLast?_eq_some_iff.1 hlast
    obtain ⟨earlier, last, hcut, hconcat⟩ := exists_cut_concat (Ne.symm hsep) kept
    rw [List.dropLast_concat, hcut, hconcat, List.map_append, List.map_append, List.map_singleton,
      List.map_singleton, trim_append_of_isBlank (by decide)]
  · rfl

/-- A line with its end comes off the front. -/
theorem lines_append_newline {line : List Char} (hline : '\n' ∉ line) (rest : List Char) :
    lines (line ++ '\n' :: rest) = dropReturn line :: lines rest := by
  obtain ⟨piece, more, hcut⟩ := List.exists_cons_of_ne_nil (cut_ne_nil '\n' rest)
  rw [lines, cut_append_cons hline, lines, hcut]
  rfl

theorem mem_of_mem_dropReturn {c : Char} {line : List Char} (hc : c ∈ dropReturn line) :
    c ∈ line := by
  unfold dropReturn at hc
  split at hc
  · exact (List.dropLast_sublist line).subset hc
  · exact hc

theorem newline_notMem_of_mem_lines {cs line : List Char} (hline : line ∈ lines cs) :
    '\n' ∉ line := by
  unfold lines at hline
  rcases List.mem_append.1 hline with hended | hlast
  · obtain ⟨piece, hpiece, rfl⟩ := List.mem_map.1 hended
    have hmem := (List.dropLast_sublist _).subset hpiece
    exact fun hnewline => notMem_of_mem_cut hmem (mem_of_mem_dropReturn hnewline)
  · have hpiece := Option.mem_toList.1 (List.mem_filter.1 hlast).1
    exact notMem_of_mem_cut (List.mem_of_mem_getLast? hpiece)

end Text

namespace Bytes

/-- Where an ASCII byte stands, the text has its character. -/
theorem mem_ofString_iff {b : UInt8} (hb : b.toNat < 128) {s : String} :
    b ∈ ofString s ↔ ∃ c ∈ s.toList, c.toNat = b.toNat := by
  rw [ofString_eq_flatMap, List.mem_flatMap]
  simp only [mem_utf8EncodeChar_iff hb]

theorem newline_mem_ofString_iff {s : String} : newline ∈ ofString s ↔ '\n' ∈ s.toList := by
  rw [mem_ofString_iff (by decide)]
  constructor
  · rintro ⟨c, hc, hvalue⟩
    have hnewline : c = '\n' := Char.toNat_inj.1 hvalue
    exact hnewline ▸ hc
  · exact fun hmem => ⟨'\n', hmem, rfl⟩

theorem newline_notMem_of_mem_lines {bs line : Bytes} (hline : line ∈ lines bs) :
    newline ∉ line := by
  have hmem : line ∈ Text.cut newline bs := by
    unfold lines at hline
    split at hline
    · next earlier hreverse =>
      rw [← List.mem_reverse, hreverse]
      exact List.mem_cons_of_mem _ (List.mem_reverse.1 hline)
    · rwa [List.reverse_reverse] at hline
  exact Text.notMem_of_mem_cut hmem

theorem lines_append_newline {line : Bytes} (hline : newline ∉ line) (rest : Bytes) :
    lines (line ++ newline :: rest) = line :: lines rest := by
  unfold lines
  rw [Text.cut_append_cons hline, List.reverse_cons]
  obtain ⟨last, earlier, hreverse⟩ :=
    List.exists_cons_of_ne_nil (List.reverse_ne_nil_iff.2 (Text.cut_ne_nil newline rest))
  rw [hreverse]
  cases last <;> simp

theorem lines_of_notMem {part : Bytes} (hpart : newline ∉ part) :
    lines part = if part = [] then [] else [part] := by
  unfold lines
  rw [Text.cut_of_notMem hpart]
  cases part <;> rfl

/-- Lines with their ends come off the front, one after the other. -/
theorem lines_flatMap_append {ls : List Bytes} (hls : ∀ line ∈ ls, newline ∉ line) (rest : Bytes) :
    lines (ls.flatMap (· ++ [newline]) ++ rest) = ls ++ lines rest := by
  induction ls with
  | nil => rfl
  | cons line more ih =>
    rw [List.forall_mem_cons] at hls
    rw [List.flatMap_cons, List.append_assoc, List.append_assoc, List.singleton_append,
      lines_append_newline hls.1, ih hls.2, List.cons_append]

/-- Content that is empty or ends in a newline, so that what follows starts a line. -/
def IsWhole (bs : Bytes) : Prop :=
  ∀ last ∈ bs.getLast?, last = newline

instance (bs : Bytes) : Decidable bs.IsWhole :=
  inferInstanceAs (Decidable (∀ last ∈ bs.getLast?, last = newline))

theorem isWhole_append_newline (bs : Bytes) : IsWhole (bs ++ [newline]) := by
  intro last hlast
  rw [List.getLast?_concat] at hlast
  exact (Option.some.inj hlast).symm

theorem IsWhole.append {bs rest : Bytes} (hbs : bs.IsWhole) (hrest : rest.IsWhole) :
    (bs ++ rest).IsWhole := by
  intro last hlast
  rw [List.getLast?_append, Option.mem_def, Option.or_eq_some_iff] at hlast
  rcases hlast with hlast | ⟨-, hlast⟩
  · exact hrest last hlast
  · exact hbs last hlast

theorem isWhole_flatMap {α : Type} {f : α → Bytes} (hwhole : ∀ x, (f x).IsWhole) (xs : List α) :
    IsWhole (xs.flatMap f) := by
  induction xs with
  | nil => exact fun last hlast => nomatch hlast
  | cons x more ih =>
    rw [List.flatMap_cons]
    exact (hwhole x).append ih

/-- Pieces that are joined and ended by a separator have it behind each of them. -/
theorem join_append_sep {sep : Bytes} {pieces : List Bytes} (hne : pieces ≠ []) :
    Text.join sep pieces ++ sep = pieces.flatMap (· ++ sep) := by
  obtain ⟨piece, more, rfl⟩ := List.exists_cons_of_ne_nil hne
  have hmore : more.flatMap (sep ++ ·) ++ sep = sep ++ more.flatMap (· ++ sep) := by
    clear hne
    induction more with
    | nil => simp
    | cons next later ih =>
      rw [List.flatMap_cons, List.flatMap_cons, List.append_assoc, ih]
      simp only [List.append_assoc]
  rw [Text.join, List.append_assoc, hmore, List.flatMap_cons, List.append_assoc]

/-- Whole content is nothing but lines with their ends. -/
theorem IsWhole.exists_flatMap {content : Bytes} (hwhole : content.IsWhole) :
    ∃ ls : List Bytes, (∀ line ∈ ls, newline ∉ line) ∧ content = ls.flatMap (· ++ [newline]) := by
  rcases List.eq_nil_or_concat content with rfl | ⟨before, last, rfl⟩
  · exact ⟨[], by simp, rfl⟩
  · rw [List.concat_eq_append] at hwhole ⊢
    obtain rfl : last = newline := hwhole last (by rw [List.getLast?_concat]; rfl)
    refine ⟨Text.cut newline before, fun line hline => Text.notMem_of_mem_cut hline, ?_⟩
    rw [← join_append_sep (Text.cut_ne_nil newline before), Text.join_cut]

/-- The lines of whole content come before the lines of what follows. -/
theorem IsWhole.lines_append {content : Bytes} (hwhole : content.IsWhole) (rest : Bytes) :
    lines (content ++ rest) = lines content ++ lines rest := by
  obtain ⟨ls, hls, rfl⟩ := hwhole.exists_flatMap
  have hcontent := lines_flatMap_append hls []
  have hnothing : lines [] = [] := rfl
  rw [List.append_nil, hnothing, List.append_nil] at hcontent
  rw [lines_flatMap_append hls, hcontent]

end Bytes

end Overseer
