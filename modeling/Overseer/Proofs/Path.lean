import Overseer.Path
import Overseer.Proofs.Text.Lines

/-!
Clean paths: what a path looks like when it is absolute and in its shortest spelling, and the names on
a path that is put behind a directory. Paths that are made of texts are texts.
-/

namespace Overseer

/-- Characters without the separator join the first piece. -/
theorem Text.cut_append_of_notMem {α : Type} [DecidableEq α] {sep : α} {xs : List α}
    (hsep : sep ∉ xs) {rest piece : List α} {more : List (List α)}
    (hcut : cut sep rest = piece :: more) : cut sep (xs ++ rest) = (xs ++ piece) :: more := by
  induction xs with
  | nil => exact hcut
  | cons x xs ih =>
    rw [List.mem_cons, not_or] at hsep
    exact cut_cons_of_ne (Ne.symm hsep.1) (ih hsep.2)

namespace Bytes

/-- Bytes that stand for a text. -/
def IsText (bs : Bytes) : Prop :=
  ∃ s, bs = ofString s

theorem isText_ofString (s : String) : (ofString s).IsText :=
  ⟨s, rfl⟩

theorem IsText.append {bs rest : Bytes} (hbs : bs.IsText) (hrest : rest.IsText) :
    (bs ++ rest).IsText := by
  obtain ⟨s, rfl⟩ := hbs
  obtain ⟨t, rfl⟩ := hrest
  exact ⟨s ++ t, (ofString_append s t).symm⟩

theorem isText_flatMap {α : Type} {f : α → Bytes} {xs : List α} (htext : ∀ x ∈ xs, (f x).IsText) :
    IsText (xs.flatMap f) := by
  induction xs with
  | nil => exact isText_ofString ""
  | cons x more ih =>
    rw [List.forall_mem_cons] at htext
    exact htext.1.append (ih htext.2)

theorem isText_join {sep : Bytes} (hsep : sep.IsText) {pieces : List Bytes}
    (htext : ∀ piece ∈ pieces, piece.IsText) : IsText (Text.join sep pieces) := by
  cases pieces with
  | nil => exact isText_ofString ""
  | cons piece more =>
    rw [List.forall_mem_cons] at htext
    exact htext.1.append (isText_flatMap fun next hnext => hsep.append (htext.2 next hnext))

/-- An ASCII character is written as a byte of its own. -/
theorem utf8EncodeChar_of_toNat_eq {b : UInt8} (hb : b.toNat < 128) {c : Char}
    (hc : c.toNat = b.toNat) : String.utf8EncodeChar c = [b] := by
  have hvalue : c.val.toNat = c.toNat := rfl
  have hsmall : c.val.toNat ≤ 0x7F := by omega
  have hbyte : c.val.toNat.toUInt8 = b := by
    rw [← UInt8.toNat_inj, hvalue, hc]
    simp
  simp only [String.utf8EncodeChar, hsmall, if_true]
  exact congrArg ([·]) hbyte

/-- An ASCII byte cuts a text into texts: it is no part of any other character. -/
theorem IsText.of_mem_cut {b : UInt8} (hb : b.toNat < 128) {bs piece : Bytes} (hbs : bs.IsText)
    (hpiece : piece ∈ Text.cut b bs) : piece.IsText := by
  obtain ⟨s, rfl⟩ := hbs
  rw [ofString_eq_flatMap] at hpiece
  generalize s.toList = cs at hpiece
  induction cs generalizing piece with
  | nil =>
    obtain rfl := List.mem_singleton.1 hpiece
    exact isText_ofString ""
  | cons c cs ih =>
    have hchar : IsText (String.utf8EncodeChar c) :=
      ⟨String.ofList [c], by rw [ofString_ofList, List.flatMap_singleton]⟩
    rw [List.flatMap_cons] at hpiece
    by_cases hc : c.toNat = b.toNat
    · have hencode : String.utf8EncodeChar c = [b] := utf8EncodeChar_of_toNat_eq hb hc
      rw [hencode, List.singleton_append, Text.cut_cons_self] at hpiece
      rcases List.mem_cons.1 hpiece with rfl | hmore
      · exact isText_ofString ""
      · exact ih hmore
    · have habsent : b ∉ String.utf8EncodeChar c := (mem_utf8EncodeChar_iff hb).not.2 hc
      obtain ⟨first, more, hcut⟩ := List.exists_cons_of_ne_nil
        (Text.cut_ne_nil b (cs.flatMap String.utf8EncodeChar))
      rw [hcut] at ih
      rw [Text.cut_append_of_notMem habsent hcut] at hpiece
      rcases List.mem_cons.1 hpiece with rfl | hmore
      · exact hchar.append (ih (List.mem_cons_self ..))
      · exact ih (List.mem_cons_of_mem _ hmore)

end Bytes

namespace Path

/-- A name that a directory can hold: not empty, no dot and no step upwards, and without a slash. -/
def IsName (name : Bytes) : Prop :=
  name ≠ [] ∧ name ≠ dot ∧ name ≠ dotDot ∧ slash ∉ name

instance (name : Bytes) : Decidable (IsName name) :=
  inferInstanceAs (Decidable (_ ∧ _ ∧ _ ∧ _))

/-- A path that starts at the root and goes down by a slash and a name at a time. -/
structure IsClean (p : Path) : Prop where
  bytes_eq : p.bytes = slash :: ofNames p.names
  isName : ∀ name ∈ p.names, IsName name

variable {p dir : Path} {name : Bytes} {names : List Bytes}

theorem isIdle_eq_false_iff : isIdle name = false ↔ name ≠ [] ∧ name ≠ dot := by
  simp [isIdle]

theorem isName_iff :
    IsName name ↔ (isIdle name = false ∧ slash ∉ name) ∧ name ≠ dotDot := by
  rw [isIdle_eq_false_iff, IsName]
  tauto

/-- An absolute path spelled from proper names holds these. -/
theorem names_of_isName (hnames : ∀ name ∈ names, IsName name) :
    (Path.mk (slash :: ofNames names)).names = names :=
  names_of_ofNames fun name hname => (isName_iff.1 (hnames name hname)).1

theorem isClean_of_isName (hnames : ∀ name ∈ names, IsName name) :
    (Path.mk (slash :: ofNames names)).IsClean := by
  have hsame := names_of_isName hnames
  exact ⟨by rw [hsame], by rwa [hsame]⟩

theorem IsClean.isAbsolute (hclean : p.IsClean) : p.IsAbsolute := by
  rw [IsAbsolute, hclean.bytes_eq]
  rfl

/-- Cleaning makes an absolute path clean. -/
theorem isClean_clean (habsolute : p.IsAbsolute) : p.clean.IsClean := by
  have hclean : p.clean = ⟨slash :: ofNames (cleanNames true p.names)⟩ := by
    simp [clean, habsolute]
  rw [hclean]
  refine isClean_of_isName fun name hname => ?_
  obtain ⟨hmem, hdots⟩ := of_mem_cleanNames hname
  exact isName_iff.2 ⟨of_mem_names hmem, hdots⟩

/-- A clean path is left as it is. -/
theorem IsClean.clean_eq (hclean : p.IsClean) : p.clean = p := by
  have hnames : cleanNames true p.names = p.names :=
    cleanNames_eq_self fun name hname => (hclean.isName name hname).2.2.1
  rw [clean, if_pos hclean.isAbsolute, decide_eq_true hclean.isAbsolute, hnames,
    ← hclean.bytes_eq]

theorem mem_ofNames {b : UInt8} (hb : b ∈ ofNames names) :
    b = slash ∨ ∃ name ∈ names, b ∈ name := by
  cases names with
  | nil => cases hb
  | cons name more =>
    rcases List.mem_append.1 hb with hmem | hmem
    · exact .inr ⟨name, List.mem_cons_self .., hmem⟩
    · obtain ⟨other, hother, hbyte⟩ := List.mem_flatMap.1 hmem
      rcases List.mem_cons.1 hbyte with hslash | hbyte
      · exact .inl hslash
      · exact .inr ⟨other, List.mem_cons_of_mem _ hother, hbyte⟩

/-- The parts of a clean path are its names, behind the empty one at the root. -/
theorem IsClean.cut_bytes (hclean : p.IsClean) (hne : p.names ≠ []) :
    Text.cut slash p.bytes = [] :: p.names := by
  rw [hclean.bytes_eq, Text.cut_cons_self, ofNames,
    Text.cut_join hne fun name hname => (hclean.isName name hname).2.2.2]

theorem dropWhile_isIdle_eq_self (hidle : ∀ name ∈ names, isIdle name = false) :
    names.dropWhile isIdle = names := by
  cases names with
  | nil => rfl
  | cons name more =>
    exact List.dropWhile_cons_of_neg (by simp [hidle name (List.mem_cons_self ..)])

/-- Above the last name of a clean path stand the names before it. -/
theorem IsClean.directory?_eq (hclean : p.IsClean) (hne : p.names ≠ []) :
    p.directory? = some ⟨slash :: ofNames p.names.dropLast⟩ := by
  have hidle : ∀ name ∈ p.names, isIdle name = false := fun name hname =>
    (isName_iff.1 (hclean.isName name hname)).1.1
  have hanchor : p.anchor = [slash] := if_pos hclean.isAbsolute
  have hcut : Text.cut slash (p.bytes.drop p.anchor.length) = p.names := by
    rw [hanchor, hclean.bytes_eq]
    exact Text.cut_join hne fun name hname => (hclean.isName name hname).2.2.2
  obtain ⟨last, above, hreverse⟩ := List.exists_cons_of_ne_nil (List.reverse_ne_nil_iff.2 hne)
  have hnames : p.names = above.reverse ++ [last] := by
    rw [← List.reverse_cons, ← hreverse, List.reverse_reverse]
  have habove : ∀ name ∈ above, isIdle name = false := fun name hname =>
    hidle name (by simp [hnames, hname])
  rw [directory?, hcut, dropWhile_isIdle_eq_self (by simpa using hidle), hreverse]
  simp only [hanchor, dropWhile_isIdle_eq_self habove, hnames, List.dropLast_concat,
    List.singleton_append]

theorem isAbsolute_join (habsolute : dir.IsAbsolute) (p : Path) : (dir.join p).IsAbsolute := by
  obtain ⟨rest, hrest⟩ := List.head?_eq_some_iff.1 habsolute
  unfold join
  split
  · next hp =>
    refine hp.resolve_right fun hnil => ?_
    rw [hrest] at hnil
    cases hnil
  · split <;> rw [IsAbsolute, hrest] <;> rfl

/-- Behind a directory come the names of a relative path. -/
theorem names_join (hrelative : ¬p.IsAbsolute) (hdir : dir.bytes ≠ []) :
    (dir.join p).names = dir.names ++ p.names := by
  have hneither : ¬(p.IsAbsolute ∨ dir.bytes = []) := by simp [hrelative, hdir]
  rw [join, if_neg hneither]
  split
  · next hslash =>
    obtain ⟨before, hbefore⟩ := List.getLast?_eq_some_iff.1 hslash
    simp only [names, hbefore, List.append_assoc, List.singleton_append, Text.cut_append_sep,
      List.filter_append, Text.cut_nil]
    simp [isIdle]
  · simp only [names, Text.cut_append_sep, List.filter_append]

/-- A path that is a text. -/
def IsText (p : Path) : Prop :=
  p.bytes.IsText

theorem isText_slash : Bytes.IsText [slash] :=
  ⟨"/", by decide⟩

theorem IsText.of_mem_names (hp : p.IsText) (hname : name ∈ p.names) : name.IsText :=
  Bytes.IsText.of_mem_cut (by decide) hp (List.mem_of_mem_filter hname)

theorem isText_ofNames (hnames : ∀ name ∈ names, name.IsText) : (ofNames names).IsText :=
  Bytes.isText_join isText_slash hnames

theorem IsText.join (hdir : dir.IsText) (hp : p.IsText) : (dir.join p).IsText := by
  unfold Path.join
  split
  · exact hp
  · split
    · exact hdir.append hp
    · exact hdir.append (isText_slash.append hp)

theorem IsText.clean (habsolute : p.IsAbsolute) (hp : p.IsText) : p.clean.IsText := by
  rw [Path.clean, if_pos habsolute, decide_eq_true habsolute]
  exact isText_slash.append
    (isText_ofNames fun name hname => hp.of_mem_names (of_mem_cleanNames hname).1)

end Path

end Overseer
