import Overseer.Proofs.TaskLog.Line

/-!
Canonical entries: they are what lines are read as, and what comes back from the lines that they
are written on.
-/

namespace Overseer

theorem Marker.ofSign?_eq_some_iff {s : String} {m : Marker} :
    ofSign? s = some m ↔ s = m.sign := by
  constructor
  · intro hread
    unfold ofSign? at hread
    split at hread
    · cases hread
      rfl
    · cases hread
      rfl
    · cases hread
  · rintro rfl
    exact ofSign?_sign m

theorem Marker.isSome_ofSign?_iff {cs : List Char} :
    (ofSign? (String.ofList cs)).isSome = true ↔ cs = ['+'] ∨ cs = ['-'] := by
  rw [Option.isSome_iff_exists]
  simp only [ofSign?_eq_some_iff]
  constructor
  · rintro ⟨m, hm⟩
    have hcs : cs = m.sign.toList := by rw [← hm, String.toList_ofList]
    cases m
    · exact .inl hcs
    · exact .inr hcs
  · rintro (rfl | rfl)
    · exact ⟨started, rfl⟩
    · exact ⟨finished, rfl⟩

namespace Entry

/-- What makes a line an entry. -/
theorem ofLine?_eq_some_iff {line : String} {e : Entry} :
    ofLine? line = some e ↔
      ∃ more, fields line = e.pid :: e.marker.sign :: more ∧ e.pid ≠ "" ∧
        e.cleanup = more.head?.filter (· ≠ "") := by
  constructor
  · intro hread
    unfold ofLine? at hread
    split at hread
    · next pid sign more hfields =>
      split at hread
      · cases hread
      · next hpid =>
        obtain ⟨marker, hsign, rfl⟩ := Option.map_eq_some_iff.1 hread
        obtain rfl := Marker.ofSign?_eq_some_iff.1 hsign
        exact ⟨more, hfields, hpid, rfl⟩
    · cases hread
  · rintro ⟨more, hfields, hpid, hcleanup⟩
    simp only [ofLine?, hfields, if_neg hpid, Marker.ofSign?_sign, Option.map_some]
    rw [← hcleanup]

/-- A line with a process id and a marker: the first field is not blank, and the second is one of
    the two signs. -/
def IsWellFormed (line : String) : Prop :=
  let fields := Text.cut '\t' line.toList
  (∃ pid ∈ fields[0]?, Text.trim pid ≠ []) ∧
    ∃ sign ∈ fields[1]?, Text.trim sign = ['+'] ∨ Text.trim sign = ['-']

instance (line : String) : Decidable (IsWellFormed line) :=
  inferInstanceAs (Decidable (_ ∧ _))

theorem isSome_ofLine?_iff {line : String} :
    (ofLine? line).isSome = true ↔ IsWellFormed line := by
  simp only [IsWellFormed, ofLine?, fields_eq]
  cases Text.cut '\t' line.toList with
  | nil => simp
  | cons pid others =>
    cases others with
    | nil => simp
    | cons sign more =>
      by_cases hpid : Text.trim pid = []
      · simp [hpid]
      · have hne : String.ofList (Text.trim pid) ≠ "" := fun hempty =>
          hpid (by rw [← String.toList_ofList (l := Text.trim pid), hempty]; rfl)
        simp [hpid, hne, Marker.isSome_ofSign?_iff]

/-- A field that is not blank survives being written and read again. -/
theorem isField_of_mem_fields {line field : String} (hline : '\n' ∉ line.toList)
    (hfield : field ∈ fields line) (hne : field ≠ "") : IsField field := by
  rw [fields_eq, List.mem_map] at hfield
  obtain ⟨piece, hpiece, rfl⟩ := hfield
  have htab : '\t' ∉ piece := Text.notMem_of_mem_cut hpiece
  have hnewline : '\n' ∉ piece := fun hmem => hline (Text.mem_of_mem_cut hpiece hmem)
  refine ⟨hne, ?_, ?_, ?_⟩
  · rw [String.toList_ofList, Text.trim_trim]
  · rw [String.toList_ofList]
    exact fun hmem => htab ((Text.trim_sublist piece).subset hmem)
  · rw [String.toList_ofList]
    exact fun hmem => hnewline ((Text.trim_sublist piece).subset hmem)

theorem isCanonical_of_ofLine? {line : String} {e : Entry} (hline : '\n' ∉ line.toList)
    (hread : ofLine? line = some e) : e.IsCanonical := by
  obtain ⟨more, hfields, hpid, hcleanup⟩ := ofLine?_eq_some_iff.1 hread
  constructor
  · exact isField_of_mem_fields hline (by simp [hfields]) hpid
  · intro command hcommand
    rw [hcleanup, Option.mem_def, Option.filter_eq_some_iff] at hcommand
    obtain ⟨hhead, hne⟩ := hcommand
    have hmore : command ∈ more := List.mem_of_head? hhead
    exact isField_of_mem_fields hline (by simp [hfields, hmore]) (by simpa using hne)

/-- Whether all texts of an entry are free of a character. -/
def Lacks (c : Char) (e : Entry) : Prop :=
  c ∉ e.pid.toList ∧ ∀ command ∈ e.cleanup, c ∉ command.toList

theorem newline_notMem_line {e : Entry} (he : e.Lacks '\n') : '\n' ∉ e.line.toList := by
  obtain ⟨hpid, hcommand⟩ := he
  have hsign : '\n' ∉ e.marker.sign.toList := by cases e.marker <;> decide
  cases hcleanup : e.cleanup with
  | none => simp [Entry.line, hcleanup, String.toList_append, hpid, hsign]
  | some command =>
    simp [Entry.line, hcleanup, String.toList_append, hpid, hsign, hcommand command hcleanup]

theorem fields_line {e : Entry} (he : e.Lacks '\t') :
    fields e.line =
      Text.trimmed e.pid :: e.marker.sign :: (e.cleanup.map Text.trimmed).toList := by
  obtain ⟨hpid, hcommand⟩ := he
  have hsign := tab_notMem_sign e.marker
  rw [line_eq, head, String.append_assoc, String.append_assoc, ← String.append_assoc,
    fields_append_tab hpid]
  cases hcleanup : e.cleanup with
  | none =>
    rw [String.append_empty, fields_of_notMem hsign, trimmed_sign]
    rfl
  | some command =>
    rw [← String.append_assoc, fields_append_tab hsign,
      fields_of_notMem (hcommand command hcleanup), trimmed_sign]
    rfl

/-- An entry without the blanks at the ends of its texts. A blank cleanup command is none. -/
def trimmed (e : Entry) : Entry :=
  ⟨Text.trimmed e.pid, e.marker, (e.cleanup.map Text.trimmed).filter (· ≠ "")⟩

/-- Without tabs in its texts, an entry is read trimmed, if its process id is not blank. -/
theorem ofLine?_line_of_lacks {e : Entry} (he : e.Lacks '\t') :
    ofLine? e.line = if e.trimmed.pid = "" then none else some e.trimmed := by
  rw [ofLine?, fields_line he]
  simp only [Marker.ofSign?_sign, Option.map_some, trimmed]
  cases e.cleanup <;> rfl

theorem IsCanonical.lacks_tab {e : Entry} (he : e.IsCanonical) : e.Lacks '\t' :=
  ⟨he.1.2.2.1, fun command hcommand => (he.2 command hcommand).2.2.1⟩

theorem IsCanonical.lacks_newline {e : Entry} (he : e.IsCanonical) : e.Lacks '\n' :=
  ⟨he.1.2.2.2, fun command hcommand => (he.2 command hcommand).2.2.2⟩

theorem IsCanonical.trimmed_eq {e : Entry} (he : e.IsCanonical) : e.trimmed = e := by
  obtain ⟨pid, marker, cleanup⟩ := e
  have hpid : Text.trimmed pid = pid := he.1.trimmed_eq
  have hcleanup : (cleanup.map Text.trimmed).filter (· ≠ "") = cleanup := by
    cases cleanup with
    | none => rfl
    | some command =>
      have hcommand := he.2 command rfl
      rw [Option.map_some, hcommand.trimmed_eq]
      simp [Option.filter, hcommand.1]
  rw [trimmed, hpid, hcleanup]

theorem ofLine?_line {e : Entry} (he : e.IsCanonical) : ofLine? e.line = some e := by
  rw [ofLine?_line_of_lacks he.lacks_tab, he.trimmed_eq, if_neg he.1.1]

end Entry

end Overseer
