import Overseer.Proofs.Text.Lines
import Overseer.TaskLog.Basic

/-!
The line of an entry, read whole or cut off after any of its characters.
-/

namespace Overseer.Entry

/-- What comes first on the line of an entry: the process id and the marker. -/
def head (e : Entry) : String :=
  e.pid ++ "\t" ++ e.marker.sign

theorem line_eq (e : Entry) :
    e.line = e.head ++ match e.cleanup with
      | none => ""
      | some command => "\t" ++ command := rfl

/-- The fields of a line are its pieces between tabs, trimmed. -/
theorem fields_eq (line : String) :
    fields line = (Text.cut '\t' line.toList).map fun field => String.ofList (Text.trim field) := by
  have htrim := Text.map_trim_cut_dropReturn '\t' (by decide) line.toList
  have hfields := congrArg (List.map String.ofList) htrim
  rwa [List.map_map, List.map_map] at hfields

theorem fields_of_notMem {line : String} (htab : '\t' ∉ line.toList) :
    fields line = [Text.trimmed line] := by
  rw [fields_eq, Text.cut_of_notMem htab]
  rfl

theorem fields_append_tab {field : String} (htab : '\t' ∉ field.toList) (rest : String) :
    fields (field ++ "\t" ++ rest) = Text.trimmed field :: fields rest := by
  have hline : (field ++ "\t" ++ rest).toList = field.toList ++ '\t' :: rest.toList := by
    simp [String.toList_append]
  rw [fields_eq, fields_eq, hline, Text.cut_append_cons htab]
  rfl

theorem IsField.trimmed_eq {s : String} (hs : IsField s) : Text.trimmed s = s := by
  rw [Text.trimmed, hs.2.1, String.ofList_toList]

theorem trimmed_sign (m : Marker) : Text.trimmed m.sign = m.sign := by
  cases m <;> decide

theorem tab_notMem_sign (m : Marker) : '\t' ∉ m.sign.toList := by
  cases m <;> decide

/-- A line without a tab is no entry. -/
theorem ofLine?_of_notMem {line : String} (htab : '\t' ∉ line.toList) : ofLine? line = none := by
  rw [ofLine?, fields_of_notMem htab]

/-- A line that ends where the marker would stand is no entry. -/
theorem ofLine?_append_tab {field : String} (htab : '\t' ∉ field.toList) :
    ofLine? (field ++ "\t") = none := by
  have hfields : fields (field ++ "\t") = [Text.trimmed field, ""] := by
    rw [← String.append_empty (s := field ++ "\t"), fields_append_tab htab,
      fields_of_notMem List.not_mem_nil]
    rfl
  have hsign : Marker.ofSign? "" = none := rfl
  simp [ofLine?, hfields, hsign]

/-- With the process id and the marker a line is an entry. -/
theorem ofLine?_head {e : Entry} (hpid : IsField e.pid) :
    ofLine? e.head = some ⟨e.pid, e.marker, none⟩ := by
  have hfields : fields e.head = [e.pid, e.marker.sign] := by
    rw [head, fields_append_tab hpid.2.2.1, fields_of_notMem (tab_notMem_sign _), hpid.trimmed_eq,
      trimmed_sign]
  simp [ofLine?, hfields, hpid.1]

/-- What follows the marker is the cleanup command, unless it is blank. -/
theorem ofLine?_head_append {e : Entry} (hpid : IsField e.pid) {part : String}
    (htab : '\t' ∉ part.toList) :
    ofLine? (e.head ++ "\t" ++ part) =
      some ⟨e.pid, e.marker, (some (Text.trimmed part)).filter (· ≠ "")⟩ := by
  have hfields : fields (e.head ++ "\t" ++ part) = [e.pid, e.marker.sign, Text.trimmed part] := by
    rw [head, String.append_assoc, String.append_assoc, fields_append_tab hpid.2.2.1,
      ← String.append_assoc, fields_append_tab (tab_notMem_sign _), fields_of_notMem htab,
      hpid.trimmed_eq, trimmed_sign]
  simp [ofLine?, hfields, hpid.1]

/-- Cut off before its process id and marker are whole, a line is no entry. -/
theorem ofLine?_of_isPrefix_head {e : Entry} (hpid : IsField e.pid) {shown : String}
    (hstart : shown.toList <+: e.head.toList) (hne : shown ≠ e.head) : ofLine? shown = none := by
  obtain ⟨sign, hsign⟩ : ∃ sign, e.marker.sign.toList = [sign] := by
    cases e.marker <;> exact ⟨_, rfl⟩
  have hhead : e.head.toList = e.pid.toList ++ ['\t'] ++ [sign] := by
    simp [head, String.toList_append, hsign]
  rw [hhead, List.prefix_concat_iff, List.prefix_concat_iff] at hstart
  rcases hstart with hwhole | htab | hshort
  · rw [← hhead, String.toList_inj] at hwhole
    exact absurd hwhole hne
  · have hshown : shown = e.pid ++ "\t" := by
      rw [← String.toList_inj, htab, String.toList_append]
      rfl
    rw [hshown, ofLine?_append_tab hpid.2.2.1]
  · exact ofLine?_of_notMem fun htab => hpid.2.2.1 (hshort.subset htab)

/-- A command is only read whole. -/
theorem filter_trimmed_eq_some_iff {command part rest : String} (hcommand : IsField command)
    (hparts : command.toList = part.toList ++ rest.toList) :
    (some (Text.trimmed part)).filter (· ≠ "") = some command ↔ rest = "" := by
  rw [Option.filter_eq_some_iff, Option.some.injEq]
  constructor
  · rintro ⟨htrimmed, -⟩
    have hlength := Text.length_trim_le part.toList
    have hcut : Text.trim part.toList = command.toList := by
      rw [← htrimmed, Text.trimmed, String.toList_ofList]
    rw [hcut, hparts, List.length_append] at hlength
    rw [← String.toList_eq_nil_iff, ← List.length_eq_zero_iff]
    omega
  · rintro rfl
    have hwhole : part = command := by
      rw [← String.toList_inj, hparts]
      simp
    rw [hwhole, hcommand.trimmed_eq]
    exact ⟨rfl, by simpa using hcommand.1⟩

/-- Cut off within its cleanup command, a line has what is left of the command, trimmed. -/
theorem ofLine?_of_head_append {e : Entry} (he : e.IsCanonical) {more rest : String}
    (hline : e.line = e.head ++ more ++ rest) :
    ∃ cleanup, ofLine? (e.head ++ more) = some ⟨e.pid, e.marker, cleanup⟩ ∧
      (cleanup = e.cleanup ↔ rest = "") ∧
      ∀ left ∈ cleanup, ∃ command part, e.cleanup = some command ∧
        part.toList <+: command.toList ∧ left = Text.trimmed part := by
  rw [line_eq, String.append_assoc, String.append_right_inj] at hline
  have hhead := ofLine?_head he.1
  cases hcleanup : e.cleanup with
  | none =>
    rw [hcleanup] at hline
    obtain ⟨rfl, rfl⟩ := String.append_eq_empty_iff.1 hline.symm
    exact ⟨none, by rw [String.append_empty, hhead], by simp, by simp⟩
  | some command =>
    rw [hcleanup] at hline
    have hcommand : IsField command := he.2 command hcleanup
    have hchars : '\t' :: command.toList = more.toList ++ rest.toList := by
      rw [← String.toList_append, ← hline, String.toList_append]
      rfl
    rcases List.cons_eq_append_iff.1 hchars with ⟨hmore, hrest⟩ | ⟨left, hmore, hleft⟩
    · have hempty : more = "" := String.toList_eq_nil_iff.1 hmore
      refine ⟨none, by rw [hempty, String.append_empty, hhead], ?_, by simp⟩
      rw [← String.toList_eq_nil_iff, hrest]
      simp
    · obtain ⟨part, rfl⟩ : ∃ part, left = String.toList part := ⟨_, String.toList_ofList.symm⟩
      have hshown : e.head ++ more = e.head ++ "\t" ++ part := by
        rw [← String.toList_inj, String.toList_append, hmore]
        simp [String.toList_append]
      have hpart : part.toList <+: command.toList := ⟨rest.toList, hleft.symm⟩
      have htab : '\t' ∉ part.toList := fun h => hcommand.2.2.1 (hpart.subset h)
      refine ⟨_, by rw [hshown, ofLine?_head_append he.1 htab], ?_, ?_⟩
      · exact filter_trimmed_eq_some_iff hcommand hleft
      · intro read hread
        rw [Option.mem_def, Option.filter_eq_some_iff, Option.some.injEq] at hread
        exact ⟨command, part, rfl, hpart, hread.1.symm⟩

/-- What a line that was cut off somewhere is read as. Without the whole process id and marker it
    is no entry. With them it is one, with the same process id and marker; of the cleanup command it
    has what is left, trimmed. So it is the entry that was written only if nothing was cut off. -/
theorem ofLine?_of_line_eq_append {e : Entry} (he : e.IsCanonical) {shown rest : String}
    (hline : e.line = shown ++ rest) :
    if e.head.toList <+: shown.toList then
      ∃ cleanup, ofLine? shown = some ⟨e.pid, e.marker, cleanup⟩ ∧
        (cleanup = e.cleanup ↔ rest = "") ∧
        ∀ left ∈ cleanup, ∃ command part, e.cleanup = some command ∧
          part.toList <+: command.toList ∧ left = Text.trimmed part
    else ofLine? shown = none := by
  split
  · next hhead =>
    obtain ⟨more, hmore⟩ := hhead
    have hshown : shown = e.head ++ String.ofList more := by
      rw [← String.toList_inj, String.toList_append, String.toList_ofList, hmore]
    rw [hshown] at hline ⊢
    exact ofLine?_of_head_append he hline
  · next hhead =>
    have hwhole : e.head.toList <+: e.line.toList := by
      rw [line_eq, String.toList_append]
      exact List.prefix_append _ _
    have hpart : shown.toList <+: e.line.toList := by
      rw [hline, String.toList_append]
      exact List.prefix_append _ _
    refine ofLine?_of_isPrefix_head he.1 ?_ ?_
    · exact (List.prefix_or_prefix_of_prefix hwhole hpart).resolve_left hhead
    · rintro rfl
      exact hhead List.prefix_rfl

end Overseer.Entry
