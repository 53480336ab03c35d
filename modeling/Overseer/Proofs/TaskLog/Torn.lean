import Overseer.Proofs.TaskLog.Append

/-!
A task log that was cut off: what is read of it, and when this is not what was written.
-/

namespace Overseer.TaskLog

/-- Bytes without a line end hold one entry at most. -/
theorem entriesOf_of_notMem {part : Bytes} (hpart : Bytes.newline ∉ part) :
    entriesOf part = (entryOfBytes? part).toList := by
  rw [entriesOf, Bytes.lines_of_notMem hpart]
  split
  · next hempty =>
    subst hempty
    rfl
  · cases hentry : entryOfBytes? part <;> simp [hentry]

/-- What is left of a log that was cut off: whole lines, and part of the line that follows. -/
theorem exists_take_flatMap_record (es : List Entry) (n : Nat) :
    (es.flatMap record).take n = es.flatMap record ∨
      ∃ before e after part, es = before ++ e :: after ∧ part <+: Bytes.ofString e.line ∧
        (es.flatMap record).take n = before.flatMap record ++ part := by
  induction es generalizing n with
  | nil => exact .inl List.take_nil
  | cons e later ih =>
    rw [List.flatMap_cons]
    by_cases hshort : n < (record e).length
    · refine .inr ⟨[], e, later, (Bytes.ofString e.line).take n, rfl, List.take_prefix _ _, ?_⟩
      rw [record, List.length_append, List.length_singleton] at hshort
      have hzero : n - (Bytes.ofString e.line).length = 0 := by omega
      rw [List.flatMap_nil, List.nil_append, record, List.append_assoc, List.take_append, hzero,
        List.take_zero, List.append_nil]
    · have hlong : n = (record e).length + (n - (record e).length) := by omega
      rw [hlong, List.take_length_add_append]
      rcases ih (n - (record e).length) with hwhole | ⟨before, cut, after, part, rfl, hpart, htake⟩
      · exact .inl (by rw [hwhole])
      · refine .inr ⟨e :: before, cut, after, part, rfl, hpart, ?_⟩
        rw [htake, List.flatMap_cons, List.append_assoc]

/-- Bytes that are cut off within a cleanup command: after whole lines there is the process id and
    the marker of one more, but not all of its command. -/
def EndsInCommand (es : List Entry) (bs : Bytes) : Prop :=
  ∃ before e after shown rest, es = before ++ e :: after ∧
    bs = before.flatMap record ++ Bytes.ofString shown ∧ e.line = shown ++ rest ∧
    e.head.toList <+: shown.toList ∧ rest ≠ ""

/-- What can be read where the line of an entry was torn: the process id and the marker that were
    written, and what is left of the cleanup command, if anything. -/
def IsRemnant (e x : Entry) : Prop :=
  x.pid = e.pid ∧ x.marker = e.marker ∧
    ∀ left ∈ x.cleanup, ∃ command part, e.cleanup = some command ∧
      part.toList <+: command.toList ∧ left = Text.trimmed part

/-- After whole lines, part of a line is read on its own. -/
theorem entriesOf_append_part {before : List Entry} {e : Entry} {part : Bytes}
    (hbefore : ∀ e ∈ before, e.IsCanonical) (he : e.IsCanonical)
    (hpart : part <+: Bytes.ofString e.line) :
    entriesOf (before.flatMap record ++ part) = before ++ (entryOfBytes? part).toList := by
  have hnewline : Bytes.newline ∉ part := fun hmem =>
    Entry.newline_notMem_line he.lacks_newline
      (Bytes.newline_mem_ofString_iff.1 (hpart.subset hmem))
  rw [entriesOf_append (Bytes.isWhole_flatMap isWhole_record before),
    entriesOf_flatMap_record hbefore, entriesOf_of_notMem hnewline]

/-- Part of a line is read as nothing, unless it has the process id and the marker. -/
theorem entryOfBytes?_part_cases {e : Entry} {part : Bytes} (he : e.IsCanonical)
    (hpart : part <+: Bytes.ofString e.line) :
    entryOfBytes? part = none ∨
      ∃ shown rest cleanup, part = Bytes.ofString shown ∧ e.line = shown ++ rest ∧
        e.head.toList <+: shown.toList ∧
        entryOfBytes? part = some ⟨e.pid, e.marker, cleanup⟩ ∧
        (cleanup = e.cleanup ↔ rest = "") ∧ IsRemnant e ⟨e.pid, e.marker, cleanup⟩ := by
  cases htext : Bytes.toString? part with
  | none => exact .inl (by rw [entryOfBytes?, htext]; rfl)
  | some shown =>
    obtain rfl := Bytes.toString?_eq_some_iff.1 htext
    obtain ⟨more, hmore⟩ := hpart
    obtain ⟨chars, hchars⟩ := Bytes.isPrefix_of_ofString_append hmore
    have hline : e.line = shown ++ String.ofList chars := by
      rw [← String.toList_inj, String.toList_append, String.toList_ofList, hchars]
    have hread := Entry.ofLine?_of_line_eq_append he hline
    rw [entryOfBytes?_ofString]
    split at hread
    · next hhead =>
      obtain ⟨cleanup, hentry, hwhole, hleft⟩ := hread
      exact .inr ⟨shown, _, cleanup, rfl, hline, hhead, hentry, hwhole, rfl, rfl, hleft⟩
    · exact .inl hread

/-- Cut off within a cleanup command, a log has an entry that was not written. -/
theorem not_isPrefix_of_endsInCommand {es : List Entry} {bs : Bytes}
    (hes : ∀ e ∈ es, e.IsCanonical) (hends : EndsInCommand es bs) : ¬entriesOf bs <+: es := by
  obtain ⟨before, e, after, shown, rest, rfl, rfl, hline, hhead, hrest⟩ := hends
  rw [List.forall_mem_append, List.forall_mem_cons] at hes
  have hread := Entry.ofLine?_of_line_eq_append hes.2.1 hline
  rw [if_pos hhead] at hread
  obtain ⟨cleanup, hread, hwhole, -⟩ := hread
  have hpart : Bytes.ofString shown <+: Bytes.ofString e.line := by
    rw [hline, Bytes.ofString_append]
    exact List.prefix_append _ _
  rw [entriesOf_append_part hes.1 hes.2.1 hpart, entryOfBytes?_ofString, hread,
    List.prefix_append_right_inj]
  intro hstart
  have hsame : (⟨e.pid, e.marker, cleanup⟩ : Entry) = e := (List.cons_prefix_cons.1 hstart).1
  exact hrest (hwhole.1 (congrArg Entry.cleanup hsame))

/-- Wherever a log is cut off, whole entries are read, and then at most a remnant of the one that
    follows. Unless the cut is within a cleanup command, this is one of the entries written. -/
theorem entriesOf_take_cases {es : List Entry} (hes : ∀ e ∈ es, e.IsCanonical) (n : Nat) :
    (entriesOf ((es.flatMap record).take n) <+: es ∨
        EndsInCommand es ((es.flatMap record).take n)) ∧
      ∃ whole remnant, entriesOf ((es.flatMap record).take n) = whole ++ Option.toList remnant ∧
        whole <+: es ∧ ∀ x ∈ remnant, ∃ e, es[whole.length]? = some e ∧ IsRemnant e x := by
  rcases exists_take_flatMap_record es n with htake | ⟨before, e, after, part, rfl, hpart, htake⟩
  · rw [htake, entriesOf_flatMap_record hes]
    exact ⟨.inl List.prefix_rfl, es, none, by simp, List.prefix_rfl, by simp⟩
  · rw [List.forall_mem_append, List.forall_mem_cons] at hes
    obtain ⟨hbefore, he, -⟩ := hes
    have hread := entriesOf_append_part hbefore he hpart
    have hnext : (before ++ e :: after)[before.length]? = some e := by simp
    rw [htake, hread]
    refine ⟨?_, before, _, rfl, List.prefix_append _ _, fun x hx => ⟨e, hnext, ?_⟩⟩
    · rcases entryOfBytes?_part_cases he hpart with
        hnone | ⟨shown, rest, cleanup, hshown, hline, hhead, hentry, hwhole, -⟩
      · left
        rw [hnone, Option.toList_none, List.append_nil]
        exact List.prefix_append _ _
      · by_cases hrest : rest = ""
        · left
          rw [hentry, hwhole.2 hrest, Option.toList_some, List.prefix_append_right_inj]
          exact ⟨after, rfl⟩
        · exact .inr ⟨before, e, after, shown, rest, rfl, by rw [hshown], hline, hhead, hrest⟩
    · rcases entryOfBytes?_part_cases he hpart with
        hnone | ⟨shown, rest, cleanup, -, -, -, hentry, -, hremnant⟩
      · rw [hnone] at hx
        cases hx
      · rw [hentry] at hx
        cases hx
        exact hremnant

/-- A log that was cut off anywhere reads as the first of its entries, unless the cut is within a
    cleanup command. Then the last entry read has the process id and the marker that were written,
    but only what is left of its command. -/
theorem entries_of_torn_log {log : TaskLog} {files : Files} {executable : Bool} {es : List Entry}
    (hempty : files.find? log.path = some (.file [] executable))
    (hes : ∀ e ∈ es, e.IsCanonical) :
    let written := es.foldl (fun files e => (log.append files e).2) files
    written.read log.path = .ok (es.flatMap record) ∧
      ∀ n (torn : Files), torn.read log.path = .ok ((es.flatMap record).take n) →
        ∃ read, log.entries torn = .ok read ∧
          (read <+: es ↔ ¬EndsInCommand es ((es.flatMap record).take n)) ∧
          ∃ whole remnant, read = whole ++ Option.toList remnant ∧ whole <+: es ∧
            ∀ x ∈ remnant, ∃ e, es[whole.length]? = some e ∧ IsRemnant e x := by
  refine ⟨?_, fun n torn htorn => ?_⟩
  · rw [Files.read_eq_ok_iff]
    exact ⟨_, find?_foldl_append_self hempty es, Node.noConfusion, rfl⟩
  · obtain ⟨hcases, hremnant⟩ := entriesOf_take_cases hes n
    refine ⟨_, entries_eq_ok_iff.2 ⟨_, htorn, rfl⟩, ?_, hremnant⟩
    constructor
    · exact fun hstart hends => not_isPrefix_of_endsInCommand hes hends hstart
    · exact hcases.resolve_right

/-- The second of two lines is cut off within its command. -/
theorem entries_of_torn_log_second_line :
    let es := [Entry.start "7" none, Entry.start "12" (some "scancel")]
    let log := ofPath (Path.ofString "log")
    let holding (content : Bytes) : Files :=
      ⟨[([Bytes.ofString "log"], .file content false)], [], []⟩
    let cut := (es.flatMap record).take 11
    (holding []).find? log.path = some (.file [] false) ∧ (∀ e ∈ es, e.IsCanonical) ∧
      (holding cut).read log.path = .ok cut ∧ EndsInCommand es cut ∧
      ∃ read, log.entries (holding cut) = .ok read ∧ ¬read <+: es := by
  intro es log holding cut
  have hempty : (holding []).find? log.path = some (.file [] false) := rfl
  have hes : ∀ e ∈ es, e.IsCanonical := by decide +kernel
  have hcut : (holding cut).read log.path = .ok cut := rfl
  have hends : EndsInCommand es cut :=
    ⟨[Entry.start "7" none], Entry.start "12" (some "scancel"), [], "12\t+\tsc", "ancel", rfl, rfl,
      by decide, by decide, by decide⟩
  obtain ⟨read, hread, hstart, -⟩ := (entries_of_torn_log hempty hes).2 11 (holding cut) hcut
  exact ⟨hempty, hes, hcut, hends, read, hread, fun h => hstart.1 h hends⟩

/-- Cut off after two characters of its command, a start is read as one with another command. -/
theorem entries_of_log_torn_in_command :
    let es := [Entry.start "12" (some "scancel")]
    let cut := (es.flatMap record).take 7
    let files : Files := ⟨[([Bytes.ofString "log"], .file cut false)], [], []⟩
    let log := ofPath (Path.ofString "log")
    (∀ e ∈ es, e.IsCanonical) ∧ log.entries files = .ok [Entry.start "12" (some "sc")] ∧
      ¬[Entry.start "12" (some "sc")] <+: es := by
  refine ⟨by decide +kernel, by rfl, by decide⟩

end Overseer.TaskLog
