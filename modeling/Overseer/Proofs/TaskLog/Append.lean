import Overseer.Proofs.Files.Append
import Overseer.Proofs.TaskLog.Canonical
import Overseer.Proofs.TaskLog.Reading

/-!
Adding entries to a task log and reading them back: what is added to a log of whole lines is read
behind what was there, and it is read as it was added exactly if it is canonical.
-/

namespace Overseer.TaskLog

theorem isWhole_record (e : Entry) : (record e).IsWhole :=
  Bytes.isWhole_append_newline _

theorem entryOfBytes?_ofString (line : String) :
    entryOfBytes? (Bytes.ofString line) = Entry.ofLine? line := by
  rw [entryOfBytes?, Bytes.toString?_ofString]
  rfl

theorem entriesOf_line {line : Bytes} (hline : Bytes.newline ∉ line) :
    entriesOf (line ++ [Bytes.newline]) = (entryOfBytes? line).toList := by
  rw [entriesOf, Bytes.lines_append_newline hline, List.filterMap_cons]
  cases entryOfBytes? line <;> rfl

theorem entriesOf_record {e : Entry} (he : e.Lacks '\n') :
    entriesOf (record e) = (Entry.ofLine? e.line).toList := by
  have hline : Bytes.newline ∉ Bytes.ofString e.line :=
    mt Bytes.newline_mem_ofString_iff.1 (Entry.newline_notMem_line he)
  rw [record, entriesOf_line hline, entryOfBytes?_ofString]

/-- Entries in whole lines come before the entries in what follows. -/
theorem entriesOf_append {content : Bytes} (hwhole : content.IsWhole) (rest : Bytes) :
    entriesOf (content ++ rest) = entriesOf content ++ entriesOf rest := by
  rw [entriesOf, hwhole.lines_append, List.filterMap_append]
  rfl

theorem isCanonical_of_mem_entriesOf {content : Bytes} {e : Entry} (he : e ∈ entriesOf content) :
    e.IsCanonical := by
  obtain ⟨line, hline, hread⟩ := List.mem_filterMap.1 he
  obtain ⟨text, htext, hentry⟩ := Option.bind_eq_some_iff.1 hread
  obtain rfl := Bytes.toString?_eq_some_iff.1 htext
  have hnewline := Bytes.newline_notMem_of_mem_lines hline
  rw [Bytes.newline_mem_ofString_iff] at hnewline
  exact Entry.isCanonical_of_ofLine? hnewline hentry

/-- An entry is read as it was written exactly if it is canonical. -/
theorem entriesOf_record_eq_iff {e : Entry} : entriesOf (record e) = [e] ↔ e.IsCanonical := by
  constructor
  · intro hread
    exact isCanonical_of_mem_entriesOf (hread ▸ List.mem_singleton_self e)
  · intro he
    rw [entriesOf_record he.lacks_newline, Entry.ofLine?_line he]
    rfl

/-- Whole lines that are written one after the other are read one after the other. -/
theorem entriesOf_flatMap {α : Type} {f : α → Bytes} (hwhole : ∀ x, (f x).IsWhole) (xs : List α) :
    entriesOf (xs.flatMap f) = xs.flatMap fun x => entriesOf (f x) := by
  induction xs with
  | nil => rfl
  | cons x more ih => rw [List.flatMap_cons, entriesOf_append (hwhole x), ih, List.flatMap_cons]

theorem entriesOf_flatMap_record {es : List Entry} (hes : ∀ e ∈ es, e.IsCanonical) :
    entriesOf (es.flatMap record) = es := by
  rw [entriesOf_flatMap isWhole_record,
    List.flatMap_congr fun e he => entriesOf_record_eq_iff.2 (hes e he), List.flatMap_singleton']

theorem snd_append (log : TaskLog) (files : Files) (e : Entry) :
    (log.append files e).2 = (files.appendTo log.path (record e)).2 := by
  unfold append
  rcases files.appendTo log.path (record e) with ⟨result, left⟩
  cases result <;> rfl

/-- A handle on a file finds behind its content what was added by any handles on the file. -/
theorem find?_foldl_append {log : TaskLog} {files : Files} {content : Bytes} {executable : Bool}
    (hfind : files.find? log.path = some (.file content executable))
    (appends : List (TaskLog × Entry))
    (hplace : ∀ a ∈ appends, files.locateChecked a.1.path = files.locateChecked log.path) :
    (appends.foldl (fun files a => (a.1.append files a.2).2) files).find? log.path =
      some (.file (content ++ (appends.map Prod.snd).flatMap record) executable) := by
  have hpieces := Files.find?_foldl_appendTo hfind (appends.map fun a => (a.1.path, record a.2))
    (List.forall_mem_map.2 hplace)
  simpa only [List.foldl_map, List.flatMap_map, snd_append] using hpieces

theorem find?_foldl_append_self {log : TaskLog} {files : Files} {content : Bytes}
    {executable : Bool} (hfind : files.find? log.path = some (.file content executable))
    (es : List Entry) :
    (es.foldl (fun files e => (log.append files e).2) files).find? log.path =
      some (.file (content ++ es.flatMap record) executable) := by
  have hadded := find?_foldl_append hfind (es.map (log, ·)) (by simp)
  simpa [List.foldl_map, List.map_map, Function.comp_def] using hadded

theorem fst_append {log : TaskLog} {files : Files} {content : Bytes} {executable : Bool}
    (hfind : files.find? log.path = some (.file content executable)) (e : Entry) :
    (log.append files e).1 = .ok () := by
  obtain ⟨loc, hloc, hnode⟩ := Files.find?_eq_some_iff.1 hfind
  obtain ⟨left, happend, -⟩ := Files.appendTo_eq hloc hnode (record e)
  rw [append, happend]

theorem entries_of_find? {log : TaskLog} {files : Files} {content : Bytes} {executable : Bool}
    (hfind : files.find? log.path = some (.file content executable)) :
    log.entries files = .ok (entriesOf content) :=
  entries_eq_ok_iff.2 ⟨content, Files.read_eq_ok_iff.2 ⟨_, hfind, Node.noConfusion, rfl⟩, rfl⟩

/-- On a log of whole lines, an entry is read back behind the old entries exactly if it is
    canonical, and so is any list of canonical entries, whatever handles on the log they are added
    by. What a line is read as is canonical, and is read back from its own line. -/
theorem entries_append_eq_iff {log : TaskLog} {files : Files} {content : Bytes} {executable : Bool}
    (hfind : files.find? log.path = some (.file content executable)) (hwhole : content.IsWhole) :
    ∃ before, log.entries files = .ok before ∧
      (∀ e, (log.append files e).1 = .ok () ∧
        (log.entries (log.append files e).2 = .ok (before ++ [e]) ↔ e.IsCanonical)) ∧
      (∀ appends : List (TaskLog × Entry),
        (∀ a ∈ appends, files.locateChecked a.1.path = files.locateChecked log.path) →
        (∀ a ∈ appends, a.2.IsCanonical) →
        log.entries (appends.foldl (fun files a => (a.1.append files a.2).2) files) =
          .ok (before ++ appends.map Prod.snd)) ∧
      ∀ line e, '\n' ∉ line.toList → Entry.ofLine? line = some e →
        e.IsCanonical ∧ Entry.ofLine? e.line = some e := by
  have hadded (appends : List (TaskLog × Entry))
      (hplace : ∀ a ∈ appends, files.locateChecked a.1.path = files.locateChecked log.path) :
      log.entries (appends.foldl (fun files a => (a.1.append files a.2).2) files) =
        .ok (entriesOf content ++ entriesOf ((appends.map Prod.snd).flatMap record)) := by
    rw [entries_of_find? (find?_foldl_append hfind appends hplace), entriesOf_append hwhole]
  refine ⟨entriesOf content, entries_of_find? hfind, fun e => ⟨fst_append hfind e, ?_⟩, ?_, ?_⟩
  · have hone := hadded [(log, e)] (by simp)
    rw [List.foldl_cons, List.foldl_nil] at hone
    simp only [List.map_singleton, List.flatMap_singleton] at hone
    rw [hone, Except.ok.injEq, List.append_cancel_left_eq, entriesOf_record_eq_iff]
  · intro appends hplace hcanonical
    rw [hadded appends hplace, entriesOf_flatMap_record (List.forall_mem_map.2 hcanonical)]
  · intro line e hline hread
    have he := Entry.isCanonical_of_ofLine? hline hread
    exact ⟨he, Entry.ofLine?_line he⟩

/-- Handles by two paths add to a log with a line that is no text. -/
theorem entries_append_behind_noise :
    let log := ofPath (Path.ofString "log")
    let other := ofPath (Path.ofString "./log")
    let content := Bytes.ofString "7\t+\n" ++ [0xFF, Bytes.newline]
    let files : Files := ⟨[([Bytes.ofString "log"], .file content false)], [], []⟩
    let appends := [(log, Entry.start "8" (some "qdel")), (other, Entry.finish "7")]
    files.find? log.path = some (.file content false) ∧ content.IsWhole ∧
      (∀ a ∈ appends, files.locateChecked a.1.path = files.locateChecked log.path) ∧
      (∀ a ∈ appends, a.2.IsCanonical) ∧
      log.entries (appends.foldl (fun files a => (a.1.append files a.2).2) files) =
        .ok [Entry.start "7" none, Entry.start "8" (some "qdel"), Entry.finish "7"] ∧
      ¬(Entry.start " 9" none).IsCanonical ∧
      log.entries (log.append files (Entry.start " 9" none)).2 ≠
        .ok [Entry.start "7" none, Entry.start " 9" none] := by
  intro log other content files appends
  have hfind : files.find? log.path = some (.file content false) := rfl
  have hwhole : content.IsWhole := by decide +kernel
  have hplace : ∀ a ∈ appends, files.locateChecked a.1.path = files.locateChecked log.path := by
    exact List.forall_mem_cons.2 ⟨rfl, List.forall_mem_singleton.2 rfl⟩
  have hcanonical : ∀ a ∈ appends, a.2.IsCanonical := by decide +kernel
  have hblank : ¬(Entry.start " 9" none).IsCanonical := by decide +kernel
  obtain ⟨before, hbefore, hone, hlist, -⟩ := entries_append_eq_iff hfind hwhole
  have hread : log.entries files = .ok [Entry.start "7" none] := rfl
  obtain rfl := Except.ok.inj (hbefore.symm.trans hread)
  exact ⟨hfind, hwhole, hplace, hcanonical, hlist appends hplace hcanonical, hblank,
    fun hsame => hblank ((hone _).2.1 hsame)⟩

end Overseer.TaskLog
