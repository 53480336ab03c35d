import Overseer.Proofs.Files.Access
import Overseer.TaskLog.Basic

/-!
Reading a task log and giving it up, in terms of what stands at the end of its path.
-/

namespace Overseer.TaskLog

/-- A log is read as the entries in its content, and only a log without content is not. -/
theorem entries_eq_ok_iff {log : TaskLog} {files : Files} {es : List Entry} :
    log.entries files = .ok es ↔
      ∃ content, files.read log.path = .ok content ∧ es = entriesOf content := by
  simp only [Files.read_eq_ok_iff]
  cases hopen : files.openForReading log.path with
  | error r =>
    have hnone : files.find? log.path = none := by
      rw [Option.eq_none_iff_forall_ne_some]
      intro node hfind
      rw [Files.openForReading_eq_ok_iff.2 hfind] at hopen
      cases hopen
    simp [entries, hopen, hnone]
  | ok node =>
    have hfind := Files.openForReading_eq_ok_iff.1 hopen
    cases node <;> simp [entries, hopen, hfind, eq_comm]

theorem replay_of_entries {log : TaskLog} {files : Files} {es : List Entry}
    (hentries : log.entries files = .ok es) :
    log.replay files = .ok (Liveness.ofEntries es) := by
  rw [replay, hentries]
  rfl

theorem replay_of_read {log : TaskLog} {files : Files} {content : Bytes}
    (hread : files.read log.path = .ok content) :
    log.replay files = .ok (Liveness.ofEntries (entriesOf content)) :=
  replay_of_entries (entries_eq_ok_iff.2 ⟨content, hread, rfl⟩)

/-- A log that is not there is not replayed. -/
theorem replay_of_find?_eq_none {log : TaskLog} {files : Files}
    (hnone : files.find? log.path = none) : ∃ fault, log.replay files = .error fault := by
  cases hreplay : log.replay files with
  | error fault => exact ⟨fault, rfl⟩
  | ok liveness =>
    cases hentries : log.entries files with
    | error fault =>
      rw [replay, hentries] at hreplay
      cases hreplay
    | ok es =>
      obtain ⟨content, hread, -⟩ := entries_eq_ok_iff.1 hentries
      obtain ⟨node, hfind, -⟩ := Files.read_eq_ok_iff.1 hread
      rw [hnone] at hfind
      cases hfind

/-- Deleting a log leaves nothing at the end of its path, unless a directory stands there. -/
theorem find?_erase_self {log : TaskLog} {files : Files}
    (hfile : files.find? log.path ≠ some .directory) :
    (log.erase files).find? log.path = none := by
  unfold erase
  cases hremove : files.remove log.path with
  | ok left => exact Files.find?_remove_self hremove
  | error r =>
    cases hfind : files.find? log.path with
    | none => rfl
    | some node =>
      rw [hfind] at hfile
      obtain ⟨left, hleft⟩ := Files.exists_remove_eq_ok hfind (fun h => hfile (congrArg some h))
      rw [hleft] at hremove
      cases hremove

/-- Deleting a log that is not there changes nothing. -/
theorem erase_of_find?_eq_none {log : TaskLog} {files : Files}
    (hnone : files.find? log.path = none) : log.erase files = files := by
  unfold erase
  cases hremove : files.remove log.path with
  | error r => rfl
  | ok left =>
    obtain ⟨loc, node, hloc, hnode, -, -⟩ := Files.remove_eq_ok_iff.1 hremove
    rw [Files.find?, hloc] at hnone
    change files.node? loc = none at hnone
    rw [hnode] at hnone
    cases hnone

end Overseer.TaskLog
