import Overseer.Proofs.Report.Conservation
import Overseer.Proofs.Supervisor.Record
import Overseer.Proofs.Supervisor.Turns

/-!
The exit file from the decision of a run to its end: nothing that the agent copies or reports
meanwhile makes a file shorter, so the record of a failure does not turn into that of a success.
-/

namespace Overseer

variable {κ : Type}

namespace Report

variable {p : Path} {n : Nat}

theorem Queue.holdsAtLeast_send {office : Office} (hholds : office.files.HoldsAtLeast p n)
    {message : Bytes} (hn : n ≤ message.length + 1) (q : Queue) :
    (q.send message office).2.files.HoldsAtLeast p n := by
  cases q with
  | memory | refusing => exact hholds
  | spool spool =>
    have hline : n ≤ (message ++ [Bytes.newline]).length := by
      simpa using hn
    have happend := hholds.appendTo hline spool
    dsimp only [send, post, addToSpool]
    generalize office.files.appendTo spool (message ++ [Bytes.newline]) = appended at happend ⊢
    obtain ⟨answer, files⟩ := appended
    cases answer <;> exact happend

/-- Whatever a reporter adds to a spool file is at least three tabs and the end of the line. -/
theorem Reporter.holdsAtLeast_serve {office : Office} (hholds : office.files.HoldsAtLeast p n)
    (hn : n ≤ 4) (q : Queue) (request : Request) (r : Reporter) :
    (r.serve q.send request office).2.files.HoldsAtLeast p n := by
  rcases r.handle_cases request with ⟨m, -, -, -, -, hhandle⟩ |
      ⟨stream, bytes, -, -, hhandle, -⟩
  · by_cases hlong : m.IsTooLong
    · rw [if_pos hlong] at hhandle
      rw [serve, hhandle]
      exact hholds
    · have hlength : n ≤ m.encode.length + 1 := by
        rw [Message.length_encode]
        omega
      rw [if_neg hlong] at hhandle
      rw [serve, hhandle]
      exact q.holdsAtLeast_send hholds hlength
  · rw [serve, hhandle]
    exact hholds

end Report

namespace Session

variable {s : Session κ} {p : Path} {n : Nat}

theorem holdsAtLeast_report (hholds : s.run.host.files.HoldsAtLeast p n) (hn : n ≤ 4)
    (request : Report.Request) : (s.report request).run.host.files.HoldsAtLeast p n := by
  unfold report
  cases s.desk with
  | none => exact hholds
  | some desk =>
    let office : Report.Office := ⟨s.run.host.files, s.kept⟩
    have hoffice : office.files.HoldsAtLeast p n := hholds
    have hserve := Report.Reporter.holdsAtLeast_serve hoffice hn desk.queue request desk.reporter
    dsimp only
    rw [host_noteRequest]
    exact hserve

theorem holdsAtLeast_takeTurn (hholds : s.run.host.files.HoldsAtLeast p n) (hn : n ≤ 4)
    (turn : Stream × Bytes) : (s.takeTurn turn).run.host.files.HoldsAtLeast p n := by
  obtain ⟨stream, chunk⟩ := turn
  have hcapture : (capture stream chunk s).2.run.host.files.HoldsAtLeast p n := by
    unfold capture
    cases s.file stream with
    | none => exact hholds
    | some handle =>
      dsimp only
      cases hwrite : s.run.host.files.write handle chunk with
      | error r => cases stream <;> exact hholds
      | ok written => cases stream <;> exact hholds.write hwrite
  have hecho : ((capture stream chunk s).2.echo stream chunk).run.host.files.HoldsAtLeast p n :=
    hcapture
  rw [takeTurn_eq]
  exact holdsAtLeast_report hecho hn (.append stream chunk)

theorem holdsAtLeast_copy (hholds : s.run.host.files.HoldsAtLeast p n) (hn : n ≤ 4)
    (stream : Stream) (bytes : Bytes) : (s.copy stream bytes).run.host.files.HoldsAtLeast p n := by
  rw [copy_eq_foldl_takeTurn]
  generalize (Capture.chunksOf bytes).map (fun chunk => (stream, chunk)) = turns
  induction turns generalizing s with
  | nil => exact hholds
  | cons turn later ih => exact ih (holdsAtLeast_takeTurn hholds hn turn)

end Session

namespace Launched

/-- No process puts anything where a path leads in a course of activities. -/
def Spares (l : Launched) (p : Path) : List Activity → Session κ → Prop
  | [], _ => True
  | a :: later, s =>
    (∀ c, a.act = .change c → ∀ node, (s.change c).run.host.files.find? p = some node →
      s.run.host.files.find? p = some node) ∧ l.Spares p later (l.play s a.act)

variable {l : Launched} {p : Path} {n : Nat}

/-- What the agent copies meanwhile makes no file shorter. -/
theorem Spares.holdsAtLeast_foldl_play {activities : List Activity} {s : Session κ}
    (hspares : l.Spares p activities s) (hholds : s.run.host.files.HoldsAtLeast p n) (hn : n ≤ 4) :
    (activities.foldl (fun s a => l.play s a.act) s).run.host.files.HoldsAtLeast p n := by
  induction activities generalizing s with
  | nil => exact hholds
  | cons a later ih =>
    obtain ⟨hchange, hlater⟩ := hspares
    have hplay : (l.play s a.act).run.host.files.HoldsAtLeast p n := by
      cases hact : a.act with
      | print stream bytes =>
        unfold play
        dsimp only
        split
        · exact Session.holdsAtLeast_copy hholds hn stream bytes
        · exact hholds
      | change c => exact hholds.of_find? (hchange c hact)
      | signalAgent | release | ignore | tell => exact hholds
    exact ih hlater hplay

end Launched

namespace Supervisor

/-- After the decision of a run no process puts anything where its exit file is. -/
def SparesExitFile (sup : Supervisor κ) (l : Launched) (sub : Subscription) (s : Session κ) : Prop :=
  l.Spares (Path.ofString sup.exitFile) (sup.afterDecision l sub s)
    (sup.conclude l (sup.decision l.behaviour sub).2 (sup.atDecision l sub s))

/-- A supervised run that does not succeed leaves no file as short as the record of a success. -/
theorem holdsAtLeast_supervise {sup : Supervisor κ} {l : Launched} {sub : Subscription}
    {s : Session κ} (hfile : Capture.IsFile sup.exitFile) (hlog : sup.log = none)
    (hcontrol : ∀ before, (sup.control .killOwnGroup before).2.files = before.files)
    (hspares : sup.SparesExitFile l sub s) (hfailed : (sup.supervise l sub s).1 ≠ .success) :
    (sup.supervise l sub s).2.run.host.files.HoldsAtLeast (Path.ofString sup.exitFile) 2 := by
  rw [supervise_eq_finish] at hfailed ⊢
  have hrecorded : (sup.recordExit (sup.decision l.behaviour sub).2
      (sup.atDecision l sub s)).run.host.files.HoldsAtLeast (Path.ofString sup.exitFile) 2 := by
    have hlength := two_le_length_text_decision hfailed
    rw [sup.files_recordExit _ _ hfile]
    intro node content executable hfind hregular
    have hwritten := Files.holdsAtLeast_overwrite _ _ _ node content executable hfind hregular
    exact Nat.le_trans hlength hwritten
  have hconcluded : (sup.conclude l (sup.decision l.behaviour sub).2
      (sup.atDecision l sub s)).run.host.files.HoldsAtLeast (Path.ofString sup.exitFile) 2 := by
    unfold conclude
    split
    · have hfiles (t : Session κ) : (sup.tornDown t).run.host.files = t.run.host.files :=
        hcontrol t.run.host
      rw [kill_of_log_eq_none sup hlog, hfiles]
      exact hrecorded
    · exact hrecorded
  have hplayed := hspares.holdsAtLeast_foldl_play hconcluded (by decide)
  have hreported (ended : Stream → Bool) (t : Session κ)
      (hholds : t.run.host.files.HoldsAtLeast (Path.ofString sup.exitFile) 2) :
      (reportExit (sup.decision l.behaviour sub).2 (closed ended t)).run.host.files.HoldsAtLeast
        (Path.ofString sup.exitFile) 2 :=
    have hclosed : (closed ended t).run.host.files.HoldsAtLeast (Path.ofString sup.exitFile) 2 :=
      hholds
    Session.holdsAtLeast_report hclosed (by decide) _
  rw [finish_eq]
  exact hreported _ _ hplayed

end Supervisor

end Overseer
