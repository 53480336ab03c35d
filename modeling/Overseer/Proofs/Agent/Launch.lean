import Overseer.Proofs.Agent.ExitCode
import Overseer.Proofs.Supervisor.CaptureFile

/-!
Launching a command: which streams are copied then, and that a capture file is empty, whatever was
there before.
-/

namespace Overseer

variable {κ : Type}

/-- A place for a file of one's own: what a path leads to, if anything, is a regular file, and none
    of the other paths leads there. -/
structure Files.IsOwn (files : Files) (p : Path) (others : List Path) : Prop where
  plain : ∀ node, files.find? p = some node → ∃ content executable, node = .file content executable
  apart : ∀ q ∈ others, files.Apart p q

theorem Files.IsOwn.of_differAtEnd {files left : Files} {p q : Path} {others : List Path}
    (hown : files.IsOwn p others) (hq : q ∈ others) (hdiffer : files.DifferAtEnd left q) :
    left.IsOwn p others where
  plain node hfind := by
    obtain ⟨loc, hleads, hnode⟩ := find?_eq_some_iff.1 hfind
    rw [hdiffer.same.locateChecked_eq_ok_iff] at hleads
    rw [hdiffer.elsewhere loc (hown.apart q hq loc hleads)] at hnode
    exact hown.plain node (find?_eq_some_iff.2 ⟨loc, hleads, hnode⟩)
  apart other hother := (hown.apart other hother).of_sameDirectories hdiffer.same

/-- The capture file of a stream, or a name that stands for none. -/
def LaunchSpec.captureFile (spec : LaunchSpec) : Stream → String
  | .out => spec.stdoutFile
  | .err => spec.stderrFile

/-- A stream whose capture file can be created, the other one being elsewhere. -/
structure Session.CanRecord (s : Session κ) (stream : Stream) (p : Path) (others : List Path) :
    Prop where
  own : s.run.host.files.IsOwn p others
  spool : ∀ q, s.queue? = some (.spool q) → q ∈ others
  elsewhere : ∀ loc, s.run.host.files.locateChecked p = .ok loc → s.place? stream.other ≠ some loc

namespace Platform

open Session

variable {s t : Session κ} {stream : Stream} {p : Path} {others : List Path} {content : Bytes}
  {file : String}

/-- A capture file is created unless its name stands for none. -/
theorem openCapture_cases (hopen : openCapture file stream s = (.ok (), t)) :
    ¬Capture.IsFile file ∧ t = s ∨ Capture.IsFile file ∧ ∃ handle files,
      s.run.host.files.create (Path.ofString file) = .ok (handle, files) ∧
        t = (s.setFile (some handle) stream).withFiles fun _ => files := by
  unfold openCapture at hopen
  split at hopen
  · next hfile =>
    split at hopen
    · next handle files hcreate =>
      cases hopen
      exact .inr ⟨hfile, handle, files, hcreate, rfl⟩
    · cases hopen
  · next hnone =>
    cases hopen
    exact .inl ⟨hnone, rfl⟩

/-- A capture file is opened at its start, and emptied. -/
theorem openCapture_of_isFile (hfile : Capture.IsFile file)
    (hplain : ∀ node, s.run.host.files.find? (Path.ofString file) = some node →
      ∃ content executable, node = .file content executable)
    (hopen : openCapture file stream s = (.ok (), t)) :
    ∃ loc, s.run.host.files.locateChecked (Path.ofString file) = .ok loc ∧
      t = (s.setFile (some ⟨some loc, 0⟩) stream).withFiles (fun _ => t.run.host.files) ∧
      s.run.host.files.DifferAt t.run.host.files loc ∧
      ∃ executable, t.run.host.files.node? loc = some (.file [] executable) := by
  rcases openCapture_cases hopen with ⟨hnone, -⟩ | ⟨-, handle, files, hcreate, rfl⟩
  · exact absurd hfile hnone
  · obtain ⟨loc, opened, rfl, hleads, hdiffer, hnode, -, hbefore⟩ := Files.create_cases hcreate
    have hopened : ∃ content executable, opened = .file content executable := by
      rcases hbefore with hbefore | rfl
      · exact hplain opened (Files.find?_eq_some_iff.2 ⟨loc, hleads, hbefore⟩)
      · exact ⟨[], false, rfl⟩
    obtain ⟨content, executable, rfl⟩ := hopened
    exact ⟨loc, hleads, rfl, hdiffer, executable, hnode⟩

/-- Where the other capture file has been created, this one can still be. -/
theorem canRecord_openCapture (hcan : s.CanRecord stream p others)
    (hothers : Capture.IsFile file → Path.ofString file ∈ others)
    (hopen : openCapture file stream.other s = (.ok (), t)) : t.CanRecord stream p others := by
  rcases openCapture_cases hopen with ⟨-, rfl⟩ | ⟨hfile, handle, files, hcreate, rfl⟩
  · exact hcan
  · have hdiffer := Files.differAtEnd_create hcreate
    obtain ⟨loc, opened, rfl, hleads, -⟩ := Files.create_cases hcreate
    refine ⟨hcan.own.of_differAtEnd (hothers hfile) hdiffer, ?_, fun here hhere hplace => ?_⟩
    · cases stream <;> exact hcan.spool
    · have hsame : here = loc := by
        cases stream <;> exact (Option.some.inj hplace).symm
      subst hsame
      have hwhere := hdiffer.same.locateChecked_eq_ok_iff.1 hhere
      exact hcan.own.apart _ (hothers hfile) here hwhere hleads

/-- A capture file starts empty. -/
theorem records_openCapture (hcan : s.CanRecord stream (Path.ofString file) others)
    (hfile : Capture.IsFile file) (hopen : openCapture file stream s = (.ok (), t)) :
    t.Records stream (Path.ofString file) others [] := by
  obtain ⟨loc, hleads, ht, hdiffer, executable, hnode⟩ :=
    openCapture_of_isFile hfile hcan.own.plain hopen
  have hqueue : t.queue? = s.queue? := by
    rw [ht]
    cases stream <;> rfl
  refine ⟨⟨fun q hq => (hcan.own.apart q hq).of_sameDirectories hdiffer.same, fun q hq => ?_⟩, loc,
    executable, ?_, hdiffer.same.locateChecked_eq_ok_iff.2 hleads, hnode, ?_⟩
  · exact hcan.spool q (hqueue.symm.trans hq)
  · rw [ht]
    exact Session.file_setFile_self ..
  · have helse := hcan.elsewhere loc hleads
    rw [ht]
    cases stream <;> exact helse

/-- The creation of the other capture file does not concern this one. -/
theorem records_openCapture_other (hrecords : s.Records stream p others content)
    (hothers : Capture.IsFile file → Path.ofString file ∈ others)
    (hopen : openCapture file stream.other s = (.ok (), t)) :
    t.Records stream p others content := by
  rcases openCapture_cases hopen with ⟨-, rfl⟩ | ⟨hfile, handle, files, hcreate, rfl⟩
  · exact hrecords
  · have hdiffer := Files.differAtEnd_create hcreate
    obtain ⟨loc, opened, rfl, hleads, -⟩ := Files.create_cases hcreate
    obtain ⟨hseparates, here, executable, hhandle, hhere, hnode, -⟩ := hrecords
    have hapart := hseparates.apart _ (hothers hfile) here hhere
    refine ⟨hseparates.of_sameDirectories ?_ hdiffer.same, here, executable, ?_,
      hdiffer.same.locateChecked_eq_ok_iff.2 hhere, (hdiffer.elsewhere here hapart).trans hnode, ?_⟩
    · cases stream <;> rfl
    · exact (Session.file_setFile_other ..).trans hhandle
    · intro hplace
      have hsame : loc = here := by
        cases stream <;> exact Option.some.inj hplace
      rw [hsame] at hleads
      exact hapart hleads

/-- Where the reporter of a run spools its messages, if there is one. -/
def spools (platform : Platform κ) : List Path :=
  (platform.environment.nonEmpty? Report.spoolVariable).toList.map Path.ofString

variable {platform : Platform κ} {settings : Settings} {request : ExecRequest} {host : Host κ}
  {spec : LaunchSpec} {l : Launched}

theorem mem_spools_of_queue? {q : Path}
    (hqueue : (platform.prepare settings request host).queue? = some (.spool q)) :
    q ∈ platform.spools := by
  have hdesk : (Report.deskOfEnvironment? platform.environment).map Report.Desk.queue =
      some (.spool q) := hqueue
  unfold Report.deskOfEnvironment? at hdesk
  unfold spools
  cases hspool : platform.environment.nonEmpty? Report.spoolVariable with
  | none =>
    rw [hspool] at hdesk
    cases hdesk
  | some name =>
    rw [hspool] at hdesk
    cases hdesk
    exact List.mem_singleton.2 rfl

/-- The line that the start of a command is logged by. -/
def startLine (spec : LaunchSpec) (l : Launched) : LogLine :=
  .started l.behaviour.child spec.command spec.args

/-- A stream of a launched command is copied if it is captured or reported. When both capture files
    are there, the start is logged. -/
theorem launch_cases (hlaunch : platform.launch spec s = (.ok l, t)) :
    ∃ u v, openCapture spec.stdoutFile .out s = (.ok (), u) ∧
      openCapture spec.stderrFile .err u = (.ok (), v) ∧ t = v.log [startLine spec l] ∧ ∀ stream,
      l.copies stream = (decide (Capture.IsFile (spec.captureFile stream)) || t.desk.isSome) := by
  unfold launch at hlaunch
  split at hlaunch
  · cases hlaunch
  · next u hout =>
    split at hlaunch
    · cases hlaunch
    · next v herr =>
      split at hlaunch
      · cases hlaunch
      · cases hlaunch
        exact ⟨u, v, hout, herr, rfl, fun stream => by cases stream <;> rfl⟩

/-- The creation of a capture file is no concern of anything but the files. -/
theorem openCapture_keeps (hopen : openCapture file stream s = (.ok (), t)) :
    t.run.host = { s.run.host with files := t.run.host.files } ∧ t.logged = s.logged ∧
      t.logger = s.logger := by
  rcases openCapture_cases hopen with ⟨-, rfl⟩ | ⟨-, handle, files, -, rfl⟩
  · exact ⟨rfl, rfl, rfl⟩
  · cases stream <;> exact ⟨rfl, rfl, rfl⟩

/-- A launch shows nothing but the line that it is logged by. -/
theorem exists_launch_eq_log (hlaunch : platform.launch spec s = (.ok l, t)) :
    ∃ v : Session κ, t = v.log [startLine spec l] ∧
      v.run.host = { s.run.host with files := v.run.host.files } ∧ v.logged = s.logged ∧
      v.logger = s.logger := by
  obtain ⟨u, v, hout, herr, ht, -⟩ := launch_cases hlaunch
  obtain ⟨hhost, hlogged, hlogger⟩ := openCapture_keeps hout
  obtain ⟨hhostLater, hloggedLater, hloggerLater⟩ := openCapture_keeps herr
  refine ⟨v, ht, ?_, hloggedLater.trans hlogged, hloggerLater.trans hlogger⟩
  rw [hhostLater, hhost]

/-- A stream with a capture file is copied, and the file is empty at first. -/
theorem records_launch (hcan : s.CanRecord stream (Path.ofString (spec.captureFile stream)) others)
    (hfile : Capture.IsFile (spec.captureFile stream))
    (hothers : Capture.IsFile (spec.captureFile stream.other) →
      Path.ofString (spec.captureFile stream.other) ∈ others)
    (hlaunch : platform.launch spec s = (.ok l, t)) :
    l.copies stream = true ∧
      t.Records stream (Path.ofString (spec.captureFile stream)) others [] := by
  obtain ⟨u, v, hout, herr, ht, hcopies⟩ := launch_cases hlaunch
  refine ⟨by rw [hcopies, decide_eq_true hfile, Bool.true_or], ?_⟩
  rw [ht]
  refine Records.log ?_ _
  cases stream with
  | out => exact records_openCapture_other (records_openCapture hcan hfile hout) hothers herr
  | err => exact records_openCapture (canRecord_openCapture hcan hothers hout) hfile herr

end Platform

end Overseer
