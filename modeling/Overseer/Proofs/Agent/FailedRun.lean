import Overseer.Proofs.Agent.ExitCode
import Overseer.Proofs.Supervisor.ExitFile

/-!
What a failed run leaves in its exit file: never a success of its own, but an older one if the
command was not started at all.
-/

namespace Overseer

variable {κ : Type}

namespace Platform

theorem addsNothing_openCapture (file : String) (stream : Stream) (s : Session κ) :
    s.run.host.files.AddsNothing (openCapture file stream s).2.run.host.files := by
  unfold openCapture
  split
  · cases hcreate : s.run.host.files.create (Path.ofString file) with
    | error r => exact .refl _
    | ok created =>
      obtain ⟨handle, files⟩ := created
      cases stream <;> exact Files.addsNothing_create hcreate
  · exact .refl _

theorem addsNothing_launch (platform : Platform κ) (spec : LaunchSpec) (s : Session κ) :
    s.run.host.files.AddsNothing (platform.launch spec s).2.run.host.files := by
  have hout := addsNothing_openCapture spec.stdoutFile .out s
  unfold launch
  generalize openCapture spec.stdoutFile .out s = out at hout ⊢
  obtain ⟨opened, t⟩ := out
  cases opened with
  | error fault => exact hout
  | ok _ =>
    have herr := addsNothing_openCapture spec.stderrFile .err t
    dsimp only
    generalize openCapture spec.stderrFile .err t = err at herr ⊢
    obtain ⟨opened, u⟩ := err
    cases opened with
    | error fault => exact hout.trans herr
    | ok _ =>
      dsimp only
      split <;> exact hout.trans herr

/-- A failed run leaves no success record of its own. If the agent does not succeed and the exit
    file reads like a success afterwards, then the command was never supervised, and the file read
    like that before. This is so however the run fails, provided that no other process writes to the
    exit file after the outcome was decided. Files have no permissions here: an exit file that may not
    be written keeps what it held. -/
theorem failed_run_records_no_success (platform : Platform κ) (settings : Settings)
    (request : ExecRequest) (host : Host κ) (hfile : Capture.IsFile request.exitFile)
    (hcontrol : ∀ before, (platform.control .killOwnGroup before).2.files = before.files)
    (hspares : ∀ l s, platform.launch request.spec (platform.prepare settings request host) =
      (.ok l, s) → (platform.requestSupervisor request).SparesExitFile l .toSystem s) :
    let run := platform.execute settings request host
    run.1 ≠ .ok Outcome.success.code →
      run.2.files.read (Path.ofString request.exitFile) = .ok (Bytes.ofString Outcome.successText) →
      (∃ fault, run.1 = .error fault) ∧ host.files.read (Path.ofString request.exitFile) =
        .ok (Bytes.ofString Outcome.successText) := by
  intro run
  rcases platform.execute_cases settings request host with
    ⟨fault, hexecute⟩ | ⟨fault, left, hlaunch, hexecute⟩ | ⟨l, s, hlaunch, hexecute⟩
  · have hrun : run = _ := hexecute
    rw [hrun]
    exact fun _ hread => ⟨⟨fault, rfl⟩, hread⟩
  · have hrun : run = _ := hexecute
    rw [hrun]
    intro _ hread
    have hadds := platform.addsNothing_launch request.spec (platform.prepare settings request host)
    rw [hlaunch] at hadds
    exact ⟨⟨fault, rfl⟩, hadds.read (by decide) hread⟩
  · have hrun : run = _ := hexecute
    rw [hrun]
    intro hcode hread
    have hfailed : ((platform.requestSupervisor request).supervise l .toSystem s).1 ≠ .success := by
      intro hsuccess
      rw [hsuccess] at hcode
      exact hcode rfl
    have hholds := Supervisor.holdsAtLeast_supervise hfile rfl hcontrol (hspares l s hlaunch) hfailed
    exact absurd hread (hholds.read_ne (by decide))

/-- A command that fails, and leaves a process behind that goes on to write a file. -/
def leftover (loc : Location) : Behaviour :=
  ⟨7, [⟨8, [⟨8, 2⟩, ⟨7, 0⟩], .change (.put loc (.file [0x30] false))⟩,
    ⟨9, [⟨8, 2⟩, ⟨7, 0⟩], .release .out⟩], some (5, .ofExit 4)⟩

/-- A platform that knows this command only. -/
def leaving (loc : Location) : Platform Ledger :=
  ⟨4711, .empty, .ok (), fun command _ _ _ =>
    if command = "tool" then .ok (leftover loc) else .error (.system .notFound),
    Ledger.control, ⟨[]⟩, .silent⟩

/-- A request for a command, with an exit file beside a capture file. -/
def requestFor (command : String) : ExecRequest := ⟨1, "y", "-", "x", command, []⟩

/-- A host on which the exit file tells an earlier success. -/
def succeeded : Host Ledger :=
  ⟨⟨[([[0x78]], .file [0x30] false)], [], []⟩, .empty, false, Ledger.start [] []⟩

/-- The session in which the command that fails is supervised. -/
def launchedLeaving (loc : Location) : Session Ledger :=
  ((leaving loc).launch (requestFor "tool").spec
    ((leaving loc).prepare .default (requestFor "tool") succeeded)).2

theorem decision_leftover {sup : Supervisor κ} (hlimit : 6 ≤ sup.timeLimit) (loc : Location) :
    sup.decision (leftover loc) .toSystem = (6, .failed "exit status 4") :=
  sup.decision_of_ending (leftover loc) .toSystem rfl hlimit rfl

theorem launch_leaving (loc : Location) :
    (leaving loc).launch (requestFor "tool").spec
      ((leaving loc).prepare .default (requestFor "tool") succeeded) =
        (.ok ⟨leftover loc, true, false⟩, launchedLeaving loc) := rfl

theorem execute_leaving (loc : Location) :
    let sup := (leaving loc).requestSupervisor (requestFor "tool")
    let decided := (launchedLeaving loc).log [.decided 7 (.failed "exit status 4")]
    (leaving loc).execute .default (requestFor "tool") succeeded = (.ok 1, (sup.finish
      ⟨leftover loc, true, false⟩ 6 (.failed "exit status 4") decided).run.host) := by
  intro sup decided
  have hsecond : 6 ≤ Supervisor.limitOf 1 * 1000 := by decide
  have hlimit : 6 ≤ sup.timeLimit := hsecond
  have hdecision := decision_leftover hlimit loc
  have hsupervised := sup.supervise_eq_finish ⟨leftover loc, true, false⟩ .toSystem
    (launchedLeaving loc)
  rw [sup.atDecision_of_decision ⟨leftover loc, true, false⟩ .toSystem hdecision Outcome.noConfusion,
    hdecision] at hsupervised
  have hrun := execute_of_launch rfl (launch_leaving loc)
  rw [hsupervised] at hrun
  exact hrun

/-- A success of an earlier run stays in the exit file if the command cannot be started, and a
    process that the command leaves behind may write one there. -/
theorem success_record_beside_failed_run :
    let success : Except Refusal Bytes := .ok (Bytes.ofString Outcome.successText)
    let exit := Path.ofString (requestFor "missing").exitFile
    let unstarted := (leaving [[0x78]]).execute .default (requestFor "missing") succeeded
    let overwritten := (leaving [[0x78]]).execute .default (requestFor "tool") succeeded
    (Capture.IsFile (requestFor "missing").exitFile ∧
      (requestFor "missing").exitFile ∉
        [(requestFor "missing").stdoutFile, (requestFor "missing").stderrFile] ∧
      (succeeded.files.openForWriting exit).isOk) ∧
      (unstarted.1 = .error (.start "missing" (.system .notFound)) ∧
        unstarted.2.files.read exit = success) ∧
      overwritten.1 = .ok 1 ∧ overwritten.2.files.read exit = success := by
  intro success exit unstarted overwritten
  refine ⟨⟨by decide, by decide, by decide⟩, ⟨rfl, rfl⟩, ?_⟩
  have hrun : overwritten = _ := execute_leaving [[0x78]]
  rw [hrun]
  exact ⟨rfl, rfl⟩

/-- A command that fails leaves no success, whatever its exit file held before, although a process
    that it leaves behind writes another file. -/
theorem failed_run_records_failure :
    let run := (leaving [[0x7A]]).execute .default (requestFor "tool") succeeded
    run.1 = .ok 1 ∧ run.2.files.read (Path.ofString "z") = .ok [0x30] ∧
      run.2.files.read (Path.ofString "x") ≠ .ok (Bytes.ofString Outcome.successText) := by
  intro run
  have hrun : run = _ := execute_leaving [[0x7A]]
  have hspares : ∀ l s, (leaving [[0x7A]]).launch (requestFor "tool").spec
      ((leaving [[0x7A]]).prepare .default (requestFor "tool") succeeded) = (.ok l, s) →
        ((leaving [[0x7A]]).requestSupervisor (requestFor "tool")).SparesExitFile l .toSystem s := by
    intro l s hlaunched
    rw [launch_leaving] at hlaunched
    cases hlaunched
    have hlimit : 6 ≤ ((leaving [[0x7A]]).requestSupervisor (requestFor "tool")).timeLimit := by
      decide
    have hdecision := decision_leftover hlimit [[0x7A]]
    have hafter : ((leaving [[0x7A]]).requestSupervisor (requestFor "tool")).afterDecision
        ⟨leftover [[0x7A]], true, false⟩ .toSystem (launchedLeaving [[0x7A]]) =
          (leftover [[0x7A]]).activities := by
      rw [Supervisor.afterDecision, Supervisor.deathsByDecision, hdecision]
      rfl
    rw [Supervisor.SparesExitFile, hafter,
      Supervisor.atDecision_of_decision _ ⟨leftover [[0x7A]], true, false⟩ .toSystem hdecision
        Outcome.noConfusion, hdecision]
    refine ⟨fun c hc node hfind => ?_, ⟨fun c hc => ?_, trivial⟩⟩
    · cases hc
      rw [← hfind]
      decide +kernel
    · cases hc
  have hcontrol (host : Host Ledger) :
      ((leaving [[0x7A]]).control .killOwnGroup host).2.files = host.files := rfl
  refine ⟨by rw [hrun], by rw [hrun]; rfl, fun hread => ?_⟩
  have hfailed : run.1 ≠ .ok Outcome.success.code := by
    rw [hrun]
    decide
  obtain ⟨⟨fault, hfault⟩, -⟩ := failed_run_records_no_success (leaving [[0x7A]]) .default
    (requestFor "tool") succeeded (by decide) hcontrol hspares hfailed hread
  have hcode : run.1 = .ok 1 := by rw [hrun]
  rw [hcode] at hfault
  cases hfault

end Platform

end Overseer
