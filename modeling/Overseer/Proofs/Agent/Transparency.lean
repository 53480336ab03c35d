import Overseer.Proofs.Agent.Launch
import Overseer.Proofs.Capture.Sinks
import Overseer.Proofs.Report.Spool

/-!
Capturing and reporting are transparent: whatever of a command's output is captured or reported, the
agent's own streams carry all of it, the capture files hold it, and the outcome is the same.
-/

namespace Overseer

variable {κ : Type}

/-- Where a run copies the output of its command besides the agent's own streams: the environment,
    which may turn reporting on, and the two capture files. -/
structure Wiring where
  environment : Environment
  stdoutFile : String
  stderrFile : String
  deriving DecidableEq, Repr

def ExecRequest.wired (request : ExecRequest) (w : Wiring) : ExecRequest :=
  { request with stdoutFile := w.stdoutFile, stderrFile := w.stderrFile }

/-- What a child prints on a stream in a run on a host, if it is read to the end. -/
def Supervisor.childOutput (sup : Supervisor κ) (b : Behaviour) (host : Host κ)
    (stream : Stream) : Bytes :=
  let (time, o) := sup.decision b .toSystem
  let deaths := if o.RequiresKill then
    b.killed time (sup.control .killOwnGroup host).2.groupEnded else []
  b.output time deaths stream

namespace Platform

def wired (platform : Platform κ) (w : Wiring) : Platform κ :=
  { platform with environment := w.environment }

/-- The paths that a run writes to besides the capture file of a stream: the other capture file, the
    exit file and the spool of the reporter, as far as there are any. -/
def otherPaths (platform : Platform κ) (request : ExecRequest) (stream : Stream) : List Path :=
  (([request.spec.captureFile stream.other, request.exitFile].filter fun file =>
      decide (Capture.IsFile file)) ++
    (platform.environment.nonEmpty? Report.spoolVariable).toList).map Path.ofString

variable {platform : Platform κ} {settings : Settings} {request : ExecRequest} {host : Host κ}
  {stream : Stream} {l : Launched} {s : Session κ}

theorem mem_otherPaths_of_isFile {file : String}
    (hfile : Capture.IsFile file)
    (hmem : file = request.spec.captureFile stream.other ∨ file = request.exitFile) :
    Path.ofString file ∈ platform.otherPaths request stream := by
  refine List.mem_map_of_mem (List.mem_append_left _ (List.mem_filter.2 ⟨?_, decide_eq_true hfile⟩))
  rcases hmem with rfl | rfl
  · exact List.mem_cons_self ..
  · exact List.mem_cons_of_mem _ (List.mem_singleton.2 rfl)

/-- A prepared run can record a stream in a file of its own. -/
theorem canRecord_prepare {p : Path} (hown : host.files.IsOwn p (platform.otherPaths request stream)) :
    (platform.prepare settings request host).CanRecord stream p
      (platform.otherPaths request stream) where
  own := hown
  spool q hq := by
    rw [otherPaths, List.map_append]
    exact List.mem_append_right _ (mem_spools_of_queue? hq)
  elsewhere loc _ hplace := by cases stream <;> cases hplace

/-- What the streams of the agent show when its command is launched: the line with its process id,
    and the line that the start is logged by. -/
theorem exists_prepare_eq_log {spec : LaunchSpec}
    (hlaunch : platform.launch spec (platform.prepare settings request host) = (.ok l, s)) :
    ∃ v : Session κ, s = v.log [startLine spec l] ∧ v.logged = [] ∧ v.logger = platform.logger ∧
      v.run.host = { host with
        files := v.run.host.files
        console := host.console.print .out platform.handshake } := by
  obtain ⟨v, hs, hhost, hlogged, hlogger⟩ := exists_launch_eq_log hlaunch
  exact ⟨v, hs, hlogged, hlogger, hhost⟩

/-- In a run that is launched, what is printed under the eyes of the agent and afterwards is all that
    the child prints. -/
theorem output_of_launch {spec : LaunchSpec} (hcontrol : platform.control.EndsProcessesOnly)
    (hsorted : l.behaviour.activities.Pairwise fun a later => a.time ≤ later.time)
    (hlaunch : platform.launch spec (platform.prepare settings request host) = (.ok l, s))
    (hdrained : (platform.requestSupervisor request).PumpsDrained l .toSystem s)
    (stream : Stream) :
    let sup := platform.requestSupervisor request
    (sup.beforeDecision l .toSystem ++ sup.afterDecision l .toSystem s).flatMap
        (Activity.printed stream) ++ sup.late l .toSystem s stream =
      sup.childOutput l.behaviour host stream := by
  intro sup
  have hended : (sup.control .killOwnGroup s.run.host).2.groupEnded =
      (sup.control .killOwnGroup host).2.groupEnded := by
    obtain ⟨v, rfl, -, -, hhost⟩ := exists_prepare_eq_log hlaunch
    have hlogged := Session.prints_log (fun _ => True) [startLine spec l] v fun _ _ => trivial
    rw [hlogged.host_eq, hhost]
    exact hcontrol.groupEnded host _ _
  have hdeaths := sup.deathsByDecision_eq rfl hcontrol l .toSystem s
  rw [hended] at hdeaths
  rw [hdrained.output_eq hsorted stream, hdeaths]
  rfl

/-- What may have to be logged in a run of a request, and why. -/
def MayLog (platform : Platform κ) (request : ExecRequest) (l : Launched) (s : Session κ)
    (line : LogLine) : Prop :=
  line = startLine request.spec l ∨
    (platform.requestSupervisor request).MayLog l .toSystem s line

/-- The agent's own streams after a run that was launched: all that the child prints, and on standard
    error the lines that there was a reason to log. -/
theorem shows_execute (hcontrol : platform.control.EndsProcessesOnly)
    (hsorted : l.behaviour.activities.Pairwise fun a later => a.time ≤ later.time)
    (hlaunch : platform.launch request.spec (platform.prepare settings request host) = (.ok l, s))
    (hdrained : (platform.requestSupervisor request).PumpsDrained l .toSystem s) :
    let sup := platform.requestSupervisor request
    let final := (sup.supervise l .toSystem s).2
    final.run.host.console.out ++ sup.late l .toSystem s .out =
        host.console.out ++ platform.handshake ++ sup.childOutput l.behaviour host .out ∧
      (∃ shown, final.run.host.console.err ++ sup.late l .toSystem s .err =
          host.console.err ++ shown ∧
        Interspersed (sup.childOutput l.behaviour host .err)
          (platform.logger.texts 0 final.logged) shown) ∧
      ∀ line ∈ final.logged, platform.logger.shows line = true ∧
        platform.MayLog request l s line := by
  intro sup final
  obtain ⟨v, hs, hlogged, hlogger, hhost⟩ := exists_prepare_eq_log hlaunch
  have hlog : sup.log = none := rfl
  have hstarted := Session.prints_log (platform.MayLog request l s) [startLine request.spec l] v
    fun line hline => .inl (List.mem_singleton.1 hline)
  rw [← hs] at hstarted
  have hall := hstarted.toShows.trans
    ((Supervisor.shows_supervise hlog hcontrol l .toSystem s).mono fun _ => .inr)
  obtain ⟨lines, shown, hfinal, herr, hamong, hreason⟩ := hall.err
  rw [hlogged, List.nil_append] at hfinal
  rw [hlogged, hlogger, List.nil_append] at hamong
  rw [hlogger] at hreason
  have hout := hall.out
  rw [hhost, List.nil_append] at hout
  rw [hhost] at herr
  have hfinalLines : final.logged = lines := hfinal
  have houtput := output_of_launch hcontrol hsorted hlaunch hdrained
  rw [hfinalLines]
  refine ⟨?_, ⟨shown ++ sup.late l .toSystem s .err, ?_, ?_⟩, hreason⟩
  · rw [hout, ← houtput, ← List.append_assoc]
    rfl
  · rw [herr, List.append_assoc]
    rfl
  · have htail := hamong.append (.of_bytes (sup.late l .toSystem s .err))
    rw [List.append_nil, houtput] at htail
    exact htail

/-- A capture file after a run that was launched. -/
theorem read_execute (hsubscribe : platform.subscribe = .ok ())
    (hcontrol : platform.control.EndsProcessesOnly)
    (hsorted : l.behaviour.activities.Pairwise fun a later => a.time ≤ later.time)
    (hlaunch : platform.launch request.spec (platform.prepare settings request host) = (.ok l, s))
    (hdrained : (platform.requestSupervisor request).PumpsDrained l .toSystem s)
    (hfile : Capture.IsFile (request.spec.captureFile stream))
    (hown : host.files.IsOwn (Path.ofString (request.spec.captureFile stream))
      (platform.otherPaths request stream))
    (hspares : (platform.requestSupervisor request).SparesCapture l .toSystem s stream
      (Path.ofString (request.spec.captureFile stream)) (platform.otherPaths request stream)) :
    (platform.execute settings request host).2.files.read
        (Path.ofString (request.spec.captureFile stream)) =
      .ok ((platform.requestSupervisor request).childOutput l.behaviour host stream) := by
  obtain ⟨hcopies, hrecords⟩ := records_launch (canRecord_prepare hown) hfile
    (fun hother => mem_otherPaths_of_isFile hother (.inl rfl)) hlaunch
  have hfinal := hspares.records_supervise rfl hcontrol
    (fun hexit => mem_otherPaths_of_isFile hexit (.inr rfl)) hcopies hrecords
  have houtput := output_of_launch hcontrol hsorted hlaunch hdrained stream
  have hlate : (platform.requestSupervisor request).late l .toSystem s stream = [] := if_pos hcopies
  dsimp only at houtput
  rw [hlate, List.append_nil] at houtput
  rw [List.nil_append, houtput] at hfinal
  rw [execute_of_launch hsubscribe hlaunch]
  exact hfinal.read

/-- A command that fails, and leaves a process behind that goes on to print. -/
def chatter : Behaviour :=
  ⟨7, [⟨3, [⟨7, 0⟩], .print .out [0x61, 0x62]⟩, ⟨8, [⟨8, 2⟩, ⟨7, 0⟩], .print .err [0x63]⟩,
    ⟨9, [⟨8, 2⟩, ⟨7, 0⟩], .print .out [0x64]⟩, ⟨10, [⟨8, 2⟩, ⟨7, 0⟩], .release .out⟩,
    ⟨12, [⟨8, 2⟩, ⟨7, 0⟩], .print .err [0x65]⟩], some (5, .ofExit 4)⟩

/-- Logs at the level that is in force unless another one is asked for. -/
def defaultLogger : Logger :=
  ⟨some (.resolve none none), fun _ line => Bytes.ofString (line.message ++ "\n")⟩

/-- A platform that knows one command only. -/
def knowing (b : Behaviour) : Platform Ledger :=
  ⟨4711, .empty, .ok (), fun _ _ _ _ => .ok b, Ledger.control, ⟨[]⟩, defaultLogger⟩

/-- A platform that knows the command that fails. -/
def chatting : Platform Ledger := knowing chatter

/-- A host on which the capture file holds something older. -/
def captured : Host Ledger :=
  ⟨⟨[([[0x79]], .file [0x30] false)], [], []⟩, .empty, false, Ledger.start [] []⟩

/-- A request for the command, with an exit file. -/
def chatRequest : ExecRequest := ⟨1, "-", "-", "x", "tool", []⟩

/-- Standard output is captured, standard error is inherited, and nothing is reported. -/
def stdoutOnly : Wiring := ⟨.empty, "y", "-"⟩

/-- The session in which the command is supervised. -/
def launchedChatting : Session Ledger :=
  ((chatting.wired stdoutOnly).launch (chatRequest.wired stdoutOnly).spec
    ((chatting.wired stdoutOnly).prepare .default (chatRequest.wired stdoutOnly) captured)).2

theorem launch_chatting :
    (chatting.wired stdoutOnly).launch (chatRequest.wired stdoutOnly).spec
        ((chatting.wired stdoutOnly).prepare .default (chatRequest.wired stdoutOnly) captured) =
      (.ok ⟨chatter, true, false⟩, launchedChatting) := rfl

theorem decision_chatter {sup : Supervisor κ} (hlimit : 6 ≤ sup.timeLimit) :
    sup.decision chatter .toSystem = (6, .failed "exit status 4") :=
  sup.decision_of_ending chatter .toSystem rfl hlimit rfl

theorem remainder_chatter {sup : Supervisor κ} (hlimit : 6 ≤ sup.timeLimit) (s : Session κ) :
    sup.deathsByDecision ⟨chatter, true, false⟩ .toSystem s = [] ∧
      sup.remainder ⟨chatter, true, false⟩ .toSystem s =
        sup.aftermath ⟨chatter, true, false⟩ 6 [] := by
  have hdecision := decision_chatter hlimit
  have hdeaths : sup.deathsByDecision ⟨chatter, true, false⟩ .toSystem s = [] := by
    rw [Supervisor.deathsByDecision, hdecision]
    rfl
  exact ⟨hdeaths, by rw [Supervisor.remainder, hdeaths, hdecision]⟩

theorem pumpsDrained_chatter {sup : Supervisor κ} (hlimit : 6 ≤ sup.timeLimit)
    (hgrace : sup.grace = 2000) (s : Session κ) :
    sup.PumpsDrained ⟨chatter, true, false⟩ .toSystem s := by
  obtain ⟨hdeaths, hremainder⟩ := remainder_chatter hlimit s
  have hleft : chatter.undisturbed 6 [] = chatter.activities.drop 1 := rfl
  have htimes : ∀ a ∈ chatter.activities.drop 1, a.time ≤ 10 ∨ a.act = .print .err [0x65] := by
    decide
  have hpump (bytes : Bytes) :
      (sup.aftermath ⟨chatter, true, false⟩ 6 []).2 (.print .out bytes) = 10 := by
    have hend : (sup.aftermath ⟨chatter, true, false⟩ 6 []).2 (.print .out bytes) =
        sup.drainEnd true 6 10 := rfl
    rw [hend, Supervisor.drainEnd, hgrace]
    rfl
  rw [Supervisor.PumpsDrained, hremainder, hdeaths, decision_chatter hlimit, hleft]
  intro a ha stream bytes hact hcopies
  cases stream with
  | err => cases hcopies
  | out =>
    rw [hact, hpump]
    rcases htimes a ha with htime | hother
    · exact htime
    · rw [hact] at hother
      cases hother

theorem isOwn_captured : captured.files.IsOwn (Path.ofString "y") [Path.ofString "x"] := by
  have hy : captured.files.locateChecked (Path.ofString "y") = .ok [[0x79]] := rfl
  have hx : captured.files.locateChecked (Path.ofString "x") = .ok [[0x78]] := rfl
  have hold : captured.files.find? (Path.ofString "y") = some (.file [0x30] false) := rfl
  refine ⟨fun node hfind => ?_, fun q hq loc hleads hother => ?_⟩
  · rw [hold] at hfind
    cases hfind
    exact ⟨_, _, rfl⟩
  · rw [List.mem_singleton] at hq
    rw [hq, hx] at hother
    cases hother
    rw [hy] at hleads
    cases hleads

/-- What is done about the command that fails, once that is decided. -/
theorem finish_chatter {sup : Supervisor κ} (hgrace : sup.grace = 2000) (s : Session κ) :
    let l : Launched := ⟨chatter, true, false⟩
    let o : Outcome := .failed "exit status 4"
    sup.finish l 6 o s = Supervisor.reportExit o (Supervisor.closed (sup.ended l 6 [])
      (((sup.recordExit o s).echo .err [0x63]).takeTurn (.out, [0x64]))) := by
  intro l o
  have hafter : sup.drained l 6 [] = (chatter.activities.drop 1).take 3 := by
    obtain ⟨control, timeLimit, exitFile, log, grace⟩ := sup
    subst hgrace
    rfl
  have hconclude : sup.conclude l o s = sup.recordExit o s := if_neg (by decide)
  have hdeaths : Supervisor.deaths l 6 o (sup.recordExit o s) = [] := if_neg (by decide)
  have hplay (t : Session κ) : l.play t (.print .out [0x64]) = t.takeTurn (.out, [0x64]) :=
    Launched.play_print_of_length_le rfl (by decide) (by decide) t
  rw [Supervisor.finish_eq, hconclude, hdeaths, hafter, ← hplay]
  rfl

/-- Nothing is logged at the default level about the command that fails. -/
theorem logged_chatter :
    ((chatting.requestSupervisor chatRequest).supervise ⟨chatter, true, false⟩ .toSystem
      launchedChatting).2.logged = [] := by
  let sup := chatting.requestSupervisor chatRequest
  let l : Launched := ⟨chatter, true, false⟩
  let o : Outcome := .failed "exit status 4"
  have hdecision : sup.decision l.behaviour .toSystem = (6, o) := decision_chatter (by decide)
  have hplay : l.play launchedChatting (.print .out [0x61, 0x62]) =
      launchedChatting.takeTurn (.out, [0x61, 0x62]) :=
    Launched.play_print_of_length_le rfl (by decide) (by decide) launchedChatting
  have hdecided : sup.atDecision l .toSystem launchedChatting =
      (launchedChatting.takeTurn (.out, [0x61, 0x62])).log [.decided 7 o] := by
    rw [sup.atDecision_of_decision l .toSystem hdecision Outcome.noConfusion, ← hplay]
    rfl
  rw [Supervisor.supervise_eq_finish, hdecided, hdecision, finish_chatter rfl]
  rfl

/-- A command that succeeds. It prints, and then empties a file. -/
def printing (loc : Location) : Behaviour :=
  ⟨7, [⟨3, [⟨7, 0⟩], .print .out [0x61, 0x62]⟩,
    ⟨4, [⟨7, 0⟩], .change (.put loc (.file [] false))⟩], some (5, .ofExit 0)⟩

/-- A platform that knows this command only. -/
def printer (environment : Environment) (loc : Location) : Platform Ledger :=
  { knowing (printing loc) with environment }

/-- A host without files. -/
def blank : Host Ledger := ⟨⟨[], [], []⟩, .empty, false, Ledger.start [] []⟩

/-- A request for a command with its standard output captured. -/
def requestInto (exitFile : String) : ExecRequest := ⟨1, "x", "-", exitFile, "tool", []⟩

/-- The session in which the command that prints is supervised. -/
def launchedPrinting (environment : Environment) (loc : Location) (exitFile : String) :
    Session Ledger :=
  ((printer environment loc).launch (requestInto exitFile).spec
    ((printer environment loc).prepare .default (requestInto exitFile) blank)).2

theorem launch_printing (environment : Environment) (loc : Location) (exitFile : String) :
    (printer environment loc).launch (requestInto exitFile).spec
        ((printer environment loc).prepare .default (requestInto exitFile) blank) =
      (.ok ⟨printing loc, true, (Report.deskOfEnvironment? environment).isSome⟩,
        launchedPrinting environment loc exitFile) := rfl

theorem decision_printing {sup : Supervisor κ} (hlimit : 6 ≤ sup.timeLimit) (loc : Location) :
    sup.decision (printing loc) .toSystem = (6, .success) :=
  sup.decision_of_ending (printing loc) .toSystem rfl hlimit rfl

theorem supervise_printing {sup : Supervisor κ} (hlimit : 6 ≤ sup.timeLimit) (loc : Location)
    (reported : Bool) (s : Session κ) :
    let printed := (s.takeTurn (.out, [0x61, 0x62])).change (.put loc (.file [] false))
    sup.supervise ⟨printing loc, true, reported⟩ .toSystem s =
      (.success, sup.finish ⟨printing loc, true, reported⟩ 6 .success
        (printed.log [.decided 7 .success])) := by
  intro printed
  have hdecision := decision_printing hlimit loc
  have hplay : (Launched.mk (printing loc) true reported).play s (.print .out [0x61, 0x62]) =
      s.takeTurn (.out, [0x61, 0x62]) :=
    Launched.play_print_of_length_le rfl (by decide) (by decide) s
  rw [Supervisor.supervise_eq_finish, sup.atDecision_of_decision ⟨printing loc, true, reported⟩
    .toSystem hdecision Outcome.noConfusion, hdecision]
  dsimp only [printed]
  rw [← hplay]
  rfl

/-- The command that prints succeeds and its output is drained, but the capture file does not hold
    it. -/
def MissesOutput (environment : Environment) (loc : Location) (exitFile : String) : Prop :=
  let platform := printer environment loc
  let sup := platform.requestSupervisor (requestInto exitFile)
  let run := platform.execute .default (requestInto exitFile) blank
  (∃ l s, platform.launch (requestInto exitFile).spec
    (platform.prepare .default (requestInto exitFile) blank) = (.ok l, s) ∧
      sup.PumpsDrained l .toSystem s) ∧
    run.1 = .ok 0 ∧ sup.childOutput (printing loc) blank .out = [0x61, 0x62] ∧
    run.2.files.read (Path.ofString "x") ≠ .ok [0x61, 0x62]

theorem missesOutput_of_read {environment : Environment} {loc : Location} {exitFile : String}
    (hread : (((printer environment loc).requestSupervisor (requestInto exitFile)).finish
      ⟨printing loc, true, (Report.deskOfEnvironment? environment).isSome⟩ 6 .success
        ((((launchedPrinting environment loc exitFile).takeTurn (.out, [0x61, 0x62])).change
          (.put loc (.file [] false))).log [.decided 7 .success])).run.host.files.read
            (Path.ofString "x") ≠ .ok [0x61, 0x62]) :
    MissesOutput environment loc exitFile := by
  unfold MissesOutput
  intro platform sup run
  have hsecond : 6 ≤ Supervisor.limitOf 1 * 1000 := by decide
  have hlimit : 6 ≤ sup.timeLimit := hsecond
  have hlaunch := launch_printing environment loc exitFile
  have hrun : run = _ := execute_of_launch rfl hlaunch
  rw [supervise_printing hlimit] at hrun
  refine ⟨⟨_, _, hlaunch, ?_⟩, ?_, ?_, ?_⟩
  · rw [Supervisor.PumpsDrained, Supervisor.deathsByDecision, decision_printing hlimit]
    intro a ha
    cases ha
  · rw [hrun]
    rfl
  · rw [Supervisor.childOutput, decision_printing hlimit]
    rfl
  · rw [hrun]
    exact hread

/-- A command that prints nothing, and terminates the agent. -/
def terminator : Behaviour := ⟨7, [⟨3, [⟨7, 0⟩], .signalAgent 15⟩], none⟩

/-- A request for a command without any files. -/
def plainRequest : ExecRequest := ⟨1, "-", "-", "-", "tool", []⟩

/-- The session in which the command that terminates the agent is supervised. -/
def launchedTerminator : Session Ledger :=
  ((knowing terminator).launch plainRequest.spec
    ((knowing terminator).prepare .default plainRequest blank)).2

theorem decision_terminator {sup : Supervisor κ} (hlimit : 4 ≤ sup.timeLimit) :
    sup.decision terminator .toSystem = (4, .signalReceived) := by
  rw [Supervisor.decision, firstDecision?_eq,
    sup.inOrder_arrivals_of_signal terminator .toSystem rfl hlimit rfl]
  rfl

theorem supervise_terminator {sup : Supervisor κ} (hlimit : 4 ≤ sup.timeLimit) (s : Session κ) :
    sup.supervise ⟨terminator, false, false⟩ .toSystem s =
      (.signalReceived, sup.finish ⟨terminator, false, false⟩ 4 .signalReceived
        (s.log [.interrupted .terminate, .decided 7 .signalReceived])) := by
  rw [Supervisor.supervise_eq_finish, Supervisor.atDecision, Supervisor.decisionLines,
    Supervisor.decidingSignal?, sup.inOrder_arrivals_of_signal terminator .toSystem rfl hlimit rfl,
    decision_terminator hlimit]
  rfl

/-- An environment that asks for reports in the file that standard output is captured in. -/
def reportingInto : Environment :=
  ⟨[(Report.spoolVariable, Bytes.ofString "x")], Path.ofString "/"⟩

end Platform

end Overseer
