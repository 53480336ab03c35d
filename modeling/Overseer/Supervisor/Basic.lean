import Overseer.Capture
import Overseer.Child
import Overseer.Report.Queue
import Overseer.Supervisor.Wait
import Overseer.TaskLog.Recovery

/-!
Supervising one child: copying its output, waiting for the first decisive event, recording the
outcome, and tearing everything down when the run is cut short.

The order is fixed: the exit file is written first; then, if the run was cut short, the task log is
recovered and the agent's own process group is ended; then the output is drained; the reporter gets
the outcome last. What goes wrong on the way is logged, and nothing else comes of it.
-/

namespace Overseer

/-- Everything that a supervised run works on. -/
structure Session (κ : Type) where
  run : Run κ
  /-- The reporter, if there is one. -/
  desk : Option Report.Desk
  /-- The messages that a queue in memory has kept. -/
  kept : List Bytes
  /-- The capture file of standard output, as long as it is written. -/
  outFile : Option Handle
  /-- The capture file of standard error, as long as it is written. -/
  errFile : Option Handle
  logger : Logger
  /-- The lines that the agent has shown on its standard error, in order. -/
  logged : List LogLine

namespace Session

variable {κ : Type}

/-- A session without capture files, in which nothing is logged. -/
def start (host : Host κ) (desk : Option Report.Desk) : Session κ :=
  ⟨Run.start host, desk, [], none, none, .silent, []⟩

/-- A session in which lines are logged. -/
def loggingBy (s : Session κ) (logger : Logger) : Session κ :=
  { s with logger }

def file (s : Session κ) : Stream → Option Handle
  | .out => s.outFile
  | .err => s.errFile

/-- The capture files of both streams. -/
def captures (s : Session κ) : List (Stream × Handle) :=
  [Stream.out, Stream.err].filterMap fun stream =>
    (s.file stream).map fun handle => (stream, handle)

def setFile (s : Session κ) (handle : Option Handle) : Stream → Session κ
  | .out => { s with outFile := handle }
  | .err => { s with errFile := handle }

/-- Changes the files. -/
def withFiles (s : Session κ) (f : Files → Files) : Session κ :=
  { s with run := s.run.withFiles f }

/-- Changes the files as another process does. A capture file is followed wherever it is moved. -/
def change (s : Session κ) (c : Files.Change) : Session κ :=
  { s with
    outFile := s.outFile.map (Handle.after c)
    errFile := s.errFile.map (Handle.after c) }.withFiles (·.change c)

/-- Notes an effect. -/
def note (s : Session κ) (e : Effect) : Session κ :=
  { s with run := s.run.note e }

/-- Writes to one of the agent's own streams. -/
def echo (s : Session κ) (stream : Stream) (bytes : Bytes) : Session κ :=
  { s with run := { s.run with host :=
      { s.run.host with console := s.run.host.console.print stream bytes } } }

/-- Logs lines. Those that the level in force admits are shown on standard error. -/
def log (s : Session κ) (lines : List LogLine) : Session κ :=
  let shown := lines.filter s.logger.shows
  { s.echo .err (s.logger.texts s.logged.length shown).flatten with logged := s.logged ++ shown }

/-- Writes to the capture file of a stream; one that refuses is given up. -/
def capture (stream : Stream) (bytes : Bytes) (s : Session κ) : Bool × Session κ :=
  match s.file stream with
  | none => (false, s)
  | some handle =>
    match s.run.host.files.write handle bytes with
    | .ok (handle, files) =>
      (true, (s.setFile (some handle) stream).withFiles fun _ => files)
    | .error r => (false, (s.setFile none stream).log [.captureRefused stream r])

/-- Notes what a request to the reporter amounts to. Only the outcome is noted, output is not. -/
def noteRequest (s : Session κ) : Report.Request → Session κ
  | .exit text => s.note (.exitReported text)
  | .append _ _ | .flush => s

/-- Hands a request to the reporter, if there is one. -/
def report (request : Report.Request) (s : Session κ) : Session κ :=
  match s.desk with
  | none => s
  | some desk =>
    let lines := desk.lines request ⟨s.run.host.files, s.kept⟩
    let (desk, office) := desk.handle request ⟨s.run.host.files, s.kept⟩
    let s := { s with desk := some desk, kept := office.kept }.withFiles fun _ => office.files
    (s.log lines).noteRequest request

/-- Where the chunks of a copied stream go. -/
def outlets (stream : Stream) : Capture.Outlets (Session κ) where
  capture := capture stream
  echo bytes s := (true, s.echo stream bytes)
  report bytes s := s.report (.append stream bytes)

/-- Copies what arrives on a stream. -/
def copy (stream : Stream) (bytes : Bytes) (s : Session κ) : Session κ :=
  (Capture.Tee.writeAll (outlets stream) ⟨(s.file stream).isSome, s⟩ (Capture.chunksOf bytes)).sinks

end Session

/-- A child that has been started, and which of its streams are copied. The others are the agent's
    own. -/
structure Launched where
  behaviour : Behaviour
  copiesOut : Bool
  copiesErr : Bool
  deriving DecidableEq, Repr

namespace Launched

def copies (l : Launched) : Stream → Bool
  | .out => l.copiesOut
  | .err => l.copiesErr

variable {κ : Type}

/-- Lets one act of the child take effect. -/
def play (l : Launched) (s : Session κ) : Act → Session κ
  | .print stream bytes => if l.copies stream then s.copy stream bytes else s.echo stream bytes
  | .change c => s.change c
  | .signalAgent _ | .release _ | .ignore _ | .tell _ => s

end Launched

/-- The signals that a run listens to: some that wait already, and possibly those that processes
    send meanwhile. -/
structure Subscription where
  waiting : List Signal
  closed : Bool
  listens : Bool
  deriving DecidableEq, Repr

namespace Subscription

/-- A subscription to the signals of the system. -/
def toSystem : Subscription := ⟨[], false, true⟩

/-- A subscription that is fed by hand. -/
def manual (waiting : List Signal) (closed : Bool) : Subscription := ⟨waiting, closed, false⟩

/-- The arrivals that a subscription brings: signals that wait come first. -/
def arrivals (sub : Subscription) (sent : List (Nat × Signal)) : List Arrival :=
  (sub.waiting.map fun s => ⟨0, .signal s⟩) ++
    (if sub.closed then [⟨0, .signalsClosed⟩] else []) ++
    (if sub.listens then
      (sent.filter fun a => decide (a.2 ∈ Signal.subscribed)).map fun (time, s) =>
        ⟨time, .signal s⟩
    else [])

end Subscription

structure Supervisor (κ : Type) where
  control : Control κ
  /-- Milliseconds. -/
  timeLimit : Nat
  /-- Where the outcome is written, unless empty or a single hyphen. -/
  exitFile : String
  /-- The task log that the run owns, if it is the root of a workflow. -/
  log : Option TaskLog
  /-- Milliseconds for which each stream is drained. -/
  grace : Nat

namespace Supervisor

/-- Seconds without a positive limit: one year. -/
def unbounded : Nat := 31536000

/-- The time limit in seconds that a request stands for. -/
def limitOf (seconds : Int) : Nat :=
  if seconds ≤ 0 then unbounded else seconds.toNat

/-- Milliseconds for which each stream is drained unless said otherwise. -/
def defaultGrace : Nat := 2000

/-- Milliseconds until the agent notices what a child did. -/
def latency : Nat := 1

variable {κ : Type}

/-- Everything that may decide a run. -/
def arrivals (sup : Supervisor κ) (b : Behaviour) (sub : Subscription) : List Arrival :=
  sub.arrivals (b.signals.map fun (time, s) => (time + latency, s)) ++
    (b.ending.toList.map fun (time, status) =>
      ⟨time + latency, .completed (Outcome.ofWait (.ok status))⟩) ++
    [⟨sup.timeLimit, .deadline⟩]

/-- When and how a run is decided. The deadline always decides if nothing else does. -/
def decision (sup : Supervisor κ) (b : Behaviour) (sub : Subscription) : Nat × Outcome :=
  (firstDecision? (sup.arrivals b sub)).getD (sup.timeLimit, .timedOut)

/-- Replaces the content of an exit file by the text of an outcome. A name that stands for no file
    asks for nothing. -/
def writeExit (exitFile text : String) (files : Files) : Except Fault Unit × Files :=
  if Capture.IsFile exitFile then
    match files.overwrite (Path.ofString exitFile) (Bytes.ofString text) with
    | (.ok (), files) => (.ok (), files)
    | (.error r, files) =>
      (.error (.during ("writing exit file " ++ Text.Quoted.ofString exitFile) r.message), files)
  else (.ok (), files)

/-- The signal that decides a run, if one does. -/
def decidingSignal? (sup : Supervisor κ) (b : Behaviour) (sub : Subscription) : Option Signal :=
  (inOrder (sup.arrivals b sub)).findSome? fun a =>
    match a.event with
    | .signal s => if s.IsIgnorable then none else some s
    | _ => none

/-- What is logged when a run is decided. -/
def decisionLines (sup : Supervisor κ) (b : Behaviour) (sub : Subscription) : List LogLine :=
  let o := (sup.decision b sub).2
  (if o = .signalReceived then (sup.decidingSignal? b sub).toList.map .interrupted else []) ++
    [.decided b.child o]

/-- Writes the outcome to the exit file. A refusal is logged and changes nothing else. -/
def recordExit (sup : Supervisor κ) (o : Outcome) (s : Session κ) : Session κ :=
  if Capture.IsFile sup.exitFile then
    let (result, files) := writeExit sup.exitFile o.text s.run.host.files
    ((s.note (.exitRecorded sup.exitFile o.text)).withFiles fun _ => files).log
      (LogLine.ofFault (.exitNotRecorded sup.exitFile) result)
  else s

/-- Recovers the task log, if the run owns one. -/
def recover (sup : Supervisor κ) (s : Session κ) : Session κ :=
  match sup.log with
  | some log =>
    let (result, run) := log.cleanUpAll sup.control s.run
    { s with run }.log [.ofRecovery result]
  | none => s

/-- Recovers the task log, if the run owns one, and ends the agent's own process group. -/
def kill (sup : Supervisor κ) (child : Nat) (s : Session κ) : Session κ :=
  let s := (sup.recover s).log [.endingGroup child]
  let (result, run) := Run.call sup.control .killOwnGroup s.run
  { s with run }.log (LogLine.ofFault .groupNotEnded result)

/-- Until when the output of a stream is copied: to its end, but no longer than the grace. -/
def drainEnd (sup : Supervisor κ) (copied : Bool) (start stop : Nat) : Nat :=
  if copied then min (max start stop) (start + sup.grace) else start

/-- Why a device cannot be closed like a capture file. -/
def notKept : Fault := .during "syncing capture file" (Refusal.system .invalidArgument).message

/-- What is logged when the capture files are closed of which the streams have ended. A device does
    not keep what is written to it, and says so. -/
def closingLines (ended : Stream → Bool) (s : Session κ) : List LogLine :=
  s.captures.filterMap fun (stream, handle) =>
    match handle.location.bind s.run.host.files.node? with
    | some (.device _) => if ended stream then some (.captureNotClosed stream notKept) else none
    | _ => none

/-- What still happens after the decision: the rest of the copied output, one stream after the
    other, and whatever the processes that are left do until both are drained. Once a stream is no
    longer copied, nobody reads it; one that never was is the agent's own to the end. -/
def drain (sup : Supervisor κ) (l : Launched) (time : Nat) (deaths : List Death)
    (s : Session κ) : Session κ :=
  let b := l.behaviour
  let (_, gone) := b.remaining (fun _ _ => false) deaths
  let outHeld := b.heldUntil gone .out
  let outEnd := sup.drainEnd l.copiesOut time outHeld
  let (kept, gone) := b.remaining
    (fun stream time => decide (stream = .out) && l.copiesOut && decide (outEnd < time)) deaths
  let errHeld := b.heldUntil gone .err
  let errEnd := sup.drainEnd l.copiesErr outEnd errHeld
  let limit : Act → Nat
    | .print .out _ => if l.copiesOut then outEnd else errEnd
    | _ => errEnd
  let ended : Stream → Bool
    | .out => decide (outHeld ≤ time + sup.grace)
    | .err => decide (errHeld ≤ outEnd + sup.grace)
  let drained := kept.filter fun a => decide (time < a.time ∧ a.time ≤ limit a.act)
  let s := drained.foldl (fun s a => l.play s a.act) s
  (s.log (closingLines ended s)).note .drained

/-- Hands the outcome to the reporter. -/
def reportExit (o : Outcome) (s : Session κ) : Session κ :=
  s.report (.exit o.text)

/-- Supervises a child to its end. -/
def supervise (sup : Supervisor κ) (l : Launched) (sub : Subscription) (s : Session κ) :
    Outcome × Session κ :=
  let (time, o) := sup.decision l.behaviour sub
  let before := l.behaviour.activities.filter fun a => decide (a.time ≤ time)
  let s := before.foldl (fun s a => l.play s a.act) s
  let s := sup.recordExit o (s.log (sup.decisionLines l.behaviour sub))
  let s := if o.RequiresKill then sup.kill l.behaviour.child s else s
  let deaths := if o.RequiresKill then l.behaviour.killed time s.run.host.groupEnded else []
  let s := sup.drain l time deaths s
  (o, reportExit o s)

end Supervisor

end Overseer
