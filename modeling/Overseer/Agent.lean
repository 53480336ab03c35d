import Overseer.Invocation
import Overseer.Readiness
import Overseer.Settings.Load
import Overseer.Supervisor.Basic

/-!
The agent: supervising one command on request, running the workflow interpreter as the root of a
workflow, and ending a process group.
-/

namespace Overseer

/-- What the agent finds around it, apart from the host that it changes. -/
structure Platform (κ : Type) where
  /-- The agent's own process id. -/
  pid : Nat
  environment : Environment
  /-- Whether the signals of the system can be subscribed to. -/
  subscribe : Except Fault Unit
  /-- Starts a command with arguments, given the files that its streams are copied into. -/
  start : String → List String → List (Stream × Handle) → Host κ → Except Refusal Behaviour
  control : Control κ
  /-- Where task logs are kept. -/
  logDirectory : Path
  /-- How the agent logs. -/
  logger : Logger

/-- A command with where its output goes. -/
structure LaunchSpec where
  command : String
  args : List String
  stdoutFile : String
  stderrFile : String
  deriving DecidableEq, Repr

namespace Platform

variable {κ : Type}

/-- Opens the capture file of a stream, emptying what is there. -/
def openCapture (p : String) (stream : Stream) (s : Session κ) :
    Except Fault Unit × Session κ :=
  if Capture.IsFile p then
    match s.run.host.files.create (Path.ofString p) with
    | .ok (handle, files) =>
      (.ok (), (s.setFile (some handle) stream).withFiles fun _ => files)
    | .error r =>
      (.error (.during ("creating capture file " ++ Text.Quoted.ofString p) r.message), s)
  else (.ok (), s)

/-- Opens the capture files and starts the command. A stream is copied when it is captured or
    reported. -/
def launch (platform : Platform κ) (spec : LaunchSpec) (s : Session κ) :
    Except Fault Launched × Session κ :=
  match openCapture spec.stdoutFile .out s with
  | (.error fault, s) => (.error fault, s)
  | (.ok (), s) =>
    match openCapture spec.stderrFile .err s with
    | (.error fault, s) => (.error fault, s)
    | (.ok (), s) =>
      match platform.start spec.command spec.args s.captures s.run.host with
      | .error r => (.error (.start spec.command r), s)
      | .ok behaviour =>
        (.ok ⟨behaviour, decide (Capture.IsFile spec.stdoutFile) || s.desk.isSome,
          decide (Capture.IsFile spec.stderrFile) || s.desk.isSome⟩,
          s.log [.started behaviour.child spec.command spec.args])

/-- Launches a command and supervises it. -/
def launchAndSupervise (platform : Platform κ) (spec : LaunchSpec) (sup : Supervisor κ)
    (sub : Subscription) (s : Session κ) : Except Fault Outcome × Session κ :=
  match platform.launch spec s with
  | (.error fault, s) => (.error fault, s)
  | (.ok launched, s) =>
    let (o, s) := sup.supervise launched sub s
    (.ok o, s)

/-- The line that tells the agent's process id to whoever started it. -/
def handshake (platform : Platform κ) : Bytes :=
  Bytes.ofString (toString platform.pid) ++ [Bytes.newline]

/-- The supervisor of a requested command. -/
def requestSupervisor (platform : Platform κ) (request : ExecRequest) : Supervisor κ where
  control := platform.control
  timeLimit := Supervisor.limitOf request.timeLimit * 1000
  exitFile := request.exitFile
  log := none
  grace := Supervisor.defaultGrace

/-- Supervises a command on request. The process id is printed before anything else; a generated
    script is held back until it is complete, but not for ever. -/
def execute (platform : Platform κ) (settings : Settings) (request : ExecRequest)
    (host : Host κ) : Except Fault Nat × Host κ :=
  match platform.subscribe with
  | .error fault => (.error fault, host)
  | .ok () =>
    let desk := Report.deskOfEnvironment? platform.environment
    let s := ((Session.start host desk).loggingBy platform.logger).echo .out platform.handshake
    let s := s.note (.scriptAwaited
      (Readiness.awaits settings host.files (Path.ofString request.command)))
    let spec : LaunchSpec := ⟨request.command, request.args, request.stdoutFile, request.stderrFile⟩
    let (result, s) :=
      platform.launchAndSupervise spec (platform.requestSupervisor request) .toSystem s
    (result.map Outcome.code, s.run.host)

/-- The arguments of the interpreter: its own, the flag and path of the task log, the user's. -/
def interpreterArgs (settings : Settings) (exe : Path) (log : TaskLog) (args : List String) :
    List String :=
  settings.argsFor exe ++ [settings.taskLogFlag, log.path.display] ++ args

/-- The supervisor of the interpreter. -/
def rootSupervisor (platform : Platform κ) (log : TaskLog) : Supervisor κ where
  control := platform.control
  timeLimit := Supervisor.limitOf 0 * 1000
  exitFile := ""
  log := some log
  grace := Supervisor.defaultGrace

/-- Starts the interpreter with a task log and supervises it. -/
def runInterpreter (platform : Platform κ) (settings : Settings) (exe : Path) (log : TaskLog)
    (args : List String) (host : Host κ) : Except Fault Nat × Host κ :=
  match platform.subscribe with
  | .error fault => (.error fault, host)
  | .ok () =>
    let spec : LaunchSpec :=
      ⟨settings.interpreter, interpreterArgs settings exe log args, "", ""⟩
    let (result, s) :=
      platform.launchAndSupervise spec (platform.rootSupervisor log) .toSystem
        ((Session.start host none).loggingBy platform.logger)
    (result.map Outcome.code, s.run.host)

/-- Runs the interpreter as the root of a workflow. The task log exists from before the interpreter
    starts, and is given up however the run ends. -/
def launchInterpreter (platform : Platform κ) (settings : Settings) (exe : Path)
    (args : List String) (host : Host κ) : Except Fault Nat × Host κ :=
  match TaskLog.create host.files platform.logDirectory platform.pid with
  | .error fault => (.error fault, host)
  | .ok (log, files) =>
    let (result, host) := platform.runInterpreter settings exe log args { host with files }
    (result, { host with files := log.close host.files })

/-- Ends a process group. -/
def endGroup (platform : Platform κ) (group : Int) (host : Host κ) :
    Except Fault Nat × Host κ :=
  let (result, host) := platform.control (.killGroup group) host
  (result.map fun _ => 0, host)

/-- Does what an invocation asks for, and gives the exit code. -/
def run (platform : Platform κ) (invocation : Invocation) (settings : Settings) (host : Host κ) :
    Except Fault Nat × Host κ :=
  match invocation.mode with
  | .kill group => platform.endGroup group host
  | .execute request => platform.execute settings request host
  | .interpreter args => platform.launchInterpreter settings invocation.exe args host

end Platform

end Overseer
