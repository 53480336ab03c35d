import Overseer.Agent
import Overseer.Control.Recording
import Overseer.Proofs.Files.Write
import Overseer.Proofs.Supervisor.Stages
import Overseer.Proofs.TaskLog.Reading
import Overseer.Proofs.Text.Encoding

/-!
The task log of a root run: it is there and empty when the interpreter is started, the interpreter is
told its path, and nothing is left of it after the run, however the run ends.
-/

namespace Overseer

variable {κ : Type}

theorem Path.display_ofString (name : String) : (Path.ofString name).display = name :=
  Bytes.readLossily_ofString name

namespace TaskLog

variable {files left : Files} {dir : Path} {pid : Nat} {log : TaskLog} {node : Node}

/-- Below a directory whose path is text, the path of a log is text. -/
theorem exists_pathFor_eq_ofString (name : String) (pid : Nat) :
    ∃ text, pathFor (Path.ofString name) pid = Path.ofString text := by
  unfold pathFor Path.join
  split
  · exact ⟨_, rfl⟩
  · split
    · exact ⟨name ++ (nameStart ++ toString pid), by simp [Path.ofString]⟩
    · refine ⟨name ++ ("/" ++ (nameStart ++ toString pid)), ?_⟩
      simp only [Path.ofString, Bytes.ofString_append]
      rfl

theorem create_eq_ok_iff :
    create files dir pid = .ok (log, left) ↔
      log = ⟨pathFor dir pid, true⟩ ∧
        ∃ handle, files.create (pathFor dir pid) = .ok (handle, left) := by
  cases hcreate : files.create (pathFor dir pid) with
  | error r => simp [create, hcreate]
  | ok created => simp [create, hcreate, Prod.ext_iff, eq_comm, and_comm]

/-- Only a directory keeps a log from being created where something stands already. -/
theorem eq_directory_of_create_eq_error {fault : Fault}
    (hcreate : create files dir pid = .error fault)
    (hfind : files.find? (pathFor dir pid) = some node) : node = .directory := by
  refine Classical.byContradiction fun hfile => ?_
  obtain ⟨loc, hleads, hnode⟩ := Files.find?_eq_some_iff.1 hfind
  have hopen := Files.openForWriting_of_ne_directory hleads hnode hfile
  simp [create, Files.create, hopen, bind, Except.bind] at hcreate

/-- A log that has been created is there, and it is empty. -/
theorem find?_of_create (hcreate : create files dir pid = .ok (log, left)) :
    ∃ node, left.find? log.path = some node ∧ node ≠ .directory ∧ node.content = [] := by
  obtain ⟨rfl, handle, hcreated⟩ := create_eq_ok_iff.1 hcreate
  obtain ⟨loc, opened, -, hleads, hdiffer, hnode, hfile, -⟩ := Files.create_cases hcreated
  have hfind := Files.find?_eq_some_iff.2 ⟨loc, hdiffer.same.locateChecked_eq_ok_iff.2 hleads, hnode⟩
  refine ⟨_, hfind, ?_⟩
  cases opened with
  | directory => exact absurd rfl hfile
  | file | device | program => exact ⟨Node.noConfusion, rfl⟩

/-- Nothing but a directory is left where a log was given up by its owner. -/
theorem eq_directory_of_find?_close (howned : log.owned = true)
    (hfind : (log.close files).find? log.path = some node) : node = .directory := by
  rw [close, if_pos howned] at hfind
  by_cases hdirectory : files.find? log.path = some .directory
  · have herase : log.erase files = files := by
      unfold erase
      cases hremove : files.remove log.path with
      | error r => rfl
      | ok left =>
        obtain ⟨loc, found, hleads, hnode, hfile, -⟩ := Files.remove_eq_ok_iff.1 hremove
        have hfound := Files.find?_eq_some_iff.2 ⟨loc, hleads, hnode⟩
        rw [hdirectory] at hfound
        exact absurd (Option.some.inj hfound).symm hfile
    rw [herase, hdirectory] at hfind
    exact (Option.some.inj hfind).symm
  · rw [find?_erase_self hdirectory] at hfind
    cases hfind

end TaskLog

namespace Platform

variable {platform : Platform κ} {settings : Settings} {exe : Path} {log : TaskLog}
  {args : List String} {host : Host κ} {files : Files}

/-- Without capture files and reporter, a launch is the start of the command and nothing else. -/
theorem launch_start (platform : Platform κ) (command : String) (args : List String)
    (host : Host κ) (logger : Logger) :
    let s := (Session.start host none).loggingBy logger
    platform.launch ⟨command, args, "", ""⟩ s =
      match platform.start command args [] host with
      | .error r => (.error (.start command r), s)
      | .ok b => (.ok ⟨b, false, false⟩, s.log [.started b.child command args]) := rfl

/-- An interpreter that cannot be started. -/
theorem fst_runInterpreter_of_refusal {r : Refusal} (hsubscribe : platform.subscribe = .ok ())
    (hstart : platform.start settings.interpreter (interpreterArgs settings exe log args) [] host =
      .error r) :
    (platform.runInterpreter settings exe log args host).1 =
      .error (.start settings.interpreter r) := by
  simp only [runInterpreter, hsubscribe, launchAndSupervise, launch_start, hstart]
  rfl

/-- What decides the run of the interpreter gives the exit code. -/
theorem fst_runInterpreter_of_start {b : Behaviour} (hsubscribe : platform.subscribe = .ok ())
    (hstart : platform.start settings.interpreter (interpreterArgs settings exe log args) [] host =
      .ok b) :
    (platform.runInterpreter settings exe log args host).1 =
      .ok ((platform.rootSupervisor log).decision b .toSystem).2.code := by
  simp only [runInterpreter, hsubscribe, launchAndSupervise, launch_start, hstart]
  rfl

/-- The interpreter is all that is started. -/
theorem runInterpreter_congr_start
    {other : String → List String → List (Stream × Handle) → Host κ → Except Refusal Behaviour}
    (hother : other settings.interpreter (interpreterArgs settings exe log args) [] host =
      platform.start settings.interpreter (interpreterArgs settings exe log args) [] host) :
    { platform with start := other }.runInterpreter settings exe log args host =
      platform.runInterpreter settings exe log args host := by
  simp only [runInterpreter, launchAndSupervise, launch_start, hother]
  rfl

/-- A root run that has its log is the run of the interpreter, and then the log is given up. -/
theorem launchInterpreter_of_create
    (hcreate : TaskLog.create host.files platform.logDirectory platform.pid = .ok (log, files)) :
    let run := platform.runInterpreter settings exe log args { host with files }
    platform.launchInterpreter settings exe args host =
      (run.1, { run.2 with files := log.close run.2.files }) := by
  simp only [launchInterpreter, hcreate]

theorem launchInterpreter_congr_start
    {other : String → List String → List (Stream × Handle) → Host κ → Except Refusal Behaviour}
    (hcreate : TaskLog.create host.files platform.logDirectory platform.pid = .ok (log, files))
    (hother : other settings.interpreter (interpreterArgs settings exe log args) []
        { host with files } =
      platform.start settings.interpreter (interpreterArgs settings exe log args) []
        { host with files }) :
    { platform with start := other }.launchInterpreter settings exe args host =
      platform.launchInterpreter settings exe args host := by
  simp only [launchInterpreter, hcreate, runInterpreter_congr_start hother]

theorem launchInterpreter_of_create_eq_error {fault : Fault}
    (hcreate : TaskLog.create host.files platform.logDirectory platform.pid = .error fault) :
    platform.launchInterpreter settings exe args host = (.error fault, host) := by
  simp only [launchInterpreter, hcreate]

theorem eq_directory_of_find?_launchInterpreter {node : Node}
    (hfind : (platform.launchInterpreter settings exe args host).2.files.find?
      (TaskLog.pathFor platform.logDirectory platform.pid) = some node) : node = .directory := by
  cases hcreate : TaskLog.create host.files platform.logDirectory platform.pid with
  | error fault =>
    rw [launchInterpreter_of_create_eq_error hcreate] at hfind
    exact TaskLog.eq_directory_of_create_eq_error hcreate hfind
  | ok created =>
    obtain ⟨log, files⟩ := created
    obtain ⟨hlog, -⟩ := TaskLog.create_eq_ok_iff.1 hcreate
    have hpath : TaskLog.pathFor platform.logDirectory platform.pid = log.path := by rw [hlog]
    rw [launchInterpreter_of_create hcreate, hpath] at hfind
    exact TaskLog.eq_directory_of_find?_close (by rw [hlog]) hfind

/-- A root run leaves nothing where its task log stood, unless a directory stands there, whatever
    the run comes to: a log that cannot be created, no signals, an interpreter that cannot be started,
    or a run that is decided in any way, with or without recovery. The interpreter is all that is
    started; its arguments are its own, the flag and path of the log, and the user's; and it is
    started on a host on which the log is there and empty. -/
theorem launchInterpreter_leaves_no_log (platform : Platform κ) (settings : Settings) (exe : Path)
    (args : List String) (host : Host κ) :
    let p := TaskLog.pathFor platform.logDirectory platform.pid
    let created := TaskLog.create host.files platform.logDirectory platform.pid
    let argv := settings.argsFor exe ++ [settings.taskLogFlag, p.display] ++ args
    let run := platform.launchInterpreter settings exe args host
    (∀ node, run.2.files.find? p = some node → node = .directory) ∧
      ((∃ name, platform.logDirectory = Path.ofString name) → Path.ofString p.display = p) ∧
      (∀ fault, created = .error fault → run = (.error fault, host)) ∧
      ∀ log files, created = .ok (log, files) →
        let started := platform.start settings.interpreter argv [] { host with files }
        log.path = p ∧ files.contains p = true ∧ files.read p = .ok [] ∧
          (∀ other, other settings.interpreter argv [] { host with files } = started →
            { platform with start := other }.launchInterpreter settings exe args host = run) ∧
          (∀ fault, platform.subscribe = .error fault → run.1 = .error fault) ∧
          (platform.subscribe = .ok () →
            (∀ r, started = .error r → run.1 = .error (.start settings.interpreter r)) ∧
            ∀ b, started = .ok b →
              run.1 = .ok ((platform.rootSupervisor log).decision b .toSystem).2.code) := by
  intro p created argv run
  refine ⟨fun node hfind => eq_directory_of_find?_launchInterpreter hfind, ?argument,
    fun fault hcreate => launchInterpreter_of_create_eq_error hcreate, ?created⟩
  case argument =>
    rintro ⟨name, hname⟩
    obtain ⟨text, htext⟩ := TaskLog.exists_pathFor_eq_ofString name platform.pid
    have hp : p = Path.ofString text := by rw [← htext, ← hname]
    rw [hp, Path.display_ofString]
  case created =>
    intro log files hcreate started
    obtain ⟨node, hfind, hfile, hempty⟩ := TaskLog.find?_of_create hcreate
    obtain ⟨rfl, -⟩ := TaskLog.create_eq_ok_iff.1 hcreate
    have hrun : run = _ := launchInterpreter_of_create hcreate
    refine ⟨rfl, ?_, Files.read_eq_ok_iff.2 ⟨node, hfind, hfile, hempty⟩, fun other hother => ?_,
      fun fault hsubscribe => ?_, fun hsubscribe => ⟨?_, ?_⟩⟩
    · rw [Files.contains, hfind, Option.isSome_some]
    · exact launchInterpreter_congr_start hcreate hother
    · rw [hrun]
      simp only [runInterpreter, hsubscribe]
    · intro r hstart
      rw [hrun]
      exact fst_runInterpreter_of_refusal hsubscribe hstart
    · intro b hstart
      rw [hrun]
      exact fst_runInterpreter_of_start hsubscribe hstart

/-- An interpreter that enters a job into its log and sends the agent the signal to terminate. -/
def entering : Behaviour :=
  ⟨8, [⟨2, [⟨8, 0⟩], .change (.put (Path.ofString "logs/flowguard.pid.7").names
    (.file (Bytes.ofString "9\t+\tscancel\n") false))⟩, ⟨4, [⟨8, 0⟩], .signalAgent 15⟩], none⟩

/-- A platform that knows this interpreter only, and starts it only with an empty log. -/
def terminating : Platform Ledger :=
  ⟨7, .empty, .ok (), fun command args _ host =>
    if command = "java" ∧ args = ["-Xmx2G", "-cp", "agent", "org.bds.Bds", "-pid",
        "logs/flowguard.pid.7", "run.bds"] ∧
      (host.files.read (Path.ofString "logs/flowguard.pid.7")).toOption = some []
    then .ok entering else .error (.system .notFound), Ledger.control, Path.ofString "logs", .silent⟩

theorem decision_entering {sup : Supervisor κ} (hlimit : 5 ≤ sup.timeLimit) :
    sup.decision entering .toSystem = (5, .signalReceived) := by
  rw [Supervisor.decision, firstDecision?_eq,
    sup.inOrder_arrivals_of_signal entering .toSystem rfl hlimit rfl]
  rfl

/-- A run that is cut short, with a log left over from an earlier agent and a cleanup command that
    fails. -/
theorem launchInterpreter_leaves_no_log_of_terminated :
    let p := Path.ofString "logs/flowguard.pid.7"
    let logs : Location × Node := ([Bytes.ofString "logs"], .directory)
    let host : Host Ledger :=
      ⟨⟨[logs, (p.names, .file [0x30] false)], [], []⟩, .empty, false, Ledger.start [] ["scancel"]⟩
    let run := terminating.launchInterpreter .default (Path.ofString "agent") ["run.bds"] host
    run.1 = .ok Outcome.signalReceived.code ∧
      ∀ node, run.2.files.find? p = some node → node = .directory := by
  intro p logs host run
  let left : Files := ⟨[(p.names, .file [] false), logs], [], []⟩
  obtain ⟨hgone, -, -, hcreated⟩ := launchInterpreter_leaves_no_log terminating .default
    (Path.ofString "agent") ["run.bds"] host
  have hp : TaskLog.pathFor terminating.logDirectory terminating.pid = p := by decide +kernel
  have hargv : Settings.default.argsFor (Path.ofString "agent") ++ [Settings.default.taskLogFlag,
      (TaskLog.pathFor terminating.logDirectory terminating.pid).display] ++ ["run.bds"] =
        ["-Xmx2G", "-cp", "agent", "org.bds.Bds", "-pid", "logs/flowguard.pid.7", "run.bds"] := by
    decide +kernel
  have hcreate : TaskLog.create host.files terminating.logDirectory terminating.pid =
      .ok (⟨p, true⟩, left) := rfl
  have hempty : (left.read p).toOption = some [] := by decide +kernel
  obtain ⟨-, -, -, -, -, hstarted⟩ := hcreated _ _ hcreate
  obtain ⟨-, hcode⟩ := hstarted rfl
  have hrun := hcode entering (if_pos ⟨rfl, hargv, hempty⟩)
  have hlimit : 5 ≤ (terminating.rootSupervisor ⟨p, true⟩).timeLimit := by decide
  rw [decision_entering hlimit] at hrun
  rw [hp] at hgone
  exact ⟨hrun, hgone⟩

end Platform

end Overseer
