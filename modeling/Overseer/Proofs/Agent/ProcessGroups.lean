import Overseer.CommandLine
import Overseer.Proofs.Invocation.Kill
import Overseer.Proofs.Supervisor.Effects
import Overseer.Proofs.TaskLog.Recorded

/-!
Which process groups the agent can ask to end at all: it makes no difference to any run what a
control would do with other groups.
-/

namespace Overseer

variable {κ : Type}

/-- A call that ends no process group up to a number. -/
def Call.IsAbove (bound : Int) (c : Call) : Prop :=
  ∀ group, c = .killGroup group → bound < group

namespace Control

variable {control other : Control κ}

/-- Two controls that carry out certain calls alike. -/
def AgreeOn (calls : Call → Prop) (control other : Control κ) : Prop :=
  ∀ c, calls c → control c = other c

theorem AgreeOn.mono {calls fewer : Call → Prop} (hagree : AgreeOn calls control other)
    (hfewer : ∀ c, fewer c → calls c) : AgreeOn fewer control other :=
  fun c hc => hagree c (hfewer c hc)

theorem answers_congr {calls : List Call} (hagree : AgreeOn (· ∈ calls) control other)
    (host : Host κ) : control.answers calls host = other.answers calls host := by
  induction calls generalizing host with
  | nil => rfl
  | cons c later ih =>
    have hlater := ih (hagree.mono fun _ => List.mem_cons_of_mem c)
    rw [answers, answers, hagree c (List.mem_cons_self ..), hlater]

theorem carryOut_congr {effects : List Effect}
    (hagree : AgreeOn (fun c => .called c ∈ effects) control other) (run : Run κ) :
    run.carryOut control effects = run.carryOut other effects := by
  induction effects generalizing run with
  | nil => rfl
  | cons e later ih =>
    have hlater := ih (hagree.mono fun _ => List.mem_cons_of_mem e)
    have hnow : run.carryOut control [e] = run.carryOut other [e] := by
      cases e with
      | called c =>
        have hc := hagree c (List.mem_cons_self ..)
        simp only [Run.carryOut, List.foldl_cons, List.foldl_nil, Effect.enact, hc]
      | scriptAwaited | exitRecorded | logRead | logErased | drained | exitReported => rfl
    rw [Run.carryOut_cons, hnow, hlater, ← Run.carryOut_cons]

end Control

namespace Plan

/-- A plan ends no group but those that are above one. -/
theorem lt_of_mem_kill {live : List (String × Option String)} {group : Int}
    (hgroup : group ∈ (ofLive live).kill) : 1 < group ∧ group ≤ Text.NumeralRange.int32.hi := by
  obtain ⟨pid, ⟨hread, hlt⟩, -⟩ := exists_of_mem_kill_ofLive hgroup
  exact ⟨hlt, (Text.NumeralRange.read?_bounds (by decide) (by decide) hread).2⟩

theorem isAbove_of_mem_calls {live : List (String × Option String)} {c : Call}
    (hc : c ∈ (ofLive live).calls) : c.IsAbove 1 := by
  rintro group rfl
  have hgroup : group ∈ (ofLive live).kill := by
    simpa [calls] using hc
  exact (lt_of_mem_kill hgroup).1

end Plan

variable {control other : Control κ}

/-- Recovery does not depend on what would become of groups up to one. -/
theorem TaskLog.cleanUpAll_congr (hagree : control.AgreeOn (Call.IsAbove 1) other) (log : TaskLog)
    (run : Run κ) : log.cleanUpAll control run = log.cleanUpAll other run := by
  unfold cleanUpAll
  cases log.replay run.host.files with
  | error fault => rfl
  | ok liveness =>
    have hcalls : control.AgreeOn (· ∈ liveness.plan.calls) other :=
      hagree.mono fun _ hc => Plan.isAbove_of_mem_calls hc
    have hmade (run : Run κ) : control.AgreeOn (fun c => Effect.called c ∈
        (Exchange.upToFault (control.answers liveness.plan.calls run.host)).map Exchange.effect)
        other := by
      refine hcalls.mono fun c hc => ?_
      obtain ⟨x, hx, heffect⟩ := List.mem_map.1 hc
      cases heffect
      have hcall := List.mem_map_of_mem (f := Prod.fst) ((Exchange.upToFault_isPrefix _).subset hx)
      rwa [Control.map_fst_answers] at hcall
    dsimp only
    rw [Recovery.perform_eq, Recovery.perform_eq, ← Control.answers_congr hcalls,
      Control.carryOut_congr (hmade _)]

namespace Supervisor

theorem recover_congr {sup : Supervisor κ} (hagree : sup.control.AgreeOn (Call.IsAbove 1) other)
    (s : Session κ) : { sup with control := other }.recover s = sup.recover s := by
  unfold recover
  cases sup.log with
  | none => rfl
  | some log => simp only [TaskLog.cleanUpAll_congr hagree]

theorem kill_congr {sup : Supervisor κ} (hagree : sup.control.AgreeOn (Call.IsAbove 1) other)
    (child : Nat) (s : Session κ) : { sup with control := other }.kill child s = sup.kill child s := by
  have hown : sup.control .killOwnGroup = other .killOwnGroup := hagree _ fun group hgroup => by
    cases hgroup
  simp only [kill, Run.call, hown, recover_congr hagree]

/-- A supervised run does not depend on what would become of groups up to one. -/
theorem supervise_congr {sup : Supervisor κ} (hagree : sup.control.AgreeOn (Call.IsAbove 1) other)
    (l : Launched) (sub : Subscription) (s : Session κ) :
    { sup with control := other }.supervise l sub s = sup.supervise l sub s := by
  have hconclude (o : Outcome) (s : Session κ) :
      { sup with control := other }.conclude l o s = sup.conclude l o s := by
    unfold conclude
    rw [kill_congr hagree]
    rfl
  rw [supervise_eq, supervise_eq, hconclude]
  rfl

end Supervisor

namespace Platform

variable {platform : Platform κ}

theorem launchAndSupervise_congr (hagree : platform.control.AgreeOn (Call.IsAbove 1) other)
    (spec : LaunchSpec) (sup : Supervisor κ) (hsup : sup.control = platform.control)
    (sub : Subscription) (s : Session κ) :
    { platform with control := other }.launchAndSupervise spec { sup with control := other } sub s =
      platform.launchAndSupervise spec sup sub s := by
  have hlaunch : { platform with control := other }.launch spec s = platform.launch spec s := rfl
  rw [← hsup] at hagree
  unfold launchAndSupervise
  rw [hlaunch]
  split
  · rfl
  · rw [Supervisor.supervise_congr hagree]

theorem execute_congr (hagree : platform.control.AgreeOn (Call.IsAbove 1) other)
    (settings : Settings) (request : ExecRequest) (host : Host κ) :
    { platform with control := other }.execute settings request host =
      platform.execute settings request host := by
  have hrun := launchAndSupervise_congr hagree
    ⟨request.command, request.args, request.stdoutFile, request.stderrFile⟩
    (platform.requestSupervisor request) rfl .toSystem
  unfold execute
  cases platform.subscribe with
  | error fault => rfl
  | ok _ =>
    dsimp only
    rw [← hrun]
    rfl

theorem launchInterpreter_congr (hagree : platform.control.AgreeOn (Call.IsAbove 1) other)
    (settings : Settings) (exe : Path) (args : List String) (host : Host κ) :
    { platform with control := other }.launchInterpreter settings exe args host =
      platform.launchInterpreter settings exe args host := by
  have hrun (log : TaskLog) (host : Host κ) :
      { platform with control := other }.runInterpreter settings exe log args host =
        platform.runInterpreter settings exe log args host := by
    have hsupervised := launchAndSupervise_congr hagree
      ⟨settings.interpreter, interpreterArgs settings exe log args, "", ""⟩
      (platform.rootSupervisor log) rfl .toSystem
    unfold runInterpreter
    cases platform.subscribe with
    | error fault => rfl
    | ok _ =>
      dsimp only
      rw [← hsupervised]
      rfl
  unfold launchInterpreter
  cases TaskLog.create host.files platform.logDirectory platform.pid with
  | error fault => rfl
  | ok created =>
    dsimp only
    rw [hrun]

/-- A run of the agent ends the group that it is asked to end, or none up to one. -/
theorem run_congr {invocation : Invocation}
    (hagree : platform.control.AgreeOn (Call.IsAbove 1) other)
    (hkill : ∀ group, invocation.mode = .kill group →
      platform.control (.killGroup group) = other (.killGroup group))
    (settings : Settings) (host : Host κ) :
    { platform with control := other }.run invocation settings host =
      platform.run invocation settings host := by
  unfold run
  cases hmode : invocation.mode with
  | kill group =>
    simp only [endGroup, hkill group hmode]
  | execute request => exact execute_congr hagree settings request host
  | interpreter args => exact launchInterpreter_congr hagree settings invocation.exe args host

/-- Unless it is asked to end group one, the program does not depend on what would become of groups
    up to one. -/
theorem main_congr (hagree : platform.control.AgreeOn (Call.IsAbove 1) other) {args : List String}
    {host : Host κ} (hone : ∀ invocation,
      Invocation.parse platform.environment host.files args = .ok invocation →
        invocation.mode ≠ .kill 1) :
    { platform with control := other }.main args host = platform.main args host := by
  have hrun : { platform with control := other }.runArgs args host = platform.runArgs args host := by
    unfold runArgs
    dsimp only
    cases hparse : Invocation.parse platform.environment host.files args with
    | error fault => rfl
    | ok invocation =>
      dsimp only
      have hkill (group : Int) (hmode : invocation.mode = .kill group) :
          platform.control (.killGroup group) = other (.killGroup group) := by
        obtain ⟨-, -, -, hpositive⟩ := Invocation.exists_mem_of_parse hparse hmode
        have hne : group ≠ 1 := by
          rintro rfl
          exact hone invocation hparse hmode
        refine hagree _ fun known hknown => ?_
        cases hknown
        omega
      cases Settings.load platform.environment host.files invocation.exe with
      | error fault => rfl
      | ok settings =>
        have hlogging : (platform.setUpLogging settings).control.AgreeOn (Call.IsAbove 1) other :=
          hagree
        exact run_congr hlogging hkill settings host
  rw [main, main, hrun]

/-- No process group up to one is ended by a recovery, whatever the task log holds, nor by the
    program, whatever it is asked for, but for group one if that is what the command line asks for:
    a recovery would skip it there. On all other numbers the two guards agree. -/
theorem ends_no_group_up_to_one (hagree : platform.control.AgreeOn (Call.IsAbove 1) other) :
    (∀ (log : TaskLog) (run : Run κ),
      log.cleanUpAll platform.control run = log.cleanUpAll other run) ∧
    (∀ liveness : Liveness, ∀ group ∈ liveness.plan.kill,
      1 < group ∧ group ≤ Text.NumeralRange.int32.hi) ∧
    (∀ (args : List String) (host : Host κ), (∀ invocation,
      Invocation.parse platform.environment host.files args = .ok invocation →
        invocation.mode ≠ .kill 1) →
      { platform with control := other }.main args host = platform.main args host) ∧
    (∀ (env : Environment) (files : Files) (args : List String) (invocation : Invocation)
      (group : Int), Invocation.parse env files args = .ok invocation →
        invocation.mode = .kill group →
        0 < group ∧ group ≤ Text.NumeralRange.int32.hi ∧
          (group ≠ 1 → ∃ pid ∈ args, Disposition.of pid none = .kill group)) ∧
    ∀ (pid : String) (group : Int), Disposition.of pid none = .kill group ↔
      Invocation.parseKill [pid] = .ok group ∧ group ≠ 1 := by
  have hguards (pid : String) (group : Int) : Disposition.of pid none = .kill group ↔
      Invocation.parseKill [pid] = .ok group ∧ group ≠ 1 := by
    rw [Disposition.of_eq_kill_iff, Disposition.IsGroup, Invocation.parseKill_singleton_iff]
    constructor
    · rintro ⟨-, hread, hlt⟩
      exact ⟨⟨hread, by omega⟩, by omega⟩
    · rintro ⟨⟨hread, hpositive⟩, hne⟩
      exact ⟨rfl, hread, by omega⟩
  refine ⟨TaskLog.cleanUpAll_congr hagree, fun liveness group => Plan.lt_of_mem_kill,
    fun args host => main_congr hagree, ?_, hguards⟩
  intro env files args invocation group hparse hmode
  obtain ⟨pid, hpid, hread, hpositive⟩ := Invocation.exists_mem_of_parse hparse hmode
  have hbounds := Text.NumeralRange.read?_bounds (by decide) (by decide) hread
  exact ⟨hpositive, hbounds.2, fun hne => ⟨pid, hpid, (hguards pid group).2
    ⟨Invocation.parseKill_singleton_iff.2 ⟨hread, hpositive⟩, hne⟩⟩⟩

/-- A platform on which no command can be started. -/
def keepingLedger : Platform Ledger :=
  ⟨4711, .empty, .ok (), fun _ _ _ _ => .error (.system .notFound), Ledger.control, ⟨[]⟩, .silent⟩

/-- A host without any files, on which nothing has been done yet. -/
def untouched : Host Ledger := ⟨⟨[], [], []⟩, .empty, false, Ledger.start [] []⟩

/-- A control that refuses to end groups up to one. -/
def refusingReserved : Control Ledger
  | .killGroup group, host =>
    if 1 < group then Ledger.control (.killGroup group) host
    else (.error (.signal .noProcess), host)
  | c, host => Ledger.control c host

/-- Group 4321 is ended, and no other; whether group one could be ended makes no difference. -/
theorem ends_group_4321 :
    let args := ["/fg", "kill", "4321"]
    let run := keepingLedger.main args untouched
    keepingLedger.control.AgreeOn (Call.IsAbove 1) refusingReserved ∧
      run.1 = 0 ∧ run.2.processes.killed = [4321] ∧
      { keepingLedger with control := refusingReserved }.main args untouched = run := by
  intro args run
  have hagree : keepingLedger.control.AgreeOn (Call.IsAbove 1) refusingReserved := by
    intro c hc
    funext host
    cases c with
    | killGroup group => exact (if_pos (hc group rfl)).symm
    | killOwnGroup | removeFile p | runCleanup command pids => rfl
  have hparse : Invocation.parse keepingLedger.environment untouched.files args =
      .ok ⟨.kill 4321, args, Path.ofString "/fg"⟩ := by decide +kernel
  obtain ⟨-, -, hmain, -⟩ := ends_no_group_up_to_one hagree
  refine ⟨hagree, by decide +kernel, by decide +kernel, hmain args untouched fun invocation hok => ?_⟩
  rw [hparse] at hok
  cases hok
  decide

/-- The command line takes group one, which a recovery skips. -/
theorem ends_group_one_on_request :
    let args := ["/fg", "kill", "1"]
    Invocation.parse keepingLedger.environment untouched.files args =
        .ok ⟨.kill 1, args, Path.ofString "/fg"⟩ ∧
      (keepingLedger.main args untouched).2.processes.killed = [1] ∧
      Disposition.of "1" none = .skip := by
  decide +kernel

end Platform

end Overseer
