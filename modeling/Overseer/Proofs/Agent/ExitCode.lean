import Overseer.Agent
import Overseer.Control.Recording
import Overseer.Proofs.Supervisor.Record

/-!
The exit file of a requested command beside the exit code of the agent.
-/

namespace Overseer

variable {κ : Type}

/-- The command of a request, with where its output goes. -/
def ExecRequest.spec (request : ExecRequest) : LaunchSpec :=
  ⟨request.command, request.args, request.stdoutFile, request.stderrFile⟩

namespace Platform

/-- The session in which a requested command is launched. -/
def prepare (platform : Platform κ) (settings : Settings) (request : ExecRequest)
    (host : Host κ) : Session κ :=
  ((((Session.start host (Report.deskOfEnvironment? platform.environment)).loggingBy
    platform.logger).echo .out platform.handshake).note (.scriptAwaited
      (Readiness.awaits settings host.files (Path.ofString request.command))))

theorem execute_of_launch {platform : Platform κ} {settings : Settings} {request : ExecRequest}
    {host : Host κ} {l : Launched} {s : Session κ} (hsubscribe : platform.subscribe = .ok ())
    (hlaunch : platform.launch request.spec (platform.prepare settings request host) = (.ok l, s)) :
    let supervised := (platform.requestSupervisor request).supervise l .toSystem s
    platform.execute settings request host = (.ok supervised.1.code, supervised.2.run.host) := by
  unfold prepare ExecRequest.spec at hlaunch
  simp only [execute, hsubscribe, launchAndSupervise, hlaunch]
  rfl

/-- A requested command is not reached, or cannot be launched, or is supervised to its end. -/
theorem execute_cases (platform : Platform κ) (settings : Settings) (request : ExecRequest)
    (host : Host κ) :
    let launched := platform.launch request.spec (platform.prepare settings request host)
    (∃ fault, platform.execute settings request host = (.error fault, host)) ∨
      (∃ fault left, launched = (.error fault, left) ∧
        platform.execute settings request host = (.error fault, left.run.host)) ∨
      ∃ l s, launched = (.ok l, s) ∧
        let supervised := (platform.requestSupervisor request).supervise l .toSystem s
        platform.execute settings request host =
          (.ok supervised.1.code, supervised.2.run.host) := by
  intro launched
  cases hsubscribe : platform.subscribe with
  | error fault => exact .inl ⟨fault, by simp only [execute, hsubscribe]⟩
  | ok _ =>
    right
    cases hlaunch : launched with
    | mk result s =>
      cases result with
      | error fault =>
        refine .inl ⟨fault, s, rfl, ?_⟩
        unfold launched prepare ExecRequest.spec at hlaunch
        simp only [execute, hsubscribe, launchAndSupervise, hlaunch]
        rfl
      | ok l => exact .inr ⟨l, s, rfl, execute_of_launch hsubscribe hlaunch⟩

end Platform

end Overseer
