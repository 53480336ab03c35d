import Overseer.Control.Basic

/-!
A control that touches no process and records every call instead. Deletions really take place.
-/

namespace Overseer

/-- What was asked for, and which calls are to fail. -/
structure Ledger where
  killed : List Int
  ownKills : Nat
  removed : List Path
  commands : List (String × List String)
  failKills : List Int
  failCommands : List String
  deriving DecidableEq, Repr

namespace Ledger

/-- A ledger without calls. -/
def start (failKills : List Int) (failCommands : List String) : Ledger :=
  ⟨[], 0, [], [], failKills, failCommands⟩

/-- Changes the ledger of a host. -/
def update (host : Host Ledger) (f : Ledger → Ledger) : Host Ledger :=
  { host with processes := f host.processes }

/-- The control that keeps the ledger. A kill that fails is not recorded, a cleanup command is. -/
def control : Control Ledger
  | .killGroup group, host =>
    if group ∈ host.processes.failKills then (.error (.signal .noProcess), host)
    else (.ok (), update host fun l => { l with killed := l.killed ++ [group] })
  | .killOwnGroup, host => (.ok (), update host fun l => { l with ownKills := l.ownKills + 1 })
  | .removeFile p, host =>
    match host.files.remove p with
    | .error r => (.error (.file r), host)
    | .ok files =>
      (.ok (), update { host with files } fun l => { l with removed := l.removed ++ [p] })
  | .runCleanup command pids, host =>
    (if command ∈ host.processes.failCommands then .error (.cleanup command "exit status: 1")
      else .ok (),
      update host fun l => { l with commands := l.commands ++ [(command, pids)] })

end Ledger

end Overseer
