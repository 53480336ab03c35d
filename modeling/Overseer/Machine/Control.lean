import Overseer.Control.Basic
import Overseer.Machine.Start
import Overseer.Text.Words

/-!
Carrying out the agent's calls on the machine: process groups that exist can be ended, files are
deleted, and cleanup commands are run to their end.
-/

namespace Overseer.Machine

/-- The process groups besides the agent's own, and the signals they were sent. -/
structure Groups where
  agent : Nat
  environment : Environment
  others : List Int
  signalled : List (Int × Nat)
  deriving DecidableEq, Repr

namespace Groups

/-- The number of the signal that asks a process group to hang up. -/
def hangup : Nat := 1

/-- The words of a cleanup command. One that is not balanced, or has none, is a single word. -/
def commandWords (command : String) : List String :=
  match Text.Words.split? command with
  | some (first :: rest) => first :: rest
  | _ => [command]

/-- Lets everything that a child does take effect. -/
def playAll {κ : Type} (host : Host κ) (b : Behaviour) : Host κ :=
  b.activities.foldl (fun host a =>
    match a.act with
    | .print stream bytes => { host with console := host.console.print stream bytes }
    | .change c => { host with files := host.files.change c }
    | _ => host) host

/-- Runs a cleanup command with its process ids as further arguments. -/
def runCleanup (command : String) (pids : List String) (host : Host Groups) :
    Except Fault Unit × Host Groups :=
  let groups := host.processes
  let words := commandWords command
  let program := words.head?.getD ""
  match start groups.agent groups.environment program (words.tail ++ pids) [] host.files with
  | .error r => (.error (.cleanup command r.message), host)
  | .ok b =>
    let host := playAll host b
    match b.ending with
    | some (_, status) =>
      (if status.IsSuccess then .ok () else .error (.cleanup command status.display), host)
    | none => (.ok (), host)

/-- The control that acts on the machine. -/
def control : Control Groups
  | .killGroup group, host =>
    if group ∈ host.processes.others then
      (.ok (), { host with processes :=
        { host.processes with signalled := host.processes.signalled ++ [(group, hangup)] } })
    else (.error (.signal .noProcess), host)
  | .killOwnGroup, host => (.ok (), { host with groupEnded := true })
  | .removeFile p, host =>
    match host.files.remove p with
    | .error r => (.error (.file r), host)
    | .ok files => (.ok (), { host with files })
  | .runCleanup command pids, host => runCleanup command pids host

end Groups

end Overseer.Machine
