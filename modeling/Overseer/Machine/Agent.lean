import Overseer.CommandLine
import Overseer.Machine.Control

/-!
The agent as a program of the machine, with everything that it finds there.
-/

namespace Overseer.Machine

/-- Names the directory for files that do not last. -/
def temporaryVariable : String := "TMPDIR"

/-- Where files go that do not last. -/
def temporaryDirectory (env : Environment) : Path :=
  match env.value? temporaryVariable with
  | some dir => ⟨dir⟩
  | none => Path.ofString "/tmp"

/-- How the agent logs on the machine, which has no clock: a line is shown without the time. -/
def logger : Logger where
  level := none
  text _ line := Bytes.ofString (line.level.name ++ " " ++ line.message ++ "\n")

/-- What the agent finds on the machine, whatever control it is given. -/
def platform {κ : Type} (agent : Nat) (env : Environment) (control : Control κ)
    (logDirectory : Path) : Platform κ where
  pid := agent
  environment := env
  subscribe := .ok ()
  start command args captures host := start agent env command args captures host.files
  control
  logDirectory
  logger

/-- A machine on which nothing but the agent and some process groups run. -/
def host (agent : Nat) (env : Environment) (others : List Int) (files : Files) : Host Groups :=
  ⟨files, .empty, false, ⟨agent, env, others, []⟩⟩

/-- Runs the agent as a program: its exit code, and the machine as it leaves it. -/
def run (agent : Nat) (env : Environment) (args : List String) (files : Files) :
    Nat × Host Groups :=
  (platform agent env Groups.control (temporaryDirectory env)).main args (host agent env [] files)

end Overseer.Machine
