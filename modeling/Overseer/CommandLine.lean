import Overseer.Agent
import Overseer.Usage

/-!
The whole program: from an argument list to an exit code, with the text that a failure prints.

Left out throughout are permissions, links and times of files, so that the agent may read and write
whatever there is; lines that are logged at the levels debug and trace, and the make-up of those that
are shown; a lock that was poisoned; and how long anything takes beyond the order of events. A regular
file that is open takes every byte.
-/

namespace Overseer.Platform

variable {κ : Type}

/-- From now on the agent logs at the level that the environment or the settings name. -/
def setUpLogging (platform : Platform κ) (settings : Settings) : Platform κ :=
  let requested := platform.environment.text? LogLevel.levelVariable
  { platform with
    logger := platform.logger.setLevel (LogLevel.resolve requested settings.logLevel) }

/-- Understands the command line, reads the settings, and does what was asked for. The program file
    is resolved before anything else happens. -/
def runArgs (platform : Platform κ) (args : List String) (host : Host κ) :
    Except Fault Nat × Host κ :=
  match Invocation.parse platform.environment host.files args with
  | .error fault => (.error fault, host)
  | .ok invocation =>
    match Settings.load platform.environment host.files invocation.exe with
    | .error fault => (.error fault, host)
    | .ok settings => (platform.setUpLogging settings).run invocation settings host

/-- What a failure prints: the usage summary for a malformed command line, else the failure in
    full. -/
def failureText (fault : Fault) (args : List String) : String :=
  if fault.isUsage then Usage.text fault.message args
  else "flowguard error: " ++ fault.dump ++ "\n"

/-- The exit code of the program. -/
def main (platform : Platform κ) (args : List String) (host : Host κ) : Nat × Host κ :=
  match platform.runArgs args host with
  | (.ok code, host) => (code, host)
  | (.error fault, host) =>
    (1, { host with console := host.console.print .err (Bytes.ofString (failureText fault args)) })

end Overseer.Platform
