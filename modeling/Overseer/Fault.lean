import Overseer.Errno
import Overseer.Text.Quoted

/-!
The ways in which the agent fails: causes, messages, and the full dump that the command line prints.
-/

namespace Overseer

/-- Why an operation on a file or a process was refused. -/
inductive Refusal
  /-- The system reported an error number. -/
  | system (e : Errno)
  /-- A command or one of its arguments holds a zero byte. -/
  | zeroInCommand
  /-- A file name holds a zero byte. -/
  | zeroInFileName
  deriving DecidableEq, Repr

namespace Refusal

def message : Refusal → String
  | system e => e.message
  | zeroInCommand => "nul byte found in provided data"
  | zeroInFileName => "file name contained an unexpected NUL byte"

/-- A refusal in full, as a dump shows it. -/
def dump : Refusal → String
  | system e =>
    s!"Os \x7b code: {e.number}, kind: {e.category}, message: " ++ Text.Quoted.ofString e.text ++
      " \x7d"
  | r =>
    "Error \x7b kind: InvalidInput, message: " ++ Text.Quoted.ofString r.message ++ " \x7d"

end Refusal

/-- A failure of the agent. -/
inductive Fault
  /-- The command line is malformed. -/
  | usage (message : String)
  /-- A setting has an invalid value. -/
  | settings (message : String)
  /-- A time limit is no number. -/
  | timeLimit (text : String)
  /-- The agent's own program file was not found. -/
  | programNotFound (name reason : String)
  /-- A command could not be started. -/
  | start (command : String) (cause : Refusal)
  /-- A cleanup command failed. -/
  | cleanup (command reason : String)
  /-- An operation on a file failed. -/
  | file (cause : Refusal)
  /-- Sending a signal failed. -/
  | signal (e : Errno)
  /-- An operation failed for a cause that is given with what was being done. -/
  | during (activity cause : String)
  deriving DecidableEq, Repr

namespace Fault

def message : Fault → String
  | usage message => message
  | settings message => "Configuration error: " ++ message
  | timeLimit text => "Invalid time: '" ++ text ++ "'"
  | programNotFound name reason =>
    "cannot resolve executable path for '" ++ name ++ "': " ++ reason
  | start command cause => "cannot start command '" ++ command ++ "': " ++ cause.message
  | cleanup command reason => "cleanup command '" ++ command ++ "' failed: " ++ reason
  | file cause => "IO error: " ++ cause.message
  | signal e => "signal error: " ++ e.described
  | during activity _ => activity

/-- Failures for which the usage summary is shown. -/
def isUsage : Fault → Bool
  | usage _ | timeLimit _ => true
  | _ => false

/-- The lines of a cause, each set in by four blanks. -/
def indented (cause : String) : String :=
  "\n".intercalate ((cause.splitOn "\n").map fun line => if line = "" then "" else "    " ++ line)

/-- A failure in full: its kind and everything it carries. -/
def dump : Fault → String
  | usage message => "Usage(" ++ Text.Quoted.ofString message ++ ")"
  | settings message => "ConfigError(" ++ Text.Quoted.ofString message ++ ")"
  | timeLimit text => "InvalidTimeout(" ++ Text.Quoted.ofString text ++ ")"
  | programNotFound name reason =>
    "ExecutableNotFound \x7b name: " ++ Text.Quoted.ofString name ++ ", reason: " ++
      Text.Quoted.ofString reason ++ " \x7d"
  | start command cause =>
    "Spawn \x7b command: " ++ Text.Quoted.ofString command ++ ", source: " ++ cause.dump ++ " \x7d"
  | cleanup command reason =>
    "CleanupCommand \x7b command: " ++ Text.Quoted.ofString command ++ ", reason: " ++
      Text.Quoted.ofString reason ++ " \x7d"
  | file cause => "IoError(" ++ cause.dump ++ ")"
  | signal e => "Signal(" ++ e.name ++ ")"
  | during activity cause => "Other(" ++ activity ++ "\n\nCaused by:\n" ++ indented cause ++ ")"

end Fault

end Overseer
