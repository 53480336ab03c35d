import Overseer.LogLevel
import Overseer.Outcome
import Overseer.TaskLog.Recovery

/-!
What the agent logs on its standard error. Every line has a level and is shown as a whole if the level
in force admits it.

Lines of the levels debug and trace are left out, and so are those that recovery logs on its way.
-/

namespace Overseer

/-- A line that the agent logs in a supervised run. -/
inductive LogLine
  | started (child : Nat) (command : String) (args : List String)
  | decided (child : Nat) (o : Outcome)
  /-- The signal that decided the run. -/
  | interrupted (s : Signal)
  | exitNotRecorded (exitFile : String) (fault : Fault)
  | recovered (report : RecoveryReport)
  | recoveryAborted (fault : Fault)
  /-- The agent's own process group is about to be ended. -/
  | endingGroup (child : Nat)
  | groupNotEnded (fault : Fault)
  /-- A capture file did not take a chunk. The agent learns of it with the next chunk, when it gives
      the file up, or when it closes the file. -/
  | captureRefused (stream : Stream) (r : Refusal)
  | captureNotClosed (stream : Stream) (fault : Fault)
  | messageTooLong (length : Nat)
  | messageRefused (fault : Fault)
  deriving DecidableEq, Repr

namespace LogLine

def level : LogLine → LogLevel
  | exitNotRecorded _ _ | recoveryAborted _ | messageTooLong _ | messageRefused _ => .error
  | interrupted _ | groupNotEnded _ | captureRefused _ _ | captureNotClosed _ _ => .warn
  | started _ _ _ | decided _ _ | recovered _ | endingGroup _ => .info

/-- What a line says, without what it tells in particular. -/
def message : LogLine → String
  | started _ _ _ => "started child process"
  | decided _ _ => "supervision decided"
  | interrupted _ => "received OS signal"
  | exitNotRecorded _ _ => "could not write exit file"
  | recovered _ => "crash recovery finished"
  | recoveryAborted _ => "crash recovery aborted"
  | endingGroup _ => "killing process group"
  | groupNotEnded _ => "could not signal own process group"
  | captureRefused _ _ => "writing capture file failed; no longer capturing"
  | captureNotClosed _ _ => "closing capture file failed"
  | messageTooLong _ => "message too long; dropping message"
  | messageRefused _ => "sending report message failed"

/-- The line that a recovery is logged by. -/
def ofRecovery : Except Fault RecoveryReport → LogLine
  | .ok report => recovered report
  | .error fault => recoveryAborted fault

/-- The line that a failure is logged by, if there is one. -/
def ofFault (line : Fault → LogLine) : Except Fault Unit → List LogLine
  | .ok () => []
  | .error fault => [line fault]

theorem mem_ofFault_iff {line : Fault → LogLine} {result : Except Fault Unit} {logged : LogLine} :
    logged ∈ ofFault line result ↔ ∃ fault, result = .error fault ∧ logged = line fault := by
  cases result <;> simp [ofFault]

end LogLine

/-- How the agent logs. -/
structure Logger where
  /-- The level in force. Before logging has been set up there is none, and nothing is shown. -/
  level : Option LogLevel
  /-- How a line reads that is shown after so many others. The text begins with the time. -/
  text : Nat → LogLine → Bytes

namespace Logger

/-- Shows nothing. -/
def silent : Logger :=
  ⟨none, fun _ _ => []⟩

def setLevel (logger : Logger) (level : LogLevel) : Logger :=
  { logger with level := some level }

def shows (logger : Logger) (line : LogLine) : Bool :=
  logger.level.any fun level => level.admits line.level

/-- The texts of lines that are shown after so many others. -/
def texts (logger : Logger) : Nat → List LogLine → List Bytes
  | _, [] => []
  | before, line :: later => logger.text before line :: logger.texts (before + 1) later

theorem texts_append (logger : Logger) (before : Nat) (earlier later : List LogLine) :
    logger.texts before (earlier ++ later) =
      logger.texts before earlier ++ logger.texts (before + earlier.length) later := by
  induction earlier generalizing before with
  | nil => rfl
  | cons line rest ih =>
    rw [List.cons_append, texts, texts, ih, List.length_cons, Nat.add_right_comm]
    rfl

end Logger

end Overseer
