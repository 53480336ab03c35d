import Overseer.Files.Access
import Overseer.TaskLog.Replay
import Overseer.Text.Quoted

/-!
The task log as a file: creating it, adding entries, reading them back, and giving it up. A line
that is no text or no entry is passed over and hides no other.
-/

namespace Overseer

/-- A handle on a task log. A log that the handle owns is deleted when the handle is given up. -/
structure TaskLog where
  path : Path
  owned : Bool
  deriving DecidableEq, Repr

namespace TaskLog

/-- Starts the name of every task log. -/
def nameStart : String := "flowguard.pid."

/-- Where the log of an agent stands. -/
def pathFor (dir : Path) (pid : Nat) : Path :=
  dir.join (Path.ofString (nameStart ++ toString pid))

/-- A handle on a log that belongs to someone else. -/
def ofPath (p : Path) : TaskLog :=
  ⟨p, false⟩

/-- Creates the log of an agent, or empties the one that is there, and owns it. -/
def create (files : Files) (dir : Path) (pid : Nat) : Except Fault (TaskLog × Files) :=
  let p := pathFor dir pid
  match files.create p with
  | .ok (_, files) => .ok (⟨p, true⟩, files)
  | .error r =>
    .error (.during ("creating task log " ++ Text.Quoted.ofPath p.bytes) r.message)

/-- The line that an entry adds to a log. -/
def record (e : Entry) : Bytes :=
  Bytes.ofString e.line ++ [Bytes.newline]

/-- Adds one entry in a single write. -/
def append (log : TaskLog) (files : Files) (e : Entry) : Except Fault Unit × Files :=
  match files.appendTo log.path (record e) with
  | (.done, files) => (.ok (), files)
  | (.notOpened r, files) =>
    (.error (.during ("opening task log " ++ Text.Quoted.ofPath log.path.bytes ++ " for append")
      r.message), files)
  | (.notWritten r, files) =>
    (.error (.during ("appending to task log " ++ Text.Quoted.ofPath log.path.bytes) r.message),
      files)

/-- The entry on one line of a log, if it holds one. -/
def entryOfBytes? (line : Bytes) : Option Entry :=
  (Bytes.toString? line).bind Entry.ofLine?

/-- The entries in the content of a log. -/
def entriesOf (content : Bytes) : List Entry :=
  (Bytes.lines content).filterMap entryOfBytes?

/-- The entries of a log in the order of the file. -/
def entries (log : TaskLog) (files : Files) : Except Fault (List Entry) :=
  match files.openForReading log.path with
  | .error r => .error (.file r)
  | .ok .directory =>
    .error (.during ("reading task log " ++ Text.Quoted.ofPath log.path.bytes)
      (Refusal.system .isDirectory).message)
  | .ok node => .ok (entriesOf node.content)

def replay (log : TaskLog) (files : Files) : Except Fault Liveness :=
  (log.entries files).map Liveness.ofEntries

/-- Deletes the log file, if it is there and can be deleted. -/
def erase (log : TaskLog) (files : Files) : Files :=
  match files.remove log.path with
  | .ok files => files
  | .error _ => files

/-- Gives a handle up. -/
def close (log : TaskLog) (files : Files) : Files :=
  if log.owned then log.erase files else files

end TaskLog

end Overseer
