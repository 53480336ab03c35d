import Overseer.Files.Access

/-!
Everything by which the agent touches other processes: the calls it makes, the host that they act
on, and the record of what was done in which order.
-/

namespace Overseer

/-- What a process has written to its two output streams. -/
structure Console where
  out : Bytes
  err : Bytes
  deriving DecidableEq, Repr

/-- The two output streams of a process. -/
inductive Stream
  | out
  | err
  deriving DecidableEq, Repr

namespace Console

def empty : Console := ⟨[], []⟩

/-- Adds bytes to one stream. -/
def print (c : Console) : Stream → Bytes → Console
  | .out, bytes => { c with out := c.out ++ bytes }
  | .err, bytes => { c with err := c.err ++ bytes }

end Console

/-- A call by which other processes, or files they left, are touched. -/
inductive Call
  /-- Ask a process group to hang up. -/
  | killGroup (group : Int)
  /-- Ask the agent's own process group to hang up. -/
  | killOwnGroup
  /-- Delete a file that an unfinished task left. -/
  | removeFile (p : Path)
  /-- Run a cleanup command once, with these arguments. -/
  | runCleanup (command : String) (pids : List String)
  deriving DecidableEq, Repr

/-- What calls act on: the files, the agent's own streams, and whatever else a way of carrying out
    calls keeps. -/
structure Host (κ : Type) where
  files : Files
  console : Console
  /-- Whether the processes of the agent's own group have been ended. -/
  groupEnded : Bool
  processes : κ

/-- A way of carrying out calls. -/
abbrev Control (κ : Type) := Call → Host κ → Except Fault Unit × Host κ

/-- A step of a supervised run that others can observe. -/
inductive Effect
  /-- A generated script was held back; whether it was complete in the end. -/
  | scriptAwaited (complete : Bool)
  /-- A text was to be written to the exit file. -/
  | exitRecorded (file text : String)
  /-- The task log was to be read. -/
  | logRead (p : Path)
  | called (c : Call)
  /-- The task log was to be deleted. -/
  | logErased (p : Path)
  /-- The output of the child was copied to its end, or given up. -/
  | drained
  /-- A text was handed to the reporter as the outcome. -/
  | exitReported (text : String)
  deriving DecidableEq, Repr

/-- A host with the effects so far, in order. -/
structure Run (κ : Type) where
  host : Host κ
  trace : List Effect

namespace Run

variable {κ : Type}

def start (host : Host κ) : Run κ :=
  ⟨host, []⟩

/-- Notes an effect. -/
def note (run : Run κ) (e : Effect) : Run κ :=
  { run with trace := run.trace ++ [e] }

/-- Changes the files. -/
def withFiles (run : Run κ) (f : Files → Files) : Run κ :=
  { run with host := { run.host with files := f run.host.files } }

/-- Makes a call and notes it. -/
def call (control : Control κ) (c : Call) (run : Run κ) : Except Fault Unit × Run κ :=
  ((control c run.host).1, { host := (control c run.host).2, trace := run.trace ++ [.called c] })

end Run

end Overseer
