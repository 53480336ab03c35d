import Overseer.Child
import Overseer.Environment

/-!
A process of the machine while it runs: its own view of the files, its clock, what its descriptors
lead to, and what it has done so far.

Inside the machine a text stands for bytes: each of its characters is the byte of its number.
-/

namespace Overseer.Machine

/-- What a descriptor leads to. -/
inductive Target
  /-- A stream that the agent gave. -/
  | stream (s : Stream)
  /-- A file that is open, by its number. -/
  | file (number : Nat)
  /-- A device that swallows everything, or refuses it for want of space. -/
  | device (full : Bool)
  /-- To a process that reads along. -/
  | reader (process : Nat)
  /-- From what others have written for the process, by its place among the pipes. -/
  | pipe (number : Nat)
  deriving DecidableEq, Repr

/-- Something written for a process that reads along, or nothing more from one that lets go. -/
structure Message where
  /-- The writing process and its ancestors. -/
  lineage : Lineage
  reader : Nat
  time : Nat
  bytes : Bytes
  deriving DecidableEq, Repr

/-- What there is to read: pieces with the times at which they arrive, and when the end has come. -/
structure Input where
  pieces : List (Nat × Bytes)
  closed : Nat
  deriving DecidableEq, Repr

namespace Input

/-- All bytes, from the beginning on. -/
def ofBytes (bytes : Bytes) : Input :=
  ⟨if bytes = [] then [] else [(0, bytes)], 0⟩

def bytes (i : Input) : Bytes :=
  i.pieces.flatMap Prod.snd

end Input

structure Process where
  /-- The process id of the agent. -/
  agent : Nat
  files : Files
  /-- Milliseconds since the child was started. -/
  clock : Nat
  environment : Environment
  /-- The descriptors that are open. -/
  descriptors : List (Nat × Target)
  /-- Where output went before and is to go again. -/
  aside : List Target
  /-- How many files have been opened. -/
  openings : Nat
  /-- What is left to read of every pipe. -/
  pipes : List Input
  /-- The files into which the agent copies a stream. -/
  captures : List (Stream × Handle)
  /-- The process itself and its ancestors. -/
  lineage : Lineage
  /-- What was done so far, the last first. -/
  done : List Activity
  /-- What was written for readers, the last first. -/
  messages : List Message
  /-- Why output was refused, if it was. -/
  refused : Option Errno

namespace Process

/-- The process's own id. -/
def id (p : Process) : Nat :=
  (p.lineage.head?.map Birth.process).getD p.agent

/-- The id of the process that started it. -/
def parent (p : Process) : Nat :=
  (p.lineage.tail.head?.map Birth.process).getD p.agent

/-- Does something now. -/
def act (p : Process) (a : Act) : Process :=
  { p with done := ⟨p.clock, p.lineage, a⟩ :: p.done }

/-- Sees a change of the files. -/
def see (p : Process) (c : Files.Change) : Process :=
  { p with
    files := p.files.change c
    captures := p.captures.map fun (s, handle) => (s, handle.after c) }

/-- Changes the files. -/
def change (p : Process) (c : Files.Change) : Process :=
  (p.see c).act (.change c)

/-- What a descriptor leads to, if it is open. -/
def target? (p : Process) (descriptor : Nat) : Option Target :=
  p.descriptors.lookup descriptor

/-- Closes a descriptor. -/
def shut (p : Process) (descriptor : Nat) : Process :=
  { p with descriptors := p.descriptors.filter fun d => d.1 != descriptor }

/-- Lets a descriptor lead somewhere. -/
def point (p : Process) (descriptor : Nat) (target : Target) : Process :=
  { p.shut descriptor with descriptors := (descriptor, target) :: (p.shut descriptor).descriptors }

/-- The descriptor from which input is read. -/
def inputDescriptor : Nat := 0

/-- The descriptor to which output goes. -/
def outputDescriptor : Nat := 1

/-- The descriptor to which complaints go. -/
def errorDescriptor : Nat := 2

/-- Opens the file at a location. -/
def openAt (p : Process) (loc : Location) (atEnd : Bool) : Target × Process :=
  (.file p.openings, { p with openings := p.openings + 1 }.change (.openAt p.openings loc atEnd))

/-- Sees what the agent copies into a capture file. -/
def seeCopy (p : Process) (s : Stream) (bytes : Bytes) : Process :=
  match p.captures.lookup s with
  | none => p
  | some handle =>
    match p.files.write handle bytes with
    | .error _ => p
    | .ok (handle, files) =>
      { p with
        files
        captures := p.captures.map fun capture => if capture.1 = s then (s, handle) else capture }

/-- Writes bytes to a target. -/
def send (p : Process) (target : Target) (bytes : Bytes) : Process :=
  if bytes = [] then p
  else
    match target with
    | .stream s => (p.act (.print s bytes)).seeCopy s bytes
    | .file number => p.change (.writeOpen number bytes)
    | .device full => if full then { p with refused := some .noSpace } else p
    | .reader process =>
      { p with messages := ⟨p.lineage, process, p.clock, bytes⟩ :: p.messages }.act (.tell process)
    | .pipe _ => { p with refused := some .badDescriptor }

/-- Writes bytes to a descriptor. -/
def write (p : Process) (descriptor : Nat) (bytes : Bytes) : Process :=
  match p.target? descriptor with
  | some target => p.send target bytes
  | none => if bytes = [] then p else { p with refused := some .badDescriptor }

/-- Prints a text. -/
def print (p : Process) (text : String) : Process :=
  p.write outputDescriptor (Bytes.gather text)

/-- Prints a line of complaint, which nobody minds being refused. -/
def complain (p : Process) (text : String) : Process :=
  { p.write errorDescriptor (Bytes.gather text ++ [Bytes.newline]) with refused := p.refused }

/-- Lets time pass. -/
def wait (p : Process) (milliseconds : Nat) : Process :=
  { p with clock := p.clock + milliseconds }

/-- Waits for a moment, unless it has passed already. -/
def waitUntil (p : Process) (time : Nat) : Process :=
  { p with clock := max p.clock time }

/-- What there is to read. -/
def available (p : Process) : Input :=
  match p.target? inputDescriptor with
  | some (.pipe number) => p.pipes[number]?.getD ⟨[], 0⟩
  | some (.file number) => .ofBytes (p.files.readOpen number)
  | _ => ⟨[], 0⟩

/-- Passes over so many pieces of the input. -/
def passPieces (p : Process) (count : Nat) : Process :=
  match p.target? inputDescriptor with
  | some (.pipe number) => { p with pipes := p.pipes.modify number fun i =>
      { i with pieces := i.pieces.drop count } }
  | some (.file number) =>
    let passed := ((p.available.pieces.take count).flatMap Prod.snd).length
    p.change (.seek number (p.files.positionOf number + passed))
  | _ => p

/-- Puts bytes back that were read too many. -/
def unread (p : Process) (bytes : Bytes) : Process :=
  if bytes = [] then p
  else
    match p.target? inputDescriptor with
    | some (.pipe number) => { p with pipes := p.pipes.modify number fun i =>
        { i with pieces := (p.clock, bytes) :: i.pieces } }
    | some (.file number) =>
      p.change (.seek number (p.files.positionOf number - bytes.length))
    | _ => p

/-- Reads pieces as they arrive until there is enough, or the end has come, doing something with
    each. -/
def readPieces (p : Process) (enough : Bytes → Bool) (f : Bytes → Process → Process) :
    Bytes × Process :=
  let input := p.available
  go [] p input.closed input.pieces
where
  go (bytes : Bytes) (p : Process) (closed : Nat) : List (Nat × Bytes) → Bytes × Process
    | [] => (bytes, if enough bytes then p else p.waitUntil closed)
    | (time, piece) :: rest =>
      if enough bytes then (bytes, p)
      else go (bytes ++ piece) (f piece ((p.passPieces 1).waitUntil time)) closed rest

/-- Reads pieces as they arrive until there is enough, or the end has come. -/
def readUntil (p : Process) (enough : Bytes → Bool) : Bytes × Process :=
  p.readPieces enough fun _ p => p

/-- Reads everything there is to read. -/
def readInput (p : Process) : Bytes × Process :=
  p.readUntil fun _ => false

/-- Everything that the process has a hold of. -/
def held (p : Process) : List Target :=
  (p.descriptors.map Prod.snd ++ p.aside).eraseDups

/-- Lets go of a target for good. -/
def release (p : Process) : Target → Process
  | .stream s => p.act (.release s)
  | .reader process => { p with messages := ⟨p.lineage, process, p.clock, []⟩ :: p.messages }
  | _ => p

/-- Lets go of what an earlier state of the process had a hold of. -/
def releaseSince (p earlier : Process) : Process :=
  (earlier.held.filter fun target => !p.held.contains target).foldl release p

/-- The end of the process: it holds nothing any more. -/
def leave (p : Process) : Process :=
  { p with descriptors := [], aside := [] }.releaseSince p

/-- A new process that goes on from here. -/
def fork (p : Process) (id : Nat) : Process :=
  { p with lineage := ⟨id, p.clock⟩ :: p.lineage }

/-- The process with another program in its place, which keeps nothing aside. -/
def becomeProgram (p : Process) : Process :=
  { p with aside := [], refused := none }.releaseSince p

/-- Sees what another process does. -/
def witness (p : Process) : Act → Process
  | .change c => p.see c
  | .print s bytes => p.seeCopy s bytes
  | _ => p

/-- The path that a text stands for. -/
def pathOf (text : String) : Path :=
  ⟨Bytes.gather text⟩

/-- The content of a file, as text. -/
def readFile (p : Process) (name : String) : Except Errno String :=
  match p.files.read (pathOf name) with
  | .ok content => .ok (Bytes.spread content)
  | .error (.system e) => .error e
  | .error _ => .error .notFound

end Process

/-- Texts in ascending order of their bytes. -/
def inByteOrder (texts : List String) : List String :=
  (Files.sortNames (texts.map Bytes.gather)).map Bytes.spread

/-- How a running program comes to an end. -/
inductive Flow
  /-- It has been carried out. -/
  | finished
  /-- It leaves with its status. -/
  | exited
  /-- An error makes it leave with its status. -/
  | failed
  /-- Another program took its place and has left. -/
  | replaced
  /-- It leaves the function it is in. -/
  | returned
  /-- It leaves this many loops. -/
  | left (loops : Nat)
  /-- It goes on with the next turn, this many loops further out. -/
  | again (loops : Nat)
  /-- A signal ended it. -/
  | signalled (number : Nat)
  /-- It never ends. -/
  | endless
  deriving DecidableEq, Repr

/-- Whether the program itself is there to have the last word. -/
def Flow.isInHand : Flow → Bool
  | replaced | signalled _ | endless => false
  | _ => true

end Overseer.Machine
