import Overseer.Control.Basic
import Overseer.WaitStatus

/-!
A started child as a course of events: what it and the processes that descend from it print, change
and signal, and when it ends.

A course is told as if nobody interfered. When processes go before their time, what remains of it is
what those do that are still there: a process is, unless it has gone or was never started.
-/

namespace Overseer

/-- A process, and when it was started. -/
structure Birth where
  process : Nat
  time : Nat
  deriving DecidableEq, Repr

/-- A process that goes before its time, and the first moment at which it is no longer there. -/
structure Death where
  process : Nat
  time : Nat
  deriving DecidableEq, Repr

/-- A process, the one that started it, and so on up to the child. -/
abbrev Lineage := List Birth

/-- One thing that a process does. -/
inductive Act
  | print (stream : Stream) (bytes : Bytes)
  | change (c : Files.Change)
  /-- Send a signal to the agent. -/
  | signalAgent (number : Nat)
  /-- Let go of an output stream for good. -/
  | release (stream : Stream)
  /-- Take no notice of a signal any more; processes started from then on do not either. -/
  | ignore (number : Nat)
  /-- Write for another process to read. -/
  | tell (listener : Nat)
  deriving DecidableEq, Repr

/-- An act with its time in milliseconds from the start of the child. -/
structure Activity where
  time : Nat
  /-- The acting process and its ancestors. -/
  lineage : Lineage
  act : Act
  deriving DecidableEq, Repr

/-- The course of a child. -/
structure Behaviour where
  /-- The process id of the child. -/
  child : Nat
  /-- In ascending order of time. -/
  activities : List Activity
  /-- When and how the child ends, if it ever does. -/
  ending : Option (Nat × WaitStatus)
  deriving DecidableEq, Repr

namespace Lineage

/-- Whether a process is there at a time: it has not gone, and its ancestors were there to start
    it. -/
def lives (deaths : List Death) : Lineage → Nat → Bool
  | [], _ => true
  | b :: above, time =>
    deaths.all (fun d => d.process != b.process || decide (time < d.time)) &&
      lives deaths above b.time

/-- Whether a process takes no notice of a signal at a time, by its own doing or that of an ancestor
    before it was started. -/
def ignores (activities : List Activity) (number : Nat) : Lineage → Nat → Bool
  | [], _ => false
  | b :: above, time =>
    activities.any (fun a =>
      decide (a.act = .ignore number ∧ a.lineage.head? = some b ∧ a.time ≤ time)) ||
      ignores activities number above b.time

end Lineage

namespace Behaviour

/-- The signals that the agent is sent, with their times. -/
def signals (b : Behaviour) : List (Nat × Signal) :=
  b.activities.filterMap fun a =>
    match a.act with
    | .signalAgent number => some (a.time, Signal.ofNumber number)
    | _ => none

/-- Asks a process to hang up. -/
def hangup : Nat := 1

/-- Tells a process that nobody reads what it writes. -/
def brokenPipe : Nat := 13

/-- Who goes when the child is killed at a time. Processes that descend from it go on by themselves,
    unless the whole group is asked to hang up and they do as they are told. -/
def killed (b : Behaviour) (time : Nat) (groupEnded : Bool) : List Death :=
  let present := b.activities.filterMap fun a =>
    match a.lineage.dropWhile fun birth => decide (time < birth.time) with
    | [] => none
    | birth :: above =>
      if groupEnded && !Lineage.ignores b.activities hangup (birth :: above) time then
        some birth.process
      else none
  (b.child :: present).eraseDups.map fun process => ⟨process, time + 1⟩

/-- What is still done when some processes go at certain times, and who has gone in the end. One
    that writes what nobody reads goes too: on a stream that is closed at the time, or for a
    listener that has gone. -/
def remaining (b : Behaviour) (closed : Stream → Nat → Bool) (deaths : List Death) :
    List Activity × List Death :=
  let (kept, deaths) := b.activities.foldl (fun (kept, deaths) a =>
    let unheard := match a.act with
      | .print stream _ => closed stream a.time
      | .tell listener => deaths.any fun d => d.process == listener && decide (d.time ≤ a.time)
      | _ => false
    if !a.lineage.lives deaths a.time then (kept, deaths)
    else if !unheard then (a :: kept, deaths)
    else if Lineage.ignores b.activities brokenPipe a.lineage a.time then (kept, deaths)
    else (kept, a.lineage.head?.toList.map (⟨·.process, a.time⟩) ++ deaths)) ([], deaths)
  (kept.reverse, deaths)

/-- The time until which some process holds an output stream. A process that goes lets go of it. -/
def heldUntil (b : Behaviour) (deaths : List Death) (stream : Stream) : Nat :=
  b.activities.foldl (fun latest a =>
    match a.lineage with
    | [] => latest
    | birth :: above =>
      if a.act = .release stream ∧ Lineage.lives deaths above birth.time then
        let gone := deaths.filter fun d => d.process == birth.process
        max latest (gone.foldl (fun time d => min time d.time) a.time)
      else latest) 0

end Behaviour

end Overseer
