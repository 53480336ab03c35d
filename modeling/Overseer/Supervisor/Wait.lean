import Overseer.Supervisor.Decision

/-!
The wait for a decision: a loop that listens to three sources at once and takes one event a turn.

In every turn the sources are looked at one after the other, and any of them may be the first. A
source that has nothing yet leaves the turn open; one that will never have anything again takes no
part in it. A turn in which no source takes part could not go on.
-/

namespace Overseer

/-- Where events come from. -/
inductive Source
  /-- The child's own end. Its sender goes only after it has sent. -/
  | completion
  | deadline
  /-- The signals, until the last of their senders has gone. -/
  | signals
  deriving DecidableEq, Repr

/-- The source that an event comes from. -/
def Event.source : Event → Source
  | .completed _ => .completion
  | .deadline => .deadline
  | .signal _ | .signalsClosed => .signals

/-- The sources in the order of one turn. -/
def Source.inTurn (first : Nat) : List Source :=
  match first % 3 with
  | 0 => [.completion, .deadline, .signals]
  | 1 => [.deadline, .signals, .completion]
  | _ => [.signals, .completion, .deadline]

/-- What has arrived and was not taken yet. -/
structure Inbox where
  completions : List Outcome
  expired : Bool
  signals : List Signal
  /-- Whether no sender of signals is left. -/
  closed : Bool
  deriving DecidableEq, Repr

/-- What looking at a source comes to. -/
inductive Look
  | ready (e : Event) (rest : Inbox)
  | pending
  | exhausted
  deriving DecidableEq, Repr

/-- What a turn comes to. -/
inductive Turn
  | took (e : Event) (rest : Inbox)
  | waits
  | stuck
  deriving DecidableEq, Repr

namespace Inbox

def empty : Inbox := ⟨[], false, [], false⟩

/-- Keeps an event until it is taken. -/
def receive (b : Inbox) : Event → Inbox
  | .completed o => { b with completions := b.completions ++ [o] }
  | .deadline => { b with expired := true }
  | .signal s => { b with signals := b.signals ++ [s] }
  | .signalsClosed => { b with closed := true }

/-- Looks at a source. Signals that were sent before the source was closed are still to be had. -/
def look (b : Inbox) : Source → Look
  | .completion =>
    match b.completions with
    | o :: later => .ready (.completed o) { b with completions := later }
    | [] => .pending
  | .deadline => if b.expired then .ready .deadline b else .pending
  | .signals =>
    match b.signals with
    | s :: later => .ready (.signal s) { b with signals := later }
    | [] => if b.closed then .exhausted else .pending

/-- Looks at sources until one is ready, given whether one before them was pending. -/
def turn (b : Inbox) (pending : Bool) : List Source → Turn
  | [] => if pending then .waits else .stuck
  | src :: others =>
    match b.look src with
    | .ready e rest => .took e rest
    | .pending => b.turn true others
    | .exhausted => b.turn pending others

/-- An event that is taken and decides nothing is a signal less. -/
theorem length_signals_lt_of_turn {b rest : Inbox} {pending : Bool} {sources : List Source}
    {e : Event} (hturn : b.turn pending sources = .took e rest) (hnone : e.outcome? = none) :
    rest.signals.length < b.signals.length := by
  induction sources generalizing pending with
  | nil =>
    rw [turn] at hturn
    split at hturn <;> cases hturn
  | cons src others ih =>
    rw [turn] at hturn
    cases hlook : b.look src with
    | pending =>
      rw [hlook] at hturn
      exact ih hturn
    | exhausted =>
      rw [hlook] at hturn
      exact ih hturn
    | ready taken left =>
      rw [hlook] at hturn
      cases hturn
      cases src with
      | completion =>
        cases hcompletions : b.completions with
        | nil => simp [look, hcompletions] at hlook
        | cons o later =>
          simp only [look, hcompletions, Look.ready.injEq] at hlook
          simp [← hlook.1, Event.outcome?] at hnone
      | deadline =>
        simp only [look] at hlook
        split at hlook
        · cases hlook
          simp [Event.outcome?] at hnone
        · cases hlook
      | signals =>
        cases hsignals : b.signals with
        | nil =>
          simp only [look, hsignals] at hlook
          split at hlook <;> cases hlook
        | cons s later =>
          simp only [look, hsignals, Look.ready.injEq] at hlook
          simp [← hlook.2]

end Inbox

/-- How far the loop has come. -/
inductive Verdict
  | waiting
  | decided (o : Outcome)
  /-- No source is left to listen to. -/
  | stuck
  deriving DecidableEq, Repr

/-- The loop between two moments at which it is woken. -/
structure Wait where
  inbox : Inbox
  /-- How many turns were taken. -/
  turns : Nat
  verdict : Verdict
  deriving DecidableEq, Repr

namespace Wait

def start : Wait := ⟨.empty, 0, .waiting⟩

/-- Takes turns until the loop has to wait or is at its end. The source that a turn starts with is
    given by the number of the turn. -/
def settle (first : Nat → Nat) (inbox : Inbox) (turns : Nat) : Wait :=
  match hturn : inbox.turn false (Source.inTurn (first turns)) with
  | .waits => ⟨inbox, turns + 1, .waiting⟩
  | .stuck => ⟨inbox, turns + 1, .stuck⟩
  | .took e rest =>
    match houtcome : e.outcome? with
    | some o => ⟨rest, turns + 1, .decided o⟩
    | none => settle first rest (turns + 1)
termination_by inbox.signals.length
decreasing_by exact Inbox.length_signals_lt_of_turn hturn houtcome

/-- Wakes the loop with what became ready since it was last awake. At its end it no longer
    listens. -/
def wake (first : Nat → Nat) (w : Wait) (ready : List Event) : Wait :=
  match w.verdict with
  | .waiting => settle first (ready.foldl Inbox.receive w.inbox) w.turns
  | .decided _ | .stuck => w

/-- Wakes the loop again and again; events that are given together are ready at the same time. -/
def run (first : Nat → Nat) (wakes : List (List Event)) : Wait :=
  wakes.foldl (wake first) start

end Wait

/-- An event with its time. -/
structure Arrival where
  time : Nat
  event : Event
  deriving DecidableEq, Repr

/-- Arrivals in order of time; those of one time keep their order. -/
def inOrder (arrivals : List Arrival) : List Arrival :=
  arrivals.mergeSort fun a b => decide (a.time ≤ b.time)

/-- When and how the loop is decided by arrivals that wake it one after the other. -/
def Wait.decision? (first : Nat → Nat) (w : Wait) : List Arrival → Option (Nat × Outcome)
  | [] => none
  | a :: later =>
    match (w.wake first [a.event]).verdict with
    | .decided o => some (a.time, o)
    | .waiting | .stuck => (w.wake first [a.event]).decision? first later

/-- When and how arrivals decide a run. Since they come one by one, it makes no difference with
    which source a turn starts. -/
def firstDecision? (arrivals : List Arrival) : Option (Nat × Outcome) :=
  Wait.start.decision? (fun _ => 0) (inOrder arrivals)

end Overseer
