import Overseer.Outcome

/-!
What decides a run: the first event that means something.
-/

namespace Overseer

/-- What can happen while a child is waited for. -/
inductive Event
  /-- The child ended by itself. -/
  | completed (o : Outcome)
  /-- The time limit passed. -/
  | deadline
  | signal (s : Signal)
  /-- No further signal will arrive. -/
  | signalsClosed
  deriving DecidableEq, Repr

namespace Event

/-- The outcome that an event decides, if it decides any. -/
def outcome? : Event → Option Outcome
  | completed o => some o
  | deadline => some .timedOut
  | signal s => if s.IsIgnorable then none else some .signalReceived
  | signalsClosed => none

end Event

/-- Events in the order of their arrival decide a run by the first decisive one. As long as there is
    none, the wait goes on. -/
def decide? : List Event → Option Outcome
  | [] => none
  | e :: later =>
    match e.outcome? with
    | some o => some o
    | none => decide? later

/-- What comes first decides, and the rest only if it does not. -/
theorem decide?_append (earlier later : List Event) :
    decide? (earlier ++ later) = (decide? earlier).or (decide? later) := by
  induction earlier with
  | nil => rfl
  | cons e rest ih =>
    rw [List.cons_append, decide?, decide?]
    cases e.outcome? with
    | none => exact ih
    | some o => rfl

end Overseer
