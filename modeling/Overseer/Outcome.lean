import Overseer.WaitStatus

/-!
How a supervised run ended, the text under which it is recorded, and the agent's own exit code.

Main statement: reading a text as an outcome and writing it again gives the text back.
-/

namespace Overseer

/-- The end of a supervised run. -/
inductive Outcome
  | success
  | timedOut
  | signalReceived
  | failed (description : String)
  deriving DecidableEq, Repr

/-- The classes of outcomes that exit codes tell apart. -/
inductive ExitClass
  | ok
  | error
  | timeout
  deriving DecidableEq, Repr

namespace ExitClass

def code : ExitClass → Nat
  | ok => 0
  | error => 1
  | timeout => 2

end ExitClass

namespace Outcome

def successText : String := "0"

def timeoutText : String := "Time out"

def signalText : String := "Signal received"

/-- The text that an exit file holds. -/
def text : Outcome → String
  | success => successText
  | timedOut => timeoutText
  | signalReceived => signalText
  | failed description => description

/-- Reads the text of an exit file; whatever has no meaning of its own describes a failure. -/
def ofText (s : String) : Outcome :=
  if s = successText then success
  else if s = timeoutText then timedOut
  else if s = signalText then signalReceived
  else failed s

@[simp] theorem text_ofText (s : String) : (ofText s).text = s := by
  unfold ofText
  repeat' split
  all_goals simp_all [text]

/-- The outcome of a process that ended by itself. -/
def ofStatus (status : WaitStatus) : Outcome :=
  if status.IsSuccess then success else failed status.describe

/-- The outcome when waiting for a process is over: its status, or why it could not be waited for. -/
def ofWait : Except String WaitStatus → Outcome
  | .ok status => ofStatus status
  | .error reason => failed reason

def exitClass : Outcome → ExitClass
  | success => .ok
  | timedOut => .timeout
  | signalReceived | failed _ => .error

/-- The agent's exit code. -/
def code (o : Outcome) : Nat :=
  o.exitClass.code

/-- Whether the run was cut short, so that its processes have to be killed. -/
def RequiresKill (o : Outcome) : Prop :=
  o = timedOut ∨ o = signalReceived

instance (o : Outcome) : Decidable o.RequiresKill :=
  inferInstanceAs (Decidable (_ ∨ _))

end Outcome

end Overseer
