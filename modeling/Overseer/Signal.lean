/-!
Operating-system signals: their numbers, names and descriptions, which ones the agent subscribes to
and which ones it lets pass.
-/

namespace Overseer

/-- A signal as the supervisor tells them apart. -/
inductive Signal
  | hangup
  | interrupt
  | quit
  | terminate
  | user1
  | user2
  | alarm
  | windowChanged
  | childExited
  | other (number : Int)
  deriving DecidableEq, Repr

namespace Signal

/-- A signal known to the system: number, symbolic name, and the description that exit files use. -/
structure Entry where
  number : Nat
  name : String
  description : String

/-- Every named signal. -/
def table : List Entry := [
  ⟨1, "SIGHUP", "hangup"⟩,
  ⟨2, "SIGINT", "interrupt"⟩,
  ⟨3, "SIGQUIT", "quit"⟩,
  ⟨4, "SIGILL", "illegal instruction"⟩,
  ⟨5, "SIGTRAP", "trace/breakpoint trap"⟩,
  ⟨6, "SIGABRT", "aborted"⟩,
  ⟨7, "SIGBUS", "bus error"⟩,
  ⟨8, "SIGFPE", "floating point exception"⟩,
  ⟨9, "SIGKILL", "killed"⟩,
  ⟨10, "SIGUSR1", "user defined signal 1"⟩,
  ⟨11, "SIGSEGV", "segmentation fault"⟩,
  ⟨12, "SIGUSR2", "user defined signal 2"⟩,
  ⟨13, "SIGPIPE", "broken pipe"⟩,
  ⟨14, "SIGALRM", "alarm clock"⟩,
  ⟨15, "SIGTERM", "terminated"⟩,
  ⟨16, "SIGSTKFLT", "SIGSTKFLT"⟩,
  ⟨17, "SIGCHLD", "child exited"⟩,
  ⟨18, "SIGCONT", "continued"⟩,
  ⟨19, "SIGSTOP", "stopped (signal)"⟩,
  ⟨20, "SIGTSTP", "stopped"⟩,
  ⟨21, "SIGTTIN", "stopped (tty input)"⟩,
  ⟨22, "SIGTTOU", "stopped (tty output)"⟩,
  ⟨23, "SIGURG", "urgent I/O condition"⟩,
  ⟨24, "SIGXCPU", "CPU time limit exceeded"⟩,
  ⟨25, "SIGXFSZ", "file size limit exceeded"⟩,
  ⟨26, "SIGVTALRM", "virtual timer expired"⟩,
  ⟨27, "SIGPROF", "profiling timer expired"⟩,
  ⟨28, "SIGWINCH", "window changed"⟩,
  ⟨29, "SIGIO", "I/O possible"⟩,
  ⟨30, "SIGPWR", "SIGPWR"⟩,
  ⟨31, "SIGSYS", "bad system call"⟩]

/-- The table's entry for a number. -/
def known? (number : Int) : Option Entry :=
  table.find? fun e => (e.number : Int) == number

def ofNumber (number : Int) : Signal :=
  if number = 1 then hangup
  else if number = 2 then interrupt
  else if number = 3 then quit
  else if number = 15 then terminate
  else if number = 10 then user1
  else if number = 12 then user2
  else if number = 14 then alarm
  else if number = 28 then windowChanged
  else if number = 17 then childExited
  else other number

def number : Signal → Int
  | hangup => 1
  | interrupt => 2
  | quit => 3
  | terminate => 15
  | user1 => 10
  | user2 => 12
  | alarm => 14
  | windowChanged => 28
  | childExited => 17
  | other number => number

@[simp] theorem number_ofNumber (number : Int) : (ofNumber number).number = number := by
  unfold ofNumber
  repeat' split
  all_goals simp_all [Signal.number]

/-- Signals that arrive as a matter of course and never end a run. -/
def IsIgnorable (s : Signal) : Prop :=
  s = windowChanged ∨ s = childExited

instance (s : Signal) : Decidable s.IsIgnorable :=
  inferInstanceAs (Decidable (_ ∨ _))

/-- The description of a signal, whatever its number. -/
def name (s : Signal) : String :=
  ((known? s.number).map Entry.description).getD "unknown signal"

/-- How exit files name a signal: its description, or its number when it has none. -/
def display (s : Signal) : String :=
  match s, known? s.number with
  | other number, none => s!"signal {number}"
  | _, _ => s.name

/-- Signals that cannot be caught, and those that report a fault of the program itself. -/
def notSubscribable : List Nat := [9, 19, 4, 8, 11]

/-- Every signal the agent listens for, by number. -/
def subscribed : List Signal :=
  (table.filter fun e => e.number ∉ notSubscribable).map fun e => ofNumber e.number

end Signal

end Overseer
