import Overseer.Signal
import Overseer.Text.Quoted

/-!
The status word with which a process ends: how it is taken apart, and the texts made of it.
-/

namespace Overseer

/-- A status word as the system delivers it. -/
structure WaitStatus where
  raw : UInt32
  deriving DecidableEq, Repr

namespace WaitStatus

/-- What a status word says. -/
inductive Ending
  | exited (code : Nat)
  | signalled (number : Nat) (dumped : Bool)
  | stopped (number : Nat)
  | continued
  | unrecognised
  deriving DecidableEq, Repr

/-- A process that leaves with a code of its own. -/
def ofExit (code : Nat) : WaitStatus :=
  ⟨(code % 256 * 256).toUInt32⟩

/-- A process ended by a signal. -/
def ofSignal (number : Nat) : WaitStatus :=
  ⟨(number % 128).toUInt32⟩

/-- Success is the zero word and no other. -/
def IsSuccess (s : WaitStatus) : Prop :=
  s.raw = 0

instance (s : WaitStatus) : Decidable s.IsSuccess :=
  inferInstanceAs (Decidable (_ = _))

/-- The low seven bits tell an exit, a signal and the rest apart; the second byte holds the code or
    the signal of a stop. -/
def ending (s : WaitStatus) : Ending :=
  let word := s.raw.toNat
  let low := word % 128
  let second := word / 256 % 256
  if low = 0 then .exited second
  else if low < 127 then .signalled low (word / 128 % 2 == 1)
  else if word % 256 = 127 then .stopped second
  else if word = 0xFFFF then .continued
  else .unrecognised

/-- The symbolic name of a signal in parentheses, if it has one. -/
def signalSuffix (number : Nat) : String :=
  match Signal.known? number with
  | some e => s!" ({e.name})"
  | none => ""

/-- The word as a signed number. -/
def signed (s : WaitStatus) : Int :=
  if s.raw.toNat < 0x80000000 then s.raw.toNat else (s.raw.toNat : Int) - 0x100000000

/-- The long text of a status, with signal numbers. -/
def display (s : WaitStatus) : String :=
  match s.ending with
  | .exited code => s!"exit status: {code}"
  | .signalled number dumped =>
    s!"signal: {number}" ++ signalSuffix number ++ (if dumped then " (core dumped)" else "")
  | .stopped number => s!"stopped (not terminated) by signal: {number}" ++ signalSuffix number
  | .continued => "continued (WIFCONTINUED)"
  | .unrecognised =>
    s!"unrecognised wait status: {s.signed} 0x" ++ Text.Quoted.hex s.raw.toNat

/-- The text of a status in an exit file. -/
def describe (s : WaitStatus) : String :=
  match s.ending with
  | .exited code => s!"exit status {code}"
  | .signalled number _ => "signal: " ++ (Signal.ofNumber number).display
  | _ => s.display

end WaitStatus

end Overseer
