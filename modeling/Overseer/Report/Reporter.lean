import Overseer.Control.Basic
import Overseer.Report.Message

/-!
The reporter: it gathers what a child prints and forms a message once enough has come together, and
one more at the end. A message that is too long is dropped as a whole.
-/

namespace Overseer.Report

/-- Longest message that is handed over. -/
def maxLength : Nat := 250 * 1024

/-- A message of this length is dropped. -/
def Message.IsTooLong (m : Message) : Prop :=
  maxLength < m.encode.length

instance (m : Message) : Decidable m.IsTooLong :=
  inferInstanceAs (Decidable (_ < _))

/-- More than this many bytes are never held back. -/
def threshold : Nat := 1024

structure Reporter where
  task : String
  out : Bytes
  err : Bytes
  /-- How many messages were too long. -/
  dropped : Nat
  deriving DecidableEq, Repr

namespace Reporter

def start (task : String) : Reporter :=
  ⟨task, [], [], 0⟩

/-- The message that a flush forms. -/
def message (r : Reporter) (exit : String) : Message :=
  ⟨r.task, r.out, r.err, exit⟩

/-- Forms a message of everything held back and starts anew. The message is returned unless it is
    too long. -/
def flush (r : Reporter) (exit : String) : Option Bytes × Reporter :=
  let encoded := (r.message exit).encode
  if encoded.length > maxLength then (none, ⟨r.task, [], [], r.dropped + 1⟩)
  else (some encoded, ⟨r.task, [], [], r.dropped⟩)

/-- How many bytes are held back. -/
def held (r : Reporter) : Nat :=
  r.out.length + r.err.length

/-- Adds bytes of one stream without forming a message. -/
def hold (r : Reporter) : Stream → Bytes → Reporter
  | .out, bytes => { r with out := r.out ++ bytes }
  | .err, bytes => { r with err := r.err ++ bytes }

/-- Takes bytes of one stream in, and forms a message if too many are held back. -/
def append (r : Reporter) (stream : Stream) (bytes : Bytes) : Option Bytes × Reporter :=
  let r := r.hold stream bytes
  if r.held > threshold then r.flush "" else (none, r)

end Reporter

/-- What a reporter is asked to do. -/
inductive Request
  | append (stream : Stream) (bytes : Bytes)
  | flush
  | exit (text : String)
  deriving DecidableEq, Repr

namespace Reporter

/-- The message that a request makes a reporter form, whatever its length. -/
def formed? (r : Reporter) : Request → Option Message
  | .append stream bytes =>
    if (r.hold stream bytes).held > threshold then some ((r.hold stream bytes).message "") else none
  | .flush => some (r.message "")
  | .exit text => some (r.message text)

/-- Carries out a request: the message to hand over, if any, and the reporter afterwards. -/
def handle (r : Reporter) : Request → Option Bytes × Reporter
  | .append stream bytes => r.append stream bytes
  | .flush => r.flush ""
  | .exit text => r.flush text

end Reporter

/-- A way to hand messages over, which may accept or refuse each of them. -/
abbrev Transport (σ : Type) := Bytes → σ → Bool × σ

/-- Carries out a request and hands over the message that it may lead to. It makes no difference
    whether the message is accepted. -/
def Reporter.serve {σ : Type} (transport : Transport σ) (request : Request) (r : Reporter)
    (state : σ) : Reporter × σ :=
  let (message, r) := r.handle request
  (r, match message with
    | some message => (transport message state).2
    | none => state)

end Overseer.Report
