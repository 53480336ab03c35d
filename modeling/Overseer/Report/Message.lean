import Overseer.Text.Base64

/-!
Report messages: a task id and three base-64 fields, separated by tabs. The task id may itself hold
tabs, so a message is taken apart from its end.
-/

namespace Overseer.Report

/-- What one message carries. -/
structure Message where
  task : String
  out : Bytes
  err : Bytes
  exit : String
  deriving DecidableEq, Repr

namespace Message

/-- The message as it is sent. -/
def encode (m : Message) : Bytes :=
  Text.join [Bytes.tab] [Bytes.ofString m.task, Text.Base64.encode m.out, Text.Base64.encode m.err,
    Text.Base64.encode (Bytes.ofString m.exit)]

/-- Takes a message apart at its last three tabs. -/
def decode? (bs : Bytes) : Option Message :=
  match (Text.cut Bytes.tab bs).reverse with
  | exit :: err :: out :: first :: more => do
    let task ← Bytes.toString? (Text.join [Bytes.tab] (first :: more).reverse)
    let out ← Text.Base64.decode? out
    let err ← Text.Base64.decode? err
    let exit ← (Text.Base64.decode? exit).bind Bytes.toString?
    some ⟨task, out, err, exit⟩
  | _ => none

end Message

end Overseer.Report
