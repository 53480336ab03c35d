import Overseer.Environment
import Overseer.Log
import Overseer.Report.Reporter

/-!
Where messages go: a list in memory, nowhere, or a spool file with one message a line. A message
that a queue refuses is lost; nothing else is affected.
-/

namespace Overseer.Report

/-- A place to hand messages to. -/
inductive Queue
  /-- Keeps every message. -/
  | memory
  /-- Refuses every message. -/
  | refusing
  /-- Adds each message as a line to a file. -/
  | spool (p : Path)
  deriving DecidableEq, Repr

/-- Files, and the messages that a memory queue has kept. -/
structure Office where
  files : Files
  kept : List Bytes
  deriving DecidableEq, Repr

/-- Adds a message to a spool file. -/
def addToSpool (files : Files) (p : Path) (message : Bytes) : Except Fault Unit × Files :=
  match files.appendTo p (message ++ [Bytes.newline]) with
  | (.done, files) => (.ok (), files)
  | (.notOpened r, files) =>
    (.error (.during ("opening spool " ++ Text.Quoted.ofPath p.bytes) r.message), files)
  | (.notWritten r, files) =>
    (.error (.during ("appending to spool " ++ Text.Quoted.ofPath p.bytes) r.message), files)

/-- Why a queue that refuses every message does so. -/
def unavailable : Fault := .during "queue unavailable" ""

namespace Queue

/-- Hands a message over. -/
def post (q : Queue) (message : Bytes) (office : Office) : Except Fault Unit × Office :=
  match q with
  | .memory => (.ok (), { office with kept := office.kept ++ [message] })
  | .refusing => (.error unavailable, office)
  | .spool p =>
    let (result, files) := addToSpool office.files p message
    (result, { office with files })

/-- Hands a message over; why it may be refused does not matter to who sends it. -/
def send (q : Queue) : Transport Office := fun message office =>
  let (result, office) := q.post message office
  (result.isOk, office)

end Queue

/-- A reporter with the queue it hands its messages to. -/
structure Desk where
  reporter : Reporter
  queue : Queue
  deriving DecidableEq, Repr

namespace Desk

/-- What is logged when a request is carried out: a message that is dropped or refused. -/
def lines (desk : Desk) (request : Request) (office : Office) : List LogLine :=
  match desk.reporter.formed? request with
  | none => []
  | some m =>
    if m.IsTooLong then [.messageTooLong m.encode.length]
    else LogLine.ofFault .messageRefused (desk.queue.post m.encode office).1

/-- Carries out a request and hands over the message that it may lead to. -/
def handle (desk : Desk) (request : Request) (office : Office) : Desk × Office :=
  let (reporter, office) := desk.reporter.serve desk.queue.send request office
  ({ desk with reporter }, office)

end Desk

/-- Names the spool file, and turns reporting on. -/
def spoolVariable : String := "FLOWGUARD_REPORT_SPOOL"

/-- Names the task. -/
def taskVariable : String := "FLOWGUARD_TASK_ID"

/-- The reporter that the environment asks for, if any. -/
def deskOfEnvironment? (env : Environment) : Option Desk :=
  (env.nonEmpty? spoolVariable).map fun p =>
    ⟨.start ((env.text? taskVariable).getD ""), .spool (Path.ofString p)⟩

end Overseer.Report
