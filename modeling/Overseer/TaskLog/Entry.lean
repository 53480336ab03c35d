import Overseer.Text.Blank
import Overseer.Text.Lines

/-!
Entries of the task log: one line each, with a process id, a marker, and possibly a cleanup command,
separated by tabs.
-/

namespace Overseer

/-- Whether a process group started or finished. -/
inductive Marker
  | started
  | finished
  deriving DecidableEq, Repr

namespace Marker

def sign : Marker → String
  | started => "+"
  | finished => "-"

def ofSign? : String → Option Marker
  | "+" => some started
  | "-" => some finished
  | _ => none

@[simp] theorem ofSign?_sign (m : Marker) : ofSign? m.sign = some m := by
  cases m <;> rfl

end Marker

/-- One entry of a task log. The process id is text, since it may also name a file. -/
structure Entry where
  pid : String
  marker : Marker
  cleanup : Option String
  deriving DecidableEq, Repr

namespace Entry

/-- An entry for a start. An empty cleanup command is none. -/
def start (pid : String) (cleanup : Option String) : Entry :=
  ⟨pid, .started, cleanup.filter (· ≠ "")⟩

/-- An entry for an end. -/
def finish (pid : String) : Entry :=
  ⟨pid, .finished, none⟩

/-- The line of an entry, without its end. -/
def line (e : Entry) : String :=
  e.pid ++ "\t" ++ e.marker.sign ++
    match e.cleanup with
    | none => ""
    | some command => "\t" ++ command

/-- The trimmed fields of a line. -/
def fields (line : String) : List String :=
  (Text.cut '\t' (Text.dropReturn line.toList)).map fun field => String.ofList (Text.trim field)

/-- Reads a line. Without a process id and a marker it is no entry; a blank third field is no
    command, and further fields are ignored. -/
def ofLine? (line : String) : Option Entry :=
  match fields line with
  | pid :: sign :: more =>
    if pid = "" then none
    else (Marker.ofSign? sign).map fun marker => ⟨pid, marker, more.head?.filter (· ≠ "")⟩
  | _ => none

/-- A field that survives being written and read: not empty, without blanks at its ends, and without
    the characters that end fields and lines. -/
def IsField (s : String) : Prop :=
  s ≠ "" ∧ Text.trim s.toList = s.toList ∧ '\t' ∉ s.toList ∧ '\n' ∉ s.toList

instance (s : String) : Decidable (IsField s) :=
  inferInstanceAs (Decidable (_ ∧ _))

/-- An entry whose fields survive being written and read. -/
def IsCanonical (e : Entry) : Prop :=
  IsField e.pid ∧ ∀ command ∈ e.cleanup, IsField command

instance (e : Entry) : Decidable e.IsCanonical :=
  inferInstanceAs (Decidable (_ ∧ _))

end Entry

end Overseer
