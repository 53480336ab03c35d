import Overseer.Text.Blank
import Overseer.Text.Lowercase

/-!
Log levels, and which of two requested ones applies.
-/

namespace Overseer

inductive LogLevel
  | error
  | warn
  | info
  | debug
  | trace
  deriving DecidableEq, Repr

namespace LogLevel

/-- Reads a level by its name, in any letter case and with blanks around it. -/
def ofText? (s : String) : Option LogLevel :=
  match Text.Lowercase.ofString (Text.trimmed s) with
  | "error" => some error
  | "warn" | "warning" => some warn
  | "info" => some info
  | "debug" => some debug
  | "trace" => some trace
  | _ => none

def name : LogLevel → String
  | error => "ERROR"
  | warn => "WARN"
  | info => "INFO"
  | debug => "DEBUG"
  | trace => "TRACE"

/-- How much a level admits. -/
def rank : LogLevel → Nat
  | error => 0
  | warn => 1
  | info => 2
  | debug => 3
  | trace => 4

/-- Whether a line of some level is shown while another level is in force. -/
def admits (inForce level : LogLevel) : Bool :=
  decide (level.rank ≤ inForce.rank)

/-- Names the level in the environment. -/
def levelVariable : String := "FLOWGUARD_LOG"

/-- The environment's level counts before the settings' one, if it names a level at all. -/
def resolve (environment settings : Option String) : LogLevel :=
  ((environment.bind ofText?).or (settings.bind ofText?)).getD warn

end LogLevel

end Overseer
