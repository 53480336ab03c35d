import Overseer.Path

/-!
The environment of a process: variables with byte values, and the account that it runs under.
-/

namespace Overseer

/-- Variables by name; of two settings of one name the first counts. -/
structure Environment where
  bindings : List (String × Bytes)
  /-- The home directory of the account, as the system has it. -/
  accountHome : Path
  deriving DecidableEq, Repr

namespace Environment

/-- No variables, and an account that is at home at the root. -/
def empty : Environment :=
  ⟨[], Path.ofString "/"⟩

/-- The value of a variable. -/
def value? (env : Environment) (name : String) : Option Bytes :=
  env.bindings.lookup name

/-- The value of a variable as text; a value that is no text counts as unset. -/
def text? (env : Environment) (name : String) : Option String :=
  (env.value? name).bind Bytes.toString?

/-- The value of a variable as text, unset when empty. -/
def nonEmpty? (env : Environment) (name : String) : Option String :=
  (env.text? name).filter (· ≠ "")

end Environment

end Overseer
