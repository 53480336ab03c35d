import Overseer.Machine.Utility.Condition
import Overseer.Machine.Utility.Filing
import Overseer.Machine.Utility.Printing
import Overseer.Machine.Utility.Reading

/-!
The programs of the machine by their names. Each is a function of its arguments and of the process
that runs it, and gives its exit status and the process afterwards.
-/

namespace Overseer.Machine.Utility

/-- Signals processes. No process of the machine but the caller's own kin can be named. -/
def kill : Utility := fun name args p =>
  forEach (args.filter fun arg => arg.toList.head? != some '-') p fun arg p =>
    (false, p.complain (name ++ ": (" ++ arg ++ "): No such process"))

/-- The program with a name. -/
def find? : String → Option Utility
  | "true" => some fun _ _ p => (0, p)
  | "false" => some fun _ _ p => (1, p)
  | "echo" => some echo
  | "printf" => some printf
  | "sleep" => some sleep
  | "cat" => some cat
  | "tee" => some tee
  | "head" => some head
  | "tail" => some tail
  | "wc" => some wc
  | "rm" => some rm
  | "rmdir" => some rmdir
  | "mv" => some mv
  | "cp" => some cp
  | "mkdir" => some mkdir
  | "touch" => some touch
  | "ls" => some ls
  | "pwd" => some pwd
  | "seq" => some seq
  | "chmod" => some chmod
  | "test" | "[" => some test
  | "kill" => some kill
  | _ => none

/-- The names of all programs, the command language among them. -/
def names : List String :=
  ["true", "false", "echo", "printf", "sleep", "cat", "tee", "head", "tail", "wc", "rm", "rmdir",
    "mv", "cp", "mkdir", "touch", "ls", "pwd", "seq", "chmod", "test", "[", "kill", "sh", "dash",
    "env", "nohup", "setsid", "nice", "timeout", "yes"]

end Overseer.Machine.Utility
