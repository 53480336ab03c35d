/-!
The usage summary, with the message and the arguments that led to it.
-/

namespace Overseer.Usage

/-- The arguments behind the program name, numbered from zero. -/
def argumentLines (args : List String) : String :=
  String.join (args.tail.zipIdx.map fun (arg, n) => s!"\t{n} : " ++ arg ++ "\n")

def summaryLines : List String := [
  "Usage: flowguard command",
  "",
  "Commands:",
  "",
  "  default :  Run the workflow interpreter",
  "             Syntax:",
  "                 flowguard [options] program",
  "",
  "  exec    :  Execute a command and:",
  "                 i) Show pid.",
  "                 ii) Enforce maximum execution time.",
  "                 iii) Copy STDOUT and STDERR to files.",
  "                 iv) Write the outcome to a file.",
  "             Note: If any file name is '-' it is ignored (not redirected).",
  "             Syntax:",
  "                 flowguard exec timeout file.stdout file.stderr file.exit command arguments...",
  "",
  "  kill pid : Kill process group 'pid'."]

/-- What the program can be asked to do. -/
def summary : String :=
  String.join (summaryLines.map (· ++ "\n"))

/-- The whole text. Without a message the summary stands alone. -/
def text (message : String) (args : List String) : String :=
  if message = "" then summary
  else "Error: " ++ message ++ "\nArguments:\n" ++ argumentLines args ++ "\n" ++ summary

end Overseer.Usage
