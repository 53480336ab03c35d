import Overseer.Machine.Lookup
import Overseer.Machine.Script.Builtin.Signals

/-!
The names of the commands that the command language carries out itself, and what a name stands for.
-/

namespace Overseer.Machine.Script.Builtin

/-- Carries out its arguments as a script. -/
def eval : Builtin := fun run args sh =>
  if args.isEmpty then done sh 0 else runText run (" ".intercalate args) sh

/-- Carries out a file as a part of the script. -/
def source : Builtin := fun run args sh =>
  match args with
  | [] => done sh 0
  | name :: _ =>
    let found := if name.toList.contains '/' then [name]
      else (Text.cut ':' ((sh.value? "PATH").getD "").toList).map fun dir =>
        (if dir.isEmpty then "" else String.ofList dir ++ "/") ++ name
    match found.findSome? fun path => (sh.process.readFile path).toOption.map fun text =>
        (path, text) with
    | some (path, text) =>
      let (inner, flow) := runText run text { sh with speaker := some path }
      ({ inner with speaker := sh.speaker }, if flow = .returned then .finished else flow)
    | none =>
      if name.toList.contains '/' then refuse sh ("cannot open " ++ name ++ ": No such file")
      else refuse sh (name ++ ": not found")

/-- The file mode mask, which nothing on the machine depends on. -/
def umask : Builtin := fun _ args sh =>
  done (if args.isEmpty then sh.update (·.print "0022\n") else sh) 0

/-- The processor time that has been used, of which the machine keeps no account. -/
def times : Builtin := fun _ _ sh =>
  let none := "0m0.000000s 0m0.000000s\n"
  done (sh.update (·.print (none ++ none))) 0

/-- Limits of resources, which nothing on the machine depends on. -/
def ulimit : Builtin := fun _ args sh =>
  let asks := args.all fun arg => arg.toList.head? = some '-'
  done (if asks then sh.update (·.print "unlimited\n") else sh) 0

/-- The built-in command with a name, if it needs nothing but itself. -/
def find? (name : String) : Option Builtin :=
  match name with
  | ":" | "true" => some fun _ _ sh => done sh 0
  | "false" => some fun _ _ sh => done sh 1
  | "echo" => some echo
  | "printf" => some printf
  | "test" | "[" => some (test name)
  | "cd" => some cd
  | "pwd" => some fun _ _ sh =>
    done (sh.update (·.print (shownPath sh.process.files.cwd ++ "\n"))) 0
  | "exit" => some exit
  | "return" => some leaveFunction
  | "break" => some (leaveLoops .left)
  | "continue" => some (leaveLoops .again)
  | "export" => some exportAll
  | "readonly" => some readOnly
  | "local" => some localAll
  | "unset" => some unset
  | "set" => some set
  | "shift" => some shift
  | "eval" => some eval
  | "." => some source
  | "times" => some times
  | "umask" => some umask
  | "ulimit" => some ulimit
  | "hash" | "jobs" | "alias" => some fun _ _ sh => done sh 0
  | "read" => some read
  | "kill" => some kill
  | "trap" => some trap
  | "wait" => some wait
  | _ => none

/-- The path of a program along the search path. -/
def pathOf? (sh : Shell) (name : String) : Option String :=
  let candidates := if name.toList.contains '/' then [name]
    else (Text.cut ':' ((sh.value? "PATH").getD "").toList).map fun dir =>
      (if dir.isEmpty then "" else String.ofList dir ++ "/") ++ name
  candidates.find? fun path =>
    (sh.process.files.find? (Process.pathOf path)).any Node.isExecutable

/-- What a name stands for, in one word for programs to read. -/
def meaning? (sh : Shell) (name : String) : Option String :=
  if Ahead.keywords.contains name ∨ (sh.functions.lookup name).isSome ∨
      (find? name).isSome ∨ ["exec", "command", "type"].contains name then some name
  else pathOf? sh name

/-- What a name stands for, in a sentence. -/
def description (sh : Shell) (name : String) : String :=
  if Ahead.keywords.contains name then name ++ " is a shell keyword"
  else if (sh.functions.lookup name).isSome then name ++ " is a shell function"
  else if specialCommands.contains name then name ++ " is a special shell builtin"
  else if (find? name).isSome ∨ ["command", "type"].contains name then
    name ++ " is a shell builtin"
  else
    match pathOf? sh name with
    | some path => name ++ " is " ++ path
    | none => name ++ ": not found"

/-- Tells what names stand for. -/
def describeAll (args : List String) (sh : Shell) : Shell × Flow :=
  done (args.foldl (fun sh name => sh.update (·.print (description sh name ++ "\n"))) sh)
    (if args.all fun name => (meaning? sh name).isSome then 0 else 127)

end Overseer.Machine.Script.Builtin
