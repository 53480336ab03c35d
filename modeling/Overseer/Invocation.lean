import Overseer.Locate
import Overseer.Text.Blank
import Overseer.Text.Numeral

/-!
The command line: which of its three modes an argument list asks for, and with what.
-/

namespace Overseer

/-- A command to supervise. -/
structure ExecRequest where
  /-- Seconds; without a limit when not positive. -/
  timeLimit : Int
  stdoutFile : String
  stderrFile : String
  exitFile : String
  command : String
  args : List String
  deriving DecidableEq, Repr

/-- What the agent is asked to do. -/
inductive Mode
  /-- Run the workflow interpreter with these arguments. -/
  | interpreter (args : List String)
  /-- Supervise one command. -/
  | execute (request : ExecRequest)
  /-- End a process group. -/
  | kill (group : Int)
  deriving DecidableEq, Repr

/-- A command line that has been understood. -/
structure Invocation where
  mode : Mode
  /-- All arguments, the program name first. -/
  args : List String
  /-- The agent's own program file. -/
  exe : Path
  deriving DecidableEq, Repr

namespace Invocation

/-- Ends the options of a command line; what follows it is taken as it is. -/
def terminator : String := "--"

/-- The parameters of the exec mode. The first terminator disappears unless a child argument comes
    before it. -/
def execParameters (args : List String) : List String :=
  if terminator ∈ args.take 6 then args.erase terminator else args

/-- The request that positional parameters make. -/
def requestOf (parameters : List String) : Except Fault ExecRequest :=
  match parameters with
  | timeLimit :: stdoutFile :: stderrFile :: exitFile :: command :: args =>
    match Text.NumeralRange.int64.read? (Text.trimmed timeLimit) with
    | some timeLimit => .ok ⟨timeLimit, stdoutFile, stderrFile, exitFile, command, args⟩
    | none => .error (.timeLimit timeLimit)
  | _ => .error (.usage "Invalid number of parameters for 'exec' command")

def parseExec (args : List String) : Except Fault ExecRequest :=
  requestOf (execParameters args)

/-- Why the parameters of the kill mode are refused. -/
inductive KillProblem
  | unexpected
  | missing
  | invalid
  deriving DecidableEq, Repr

def KillProblem.message : KillProblem → String
  | unexpected => "unexpected argument found"
  | missing => "one or more required arguments were not provided"
  | invalid => "invalid value for one of the arguments"

/-- Whether an argument looks like an option. -/
def isOption (arg : String) : Bool :=
  arg.toList.head? == some '-' && arg != "-"

/-- The parameters of the kill mode; nothing when one looks like an option. -/
def killParameters? (args : List String) : Option (List String) :=
  let before := args.takeWhile (· ≠ terminator)
  if before.any isOption then none else some (before ++ (args.dropWhile (· ≠ terminator)).tail)

/-- The process group that the kill mode is given. -/
def killGroup (args : List String) : Except KillProblem Int :=
  match killParameters? args with
  | none => .error .unexpected
  | some [] => .error .missing
  | some [value] =>
    match Text.NumeralRange.int32.read? value with
    | some group => .ok group
    | none => .error .invalid
  | some _ => .error .unexpected

def parseKill (args : List String) : Except Fault Int :=
  match killGroup args with
  | .error problem =>
    .error (.usage ("Invalid parameters for 'kill' command: " ++ problem.message))
  | .ok group =>
    if group ≤ 0 then
      .error (.usage s!"Invalid process group id for 'kill' command: {group}")
    else .ok group

/-- The mode that the arguments behind the program name ask for. -/
def parseMode : List String → Except Fault Mode
  | "exec" :: args => (parseExec args).map .execute
  | "kill" :: args => (parseKill args).map .kill
  | args => .ok (.interpreter args)

/-- Understands a command line, the program name first. The program file is found before anything
    else is looked at. -/
def parse (env : Environment) (files : Files) : List String → Except Fault Invocation
  | [] => .error (.usage "missing program name")
  | name :: args => do
    let exe ← Locate.resolve env files name
    let mode ← parseMode args
    return ⟨mode, name :: args, exe⟩

end Invocation

end Overseer
