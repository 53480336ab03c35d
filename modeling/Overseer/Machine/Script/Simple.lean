import Overseer.Machine.Script.Program
import Overseer.Machine.Script.Redirection

/-!
Simple commands: assignments, redirections, and what the first word stands for.
-/

namespace Overseer.Machine.Script

/-- Whether another program may take the place of the process when a last command is carried
    out: no handler is waiting for its end. -/
def mayBeReplaced (sh : Shell) : Bool :=
  sh.final && sh.traps.all fun t => t.2 = ""

/-- Ends the script after a failure that nothing looks at, if it is to end on errors. -/
def checked (outcome : Shell × Flow) : Shell × Flow :=
  let (sh, flow) := outcome
  if flow = .finished ∧ sh.has Shell.errorOption ∧ ¬ sh.tested ∧ sh.status ≠ 0 then (sh, .exited)
  else (sh, flow)

/-- Built-in commands whose arguments may be assignments. -/
def assigningCommands : List String :=
  ["export", "readonly", "local", "alias"]

/-- Whether arguments behind some others may be assignments. -/
def mayAssign (sh : Shell) (args : List String) : Bool :=
  match args.dropWhile fun arg => arg == "command" || arg == "-p" || arg == "--" with
  | name :: _ => assigningCommands.contains name && (sh.functions.lookup name).isNone
  | [] => false

/-- Expands the words of a command. -/
def expandArguments (run : Runner) : List String → List Word → Shell → List String × Shell
  | done, [], sh => (done, sh)
  | done, w :: rest, sh =>
    match (if mayAssign sh done then assignment? w else none) with
    | some (name, value) =>
      let (text, sh) := expandValue run value sh
      expandArguments run (done ++ [name ++ "=" ++ text]) rest sh
    | none =>
      let (found, sh) := expandAll run [w] sh
      expandArguments run (done ++ found) rest sh

/-- What the words of a command stand for. -/
inductive Verb
  /-- No command at all. -/
  | none
  | function (body : Command)
  | builtin (name : String) (body : Builtin) (special : Bool)
  /-- A program in place of the script. -/
  | replacement
  | program (name : String)

namespace Verb

/-- Whether errors of the command end the script. -/
def isSpecial : Verb → Bool
  | builtin _ _ special => special
  | replacement => true
  | _ => false

/-- The words behind `command` and the options that change nothing, unless there are others. -/
def commandWords? : List String → Option (List String)
  | "-p" :: rest => commandWords? rest
  | "--" :: rest => some rest
  | arg :: rest =>
    if arg.toList.head? = some '-' ∧ arg ≠ "-" then Option.none else some (arg :: rest)
  | [] => some []

/-- Tells what a name stands for, in a word or in a sentence. -/
def tell : Builtin := fun _ args sh =>
  match (args.head?.getD "").toList, args.tail.filter (· ≠ "--") with
  | ['-', 'v'], name :: _ =>
    match Builtin.meaning? sh name with
    | some text => Builtin.done (sh.update (·.print (text ++ "\n"))) 0
    | Option.none => Builtin.done sh 127
  | ['-', 'V'], name :: _ => Builtin.describeAll [name] sh
  | ['-', 'v'], [] | ['-', 'V'], [] => Builtin.done sh 0
  | letters, _ =>
    Builtin.refuse sh ("Illegal option -" ++ String.ofList ((letters.drop 1).take 1))

/-- What words stand for, and the arguments. Behind `command` functions do not count, and nothing is
    special. -/
def find (sh : Shell) : Nat → Bool → List String → Verb × List String
  | 0, _, args => (none, args)
  | _, _, [] => (none, [])
  | fuel + 1, beyond, name :: args =>
    match (if beyond then Option.none else sh.functions.lookup name) with
    | some body => (function body, args)
    | Option.none =>
      match name with
      | "command" =>
        match commandWords? args with
        | some [] => (builtin name (fun _ _ sh => Builtin.done sh 0) false, [])
        | some rest => find sh fuel true rest
        | Option.none => (builtin name tell false, args.filter (· ≠ "-p"))
      | "type" => (builtin name (fun _ args sh => Builtin.describeAll args sh) false, args)
      | "exec" =>
        let args := if args.head? = some "--" then args.tail else args
        if args.isEmpty then (builtin name (fun _ _ sh => Builtin.done sh 0) (!beyond), [])
        else (replacement, args)
      | _ =>
        match Builtin.find? name with
        | some body => (builtin name body (!beyond && specialCommands.contains name), args)
        | Option.none => (program name, args)

end Verb

/-- Carries out a function. The variables that are its own get their former values back. -/
def callFunction (run : Runner) (body : Command) (args : List String) (sh : Shell) :
    Shell × Flow :=
  let (inner, flow) := run body
    { sh with parameters := args, saved := [] :: sh.saved, loops := 0 }
  let own := inner.saved.head?.getD []
  let restored := own.foldl (fun sh (name, value) => sh.restore name value) inner
  ({ restored with parameters := sh.parameters, saved := sh.saved, loops := sh.loops },
    if flow = .returned then .finished else flow)

/-- Carries out a built-in command. When its output was refused, it has failed. Unless the command
    is special, no error in it ends the script. -/
def callBuiltin (run : Runner) (name : String) (body : Builtin) (special : Bool)
    (args : List String) (sh : Shell) : Shell × Flow :=
  let (inner, flow) := body run args
    { sh.update fun p => { p with refused := none } with speaker := some name }
  let flow := if flow = .failed ∧ ¬ special then .finished else flow
  let inner := if flow = .finished ∧ inner.process.refused.isSome then
      let status := if inner.status = 0 then 1 else inner.status
      (inner.complain (name ++ ": I/O error")).setStatus status
    else inner
  ({ inner with speaker := sh.speaker }, flow)

/-- Carries out what words stand for. -/
def invoke (run : Runner) (replaceable : Bool) (verb : Verb) (args : List String) (sh : Shell) :
    Shell × Flow :=
  match verb with
  | .none => (sh, .finished)
  | .function body => callFunction run body args sh
  | .builtin name body special => callBuiltin run name body special args sh
  | .replacement =>
    execute run (args.head?.getD "") args.tail { sh with speaker := some "exec" }
  | .program name =>
    if replaceable then execute run name args sh
    else
      let sh := sh.place none
      let (inner, flow) := execute run name args sh.fork
      join sh inner flow

/-- Assigns expanded values one after the other, and tells what they are. -/
def assignAll (run : Runner) : List (String × Word) → Shell → List (String × String) × Shell
  | [], sh => ([], sh)
  | (name, w) :: rest, sh =>
    let (value, sh) := expandValue run w sh
    let sh := if sh.halted.isSome then sh else sh.assign name value
    if sh.halted.isSome then ([], sh)
    else
      let (more, sh) := assignAll run rest sh
      ((name, value) :: more, sh)

/-- Shows a command that is about to be carried out, if that is asked for. -/
def trace (before : Shell) (assigned : List (String × String)) (args : List String) (sh : Shell) :
    Shell :=
  let texts := (assigned.map fun (name, value) => name ++ "=" ++ value) ++ args
  if sh.has Shell.traceOption ∧ !texts.isEmpty then
    let line := (sh.value? "PS4").getD "" ++ " ".intercalate texts ++ "\n"
    sh.update fun p =>
      match before.process.target? Process.errorDescriptor with
      | some target => { p.send target (Bytes.gather line) with refused := p.refused }
      | none => p
  else sh

/-- Takes assignments back that were to last as long as a command. -/
def takeBack (before : Shell) (names : List String) (sh : Shell) : Shell :=
  names.foldl (fun sh name =>
    let exported := sh.exported.filter (· ≠ name)
    { sh.restore name (before.value? name) with
      exported := if before.exported.contains name then exported ++ [name] else exported }) sh

/-- Carries out a simple command. Assignments in front of a command last as long as it does, except
    that there is none or a special one. Redirections last when there is nothing but `exec`. -/
def runSimple (run : Runner) (line : Nat) (assignments : List (String × Word)) (words : List Word)
    (rs : List Redirect) (sh : Shell) : Shell × Flow :=
  let replaceable := mayBeReplaced sh
  let (texts, sh) :=
    expandArguments run [] words { sh with final := false, line, substituted := none }
  unlessHalted sh fun sh =>
  let (targets, before) := expandTargets run rs sh
  unlessHalted before fun before =>
  let (verb, args) := Verb.find before (texts.length + 1) false texts
  let lasting := match verb with
    | .builtin name _ _ => name == "exec"
    | _ => false
  let putBack (inner : Shell) (flow : Flow) : Shell × Flow :=
    if targets.isEmpty then (inner, flow) else Script.putBack before targets inner flow
  let (ok, sh) := redirectAll targets (if targets.isEmpty then before else setAside before)
  if !ok then
    checked (putBack (sh.setStatus Shell.errorStatus)
      (if verb.isSpecial then .failed else .finished))
  else
    let bare := sh
    let (assigned, sh) := assignAll run assignments sh
    let (sh, flow) := unlessHalted sh fun sh =>
      let sh := trace before assigned texts sh
      let names := assigned.map Prod.fst
      let visible := names.foldl Shell.exportName sh
      match verb with
      | .none =>
        let status := sh.substituted.getD 0
        ({ sh with status, exported :=
          if sh.has 'a' then visible.exported else sh.exported }, .finished)
      | .replacement => invoke run replaceable verb args visible
      | verb =>
        if verb.isSpecial then invoke run replaceable verb args sh
        else
          let (inner, flow) := invoke run replaceable verb args visible
          (takeBack bare names inner, flow)
    if lasting && flow == .finished then
      checked (sh.update fun p => { p with aside := before.process.aside }.releaseSince p, flow)
    else checked (putBack sh flow)

end Overseer.Machine.Script
