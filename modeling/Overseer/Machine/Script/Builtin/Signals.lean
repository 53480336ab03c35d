import Overseer.Machine.Script.Builtin.Basic
import Overseer.Signal

/-!
Built-in commands that send signals, handle them, and wait for jobs.
-/

namespace Overseer.Machine.Script.Builtin

/-- The highest number of a signal. -/
def lastSignal : Nat := 64

/-- The first number of the signals that are free for any use. -/
def firstFreeSignal : Nat := 34

/-- The signal of a fault on the stack of a coprocessor, which scripts know by number only. -/
def stackFault : Nat := 16

/-- The name of a signal: free ones are counted from the nearer end, and one without a name goes by
    its number. -/
def signalName (number : Nat) : String :=
  let middle := (firstFreeSignal + lastSignal + 1) / 2
  if number = 0 then "EXIT"
  else if number = firstFreeSignal then "RTMIN"
  else if number = lastSignal then "RTMAX"
  else if firstFreeSignal < number ∧ number ≤ middle then s!"RTMIN+{number - firstFreeSignal}"
  else if middle < number ∧ number < lastSignal then s!"RTMAX-{lastSignal - number}"
  else
    match Signal.known? number with
    | some e =>
      if number = stackFault then toString number else String.ofList (e.name.toList.drop 3)
    | none => toString number

/-- The number of a signal given by number or name, names from a number upwards. -/
def signalNumber? (lowest : Nat) (text : String) : Option Nat :=
  match text.toNat? with
  | some n => if n ≤ lastSignal then some n else none
  | none =>
    let name := text.map Char.toUpper
    (List.range (lastSignal + 1)).find? fun n => decide (lowest ≤ n) && signalName n == name

/-- Signals that have no effect unless handled. -/
def harmless : List Nat := [0, 17, 18, 23, 28]

/-- Signals that stop a process. -/
def stopping : List Nat := [19, 20, 21, 22]

/-- What a signal does to the script itself. -/
def receive (run : Runner) (number : Nat) (sh : Shell) : Shell × Flow :=
  let handler := if number = 0 ∨ number = 9 ∨ number = 19 then none else sh.traps.lookup number
  match handler with
  | some "" => done sh 0
  | some source =>
    let (inner, flow) := runText run source
      { sh with speaker := none, final := false, tested := false }
    ({ inner with
      speaker := sh.speaker
      tested := sh.tested
      status := if flow = .finished then 0 else inner.status }, flow)
  | none =>
    if number ∈ harmless then done sh 0
    else if number ∈ stopping then (sh, .endless)
    else (sh, .signalled number)

/-- Ends a job by a signal, unless it takes no notice of it; with all that it started, if the signal
    goes to the whole of them. -/
def endJob (whole : Bool) (number id : Nat) (sh : Shell) : Shell :=
  let now := sh.process.clock
  let ended (job : Job) : Bool := job.id == id && decide (now < job.finish) &&
    !Lineage.ignores (job.done ++ sh.process.done) number job.lineage now
  let members (job : Job) : List Nat :=
    if !whole then [id]
    else (job.done.flatMap fun a => a.lineage.map Birth.process).eraseDups.filter (id ≤ ·)
  let finish (job : Job) : Job :=
    if ended job then
      { job with finish := now, status := 128 + number, signal := some number }
    else job
  match (sh.jobs ++ sh.others).find? ended with
  | none => sh
  | some job =>
    if number ∈ harmless then sh
    else
      let sh := sh.bury ((members job).map fun process => ⟨process, now + 1⟩)
      { sh with jobs := sh.jobs.map finish, others := sh.others.map finish }

/-- Sends a signal to a process that the script descends from, which may be busy just now. -/
def strike (number target : Nat) (sh : Shell) : Shell :=
  { sh with strikes := sh.strikes ++ [⟨target, number, sh.process.clock⟩] }

/-- Sends a signal to one process. -/
def send (run : Runner) (number : Nat) (target : String) (sh : Shell) : Shell × Flow :=
  let ancestors := sh.process.lineage.tail.map Birth.process
  let missing := done (sh.complain "No such process\n") 1
  if target = "0" then
    receive run number
      (ancestors.foldl (fun sh id => strike number id sh) (sh.update (·.act (.signalAgent number))))
  else
    match target.toNat?, target.toList with
    | none, '%' :: place =>
      match (String.ofList place).toNat?.bind fun n => sh.places[n - 1]?.join with
      | some _ => missing
      | none => refuse sh ("No such job: " ++ target)
    | none, _ => refuse sh ("Illegal number: " ++ target)
    | some id, _ =>
      if id = sh.process.id then receive run number sh
      else if id ∈ ancestors then done (strike number id sh) 0
      else if id = sh.process.agent then
        done (if number = 0 then sh else sh.update (·.act (.signalAgent number))) 0
      else if (sh.jobs ++ sh.others).any fun job => job.id = id ∧ sh.process.clock ≤ job.finish then
        done (endJob false number id sh) 0
      else missing

/-- Attends to the first signal that has come in meanwhile. One that ends the script has done so
    when it came; for any other the script first finishes what it was about. -/
def attend (run : Runner) (sh : Shell) (flow : Flow) : Shell × Flow :=
  let due (s : Strike) : Bool := s.target == sh.process.id &&
    (flow == .endless || (flow == .finished && decide (s.time ≤ sh.process.clock)))
  match sh.strikes.find? due with
  | none => (sh, flow)
  | some s =>
    let calm := { sh with strikes := sh.strikes.erase s }
    let (struck, outcome) := receive run s.number calm
    match outcome with
    | .finished => (struck.setStatus sh.status, flow)
    | .signalled _ | .endless =>
      (calm.update fun p => { p with clock := min p.clock s.time }, outcome)
    | outcome => (struck, outcome)

/-- Sends a signal to several processes, up to one that ends the script. -/
def sendAll (run : Runner) (number : Nat) : List String → Shell → Shell × Flow
  | [], sh => (sh, .finished)
  | target :: rest, sh =>
    let (sh, flow) := send run number target sh
    if flow = .finished then
      let status := sh.status
      let (sh, flow) := sendAll run number rest sh
      (if flow = .finished ∧ rest ≠ [] ∧ status ≠ 0 then sh.setStatus status else sh, flow)
    else (sh, flow)

def killUsage : String :=
  "Usage: kill [-s sigspec | -signum | -sigspec] [pid | job]... or\nkill -l [exitstatus]"

/-- Names signals: all of them, or the one behind an exit status. -/
def listSignals (args : List String) (sh : Shell) : Shell × Flow :=
  match args with
  | [] =>
    done (sh.update (·.print (String.join ((List.range (lastSignal + 1)).map fun n =>
      (if n = 0 then "0" else signalName n) ++ "\n")))) 0
  | arg :: _ =>
    numberIn arg sh fun n =>
      let number := if n > 128 then n - 128 else n
      if 0 < number ∧ number ≤ lastSignal then
        done (sh.update (·.print (signalName number ++ "\n"))) 0
      else refuse sh ("invalid signal number or exit status: " ++ arg)

/-- Sends a signal, ended politely unless another is given. -/
def kill : Builtin := fun run args sh =>
  let sendTo (number : Nat) (targets : List String) :=
    if targets.isEmpty then refuse sh killUsage else sendAll run number targets sh
  match args with
  | [] => refuse sh killUsage
  | first :: rest =>
    match first.toList with
    | '-' :: option =>
      match signalNumber? 1 (String.ofList option) with
      | some number => sendTo number (if rest.head? = some "--" then rest.tail else rest)
      | none =>
        match option with
        | ['-'] => sendTo 15 rest
        | ['l'] => listSignals rest sh
        | 's' :: attached =>
          let (name?, targets) :=
            if attached.isEmpty then (rest.head?, rest.tail)
            else (some (String.ofList attached), rest)
          match name? with
          | none => refuse sh "No arg for -s option"
          | some name =>
            match signalNumber? 1 name with
            | some number =>
              sendTo number (if targets.head? = some "--" then targets.tail else targets)
            | none => refuse sh ("invalid signal number or name: " ++ name)
        | _ =>
          let letter := (option.dropWhile (· = 'l')).take 1
          refuse sh ("Illegal option -" ++ String.ofList letter)
    | _ => sendTo 15 args

/-- Sets handlers for signals, up to a name that no signal has. -/
def handle (handler : Option String) : List String → Shell → Shell × Flow
  | [], sh => done sh 0
  | name :: names, sh =>
    match signalNumber? 0 name with
    | none => done (sh.update (·.complain ("trap: " ++ name ++ ": bad trap"))) 1
    | some number =>
      let others := sh.traps.filter fun t => t.1 != number
      let sh := if handler = some "" then sh.update (·.act (.ignore number)) else sh
      handle handler names { sh with traps :=
        match handler with
        | none => others
        | some text => (number, text) :: others }

/-- Sets, ignores, resets or shows the handlers of signals. -/
def trap : Builtin := fun _ args sh =>
  match (if args.head? = some "--" then args.tail else args) with
  | [] =>
    let shown := (List.range (lastSignal + 1)).filterMap fun n =>
      (sh.traps.lookup n).map fun text =>
        "trap -- " ++ inSingleQuotes text ++ " " ++ signalName n ++ "\n"
    done (sh.update (·.print (String.join shown))) 0
  | [name] => handle none [name] sh
  | first :: names =>
    if (first.toNat?).isSome then handle none (first :: names) sh
    else handle (if first = "-" then none else some first) names sh

/-- What the death of a program by a signal is reported as. -/
def obituary? : Nat → Option String
  | 1 => some "Hangup"
  | 3 => some "Quit"
  | 4 => some "Illegal instruction"
  | 5 => some "Trace/breakpoint trap"
  | 6 => some "Aborted"
  | 7 => some "Bus error"
  | 8 => some "Floating point exception"
  | 9 => some "Killed"
  | 10 => some "User defined signal 1"
  | 11 => some "Segmentation fault"
  | 12 => some "User defined signal 2"
  | 14 => some "Alarm clock"
  | 15 => some "Terminated"
  | _ => none

/-- Reports the death of a program by a signal. -/
def mourn (number : Nat) (sh : Shell) : Shell :=
  match obituary? number with
  | some text => sh.update (·.complain text)
  | none => sh

/-- The job that an argument names, by the process id or by its place. -/
def jobOf (arg : String) (sh : Shell) : Option Nat :=
  match arg.toList with
  | '%' :: place => (String.ofList place).toNat?.bind fun n => sh.places[n - 1]?.join
  | _ => arg.toNat?

/-- Waits for one job or for all, until a signal comes in. -/
def wait : Builtin := fun _ args sh =>
  match args with
  | arg :: _ =>
    if (jobOf arg sh).isNone then refuse sh ((if arg.toList.head? = some '%' then "No such job: "
      else "Illegal number: ") ++ arg)
    else attendTo args sh
  | [] => attendTo [] sh
where
  attendTo (args : List String) (sh : Shell) : Shell × Flow :=
    let asked := args.filterMap (jobOf · sh)
    let which (job : Job) : Bool := args.isEmpty || asked.contains job.group
    let ended := sh.jobs.filter which
    let time := ended.foldl (fun time job => max time job.finish) sh.process.clock
    let signal? := sh.strikes.find? fun s =>
      s.target == sh.process.id && decide (sh.process.clock < s.time ∧ s.time < time)
    match signal? with
    | some s => done ((sh.update (·.waitUntil s.time)).observe) (128 + s.number)
    | none =>
      let sh := ended.foldl (fun sh job => mourn (job.signal.getD 0) sh) (sh.waitFor which)
      let statuses := (ended.filter fun job => job.id = job.group).map fun job =>
        (job.group, job.status)
      let sh := { sh with waited := statuses ++ sh.waited }
      if ended.any fun job => job.finish = Shell.endOfTime then (sh, .endless)
      else
        done sh (match asked.getLast? with
          | some group => (sh.waited.lookup group).getD 127
          | none => 0)

end Overseer.Machine.Script.Builtin
