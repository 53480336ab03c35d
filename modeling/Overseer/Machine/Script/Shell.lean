import Overseer.Machine.Process
import Overseer.Machine.Script.Reader

/-!
The state of a running script: its parameters and variables, its functions and traps, and the jobs
that it runs beside itself.
-/

namespace Overseer.Machine.Script

/-- A part of a script that runs beside it. -/
structure Job where
  id : Nat
  /-- The process whose end counts, of several that were started together. -/
  group : Nat
  lineage : Lineage
  /-- When it ends. -/
  finish : Nat
  status : Nat
  /-- The signal that ended it, if one did. -/
  signal : Option Nat
  /-- What it does, the last first. -/
  done : List Activity
  /-- What of it the script has yet to see, the first first. -/
  upcoming : List Activity

/-- A signal for a process that is about something else. -/
structure Strike where
  target : Nat
  number : Nat
  time : Nat
  deriving DecidableEq, Repr

structure Shell where
  process : Process
  /-- The process id of the script. -/
  id : Nat
  name : String
  /-- The line of the command at hand. -/
  line : Nat
  /-- Who complains for the script: a built-in command at work, or a file that is being read. -/
  speaker : Option String
  parameters : List String
  bindings : List (String × String)
  exported : List String
  readOnly : List String
  functions : List (String × Command)
  status : Nat
  /-- The status of the last substitution in the command at hand, if there was one. -/
  substituted : Option Nat
  /-- Handlers by signal number; number zero stands for the end of the script. -/
  traps : List (Nat × String)
  jobs : List Job
  /-- The groups of jobs by their places, some of which are free. -/
  places : List (Option Nat)
  /-- The statuses of jobs that have been waited for. -/
  waited : List (Nat × Nat)
  /-- Jobs of the scripts within this one, and of those around it. -/
  others : List Job
  lastJob : Option Nat
  nextId : Nat
  strikes : List Strike
  /-- The options that are set, by their letters. -/
  options : List Char
  /-- What to restore at the end of the functions at hand, the innermost first. -/
  saved : List (List (String × Option String))
  /-- The number of loops under way. -/
  loops : Nat
  /-- Whether the process has nothing to do but the command at hand. -/
  final : Bool
  /-- Whether what surrounds the command at hand looks at its failure. -/
  tested : Bool
  /-- How an expansion ended the command at hand, if one did. -/
  halted : Option Flow

namespace Shell

/-- Changes the process. -/
def update (sh : Shell) (f : Process → Process) : Shell :=
  { sh with process := f sh.process }

def setStatus (sh : Shell) (status : Nat) : Shell :=
  { sh with status }

/-- Whether an option is set. -/
def has (sh : Shell) (option : Char) : Bool :=
  sh.options.contains option

/-- Ends on an error as soon as a command fails. -/
def errorOption : Char := 'e'

/-- Takes no notice of patterns of file names. -/
def noPatternOption : Char := 'f'

/-- Refuses parameters that are not set. -/
def unsetOption : Char := 'u'

/-- Shows commands before they are carried out. -/
def traceOption : Char := 'x'

/-- Keeps the files that exist from being replaced. -/
def keepOption : Char := 'C'

/-- The options that there are: letters and names. -/
def knownOptions : List (Char × String) :=
  [('e', "errexit"), ('f', "noglob"), ('I', "ignoreeof"), ('i', "interactive"), ('m', "monitor"),
    ('n', "noexec"), ('s', "stdin"), ('x', "xtrace"), ('v', "verbose"), ('V', "vi"),
    ('E', "emacs"), ('C', "noclobber"), ('a', "allexport"), ('b', "notify"), ('u', "nounset")]

/-- Sets or clears an option. -/
def setOption (sh : Shell) (on : Bool) (option : Char) : Shell :=
  let others := sh.options.filter (· != option)
  { sh with options := if on then option :: others else others }

/-- The value of a variable. -/
def value? (sh : Shell) (name : String) : Option String :=
  sh.bindings.lookup name

/-- Complains in the name of the script, with the line of the command at hand. -/
def complain (sh : Shell) (text : String) : Shell :=
  let speaker := (sh.speaker.map (· ++ ": ")).getD ""
  sh.update (·.complain (sh.name ++ ": " ++ toString sh.line ++ ": " ++ speaker ++ text))

/-- The status of a script that an error ends. -/
def errorStatus : Nat := 2

/-- An expansion fails, and the command at hand with it. -/
def fail (sh : Shell) (text : String) : Shell :=
  { sh.complain text with status := errorStatus, halted := some .failed }

/-- Assigns a variable, unless it is read only. -/
def assign (sh : Shell) (name value : String) : Shell :=
  if sh.readOnly.contains name then sh.fail (name ++ ": is read only")
  else { sh with bindings := (name, value) :: sh.bindings.filter fun v => v.1 != name }

/-- Gives a variable back the value that it had. -/
def restore (sh : Shell) (name : String) (value : Option String) : Shell :=
  let others := sh.bindings.filter fun v => v.1 != name
  { sh with bindings :=
    match value with
    | some value => (name, value) :: others
    | none => others }

/-- Exports a variable. -/
def exportName (sh : Shell) (name : String) : Shell :=
  if sh.exported.contains name then sh else { sh with exported := sh.exported ++ [name] }

/-- The separators between fields when none are asked for. -/
def blanks : String := " \t\n"

/-- The characters that separate fields. -/
def separators (sh : Shell) : List Char :=
  ((sh.value? "IFS").getD blanks).toList

/-- All parameters as one text. -/
def joinedParameters (sh : Shell) : String :=
  let between := match sh.separators with
    | [] => ""
    | c :: _ => c.toString
  between.intercalate sh.parameters

/-- The value of a parameter, special ones included. -/
def parameter? (sh : Shell) (name : String) : Option String :=
  match name with
  | "?" => some (toString sh.status)
  | "$" => some (toString sh.id)
  | "!" => sh.lastJob.map toString
  | "#" => some (toString sh.parameters.length)
  | "@" | "*" => if sh.parameters.isEmpty then none else some sh.joinedParameters
  | "-" => some (String.ofList ((knownOptions.map Prod.fst).filter sh.has).reverse)
  | "0" => some sh.name
  | _ =>
    match name.toNat? with
    | some n => sh.parameters[n - 1]?
    | none => sh.value? name

/-- The environment of a program that the script starts. -/
def environment (sh : Shell) : Environment :=
  { sh.process.environment with
    bindings := sh.exported.filterMap fun name =>
      (sh.value? name).map fun value => (name, Bytes.gather value) }

/-- The environment in which programs are searched for: along the search path at hand, whether
    programs inherit it or not. -/
def searchEnvironment (sh : Shell) : Environment :=
  let path := "PATH"
  { sh.environment with
    bindings := (path, Bytes.gather ((sh.value? path).getD "")) ::
      sh.environment.bindings.filter fun v => v.1 ≠ path }

/-- A copy of the shell in a process of its own. Handlers are not copied. -/
def fork (sh : Shell) : Shell :=
  { sh with
    process := sh.process.fork sh.nextId
    nextId := sh.nextId + 1
    traps := sh.traps.filter fun t => t.2 = ""
    jobs := []
    places := []
    waited := []
    others := sh.others ++ sh.jobs
    final := false }

/-- Puts a new job in the first place that is free, or taken by a job that has been waited for,
    which is forgotten then. -/
def place (sh : Shell) (group : Option Nat) : Shell :=
  let isOpen (taken : Option Nat) : Bool :=
    taken.all fun group => sh.waited.any fun w => w.1 = group
  let k := (sh.places.findIdx? isOpen).getD sh.places.length
  let forgotten := sh.places[k]?.join
  { sh with
    places := if k < sh.places.length then sh.places.set k group else sh.places ++ [group]
    waited := sh.waited.filter fun w => some w.1 != forgotten }

/-- Something that never ends holds its streams until this time. -/
def endOfTime : Nat := 1000000000

/-- The end of the shell's process. -/
def leave (sh : Shell) (flow : Flow) : Shell :=
  sh.update fun p => (if flow = .endless then p.waitUntil endOfTime else p).leave

/-- Goes on after a part that ran as a process of its own: what it did stays done, but its
    variables, its directory and its descriptors are its own. -/
def resume (sh inner : Shell) : Shell :=
  let own (job : Job) : Bool := sh.jobs.any fun j => j.id = job.id
  { sh with
    process := { inner.process with
      files := { inner.process.files with cwd := sh.process.files.cwd }
      environment := sh.process.environment
      descriptors := sh.process.descriptors
      aside := sh.process.aside
      refused := sh.process.refused
      lineage := sh.process.lineage }
    status := inner.status
    jobs := inner.others.filter own
    others := inner.others.filter (!own ·) ++ inner.jobs
    nextId := inner.nextId
    strikes := inner.strikes }

/-- Sees what jobs have done up to now. -/
def observe (sh : Shell) : Shell :=
  let past (a : Activity) : Bool := a.time ≤ sh.process.clock
  let see (p : Process) (job : Job) : Process :=
    (job.upcoming.takeWhile past).foldl (fun p a => p.witness a.act) p
  let rest (job : Job) : Job := { job with upcoming := job.upcoming.dropWhile past }
  { sh with
    process := (sh.jobs ++ sh.others).foldl see sh.process
    jobs := sh.jobs.map rest
    others := sh.others.map rest }

/-- Some processes go before their time: what they would have done and started later does not
    happen, and they let go of what they held. -/
def bury (sh : Shell) (deaths : List Death) : Shell :=
  let kept (activities : List Activity) : List Activity :=
    activities.filterMap fun a =>
      match a.act, deaths.find? fun d => a.lineage.head?.map Birth.process = some d.process with
      | .release _, some d => some { a with time := min a.time (d.time - 1) }
      | _, _ => if a.lineage.lives deaths a.time then some a else none
  let unsent (m : Message) : Message :=
    if m.lineage.lives deaths m.time then m
    else
      let time := deaths.foldl (fun time d => min time (d.time - 1)) m.time
      { m with time, bytes := [] }
  let cut (job : Job) : Job := { job with done := kept job.done, upcoming := kept job.upcoming }
  { sh.update fun p => { p with done := kept p.done, messages := p.messages.map unsent } with
    jobs := sh.jobs.map cut
    others := sh.others.map cut }

/-- Waits for the jobs with a property. They are done with then. -/
def waitFor (sh : Shell) (which : Job → Bool) : Shell :=
  let ended := sh.jobs.filter which
  let sh := (sh.update fun p => ended.foldl (fun p job => p.waitUntil job.finish) p).observe
  { sh.update fun p => { p with done := ended.foldl (fun done job => job.done ++ done) p.done } with
    jobs := sh.jobs.filter (!which ·) }

/-- What was written for a process: pieces in order of time, up to when the last writer has let
    go. -/
def writtenFor (sh : Shell) (reader : Nat) : Input :=
  let messages := sh.process.messages.reverse.filter fun m => m.reader = reader
  let pieces := messages.map fun m => (m.time, m.bytes)
  ⟨pieces.mergeSort fun a b => decide (a.1 ≤ b.1),
    pieces.foldl (fun time piece => max time piece.1) 0⟩

/-- Does away with what was written for processes that have read it. -/
def clearWritten (sh : Shell) (readers : List Nat) : Shell :=
  sh.update fun p => { p with messages := p.messages.filter fun m => !readers.contains m.reader }

end Shell

end Overseer.Machine.Script
