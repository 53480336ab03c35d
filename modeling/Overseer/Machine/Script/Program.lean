import Overseer.Machine.Script.Builtin.Lookup
import Overseer.Machine.Script.Start

/-!
Carrying out programs: in the place of a process, as a process of its own, and beside the script.
Some programs carry out another one in their turn, under changed circumstances.
-/

namespace Overseer.Machine.Script

/-- Carries out a whole script. -/
def runScript (run : Runner) (source : String) (sh : Shell) : Shell × Flow :=
  let (sh, flow) := runText run source sh
  conclude run sh flow

/-- Goes on after the end of a part that ran as a process of its own. -/
def join (sh inner : Shell) (flow : Flow) : Shell × Flow :=
  let sh := (sh.resume (inner.leave flow)).observe
  match flow with
  | .endless => (sh, .endless)
  | .signalled number => (Builtin.mourn number (sh.setStatus (128 + number)), .finished)
  | _ => (sh, .finished)

/-- Starts a process beside the script. -/
def beside (f : Shell → Shell × Flow) (sh : Shell) : Job × Shell :=
  let inner := sh.fork.update fun p => { p with done := [] }
  let process := inner.process
  let (inner, flow) := f inner
  let inner := inner.leave flow
  let signal := match flow with
    | .signalled number => some number
    | _ => none
  let status := (signal.map (128 + ·)).getD inner.status
  let done := inner.process.done
  let job : Job := {
    id := process.id
    group := process.id
    lineage := process.lineage
    finish := inner.process.clock
    status, signal, done
    upcoming := done.reverse }
  let own := { sh.process with
    messages := inner.process.messages
    openings := inner.process.openings }
  let sh := { sh.resume { inner with process := own } with status := sh.status }
  (job, { sh with jobs := sh.jobs ++ [job] }.observe)

/-- The setting of a variable among arguments, if it is one. -/
def setting? (arg : String) : Option (String × String) :=
  match Builtin.splitAssignment arg with
  | (name, some value) => if name = "" then none else some (name, value)
  | _ => none

/-- Programs are carried out by others to this depth. -/
def maxWrapping : Nat := 16

mutual

/-- Executes a program in place of the shell: its own end, as that of a process. -/
def executeImage (run : Runner) : Nat → Lookup.Image → Shell → Shell × Flow
  | 0, _, sh => (sh, .endless)
  | depth + 1, image, sh =>
    let sh := sh.update (·.becomeProgram)
    let name := image.args.head?.getD ""
    let args := image.args.tail
    match image.program with
    | "sh" | "dash" =>
      match Request.ofArgs { sh.process with environment := sh.environment } image.args with
      | .error text => ((sh.update (·.complain text)).setStatus Shell.errorStatus, .replaced)
      | .ok (request, process) =>
        let fresh := Shell.start process sh.nextId request
        let (inner, flow) := runScript run request.source { fresh with
          others := sh.others ++ sh.jobs
          strikes := sh.strikes
          traps := sh.traps.filter fun t => t.1 ≠ 0 ∧ t.2 = "" }
        (inner, if flow.isInHand then .replaced else flow)
    | "env" => changeEnvironment run depth name args sh
    | "nohup" => withoutHangup run depth name args sh
    | "setsid" => simplyExecute run depth name args sh
    | "nice" => withNiceness run depth name args sh
    | "timeout" => withTimeLimit run depth name args sh
    | "yes" =>
      let line := (if args.isEmpty then "y" else " ".intercalate args) ++ "\n"
      (sh.update fun p => (List.range 1000).foldl (fun p _ => p.print line) p, .endless)
    | program =>
      match Utility.find? program with
      | none => (sh.setStatus 127, .replaced)
      | some u =>
        let (status, process) := u name args { sh.process with environment := sh.environment }
        match process.refused with
        | none => ({ sh with process, status }, .replaced)
        | some e =>
          ({ sh with
            process := process.complain (name ++ ": write error: " ++ e.text)
            status := 1 }, .replaced)
  termination_by structural depth => depth

/-- Executes a program for another one, which reports when there is none. -/
def executeFor (run : Runner) :
    Nat → (String → Errno → String) → String → List String → Shell → Shell × Flow
  | 0, _, _, _, sh => (sh, .endless)
  | depth + 1, report, program, args, sh =>
    match Lookup.find sh.environment sh.process.files program args with
    | .ok image => executeImage run depth image sh
    | .error e =>
      if e = .notExecutable then executeImage run depth ⟨"sh", "sh" :: program :: args⟩ sh
      else
        let status := if e = .notFound then 127 else 126
        ((sh.update (·.complain (report program e))).setStatus status, .replaced)
  termination_by structural depth => depth

/-- Executes a program in a changed environment, or shows the environment. -/
def changeEnvironment (run : Runner) :
    Nat → String → List String → Shell → Shell × Flow
  | 0, _, _, sh => (sh, .endless)
  | depth + 1, own, args, sh =>
    match args with
    | "-i" :: rest | "-" :: rest => changeEnvironment run depth own rest { sh with exported := [] }
    | "-u" :: name :: rest =>
      changeEnvironment run depth own rest
        { sh with exported := sh.exported.filter (· ≠ name) }
    | "--" :: rest => changeEnvironment run depth own rest sh
    | [] =>
      let lines := sh.environment.bindings.map fun (name, value) =>
        name ++ "=" ++ Bytes.spread value ++ "\n"
      ((sh.update (·.print (String.join lines))).setStatus 0, .replaced)
    | arg :: rest =>
      match setting? arg with
      | some (name, value) =>
        changeEnvironment run depth own rest ((sh.restore name (some value)).exportName name)
      | none =>
        executeFor run depth (fun program e => own ++ ": '" ++ program ++ "': " ++ e.text)
          arg rest sh
  termination_by structural depth => depth

/-- What a program reports that could not start another. -/
def failedToRun (own program : String) (e : Errno) : String :=
  own ++ ": failed to run command '" ++ program ++ "': " ++ e.text

/-- Executes a program that takes no notice of being asked to hang up. -/
def withoutHangup (run : Runner) : Nat → String → List String → Shell → Shell × Flow
  | 0, _, _, sh => (sh, .endless)
  | depth + 1, own, args, sh =>
    match args with
    | [] =>
      let (status, process) := Utility.missingOperand own sh.process
      ({ sh with process, status := status + 124 }, .replaced)
    | program :: args =>
      let sh := { sh.update (·.act (.ignore Behaviour.hangup)) with
        traps := (Behaviour.hangup, "") :: sh.traps.filter fun t => t.1 ≠ Behaviour.hangup }
      executeFor run depth (failedToRun own) program args sh
  termination_by structural depth => depth

/-- Executes a program as it is. -/
def simplyExecute (run : Runner) : Nat → String → List String → Shell → Shell × Flow
  | 0, _, _, sh => (sh, .endless)
  | depth + 1, own, args, sh =>
    match args.dropWhile fun arg => arg.toList.head? = some '-' with
    | [] => ((sh.update (·.complain (own ++ ": no command specified"))).setStatus 1, .replaced)
    | program :: args =>
      executeFor run depth (fun program e =>
        own ++ ": failed to execute " ++ program ++ ": " ++ e.text) program args sh
  termination_by structural depth => depth

/-- Executes a program with another priority, which nothing on the machine depends on. -/
def withNiceness (run : Runner) : Nat → String → List String → Shell → Shell × Flow
  | 0, _, _, sh => (sh, .endless)
  | depth + 1, own, args, sh =>
    let args := match args with
      | "-n" :: _ :: rest => rest
      | arg :: rest => if arg.toList.head? = some '-' then rest else arg :: rest
      | [] => []
    match args with
    | [] => ((sh.update (·.print "0\n")).setStatus 0, .replaced)
    | program :: args =>
      executeFor run depth (fun program e => own ++ ": '" ++ program ++ "': " ++ e.text)
        program args sh
  termination_by structural depth => depth

/-- Executes a program as a process of its own, and ends it with all that it started when its time
    is up. -/
def withTimeLimit (run : Runner) : Nat → String → List String → Shell → Shell × Flow
  | 0, _, _, sh => (sh, .endless)
  | depth + 1, own, args, sh =>
    let (number, args) := match args with
      | "-s" :: name :: rest => ((Builtin.signalNumber? 1 name).getD 15, rest)
      | "-k" :: _ :: rest => (15, rest)
      | "--foreground" :: rest | "--preserve-status" :: rest => (15, rest)
      | args => (15, args)
    match args with
    | limit :: program :: args =>
      match Utility.duration? limit with
      | none =>
        let sh := sh.update fun p =>
          (p.complain (own ++ ": invalid time interval '" ++ limit ++ "'")).complain
            ("Try '" ++ own ++ " --help' for more information.")
        (sh.setStatus 125, .replaced)
      | some limit =>
        let (job, sh) := beside (executeFor run depth (failedToRun own) program args) sh
        let deadline := sh.process.clock + limit
        if job.finish ≤ deadline ∨ (limit = 0 ∧ job.finish ≠ Shell.endOfTime) then
          ((sh.waitFor (·.id == job.id)).setStatus job.status, .replaced)
        else if limit = 0 then (sh, .endless)
        else
          let late := (sh.update (·.waitUntil deadline)).observe
          let ended := (Builtin.endJob true number job.id late).waitFor (·.id == job.id)
          if number = 9 then (ended, .signalled number) else (ended.setStatus 124, .replaced)
    | _ =>
      let (status, process) := Utility.missingOperand own sh.process
      ({ sh with process, status := status + 124 }, .replaced)
  termination_by structural depth => depth

end

/-- Finds and executes a program. A shell that finds none leaves. -/
def execute (run : Runner) (name : String) (args : List String) (sh : Shell) : Shell × Flow :=
  match Lookup.find sh.searchEnvironment sh.process.files name args with
  | .ok image => executeImage run maxWrapping image sh
  | .error e =>
    if e = .notExecutable then
      let path := (Builtin.pathOf? sh name).getD name
      executeImage run maxWrapping ⟨"sh", "sh" :: path :: args⟩ sh
    else
      let (text, status) :=
        if name = "" then (Errno.permissionDenied.text, 127)
        else if e = .notFound ∨ e = .notDirectory then ("not found", 127)
        else (e.text, 126)
      ((sh.complain (name ++ ": " ++ text)).setStatus status, .exited)

end Overseer.Machine.Script
