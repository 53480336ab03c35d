import Overseer.Machine.Script.Simple

/-!
Processes that run at the same time: commands beside the script, and pipelines, of which each
command reads what the one before it writes.
-/

namespace Overseer.Machine.Script

/-- Starts the commands of a pipeline, each as a process of its own with its number; all others get
    their numbers from another one on. -/
def startStages (run : Runner) (beginning : Process → Process) :
    List Command → Nat → Nat → Shell → List Job × Shell
  | [], _, free, sh => ([], { sh with nextId := free })
  | body :: rest, id, free, sh =>
    let reader := id + 1
    let connect (p : Process) : Process :=
      if rest.isEmpty then beginning p
      else (beginning p).point Process.outputDescriptor (.reader reader)
    let (job, sh) := beside (fun inner =>
      runWhole run body { inner.update connect with nextId := free }) { sh with nextId := id }
    let input := sh.writtenFor reader
    let (jobs, sh) := startStages run (fun p =>
      { p with pipes := p.pipes ++ [input] }.point Process.inputDescriptor (.pipe p.pipes.length))
      rest reader sh.nextId sh
    (job :: jobs, sh)

/-- The processes of a job that write for a reader after it has gone, each with the time when it
    first does. Something endless goes on writing, if it ever does. -/
def lateWriters (messages : List Message) (job reader : Job) : List Death :=
  let written := messages.filter fun m => m.reader = reader.id ∧ m.bytes ≠ []
  let writers := (written.filterMap fun m => m.lineage.head?.map Birth.process).eraseDups
  writers.filterMap fun writer =>
    let times := (written.filter fun m =>
      m.lineage.head?.map Birth.process = some writer ∧ reader.finish < m.time).map Message.time
    match times.min? with
    | some time => some ⟨writer, time⟩
    | none => if job.finish = Shell.endOfTime then some ⟨writer, reader.finish + 1⟩ else none

/-- Ends the processes of a pipeline that write for one that has gone, the last ones first. -/
def endLateWriters : List Job → Shell → Shell
  | [], sh => sh
  | [_], sh => sh
  | job :: next :: rest, sh =>
    let sh := endLateWriters (next :: rest) sh
    let reader := (sh.jobs.find? fun j => j.id = next.id).getD next
    if reader.finish = Shell.endOfTime then sh
    else
      let deaths := lateWriters sh.process.messages job reader
      let sh := sh.bury deaths
      match deaths.find? fun d => d.process = job.id with
      | none => sh
      | some d =>
        let ended (j : Job) : Job :=
          if j.id = job.id then
            { j with
              finish := if job.finish = Shell.endOfTime then d.time - 1 else d.time
              status := 128 + Behaviour.brokenPipe
              signal := some Behaviour.brokenPipe }
          else j
        { sh with jobs := sh.jobs.map ended }

/-- The commands of a pipeline. -/
def stages : Command → List Command
  | .pipe first second => first :: stages second
  | body => [body]

/-- Starts a pipeline. -/
def startPipeline (run : Runner) (beginning : Process → Process) (bodies : List Command)
    (sh : Shell) : List Job × Shell :=
  let group := sh.nextId + bodies.length - 1
  let (jobs, sh) := startStages run beginning bodies sh.nextId (group + 1) sh
  let own (job : Job) : Bool := jobs.any fun j => j.id = job.id
  let sh := endLateWriters jobs
    { sh with jobs := sh.jobs.map fun job => if own job then { job with group } else job }
  (sh.jobs.filter own, sh.clearWritten (jobs.map Job.id))

/-- Carries out a pipeline: it ends with its last process, and with the status of the last
    command. -/
def runPipeline (run : Runner) (bodies : List Command) (sh : Shell) : Shell × Flow :=
  let sh := sh.place none
  let (jobs, sh) := startPipeline run id bodies { sh with final := false }
  let waited := sh.waitFor fun job => jobs.any fun j => j.id = job.id
  let waited := match jobs.getLast? with
    | some job => Builtin.mourn (job.signal.getD 0) (waited.setStatus job.status)
    | none => waited
  if jobs.any fun job => job.finish = Shell.endOfTime then (waited, .endless)
  else checked (waited, .finished)

/-- Carries out the inside of a subshell, with its redirections, as the last that a process
    does. -/
def runInside (run : Runner) (body : Command) (targets : List (Redirect × String)) (sh : Shell) :
    Shell × Flow :=
  let (ok, inner) := redirectAll targets { sh with final := false }
  if ok then run body { inner.update (·.releaseSince sh.process) with final := true }
  else (inner.setStatus Shell.errorStatus, .exited)

/-- Carries out a command as a process of its own, and waits for it. A process that has nothing else
    to do goes on as that one. -/
def runSubshell (run : Runner) (line : Nat) (body : Command) (rs : List Redirect) (sh : Shell) :
    Shell × Flow :=
  let replaceable := mayBeReplaced sh
  let (targets, sh) := expandTargets run rs { sh with final := false, line }
  unlessHalted sh fun sh =>
    if replaceable then runInside run body targets sh
    else
      let sh := sh.place none
      let (inner, flow) := runInside run body targets sh.fork
      let (inner, flow) := conclude run inner flow
      checked (join sh inner flow)

/-- Starts a command beside the script. It has nothing to read. -/
def runBeside (run : Runner) (body : Command) (sh : Shell) : Shell × Flow :=
  let silent (p : Process) : Process := p.point Process.inputDescriptor (.device false)
  let sh := { sh with final := false }
  let started (sh : Shell) (id : Option Nat) : Shell × Flow :=
    ({ sh.place id with lastJob := id, status := 0 }, .finished)
  match body with
  | .pipe _ _ =>
    let (jobs, sh) := startPipeline run silent (stages body) sh
    started sh (jobs.getLast?.map Job.id)
  | body =>
    let (targets, sh) : List (Redirect × String) × Shell := match body with
      | .redirected line _ rs => expandTargets run rs { sh with line }
      | _ => ([], sh)
    unlessHalted sh fun sh =>
      let (job, sh) := beside (fun inner =>
        let inner := { inner.update silent with tested := false }
        match body with
        | .redirected _ body _ =>
          let (inner, flow) := runInside run body targets inner
          conclude run inner flow
        | body => runWhole run body inner) sh
      started sh (some job.id)

end Overseer.Machine.Script
