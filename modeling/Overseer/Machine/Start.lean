import Overseer.Machine.Script.Run

/-!
Starting a program of the machine: what it does from its start to its end, as a course of events.
-/

namespace Overseer.Machine

/-- The activities of a process and of its jobs, in ascending order of time. -/
def inOrder (activities : List Activity) : List Activity :=
  activities.mergeSort fun a b => decide (a.time ≤ b.time)

/-- The course of a process that has ended, or never does. -/
def courseOf (child : Nat) (sh : Script.Shell) (flow : Flow) : Behaviour :=
  let ending := match flow with
    | .endless => none
    | .signalled number => some (sh.process.clock, WaitStatus.ofSignal number)
    | _ => some (sh.process.clock, WaitStatus.ofExit sh.status)
  let p := if ending.isSome then sh.process.leave else sh.process
  ⟨child, inOrder (p.done.reverse ++ (sh.jobs ++ sh.others).flatMap fun job => job.done.reverse),
    ending⟩

/-- Starts a command with arguments, its streams being copied into capture files. -/
def start (agent : Nat) (env : Environment) (command : String) (args : List String)
    (captures : List (Stream × Handle)) (files : Files) : Except Refusal Behaviour :=
  let command := Bytes.spread (Bytes.ofString command)
  let args := args.map fun arg => Bytes.spread (Bytes.ofString arg)
  if (command :: args).any fun text => text.toList.contains '\x00' then .error .zeroInCommand
  else
    match Lookup.find env files command args with
    | .error e => .error (.system e)
    | .ok image =>
      let child := agent + 1
      let process : Process := {
        agent, files, captures
        clock := 0
        environment := env
        descriptors := [(Process.inputDescriptor, .device false),
          (Process.outputDescriptor, .stream .out), (Process.errorDescriptor, .stream .err)]
        aside := []
        openings := 0
        pipes := []
        lineage := [⟨child, 0⟩]
        done := []
        messages := []
        refused := none }
      let starter := Script.Shell.start process (child + 1) ⟨[], command, "", []⟩
      let (sh, flow) :=
        Script.executeImage (Script.run Script.maxDepth) Script.maxWrapping image starter
      .ok (courseOf child sh flow)

end Overseer.Machine
