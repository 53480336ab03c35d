import Overseer.Path
import Overseer.TaskLog.Entry
import Overseer.Text.Numeral
import Std.Data.TreeMap

/-!
Replaying a task log: which process groups are still live after a list of entries, and what is to be
done about each of them.
-/

namespace Overseer

/-- What the entries say about one process id: whether it is live, and how to clean up after it. -/
structure Standing where
  live : Bool
  cleanup : Option String
  deriving DecidableEq, Repr

/-- Standings by process id, in ascending order. -/
structure Liveness where
  standings : Std.TreeMap String Standing

namespace Liveness

def empty : Liveness := ⟨∅⟩

/-- Takes one entry into account. A start without a cleanup command keeps the one known from
    before, also across an end. -/
def apply (l : Liveness) (e : Entry) : Liveness :=
  match e.marker with
  | .started =>
    ⟨l.standings.insert e.pid ⟨true, e.cleanup.or (l.standings[e.pid]?.bind Standing.cleanup)⟩⟩
  | .finished =>
    match l.standings[e.pid]? with
    | none => l
    | some s => ⟨l.standings.insert e.pid { s with live := false }⟩

def ofEntries (entries : List Entry) : Liveness :=
  entries.foldl apply empty

def isLive (l : Liveness) (pid : String) : Bool :=
  (l.standings[pid]?.map Standing.live).getD false

/-- The live process ids with their cleanup commands, in ascending order. -/
def live (l : Liveness) : List (String × Option String) :=
  l.standings.toList.filterMap fun (pid, s) => if s.live then some (pid, s.cleanup) else none

/-- The live process ids in ascending order. -/
def livePids (l : Liveness) : List String :=
  l.live.map Prod.fst

end Liveness

/-- What is to be done about a live process id. -/
inductive Disposition
  /-- End the process group. -/
  | kill (group : Int)
  /-- The id is the path of a file to delete. -/
  | remove
  /-- Pass the id to a cleanup command. -/
  | batch (command : String)
  /-- Nothing can be done. -/
  | skip
  deriving DecidableEq, Repr

namespace Disposition

/-- The cleanup command that asks for a file to be deleted. -/
def removeCommand : String := "rm"

/-- Groups zero and one are never ended: they address the agent's own group and the first
    process. -/
def of (pid : String) : Option String → Disposition
  | some command => if command = removeCommand then remove else batch command
  | none =>
    match Text.NumeralRange.int32.read? pid with
    | some group => if group > 1 then kill group else skip
    | none => skip

end Disposition

/-- What recovery has to do, each part in ascending order of the process ids. -/
structure Plan where
  kill : List Int
  remove : List Path
  /-- Cleanup commands in ascending order, each with the ids to pass to it. -/
  batches : List (String × List String)
  skipped : List String
  deriving DecidableEq, Repr

namespace Plan

/-- Texts in ascending order, each once. -/
def distinct (texts : List String) : List String :=
  (texts.mergeSort fun a b => decide (a ≤ b)).eraseDups

/-- The plan for live process ids, given in ascending order. -/
def ofLive (live : List (String × Option String)) : Plan :=
  let decided := live.map fun (pid, cleanup) => (pid, Disposition.of pid cleanup)
  let commands := decided.filterMap fun
    | (_, .batch command) => some command
    | _ => none
  { kill := decided.filterMap fun
      | (_, .kill group) => some group
      | _ => none
    remove := decided.filterMap fun
      | (pid, .remove) => some (Path.ofString pid)
      | _ => none
    batches := (distinct commands).map fun command =>
      (command, decided.filterMap fun (pid, d) => if d = .batch command then some pid else none)
    skipped := decided.filterMap fun
      | (pid, .skip) => some pid
      | _ => none }

/-- Whether a plan asks for nothing. Ids that are skipped do not count. -/
def isEmpty (p : Plan) : Bool :=
  p.kill.isEmpty && p.remove.isEmpty && p.batches.isEmpty

end Plan

namespace Liveness

def plan (l : Liveness) : Plan :=
  Plan.ofLive l.live

end Liveness

end Overseer
