import Overseer.Control.Basic
import Overseer.TaskLog.Basic

/-!
Recovery: ending or cleaning up everything that a task log still marks as started, and deleting the
log. A failed kill or deletion is counted and passed over; a failed cleanup command ends the pass.
-/

namespace Overseer

/-- What a recovery pass did. -/
structure RecoveryReport where
  killed : List Int
  removed : List Path
  /-- The cleanup commands that were run, in order. -/
  commands : List String
  /-- How many kills and deletions failed. -/
  failures : Nat
  deriving DecidableEq, Repr

namespace RecoveryReport

def empty : RecoveryReport := ⟨[], [], [], 0⟩

end RecoveryReport

namespace Recovery

variable {κ : Type}

/-- Makes one call per item, whatever comes of it: the items that succeeded and the number of those
    that failed. -/
def attempt {α : Type} (control : Control κ) (toCall : α → Call) :
    List α → Run κ → (List α × Nat) × Run κ
  | [], run => (([], 0), run)
  | x :: rest, run =>
    match Run.call control (toCall x) run with
    | (.ok (), run) =>
      let ((succeeded, failures), run) := attempt control toCall rest run
      ((x :: succeeded, failures), run)
    | (.error _, run) =>
      let ((succeeded, failures), run) := attempt control toCall rest run
      ((succeeded, failures + 1), run)

/-- Runs one cleanup command per batch, up to the first that fails. -/
def runBatches (control : Control κ) :
    List (String × List String) → Run κ → Except Fault Unit × Run κ
  | [], run => (.ok (), run)
  | (command, pids) :: rest, run =>
    match Run.call control (.runCleanup command pids) run with
    | (.ok (), run) => runBatches control rest run
    | (.error fault, run) => (.error fault, run)

/-- Carries out a plan. -/
def perform (control : Control κ) (plan : Plan) (run : Run κ) :
    Except Fault RecoveryReport × Run κ :=
  let ((killed, notKilled), run) := attempt control .killGroup plan.kill run
  let ((removed, notRemoved), run) := attempt control .removeFile plan.remove run
  match runBatches control plan.batches run with
  | (.error fault, run) => (.error fault, run)
  | (.ok (), run) =>
    (.ok ⟨killed, removed, plan.batches.map Prod.fst, notKilled + notRemoved⟩, run)

end Recovery

namespace TaskLog

variable {κ : Type}

/-- Deletes the log in the course of a run. -/
def eraseDuring (log : TaskLog) (run : Run κ) : Run κ :=
  (run.withFiles log.erase).note (.logErased log.path)

/-- Replays the log, carries out the plan and deletes the log, however the pass ends. A log that
    cannot be read asks for nothing. -/
def cleanUpAll (control : Control κ) (log : TaskLog) (run : Run κ) :
    Except Fault RecoveryReport × Run κ :=
  match log.replay run.host.files with
  | .error _ => (.ok .empty, log.eraseDuring (run.note (.logRead log.path)))
  | .ok liveness =>
    let (result, run) := Recovery.perform control liveness.plan (run.note (.logRead log.path))
    (result, log.eraseDuring run)

end TaskLog

end Overseer
