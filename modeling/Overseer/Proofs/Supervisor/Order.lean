import Overseer.Proofs.Supervisor.Record
import Overseer.Proofs.Supervisor.Reports

/-!
The order of what the agent does in a supervised run. Each part of it is done once: the record, the
recovery and the end of its own group if the run was cut short, the rest of the output, the report.
-/

namespace Overseer

variable {κ : Type}

namespace Session

/-- The reporter has carried out one more request, if there is a reporter. -/
def HandsIn (request : Report.Request) (before after : Session κ) : Prop :=
  match before.desk with
  | none => after = before
  | some desk =>
    let (left, office) := desk.handle request ⟨before.run.host.files, before.kept⟩
    after.desk = some left ∧ after.kept = office.kept ∧ after.run.host.files = office.files

theorem handsIn_report (request : Report.Request) (s : Session κ) :
    s.HandsIn request (s.report request) := by
  unfold HandsIn report
  cases s.desk with
  | none => rfl
  | some desk => cases request <;> exact ⟨rfl, rfl, rfl⟩

end Session

namespace Supervisor

/-- Concluding a run is to carry out the record, and if the run was cut short, the recovery and the
    end of the agent's own group. -/
theorem conclude_eq_carryOut (sup : Supervisor κ) (l : Launched) (o : Outcome) (s : Session κ) :
    let recorded := s.carryOut sup.control (sup.exitEffects o) (sup.exitLines o s.run.host.files)
    sup.conclude l o s = if o.RequiresKill then
      sup.tornDown (sup.recovered l.behaviour.child recorded) else recorded := by
  unfold conclude
  rw [kill_eq, recordExit_eq]

theorem count_killOwnGroup_teardownEffects (sup : Supervisor κ) (o : Outcome) (host : Host κ) :
    (sup.teardownEffects o host).count (.called .killOwnGroup) = if o.RequiresKill then 1 else 0 := by
  unfold teardownEffects
  split
  · have hnone := List.count_eq_zero.2 (sup.killOwnGroup_notMem_recoveryEffects host)
    rw [List.count_append, hnone]
    rfl
  · rfl

/-- A child whose own child takes no notice of a hang-up, and prints on. -/
def survived : Launched :=
  ⟨⟨7, [⟨0, [⟨8, 0⟩, ⟨7, 0⟩], .ignore 1⟩, ⟨3, [⟨8, 0⟩, ⟨7, 0⟩], .print .out [0x61]⟩,
    ⟨4, [⟨8, 0⟩, ⟨7, 0⟩], .release .out⟩], none⟩, true, true⟩

/-- The root of a workflow whose exit file is a directory. -/
def thwarted : Supervisor Ledger :=
  ⟨Ledger.control, 1000, "d", some (.ofPath (Path.ofString "log")), 2000⟩

/-- What a signal decides, although another one comes first. -/
def interruption : Subscription := .manual [.windowChanged, .terminate] false

/-- A task log with a process and a job. -/
def litter : Bytes := Bytes.ofString "9\t+\n40\t+\tqdel\n"

/-- A session with a reporter, this log and a cleanup command that fails. -/
def littered : Session Ledger :=
  .start ⟨⟨[([Bytes.ofString "d"], .directory), ([Bytes.ofString "log"], .file litter false)], [], []⟩,
    .empty, false, Ledger.start [] ["qdel"]⟩ (some ⟨.start "t", .memory⟩)

theorem inOrder_arrivals_thwarted :
    inOrder (thwarted.arrivals survived.behaviour interruption) =
      [⟨0, .signal .windowChanged⟩, ⟨0, .signal .terminate⟩, ⟨1000, .deadline⟩] :=
  List.mergeSort_of_pairwise (by decide)

theorem decision_thwarted :
    thwarted.decision survived.behaviour interruption = (0, .signalReceived) := by
  rw [decision, firstDecision?_eq, inOrder_arrivals_thwarted]
  rfl

theorem atDecision_thwarted :
    thwarted.atDecision survived interruption littered =
      littered.log [.interrupted .terminate, .decided 7 .signalReceived] := by
  rw [atDecision, decisionLines, decidingSignal?, inOrder_arrivals_thwarted, decision_thwarted]
  rfl

theorem exchanges_littered :
    TaskLog.exchanges Ledger.control (.ofPath (Path.ofString "log")) littered.run.host =
      [(.killGroup 9, .ok ()),
        (.runCleanup "qdel" ["40"], .error (.cleanup "qdel" "exit status: 1"))] := by
  have hreplay : (TaskLog.ofPath (Path.ofString "log")).replay littered.run.host.files =
      .ok (Liveness.ofEntries (TaskLog.entriesOf litter)) := TaskLog.replay_of_read rfl
  have hlive : (Liveness.ofEntries (TaskLog.entriesOf litter)).live =
      [("40", some "qdel"), ("9", none)] := by
    decide +kernel
  have hplan : (Liveness.ofEntries (TaskLog.entriesOf litter)).plan =
      ⟨[9], [], [("qdel", ["40"])], []⟩ := by
    have hcommands : Plan.distinct ["qdel"] = ["qdel"] := by
      simp [Plan.distinct, List.eraseDups_cons]
    rw [Liveness.plan, hlive, Plan.ofLive]
    change Plan.mk _ _ ((Plan.distinct ["qdel"]).map _) _ = _
    rw [hcommands]
    rfl
  rw [TaskLog.exchanges, hreplay]
  dsimp only
  rw [hplan]
  rfl

theorem teardownEffects_littered :
    thwarted.teardownEffects .signalReceived littered.run.host =
      [.logRead (Path.ofString "log"), .called (.killGroup 9), .called (.runCleanup "qdel" ["40"]),
        .logErased (Path.ofString "log"), .called .killOwnGroup] := by
  have hrecovery : thwarted.recoveryEffects littered.run.host =
      .logRead (Path.ofString "log") :: (TaskLog.exchanges Ledger.control
        (.ofPath (Path.ofString "log")) littered.run.host).map Exchange.effect ++
          [.logErased (Path.ofString "log")] := rfl
  rw [teardownEffects, if_pos (by decide), hrecovery, exchanges_littered]
  rfl

theorem turns_thwarted : thwarted.turns survived interruption littered = [(.out, [0x61])] := by
  have hdeaths : thwarted.deathsByDecision survived interruption littered = [⟨7, 1⟩] := by
    rw [deathsByDecision, decision_thwarted, deaths, if_pos (by decide)]
    cases (thwarted.conclude survived .signalReceived
      (thwarted.atDecision survived interruption littered)).run.host.groupEnded <;> rfl
  have hafter : thwarted.afterDecision survived interruption littered =
      survived.behaviour.activities.drop 1 := by
    rw [afterDecision, hdeaths, decision_thwarted]
    rfl
  have hchunks : Capture.chunksOf [0x61] = [[0x61]] :=
    Capture.chunksOf_eq_singleton (by decide) (by decide)
  rw [turns, beforeDecision, hafter, decision_thwarted]
  change (Capture.chunksOf [0x61]).map (fun chunk => (Stream.out, chunk)) ++ [] = _
  rw [hchunks]
  rfl

end Supervisor

end Overseer
