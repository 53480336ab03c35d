import Overseer.Control.Recording
import Overseer.Proofs.Recovery.Exchange
import Overseer.Proofs.TaskLog.Plan
import Overseer.Proofs.TaskLog.Reading

/-!
What a recovery pass comes to: the calls that the plan of the log asks for, in its order and up to
the first cleanup command that fails, and no log afterwards.
-/

namespace Overseer

variable {κ : Type}

/-- The calls of a plan when no cleanup command fails: kills, then deletions, then one cleanup
    command per batch. -/
def Plan.calls (plan : Plan) : List Call :=
  plan.kill.map .killGroup ++ plan.remove.map .removeFile ++
    plan.batches.map fun batch => .runCleanup batch.1 batch.2

namespace Recovery

/-- One call per item is made whatever comes of it. Only calls of one kind are made, so what came
    of them is read off the answers by a function for this kind. -/
theorem attempt_eq {α : Type} (control : Control κ) (toCall : α → Call)
    (done? : Exchange → Option α)
    (hdone : ∀ item, done? (toCall item, .ok ()) = some item)
    (hfailed : ∀ item fault, done? (toCall item, .error fault) = none)
    (hskipped : ∀ item answer, Exchange.isSkipped (toCall item, answer) = !answer.isOk)
    (items : List α) (run : Run κ) :
    attempt control toCall items run =
      (((control.answers (items.map toCall) run.host).filterMap done?,
        (control.answers (items.map toCall) run.host).countP Exchange.isSkipped),
        run.carryOut control ((items.map toCall).map .called)) := by
  induction items generalizing run with
  | nil => simp [attempt, Control.answers]
  | cons item rest ih =>
    have hrest := ih (run.carryOut control [.called (toCall item)])
    rw [← Run.carryOut_cons] at hrest
    rw [attempt, Run.call_eq, List.map_cons, List.map_cons, Control.answers]
    cases hanswer : (control (toCall item) run.host).1 with
    | ok _ =>
      simp only [hrest, List.filterMap_cons, hdone, List.countP_cons, hskipped]
      rfl
    | error fault =>
      simp only [hrest, List.filterMap_cons, hfailed, List.countP_cons, hskipped]
      rfl

/-- Cleanup commands are run up to the first that fails, whose fault is the result. -/
theorem runBatches_eq (control : Control κ) (batches : List (String × List String)) (run : Run κ) :
    let made := Exchange.upToFault
      (control.answers (batches.map fun batch => .runCleanup batch.1 batch.2) run.host)
    runBatches control batches run =
      (match made.findSome? Exchange.fault? with
        | some fault => .error fault
        | none => .ok (),
      run.carryOut control (made.map Exchange.effect)) := by
  induction batches generalizing run with
  | nil => simp [runBatches, Control.answers, Exchange.upToFault]
  | cons batch rest ih =>
    obtain ⟨command, pids⟩ := batch
    have hrest := ih (run.carryOut control [.called (.runCleanup command pids)])
    simp only [← Run.carryOut_cons] at hrest
    rw [runBatches, Run.call_eq, List.map_cons, Control.answers, Exchange.upToFault]
    cases hanswer : (control (.runCleanup command pids) run.host).1 with
    | ok _ =>
      simp only [hrest]
      rfl
    | error fault => rfl

/-- The exchanges of a plan come in three parts; only cleanup commands can end them early. -/
theorem upToFault_answers_calls (control : Control κ) (plan : Plan) (run : Run κ) :
    let afterKills := run.carryOut control ((plan.kill.map .killGroup).map .called)
    let afterDeletions :=
      afterKills.carryOut control ((plan.remove.map .removeFile).map .called)
    let kills := control.answers (plan.kill.map .killGroup) run.host
    let deletions := control.answers (plan.remove.map .removeFile) afterKills.host
    let cleanups := Exchange.upToFault (control.answers
      (plan.batches.map fun batch => .runCleanup batch.1 batch.2) afterDeletions.host)
    Exchange.Parts kills deletions cleanups ∧
      Exchange.upToFault (control.answers plan.calls run.host) =
        kills ++ (deletions ++ cleanups) := by
  intro afterKills afterDeletions kills deletions cleanups
  have hparts : Exchange.Parts kills deletions cleanups := by
    refine ⟨fun x hx => Control.exists_of_mem_answers hx,
      fun x hx => Control.exists_of_mem_answers hx, fun x hx => ?_⟩
    obtain ⟨batch, hbatch⟩ :=
      Control.exists_of_mem_answers ((Exchange.upToFault_isPrefix _).subset hx)
    exact ⟨batch.1, batch.2, hbatch⟩
  refine ⟨hparts, ?_⟩
  have hanswers : control.answers plan.calls run.host = kills ++ deletions ++ control.answers
      (plan.batches.map fun batch => .runCleanup batch.1 batch.2) afterDeletions.host := by
    rw [Plan.calls, Control.answers_append, Control.answers_append, List.map_append,
      Run.carryOut_append]
  rw [hanswers, Exchange.upToFault_append hparts.fault?_eq_none, List.append_assoc]

/-- Carrying out a plan comes to the calls of the plan up to the first cleanup command that fails,
    and the result is read off their answers. -/
theorem perform_eq (control : Control κ) (plan : Plan) (run : Run κ) :
    let made := Exchange.upToFault (control.answers plan.calls run.host)
    perform control plan run =
      (match made.findSome? Exchange.fault? with
        | some fault => .error fault
        | none => .ok ⟨made.filterMap Exchange.killed?, made.filterMap Exchange.removed?,
            plan.batches.map Prod.fst, made.countP Exchange.isSkipped⟩,
      run.carryOut control (made.map Exchange.effect)) := by
  intro made
  obtain ⟨hparts, hmade⟩ := upToFault_answers_calls control plan run
  rw [perform, attempt_eq control .killGroup Exchange.killed? (fun _ => rfl) (fun _ _ => rfl)
    (fun _ answer => by cases answer <;> rfl)]
  dsimp only
  rw [attempt_eq control .removeFile Exchange.removed? (fun _ => rfl) (fun _ _ => rfl)
    (fun _ answer => by cases answer <;> rfl)]
  simp only [runBatches_eq, made, hmade, hparts.filterMap_killed?, hparts.filterMap_removed?,
    hparts.countP_isSkipped, hparts.findSome?_fault?, List.map_append, Control.map_effect_answers,
    Run.carryOut_append]
  generalize List.findSome? Exchange.fault? _ = fault
  cases fault <;> rfl

end Recovery

/-- A control that keeps a ledger writes no file. -/
theorem Ledger.spares_control (p : Path) : Ledger.control.Spares p := by
  intro c host node hfind
  cases c with
  | killGroup group =>
    unfold control at hfind
    dsimp only at hfind
    split at hfind <;> exact hfind
  | removeFile q =>
    unfold control at hfind
    dsimp only at hfind
    split at hfind
    · exact hfind
    · next left hremove => exact ((Files.find?_remove_eq_some_iff hremove).1 hfind).2
  | killOwnGroup | runCleanup command pids => exact hfind

namespace TaskLog

/-- The exchanges of a recovery pass. A log that cannot be read asks for none. -/
def exchanges (control : Control κ) (log : TaskLog) (host : Host κ) : List Exchange :=
  match log.replay host.files with
  | .ok liveness => Exchange.upToFault (control.answers liveness.plan.calls host)
  | .error _ => []

/-- Recovery never ends the agent's own group. -/
theorem fst_ne_killOwnGroup_of_mem_exchanges {control : Control κ} {log : TaskLog} {host : Host κ}
    {x : Exchange} (hx : x ∈ log.exchanges control host) : x.1 ≠ .killOwnGroup := by
  unfold exchanges at hx
  cases hreplay : log.replay host.files with
  | error fault =>
    rw [hreplay] at hx
    cases hx
  | ok liveness =>
    rw [hreplay] at hx
    have hcall := List.mem_map_of_mem (f := Prod.fst) ((Exchange.upToFault_isPrefix _).subset hx)
    rw [Control.map_fst_answers] at hcall
    intro hown
    rw [hown] at hcall
    simp [Plan.calls] at hcall

/-- A recovery pass reads the log, makes its exchanges and deletes the log. -/
theorem snd_cleanUpAll (control : Control κ) (log : TaskLog) (run : Run κ) :
    (log.cleanUpAll control run).2 = run.carryOut control
      (.logRead log.path :: (log.exchanges control run.host).map Exchange.effect ++
        [.logErased log.path]) := by
  rw [Run.carryOut_append, Run.carryOut_cons control run, ← Run.note_logRead_eq, ← eraseDuring_eq]
  unfold cleanUpAll exchanges
  cases log.replay run.host.files with
  | error fault => rw [List.map_nil, Run.carryOut_nil]
  | ok liveness =>
    simp only [Recovery.perform_eq]
    rfl

/-- A recovery pass over a log that is not there does nothing. -/
theorem cleanUpAll_of_find?_eq_none (control : Control κ) {log : TaskLog} {run : Run κ}
    (hnone : run.host.files.find? log.path = none) :
    log.cleanUpAll control run =
      (.ok .empty, ⟨run.host, run.trace ++ [.logRead log.path, .logErased log.path]⟩) := by
  obtain ⟨fault, hreplay⟩ := replay_of_find?_eq_none hnone
  have herase : log.erase run.host.files = run.host.files := erase_of_find?_eq_none hnone
  simp [cleanUpAll, hreplay, eraseDuring, Run.withFiles, Run.note, herase]

/-- Only commands that put something where the log stood can leave something there. -/
theorem find?_cleanUpAll {control : Control κ} {log : TaskLog} {run : Run κ}
    (hspares : control.Spares log.path) (hfile : run.host.files.find? log.path ≠ some .directory) :
    (log.cleanUpAll control run).2.host.files.find? log.path = none := by
  rw [snd_cleanUpAll, Run.carryOut_append, Run.carryOut_cons control run, ← eraseDuring_eq]
  apply find?_erase_self
  intro hfind
  obtain ⟨calls, hcalls⟩ : ∃ calls : List Call,
      (log.exchanges control run.host).map Exchange.effect = calls.map .called :=
    ⟨(log.exchanges control run.host).map Prod.fst, by simp [Exchange.effect, Function.comp_def]⟩
  rw [hcalls] at hfind
  exact hfile (hspares.find?_of_carryOut hfind)

/-- A recovery pass over a log that can be read makes the calls that the plan of its entries asks
    for, kills first, then deletions, then the cleanup commands in ascending byte order, and none
    after the first cleanup command that fails. Its fault is the result; otherwise the result tells
    what was done and how much failed. A control that puts nothing where the log stood finds nothing
    there afterwards, and a second pass makes no calls. -/
theorem cleanUpAll_carries_out_plan (control : Control κ) (log : TaskLog) (run : Run κ)
    {content : Bytes} (hread : run.host.files.read log.path = .ok content) :
    let plan := (Liveness.ofEntries (entriesOf content)).plan
    let made := Exchange.upToFault (control.answers plan.calls run.host)
    let pass := log.cleanUpAll control run
    pass.2 = run.carryOut control
        (.logRead log.path :: made.map Exchange.effect ++ [.logErased log.path]) ∧
      (plan.batches.map fun batch => Bytes.ofString batch.1).Pairwise (· < ·) ∧
      (∀ fault, pass.1 = .error fault ↔
        ∃ command pids, (.runCleanup command pids, .error fault) ∈ made) ∧
      (∀ report, pass.1 = .ok report ↔
        (∀ command pids fault, (.runCleanup command pids, .error fault) ∉ made) ∧
          report = ⟨made.filterMap Exchange.killed?, made.filterMap Exchange.removed?,
            plan.batches.map Prod.fst, made.countP Exchange.isSkipped⟩) ∧
      (control.Spares log.path →
        pass.2.host.files.find? log.path = none ∧
          log.cleanUpAll control pass.2 = (.ok .empty,
            ⟨pass.2.host, pass.2.trace ++ [.logRead log.path, .logErased log.path]⟩)) := by
  intro plan made pass
  obtain ⟨node, hfind, hnode, -⟩ := Files.read_eq_ok_iff.1 hread
  have hreplay := replay_of_read hread
  have hexchanges : log.exchanges control run.host = made := by
    unfold exchanges
    rw [hreplay]
  have hresult : pass.1 = match made.findSome? Exchange.fault? with
      | some fault => .error fault
      | none => .ok ⟨made.filterMap Exchange.killed?, made.filterMap Exchange.removed?,
          plan.batches.map Prod.fst, made.countP Exchange.isSkipped⟩ := by
    simp only [pass, cleanUpAll, hreplay, Recovery.perform_eq]
    rfl
  have hnone : made.findSome? Exchange.fault? = none ↔
      ∀ command pids fault, (.runCleanup command pids, .error fault) ∉ made := by
    rw [Option.eq_none_iff_forall_ne_some]
    simp only [ne_eq, made, Exchange.findSome?_fault?_upToFault_eq_some_iff, not_exists]
    exact ⟨fun h command pids fault => h fault command pids,
      fun h fault command pids => h command pids fault⟩
  refine ⟨?effects, Plan.pairwise_lt_batches _, ?failed, ?finished, ?gone⟩
  case effects => rw [← hexchanges, ← snd_cleanUpAll]
  case failed =>
    intro fault
    rw [hresult, ← Exchange.findSome?_fault?_upToFault_eq_some_iff]
    cases made.findSome? Exchange.fault? <;> simp
  case finished =>
    intro report
    rw [hresult, ← hnone]
    cases made.findSome? Exchange.fault? <;> simp [eq_comm]
  case gone =>
    intro hspares
    have hgone : pass.2.host.files.find? log.path = none :=
      find?_cleanUpAll hspares fun h => hnode (Option.some.inj (hfind.symm.trans h))
    exact ⟨hgone, cleanUpAll_of_find?_eq_none control hgone⟩

/-- A kill fails and is passed over, the first of two cleanup commands fails and is the last. -/
theorem cleanUpAll_with_failures :
    let log := ofPath (Path.ofString "log")
    let content := Bytes.ofString "7\t+\n9\t+\n31\t+\tscancel\n40\t+\tqdel\n"
    let files : Files := ⟨[([Bytes.ofString "log"], .file content false)], [], []⟩
    let run := Run.start ⟨files, .empty, false, Ledger.start [7] ["qdel"]⟩
    let pass := log.cleanUpAll Ledger.control run
    run.host.files.read log.path = .ok content ∧ Ledger.control.Spares log.path ∧
      pass.1 = .error (.cleanup "qdel" "exit status: 1") ∧
      pass.2.trace = [.logRead log.path, .called (.killGroup 7), .called (.killGroup 9),
        .called (.runCleanup "qdel" ["40"]), .logErased log.path] ∧
      pass.2.host.files.find? log.path = none ∧
      (log.cleanUpAll Ledger.control pass.2).1 = .ok .empty := by
  intro log content files run pass
  have hread : run.host.files.read log.path = .ok content := rfl
  have hspares := Ledger.spares_control log.path
  obtain ⟨heffects, -, hfailed, -, hgone⟩ :=
    cleanUpAll_carries_out_plan Ledger.control log run hread
  have hlive : (Liveness.ofEntries (entriesOf content)).live =
      [("31", some "scancel"), ("40", some "qdel"), ("7", none), ("9", none)] := by
    decide +kernel
  have hcommands : Plan.distinct ["scancel", "qdel"] = ["qdel", "scancel"] := by
    simp [Plan.distinct, List.mergeSort, List.MergeSort.Internal.splitInTwo, List.eraseDups_cons]
  have hplan : (Liveness.ofEntries (entriesOf content)).plan =
      ⟨[7, 9], [], [("qdel", ["40"]), ("scancel", ["31"])], []⟩ := by
    rw [Liveness.plan, hlive, Plan.ofLive]
    change Plan.mk _ _ ((Plan.distinct ["scancel", "qdel"]).map _) _ = _
    rw [hcommands]
    rfl
  have hmade : Exchange.upToFault (Ledger.control.answers
      (Plan.calls ⟨[7, 9], [], [("qdel", ["40"]), ("scancel", ["31"])], []⟩) run.host) =
      [(.killGroup 7, .error (.signal .noProcess)), (.killGroup 9, .ok ()),
        (.runCleanup "qdel" ["40"], .error (.cleanup "qdel" "exit status: 1"))] := rfl
  rw [hplan, hmade] at heffects hfailed
  refine ⟨hread, hspares, (hfailed _).2 ⟨"qdel", ["40"], by simp⟩, ?_, (hgone hspares).1, ?_⟩
  · rw [heffects]
    rfl
  · rw [(hgone hspares).2]

end TaskLog

end Overseer
