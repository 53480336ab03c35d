import Overseer.Proofs.TaskLog.Append
import Overseer.Proofs.TaskLog.Classification

/-!
What a recovery acts on, in terms of the calls that have written the log: the calls of which the
texts come back from their lines, and the calls of which they do not.
-/

namespace Overseer

namespace Plan

variable {live : List (String × Option String)}

theorem exists_of_mem_remove_ofLive {p : Path} (hp : p ∈ (ofLive live).remove) :
    ∃ pid, p = Path.ofString pid ∧ (pid, some Disposition.removeCommand) ∈ live := by
  rw [remove_ofLive] at hp
  obtain ⟨pid, hpid, rfl⟩ := List.mem_map.1 hp
  obtain ⟨cleanup, hmem, hof⟩ := mem_idsFor_iff.1 hpid
  rw [decide_eq_true_eq, Disposition.of_eq_remove_iff] at hof
  exact ⟨pid, rfl, hof ▸ hmem⟩

theorem mem_of_mem_batches_ofLive {batch : String × List String}
    (hbatch : batch ∈ (ofLive live).batches) {pid : String} (hpid : pid ∈ batch.2) :
    (pid, some batch.1) ∈ live := by
  rw [(mem_batches_ofLive_iff.1 hbatch).2] at hpid
  obtain ⟨cleanup, hmem, hof⟩ := mem_idsFor_iff.1 hpid
  rw [decide_eq_true_eq, Disposition.of_eq_batch_iff] at hof
  exact hof.1 ▸ hmem

theorem exists_of_mem_kill_ofLive {group : Int} (hgroup : group ∈ (ofLive live).kill) :
    ∃ pid, Disposition.IsGroup pid group ∧ (pid, none) ∈ live := by
  have hread : some group ∈ (ofLive live).kill.map some := List.mem_map_of_mem hgroup
  rw [kill_ofLive] at hread
  obtain ⟨pid, hpid, hnumber⟩ := List.mem_map.1 hread
  obtain ⟨cleanup, hmem, hof⟩ := mem_idsFor_iff.1 hpid
  obtain ⟨known, hkill⟩ := Disposition.isKill_iff.1 hof
  obtain ⟨rfl, hnumbered⟩ := Disposition.of_eq_kill_iff.1 hkill
  obtain rfl := Option.some.inj (hnumbered.1.symm.trans hnumber)
  exact ⟨pid, hnumbered, hmem⟩

end Plan

namespace Liveness

/-- A live process id was started, with the cleanup command that it is listed with, if any. -/
theorem exists_start_of_mem_live {es : List Entry} {pid : String} {cleanup : Option String}
    (hmem : (pid, cleanup) ∈ (ofEntries es).live) :
    ∃ e ∈ es, e.pid = pid ∧ e.marker = .started ∧ (cleanup = none ∨ e.cleanup = cleanup) := by
  obtain ⟨hlive, hcleanup⟩ := mem_live_ofEntries_iff.1 hmem
  cases cleanup with
  | none =>
    obtain ⟨e, hlast, hmarker⟩ := isLive_ofEntries_iff.1 hlive
    have habout := List.mem_of_getLast? hlast
    obtain ⟨he, hpid⟩ := List.mem_filter.1 habout
    exact ⟨e, he, of_decide_eq_true hpid, hmarker, .inl rfl⟩
  | some command =>
    have hgiven := List.mem_of_getLast? hcleanup
    obtain ⟨e, habout, hstart⟩ := List.mem_filterMap.1 hgiven
    obtain ⟨he, hpid⟩ := List.mem_filter.1 habout
    unfold Entry.startCleanup? at hstart
    split at hstart
    · next hmarker => exact ⟨e, he, of_decide_eq_true hpid, hmarker, .inr hstart⟩
    · cases hstart

end Liveness

/-- A call that records a start or an end on a task log. It takes any texts. -/
inductive Recording
  | started (pid : String) (cleanup : Option String)
  | finished (pid : String)
  deriving DecidableEq, Repr

namespace Recording

def entry : Recording → Entry
  | started pid cleanup => .start pid cleanup
  | finished pid => .finish pid

/-- The entries that are read from what a call has written. -/
def readBack (call : Recording) : List Entry :=
  TaskLog.entriesOf (TaskLog.record call.entry)

theorem readBack_eq_iff {call : Recording} :
    call.readBack = [call.entry] ↔ call.entry.IsCanonical :=
  TaskLog.entriesOf_record_eq_iff

theorem flatMap_readBack {calls : List Recording}
    (hcanonical : ∀ call ∈ calls, call.entry.IsCanonical) :
    calls.flatMap readBack = calls.map entry := by
  rw [List.flatMap_congr fun call hcall => readBack_eq_iff.2 (hcanonical call hcall),
    ← List.map_eq_flatMap]

/-- Without tabs and newlines in its texts, a call is read as what it recorded, trimmed, if at
    all. -/
theorem eq_trimmed_of_mem_readBack {call : Recording} (htab : call.entry.Lacks '\t')
    (hnewline : call.entry.Lacks '\n') {e : Entry} (he : e ∈ call.readBack) :
    e = call.entry.trimmed := by
  rw [readBack, TaskLog.entriesOf_record hnewline, Option.mem_toList,
    Entry.ofLine?_line_of_lacks htab] at he
  split at he
  · cases he
  · exact (Option.some.inj he).symm

theorem eq_started_of_entry_eq {call : Recording} {e : Entry} (hentry : call.entry = e)
    (hmarker : e.marker = .started) :
    ∃ cleanup, call = .started e.pid cleanup ∧ cleanup.filter (· ≠ "") = e.cleanup := by
  subst hentry
  cases call with
  | started pid cleanup => exact ⟨cleanup, rfl, rfl⟩
  | finished pid => cases hmarker

/-- What is read from the line of a call is what it recorded, unless its texts are not canonical. -/
theorem eq_entry_of_mem_readBack {call : Recording} (hcall : call.entry.IsCanonical) {e : Entry}
    (he : e ∈ call.readBack) : call.entry = e := by
  rw [readBack_eq_iff.2 hcall] at he
  exact (List.mem_singleton.1 he).symm

def recordAll (log : TaskLog) (files : Files) (calls : List Recording) : Files :=
  calls.foldl (fun files call => (log.append files call.entry).2) files

theorem replay_recordAll {log : TaskLog} {files : Files} {executable : Bool}
    (hfresh : files.find? log.path = some (.file [] executable)) (calls : List Recording) :
    log.replay (recordAll log files calls) =
      .ok (Liveness.ofEntries (calls.flatMap readBack)) := by
  have hfind := TaskLog.find?_foldl_append_self hfresh (calls.map entry)
  rw [List.foldl_map, List.nil_append] at hfind
  rw [recordAll, TaskLog.replay_of_entries (TaskLog.entries_of_find? hfind),
    TaskLog.entriesOf_flatMap TaskLog.isWhole_record, List.flatMap_map]
  rfl

/-- A start that is read with or without a cleanup command was recorded so, unless it was read from
    texts that are not canonical. -/
theorem started_or_not_isCanonical {calls : List Recording} {e : Entry}
    (he : e ∈ calls.flatMap readBack) (hmarker : e.marker = .started) :
    (∃ cleanup, .started e.pid cleanup ∈ calls ∧ cleanup.filter (· ≠ "") = e.cleanup) ∨
      ∃ call ∈ calls, ¬call.entry.IsCanonical ∧ e ∈ call.readBack := by
  obtain ⟨call, hcall, hread⟩ := List.mem_flatMap.1 he
  by_cases hcanonical : call.entry.IsCanonical
  · obtain ⟨cleanup, rfl, hcleanup⟩ :=
      eq_started_of_entry_eq (eq_entry_of_mem_readBack hcanonical hread) hmarker
    exact .inl ⟨cleanup, hcall, hcleanup⟩
  · exact .inr ⟨call, hcall, hcanonical, hread⟩

end Recording

/-- Everything that a plan asks for goes back to a start that gave it: a deletion to a start with
    the path and the command for deletions, a process id in a batch to a start with its command,
    and a kill to a start with the number of the group. -/
structure Plan.DrawsOn (plan : Plan) (gave : String → Option String → Prop) : Prop where
  remove : ∀ path ∈ plan.remove, ∃ pid,
    path = Path.ofString pid ∧ gave pid (some Disposition.removeCommand)
  batches : ∀ batch ∈ plan.batches, ∀ pid ∈ batch.2, gave pid (some batch.1)
  kill : ∀ group ∈ plan.kill, ∃ pid cleanup, Disposition.IsGroup pid group ∧ gave pid cleanup

theorem Liveness.plan_ofEntries_drawsOn {es : List Entry} {gave : String → Option String → Prop}
    (hgave : ∀ e ∈ es, e.marker = .started →
      ∃ cleanup, gave e.pid cleanup ∧
        ∀ command, e.cleanup = some command → cleanup = some command) :
    (ofEntries es).plan.DrawsOn gave := by
  have hlive {pid : String} {command : String} (hmem : (pid, some command) ∈ (ofEntries es).live) :
      gave pid (some command) := by
    obtain ⟨e, he, rfl, hmarker, hcommand⟩ := exists_start_of_mem_live hmem
    obtain ⟨cleanup, hpid, hcleanup⟩ := hgave e he hmarker
    rwa [hcleanup command (hcommand.resolve_left (Option.some_ne_none command))] at hpid
  constructor
  case remove =>
    intro path hpath
    obtain ⟨pid, hpid, hmem⟩ := Plan.exists_of_mem_remove_ofLive hpath
    exact ⟨pid, hpid, hlive hmem⟩
  case batches =>
    intro batch hbatch pid hpid
    exact hlive (Plan.mem_of_mem_batches_ofLive hbatch hpid)
  case kill =>
    intro group hgroup
    obtain ⟨pid, hnumber, hmem⟩ := Plan.exists_of_mem_kill_ofLive hgroup
    obtain ⟨e, he, rfl, hmarker, -⟩ := exists_start_of_mem_live hmem
    obtain ⟨cleanup, hpid, -⟩ := hgave e he hmarker
    exact ⟨e.pid, cleanup, hnumber, hpid⟩

theorem Plan.DrawsOn.mono {plan : Plan} {gave given : String → Option String → Prop}
    (hplan : plan.DrawsOn gave) (hgiven : ∀ pid cleanup, gave pid cleanup → given pid cleanup) :
    plan.DrawsOn given where
  remove path hpath := by
    obtain ⟨pid, hpid, hgave⟩ := hplan.remove path hpath
    exact ⟨pid, hpid, hgiven _ _ hgave⟩
  batches batch hbatch pid hpid := hgiven _ _ (hplan.batches batch hbatch pid hpid)
  kill group hgroup := by
    obtain ⟨pid, cleanup, hnumber, hgave⟩ := hplan.kill group hgroup
    exact ⟨pid, cleanup, hnumber, hgiven _ _ hgave⟩

namespace Recording

/-- A log that any calls have written replays, and its plan draws on what the calls were given,
    apart from the starts that are read from the lines of calls with texts that are not canonical.
    Without such calls the log is read as it was written. Texts without tabs and newlines are read
    trimmed. -/
theorem plan_drawsOn_recorded {log : TaskLog} {files : Files} {executable : Bool}
    (hfresh : files.find? log.path = some (.file [] executable)) (calls : List Recording) :
    ∃ liveness, log.replay (recordAll log files calls) = .ok liveness ∧
      liveness.plan.DrawsOn (fun pid cleanup => .started pid cleanup ∈ calls ∨
        ∃ call ∈ calls, ¬call.entry.IsCanonical ∧ ⟨pid, .started, cleanup⟩ ∈ call.readBack) ∧
      ((∀ call ∈ calls, call.entry.IsCanonical) →
        liveness = Liveness.ofEntries (calls.map entry) ∧
          liveness.plan.DrawsOn fun pid cleanup => .started pid cleanup ∈ calls) ∧
      ∀ call ∈ calls, call.entry.Lacks '\t' → call.entry.Lacks '\n' →
        ∀ e ∈ call.readBack, e = call.entry.trimmed := by
  have hplan : (Liveness.ofEntries (calls.flatMap readBack)).plan.DrawsOn
      (fun pid cleanup => .started pid cleanup ∈ calls ∨
        ∃ call ∈ calls, ¬call.entry.IsCanonical ∧ ⟨pid, .started, cleanup⟩ ∈ call.readBack) := by
    refine Liveness.plan_ofEntries_drawsOn fun e he hmarker => ?_
    rcases started_or_not_isCanonical he hmarker with ⟨cleanup, hcall, hcleanup⟩ | hother
    · refine ⟨cleanup, .inl hcall, fun command hcommand => ?_⟩
      rw [hcommand, Option.filter_eq_some_iff] at hcleanup
      exact hcleanup.1
    · rw [← hmarker]
      exact ⟨e.cleanup, .inr hother, fun command hcommand => hcommand⟩
  refine ⟨_, replay_recordAll hfresh calls, hplan, fun hcanonical => ⟨?_, ?_⟩,
    fun call _ htab hnewline e he => eq_trimmed_of_mem_readBack htab hnewline he⟩
  · rw [flatMap_readBack hcanonical]
  · refine hplan.mono fun pid cleanup hgave => hgave.resolve_right ?_
    rintro ⟨call, hcall, hnot, -⟩
    exact hnot (hcanonical call hcall)

/-- A new log records a file, a job that ends and a process group, all with canonical texts. -/
theorem plan_drawsOn_recorded_canonical :
    let log := ⟨TaskLog.pathFor (Path.ofString ".") 77, true⟩
    let files : Files := ⟨[([Bytes.ofString "flowguard.pid.77"], .file [] false)], [], []⟩
    let calls := [.started "out" (some "rm"), .started "31" (some "scancel"),
      .started "7" (some ""), .finished "31"]
    TaskLog.create ⟨[], [], []⟩ (Path.ofString ".") 77 = .ok (log, files) ∧
      files.find? log.path = some (.file [] false) ∧ (∀ call ∈ calls, call.entry.IsCanonical) ∧
      ∃ liveness, log.replay (recordAll log files calls) = .ok liveness ∧
        liveness.plan.kill = [7] ∧ liveness.plan.remove = [Path.ofString "out"] ∧
        liveness.plan.DrawsOn fun pid cleanup => .started pid cleanup ∈ calls := by
  intro log files calls
  have hfresh : files.find? log.path = some (.file [] false) := rfl
  have hcanonical : ∀ call ∈ calls, call.entry.IsCanonical := by decide +kernel
  obtain ⟨liveness, hreplay, -, hdraws, -⟩ := plan_drawsOn_recorded hfresh calls
  have hlive : (Liveness.ofEntries (calls.flatMap readBack)).live =
      [("7", none), ("out", some "rm")] := by
    decide +kernel
  obtain rfl := Except.ok.inj (hreplay.symm.trans (replay_recordAll hfresh calls))
  refine ⟨rfl, hfresh, hcanonical, _, hreplay, ?_, ?_, (hdraws hcanonical).2⟩
  · rw [Liveness.plan, hlive]
    rfl
  · rw [Liveness.plan, hlive]
    rfl

/-- A newline in a path is not taken for a part of it: the file that is deleted is another one,
    which no call was given. -/
theorem plan_of_newline_in_path :
    let log := TaskLog.ofPath (Path.ofString "log")
    let files : Files := ⟨[([Bytes.ofString "log"], .file [] false)], [], []⟩
    let calls := [.started "out\nkeep.txt" (some "rm")]
    ∃ liveness, log.replay (recordAll log files calls) = .ok liveness ∧
      liveness.plan.remove = [Path.ofString "keep.txt"] ∧
      ¬liveness.plan.DrawsOn fun pid cleanup => .started pid cleanup ∈ calls := by
  intro log files calls
  have hfresh : files.find? log.path = some (.file [] false) := rfl
  have hlive : (Liveness.ofEntries (calls.flatMap readBack)).live = [("keep.txt", some "rm")] := by
    decide +kernel
  have hremove : (Liveness.ofEntries (calls.flatMap readBack)).plan.remove =
      [Path.ofString "keep.txt"] := by
    rw [Liveness.plan, hlive]
    rfl
  refine ⟨_, replay_recordAll hfresh calls, hremove, fun hdraws => ?_⟩
  obtain ⟨pid, hpid, hcall⟩ := hdraws.remove (Path.ofString "keep.txt") (by rw [hremove]; simp)
  obtain ⟨rfl, -⟩ := Recording.started.inj (List.mem_singleton.1 hcall)
  revert hpid
  decide +kernel

end Recording

end Overseer
