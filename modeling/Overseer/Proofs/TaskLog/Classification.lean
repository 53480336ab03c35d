import Overseer.Proofs.TaskLog.History
import Overseer.Proofs.TaskLog.Plan

/-!
What a plan does with the live process ids: each of them stands in one place, which depends on the
id and on the cleanup command of its last start that carries one.
-/

namespace Overseer

namespace Disposition

variable {pid command : String} {cleanup : Option String} {group : Int}

/-- A process id that a recovery can end by itself: the number of a process group that is neither
    the agent's own nor the first. -/
def IsGroup (pid : String) (group : Int) : Prop :=
  Text.NumeralRange.int32.read? pid = some group ∧ 1 < group

theorem of_cases (pid : String) (cleanup : Option String) :
    (cleanup = some removeCommand ∧ of pid cleanup = .remove) ∨
      (∃ command, cleanup = some command ∧ command ≠ removeCommand ∧
        of pid cleanup = .batch command) ∨
      (∃ group, cleanup = none ∧ IsGroup pid group ∧ of pid cleanup = .kill group) ∨
      (cleanup = none ∧ (¬∃ group, IsGroup pid group) ∧ of pid cleanup = .skip) := by
  cases cleanup with
  | some command =>
    by_cases hcommand : command = removeCommand
    · exact .inl ⟨by rw [hcommand], if_pos hcommand⟩
    · exact .inr (.inl ⟨command, rfl, hcommand, if_neg hcommand⟩)
  | none =>
    refine .inr (.inr ?_)
    cases hread : Text.NumeralRange.int32.read? pid with
    | none => exact .inr ⟨rfl, by simp [IsGroup, hread], by simp [of, hread]⟩
    | some group =>
      by_cases hgroup : 1 < group
      · exact .inl ⟨group, rfl, ⟨hread, hgroup⟩, by simp [of, hread, hgroup]⟩
      · exact .inr ⟨rfl, by simpa [IsGroup, hread] using hgroup, by simp [of, hread, hgroup]⟩

theorem of_eq_remove_iff : of pid cleanup = .remove ↔ cleanup = some removeCommand := by
  rcases of_cases pid cleanup with
    ⟨rfl, hof⟩ | ⟨command, rfl, hne, hof⟩ | ⟨group, rfl, -, hof⟩ | ⟨rfl, -, hof⟩ <;> simp_all

theorem of_eq_batch_iff :
    of pid cleanup = .batch command ↔ cleanup = some command ∧ command ≠ removeCommand := by
  rcases of_cases pid cleanup with
    ⟨rfl, hof⟩ | ⟨command, rfl, hne, hof⟩ | ⟨group, rfl, -, hof⟩ | ⟨rfl, -, hof⟩
  · simp +contextual [hof, eq_comm]
  · simp only [hof, batch.injEq, Option.some.injEq]
    exact ⟨fun h => ⟨h, h ▸ hne⟩, And.left⟩
  · simp [hof]
  · simp [hof]

theorem of_eq_kill_iff : of pid cleanup = .kill group ↔ cleanup = none ∧ IsGroup pid group := by
  rcases of_cases pid cleanup with
    ⟨rfl, hof⟩ | ⟨command, rfl, hne, hof⟩ | ⟨known, rfl, hknown, hof⟩ | ⟨rfl, hnone, hof⟩
  · simp [hof]
  · simp [hof]
  · simp only [hof, kill.injEq, true_and]
    constructor
    · rintro rfl
      exact hknown
    · intro hgroup
      exact Option.some.inj (hknown.1.symm.trans hgroup.1)
  · simp only [hof, reduceCtorEq, true_and, false_iff]
    exact fun hgroup => hnone ⟨group, hgroup⟩

theorem of_eq_skip_iff :
    of pid cleanup = .skip ↔ cleanup = none ∧ ¬∃ group, IsGroup pid group := by
  rcases of_cases pid cleanup with
    ⟨rfl, hof⟩ | ⟨command, rfl, hne, hof⟩ | ⟨known, rfl, hknown, hof⟩ | ⟨rfl, hnone, hof⟩
  · simp [hof]
  · simp [hof]
  · simp only [hof, reduceCtorEq, true_and, false_iff, not_not]
    exact ⟨known, hknown⟩
  · simpa [hof] using hnone

def isKill : Disposition → Bool
  | kill _ => true
  | _ => false

theorem isKill_iff {d : Disposition} : d.isKill = true ↔ ∃ group, d = .kill group := by
  cases d <;> simp [isKill]

end Disposition

namespace Plan

/-- The process ids of a list that are dealt with in certain ways. -/
def idsFor (live : List (String × Option String)) (p : Disposition → Bool) : List String :=
  (live.filter fun entry => p (Disposition.of entry.1 entry.2)).map Prod.fst

variable {live : List (String × Option String)}

theorem idsFor_cons_of_pos {pid : String} {cleanup : Option String} {p : Disposition → Bool}
    (hp : p (Disposition.of pid cleanup) = true) :
    idsFor ((pid, cleanup) :: live) p = pid :: idsFor live p := by
  simp [idsFor, hp]

theorem idsFor_cons_of_neg {pid : String} {cleanup : Option String} {p : Disposition → Bool}
    (hp : ¬p (Disposition.of pid cleanup) = true) :
    idsFor ((pid, cleanup) :: live) p = idsFor live p := by
  simp [idsFor, hp]

theorem idsFor_sublist (live : List (String × Option String)) (p : Disposition → Bool) :
    (idsFor live p).Sublist (live.map Prod.fst) :=
  List.filter_sublist.map Prod.fst

theorem mem_idsFor_iff {p : Disposition → Bool} {pid : String} :
    pid ∈ idsFor live p ↔
      ∃ cleanup, (pid, cleanup) ∈ live ∧ p (Disposition.of pid cleanup) = true := by
  simp only [idsFor, List.mem_map, List.mem_filter]
  constructor
  · rintro ⟨⟨known, cleanup⟩, hmem, rfl⟩
    exact ⟨cleanup, hmem⟩
  · rintro ⟨cleanup, hmem⟩
    exact ⟨(pid, cleanup), hmem, rfl⟩

/-- Where a list has the cleanup command of each of its process ids, these decide. -/
theorem mem_idsFor_iff_of_command {command? : String → Option String}
    (hcommand : ∀ entry ∈ live, command? entry.1 = entry.2) {p : Disposition → Bool}
    {pid : String} :
    pid ∈ idsFor live p ↔
      pid ∈ live.map Prod.fst ∧ p (Disposition.of pid (command? pid)) = true := by
  rw [mem_idsFor_iff, List.mem_map]
  constructor
  · rintro ⟨cleanup, hmem, hp⟩
    rw [hcommand _ hmem]
    exact ⟨⟨_, hmem, rfl⟩, hp⟩
  · rintro ⟨⟨⟨known, cleanup⟩, hmem, rfl⟩, hp⟩
    rw [hcommand _ hmem] at hp
    exact ⟨cleanup, hmem, hp⟩

theorem idsFor_eq_map_fst {p : Disposition → Bool}
    (hp : ∀ entry ∈ live, p (Disposition.of entry.1 entry.2) = true) :
    idsFor live p = live.map Prod.fst := by
  rw [idsFor, List.filter_eq_self.2 hp]

/-- Process ids that are dealt with in different ways stand beside each other. -/
theorem idsFor_append_perm (live : List (String × Option String)) {p q : Disposition → Bool}
    (hpq : ∀ d, p d = true → q d = false) :
    (idsFor live p ++ idsFor live q).Perm (idsFor live fun d => p d || q d) := by
  induction live with
  | nil => exact .refl _
  | cons entry rest ih =>
    obtain ⟨pid, cleanup⟩ := entry
    by_cases hp : p (Disposition.of pid cleanup) = true
    · have hq := hpq _ hp
      rw [idsFor_cons_of_pos hp, idsFor_cons_of_neg (by simp [hq]),
        idsFor_cons_of_pos (by simp [hp]), List.cons_append]
      exact ih.cons pid
    · by_cases hq : q (Disposition.of pid cleanup) = true
      · rw [idsFor_cons_of_neg hp, idsFor_cons_of_pos hq, idsFor_cons_of_pos (by simp [hq])]
        exact List.perm_middle.trans (ih.cons pid)
      · rw [idsFor_cons_of_neg hp, idsFor_cons_of_neg hq, idsFor_cons_of_neg (by simp [hp, hq])]
        exact ih

/-- The process ids of each of several cleanup commands together are those of all of them. -/
theorem flatMap_idsFor_perm (live : List (String × Option String)) {commands : List String}
    (hnodup : commands.Nodup) :
    (commands.flatMap fun command => idsFor live (· = .batch command)).Perm
      (idsFor live fun d => commands.any (d = .batch ·)) := by
  induction commands with
  | nil => simp [idsFor]
  | cons command more ih =>
    obtain ⟨hnew, hmore⟩ := List.nodup_cons.1 hnodup
    rw [List.flatMap_cons]
    refine ((ih hmore).append_left _).trans (idsFor_append_perm live ?_)
    intro d hd
    obtain rfl := of_decide_eq_true hd
    rw [List.any_eq_false]
    intro other hother hsame
    obtain rfl := Disposition.batch.inj (of_decide_eq_true hsame)
    exact hnew hother

/-- What a plan takes from the process ids that are dealt with in certain ways. -/
theorem filterMap_decided {α : Type} (live : List (String × Option String))
    {f : String × Disposition → Option α} {g : String → α} {p : Disposition → Bool}
    (hf : ∀ pid d, f (pid, d) = if p d then some (g pid) else none) :
    (live.map fun (pid, cleanup) => (pid, Disposition.of pid cleanup)).filterMap f =
      (idsFor live p).map g := by
  induction live with
  | nil => rfl
  | cons entry rest ih =>
    obtain ⟨pid, cleanup⟩ := entry
    rw [List.map_cons, List.filterMap_cons, hf, ih]
    by_cases hp : p (Disposition.of pid cleanup) = true
    · rw [if_pos hp, idsFor_cons_of_pos hp, List.map_cons]
    · rw [if_neg hp, idsFor_cons_of_neg hp]

theorem remove_ofLive (live : List (String × Option String)) :
    (ofLive live).remove = (idsFor live (· = .remove)).map Path.ofString :=
  filterMap_decided live fun _ d => by cases d <;> rfl

theorem skipped_ofLive (live : List (String × Option String)) :
    (ofLive live).skipped = idsFor live (· = .skip) := by
  rw [← List.map_id (idsFor live _)]
  exact filterMap_decided live fun _ d => by cases d <;> rfl

theorem kill_ofLive (live : List (String × Option String)) :
    (ofLive live).kill.map some =
      (idsFor live Disposition.isKill).map Text.NumeralRange.int32.read? := by
  induction live with
  | nil => rfl
  | cons entry rest ih =>
    obtain ⟨pid, cleanup⟩ := entry
    simp only [ofLive, List.map_cons, List.filterMap_cons] at ih ⊢
    cases hof : Disposition.of pid cleanup with
    | kill group =>
      have hgroup := (Disposition.of_eq_kill_iff.1 hof).2.1
      rw [idsFor_cons_of_pos (by rw [hof]; rfl), List.map_cons, List.map_cons, ih, hgroup]
    | remove | batch command | skip =>
      rw [idsFor_cons_of_neg (by rw [hof]; exact Bool.false_ne_true)]
      exact ih

/-- Every cleanup command gets the process ids that it is asked for. -/
theorem batches_ofLive (live : List (String × Option String)) :
    (ofLive live).batches =
      (ofLive live).commands.map fun command => (command, idsFor live (· = .batch command)) := by
  have hids (command : String) : (live.map fun (pid, cleanup) =>
        (pid, Disposition.of pid cleanup)).filterMap (fun entry =>
          if entry.2 = .batch command then some entry.1 else none) =
            idsFor live (· = .batch command) := by
    rw [← List.map_id (idsFor live _)]
    exact filterMap_decided live fun _ d => by by_cases hd : d = .batch command <;> simp [hd]
  rw [commands_ofLive]
  exact List.map_congr_left fun command _ => congrArg (Prod.mk command) (hids command)

theorem mem_commands_ofLive_iff {command : String} :
    command ∈ (ofLive live).commands ↔ ∃ pid, pid ∈ idsFor live (· = .batch command) := by
  rw [commands_ofLive, mem_distinct_iff, List.mem_filterMap]
  simp only [mem_idsFor_iff, decide_eq_true_eq]
  constructor
  · rintro ⟨⟨pid, d⟩, hmem, hd⟩
    obtain ⟨⟨known, cleanup⟩, hentry, hdecided⟩ := List.mem_map.1 hmem
    cases hdecided
    cases hof : Disposition.of known cleanup with
    | batch given =>
      rw [hof] at hd
      cases hd
      exact ⟨known, cleanup, hentry, hof⟩
    | remove | kill group | skip => simp [hof] at hd
  · rintro ⟨pid, cleanup, hentry, hof⟩
    exact ⟨_, List.mem_map_of_mem hentry, by simp [hof]⟩

theorem mem_batches_ofLive_iff {batch : String × List String} :
    batch ∈ (ofLive live).batches ↔
      batch.1 ∈ (ofLive live).commands ∧ batch.2 = idsFor live (· = .batch batch.1) := by
  rw [batches_ofLive, List.mem_map]
  constructor
  · rintro ⟨command, hcommand, rfl⟩
    exact ⟨hcommand, rfl⟩
  · rintro ⟨hcommand, hids⟩
    exact ⟨batch.1, hcommand, by rw [← hids]⟩

/-- A plan that puts every one of certain process ids in exactly one place, by the id and by its
    cleanup command. Its kills are the numbers of some of the ids, its deletions name others. -/
structure Classifies (plan : Plan) (pids : List String) (command? : String → Option String)
    (killed removed : List String) : Prop where
  kill : plan.kill.map some = killed.map Text.NumeralRange.int32.read?
  remove : plan.remove = removed.map Path.ofString
  mem_killed : ∀ pid, pid ∈ killed ↔
    pid ∈ pids ∧ command? pid = none ∧ ∃ group, Disposition.IsGroup pid group
  mem_removed : ∀ pid, pid ∈ removed ↔
    pid ∈ pids ∧ command? pid = some Disposition.removeCommand
  mem_batches : ∀ pid command, (∃ batch ∈ plan.batches, batch.1 = command ∧ pid ∈ batch.2) ↔
    pid ∈ pids ∧ command? pid = some command ∧ command ≠ Disposition.removeCommand
  mem_skipped : ∀ pid, pid ∈ plan.skipped ↔
    pid ∈ pids ∧ command? pid = none ∧ ¬∃ group, Disposition.IsGroup pid group
  ascending : Ascending killed ∧ Ascending removed ∧ Ascending plan.skipped ∧
    ∀ batch ∈ plan.batches, Ascending batch.2
  commands : Ascending plan.commands
  nonempty : ∀ batch ∈ plan.batches, batch.2 ≠ []
  once : (killed ++ removed ++ plan.batches.flatMap Prod.snd ++ plan.skipped).Perm pids

theorem Classifies.length_eq {plan : Plan} {pids : List String}
    {command? : String → Option String} {killed removed : List String}
    (hplan : plan.Classifies pids command? killed removed) :
    plan.kill.length + plan.remove.length + (plan.batches.flatMap Prod.snd).length +
      plan.skipped.length = pids.length := by
  have hkill := congrArg List.length hplan.kill
  have hremove := congrArg List.length hplan.remove
  have honce := hplan.once.length_eq
  simp only [List.length_map] at hkill hremove
  simp only [List.length_append] at honce
  omega

/-- All process ids together: those to be killed or deleted, those to be passed to a command, and
    those that are skipped. -/
theorem idsFor_perm (live : List (String × Option String)) :
    (idsFor live Disposition.isKill ++ idsFor live (· = .remove) ++
      (ofLive live).batches.flatMap Prod.snd ++ idsFor live (· = .skip)).Perm
        (live.map Prod.fst) := by
  let isBatch (d : Disposition) : Bool := (ofLive live).commands.any (d = .batch ·)
  have hbatches : ((ofLive live).batches.flatMap Prod.snd).Perm (idsFor live isBatch) := by
    rw [batches_ofLive, List.flatMap_map]
    exact flatMap_idsFor_perm live ((pairwise_lt_commands live).imp String.ne_of_lt)
  have hdelete : (idsFor live Disposition.isKill ++ idsFor live (· = .remove)).Perm
      (idsFor live fun d => d.isKill || d = .remove) :=
    idsFor_append_perm live fun d hd => by
      obtain ⟨group, rfl⟩ := Disposition.isKill_iff.1 hd
      rfl
  have hbatch : (idsFor live (fun d => d.isKill || d = .remove) ++ idsFor live isBatch).Perm
      (idsFor live fun d => (d.isKill || d = .remove) || isBatch d) :=
    idsFor_append_perm live fun d hd => by
      cases d <;> simp_all [Disposition.isKill, isBatch]
  have hskip : (idsFor live (fun d => (d.isKill || d = .remove) || isBatch d) ++
      idsFor live (· = .skip)).Perm
        (idsFor live fun d => ((d.isKill || d = .remove) || isBatch d) || d = .skip) :=
    idsFor_append_perm live fun d hd => by
      cases d <;> simp_all [Disposition.isKill, isBatch]
  have hall : (idsFor live fun d => ((d.isKill || d = .remove) || isBatch d) || d = .skip) =
      live.map Prod.fst := by
    refine idsFor_eq_map_fst fun entry hentry => ?_
    cases hof : Disposition.of entry.1 entry.2 with
    | batch command =>
      have hcommand : isBatch (.batch command) = true :=
        List.any_eq_true.2 ⟨command, mem_commands_ofLive_iff.2
          ⟨entry.1, mem_idsFor_iff.2 ⟨entry.2, hentry, by simp [hof]⟩⟩, by simp⟩
      simp [hcommand]
    | kill group | remove | skip => simp [Disposition.isKill]
  rw [← hall]
  exact (((hdelete.append hbatches).trans hbatch).append_right _).trans hskip

/-- The plan for a list of process ids with their cleanup commands puts each of them in one place,
    and in every place they stand in ascending order. -/
theorem exists_classifies_ofLive (hlive : (live.map Prod.fst).Pairwise (· < ·))
    {command? : String → Option String}
    (hcommand : ∀ entry ∈ live, command? entry.1 = entry.2) :
    ∃ killed removed, (ofLive live).Classifies (live.map Prod.fst) command? killed removed := by
  have hascending (p : Disposition → Bool) : Ascending (idsFor live p) :=
    ascending_of_pairwise_lt (hlive.sublist (idsFor_sublist live p))
  refine ⟨idsFor live Disposition.isKill, idsFor live (· = .remove), ?_⟩
  constructor
  case kill => exact kill_ofLive live
  case remove => exact remove_ofLive live
  case mem_killed =>
    intro pid
    simp only [mem_idsFor_iff_of_command hcommand, Disposition.isKill_iff,
      Disposition.of_eq_kill_iff, exists_and_left]
  case mem_removed =>
    intro pid
    simp only [mem_idsFor_iff_of_command hcommand, decide_eq_true_eq, Disposition.of_eq_remove_iff]
  case mem_skipped =>
    intro pid
    rw [skipped_ofLive]
    simp only [mem_idsFor_iff_of_command hcommand, decide_eq_true_eq, Disposition.of_eq_skip_iff]
  case mem_batches =>
    intro pid command
    have hids : pid ∈ idsFor live (· = .batch command) ↔ pid ∈ live.map Prod.fst ∧
        command? pid = some command ∧ command ≠ Disposition.removeCommand := by
      simp only [mem_idsFor_iff_of_command hcommand, decide_eq_true_eq, Disposition.of_eq_batch_iff]
    rw [← hids]
    constructor
    · rintro ⟨batch, hmem, rfl, hpid⟩
      rwa [(mem_batches_ofLive_iff.1 hmem).2] at hpid
    · intro hpid
      exact ⟨(command, idsFor live (· = .batch command)),
        mem_batches_ofLive_iff.2 ⟨mem_commands_ofLive_iff.2 ⟨pid, hpid⟩, rfl⟩, rfl, hpid⟩
  case ascending =>
    refine ⟨hascending _, hascending _, ?_, fun batch hmem => ?_⟩
    · rw [skipped_ofLive]
      exact hascending _
    · rw [(mem_batches_ofLive_iff.1 hmem).2]
      exact hascending _
  case commands => exact ascending_of_pairwise_lt (pairwise_lt_commands live)
  case nonempty =>
    intro batch hmem
    obtain ⟨hasked, hids⟩ := mem_batches_ofLive_iff.1 hmem
    obtain ⟨pid, hpid⟩ := mem_commands_ofLive_iff.1 hasked
    rw [hids]
    exact List.ne_nil_of_mem hpid
  case once =>
    rw [skipped_ofLive]
    exact idsFor_perm live

end Plan

namespace Liveness

/-- After any entries, a process id is live exactly if the last entry about it is a start. The plan
    puts every live process id in exactly one place, by the cleanup command of its last start that
    carries one, and nothing else in any; so its parts have together as many elements as there are
    live process ids. -/
theorem plan_ofEntries_classifies (es : List Entry) :
    let liveness := ofEntries es
    let plan := liveness.plan
    (∀ pid, liveness.isLive pid = true ↔
        ∃ e, Entry.lastAbout? pid es = some e ∧ e.marker = .started) ∧
      (∀ pid, pid ∈ liveness.livePids ↔ liveness.isLive pid = true) ∧
      Plan.Ascending liveness.livePids ∧
      (∃ killed removed, plan.Classifies liveness.livePids (fun pid => Entry.lastCleanup? pid es)
        killed removed) ∧
      plan.kill.length + plan.remove.length + (plan.batches.flatMap Prod.snd).length +
        plan.skipped.length = liveness.livePids.length := by
  intro liveness plan
  have hlive := pairwise_lt_livePids liveness
  have hplan : ∃ killed removed, plan.Classifies liveness.livePids
      (fun pid => Entry.lastCleanup? pid es) killed removed :=
    Plan.exists_classifies_ofLive hlive fun entry hentry => (mem_live_ofEntries_iff.1 hentry).2
  refine ⟨fun pid => isLive_ofEntries_iff, fun pid => mem_livePids_iff,
    Plan.ascending_of_pairwise_lt hlive, hplan, ?_⟩
  obtain ⟨killed, removed, hclassifies⟩ := hplan
  exact hclassifies.length_eq

end Liveness

end Overseer
