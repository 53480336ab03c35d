import Overseer.Proofs.Recovery.Pass
import Overseer.Proofs.Supervisor.FirstDecision

/-!
The stages of a supervised run as effects that are carried out: the exit file first, then recovery and
the end of the agent's own group if the run was cut short, then the drain, and the reporter last.
-/

namespace Overseer

variable {κ : Type}

namespace Session

/-- Carries effects out, and logs lines about them. -/
def carryOut (control : Control κ) (effects : List Effect) (lines : List LogLine)
    (s : Session κ) : Session κ :=
  { s with run := s.run.carryOut control effects }.log lines

@[simp] theorem log_nil (s : Session κ) : s.log [] = s := by
  simp [log, echo, Console.print, Logger.texts]

theorem log_append (s : Session κ) (earlier later : List LogLine) :
    s.log (earlier ++ later) = (s.log earlier).log later := by
  simp [log, echo, Console.print, Logger.texts_append, List.append_assoc]

/-- What copying output leaves as it was: the effects so far, and whether there is a reporter. -/
structure Alike (before after : Session κ) : Prop where
  trace : after.run.trace = before.run.trace
  desk : after.desk.isSome = before.desk.isSome

theorem Alike.refl (s : Session κ) : Alike s s := ⟨rfl, rfl⟩

theorem Alike.trans {s t u : Session κ} (hfirst : Alike s t) (hlater : Alike t u) : Alike s u :=
  ⟨hlater.trace.trans hfirst.trace, hlater.desk.trans hfirst.desk⟩

theorem alike_capture (stream : Stream) (bytes : Bytes) (s : Session κ) :
    Alike s (capture stream bytes s).2 := by
  unfold capture
  cases s.file stream with
  | none => exact .refl s
  | some handle =>
    dsimp only
    cases s.run.host.files.write handle bytes with
    | ok written => cases stream <;> exact ⟨rfl, rfl⟩
    | error r => cases stream <;> exact ⟨rfl, rfl⟩

/-- Output is handed to the reporter without being noted. -/
theorem alike_report_append (stream : Stream) (bytes : Bytes) (s : Session κ) :
    Alike s (s.report (.append stream bytes)) := by
  unfold report
  cases hdesk : s.desk with
  | none => exact .refl s
  | some desk => exact ⟨rfl, by rw [hdesk]; rfl⟩

theorem alike_write (stream : Stream) (tee : Capture.Tee (Session κ)) (chunk : Bytes) :
    Alike tee.sinks (tee.write (outlets stream) chunk).sinks := by
  have hcapture : Alike tee.sinks
      (if tee.capturing then capture stream chunk tee.sinks else (false, tee.sinks)).2 := by
    split
    · exact alike_capture stream chunk tee.sinks
    · exact .refl _
  have hecho (s : Session κ) : Alike s (s.echo stream chunk) := ⟨rfl, rfl⟩
  exact (hcapture.trans (hecho _)).trans (alike_report_append stream chunk _)

theorem alike_copy (stream : Stream) (bytes : Bytes) (s : Session κ) :
    Alike s (s.copy stream bytes) := by
  have hchunks (tee : Capture.Tee (Session κ)) (chunks : List Bytes) :
      Alike tee.sinks (tee.writeAll (outlets stream) chunks).sinks := by
    unfold Capture.Tee.writeAll
    induction chunks generalizing tee with
    | nil => exact .refl _
    | cons chunk later ih =>
      rw [List.foldl_cons]
      exact (alike_write stream tee chunk).trans (ih _)
  exact hchunks ⟨(s.file stream).isSome, s⟩ (Capture.chunksOf bytes)

/-- No act of the child is an effect of the agent. -/
theorem alike_play (l : Launched) (s : Session κ) (act : Act) : Alike s (l.play s act) := by
  cases act with
  | print stream bytes =>
    unfold Launched.play
    dsimp only
    split
    · exact alike_copy stream bytes s
    · exact ⟨rfl, rfl⟩
  | change c => exact ⟨rfl, rfl⟩
  | signalAgent | release | ignore | tell => exact .refl s

theorem alike_foldl_play (l : Launched) (activities : List Activity) (s : Session κ) :
    Alike s (activities.foldl (fun s a => l.play s a.act) s) := by
  induction activities generalizing s with
  | nil => exact .refl s
  | cons a later ih => exact (alike_play l s a.act).trans (ih _)

/-- A reporter gets the outcome once; without one nothing is reported. -/
theorem trace_report_exit (text : String) (s : Session κ) :
    (s.report (.exit text)).run.trace =
      s.run.trace ++ if s.desk.isSome then [.exitReported text] else [] := by
  unfold report
  cases s.desk with
  | none => simp
  | some desk => rfl

end Session

namespace Supervisor

/-- The session at the time of the decision: what the child did until then has taken effect, and the
    decision has been logged. -/
def atDecision (sup : Supervisor κ) (l : Launched) (sub : Subscription) (s : Session κ) :
    Session κ :=
  ((l.behaviour.activities.filter fun a =>
    decide (a.time ≤ (sup.decision l.behaviour sub).1)).foldl (fun s a => l.play s a.act) s).log
      (sup.decisionLines l.behaviour sub)

theorem alike_atDecision (sup : Supervisor κ) (l : Launched) (sub : Subscription) (s : Session κ) :
    s.Alike (sup.atDecision l sub s) := by
  have hplayed := Session.alike_foldl_play l (l.behaviour.activities.filter fun a =>
    decide (a.time ≤ (sup.decision l.behaviour sub).1)) s
  exact ⟨hplayed.trace, hplayed.desk⟩

/-- The record of an outcome: one attempt to write the exit file, if there is one. -/
def exitEffects (sup : Supervisor κ) (o : Outcome) : List Effect :=
  if Capture.IsFile sup.exitFile then [.exitRecorded sup.exitFile o.text] else []

/-- What is logged about the record: that it was refused. -/
def exitLines (sup : Supervisor κ) (o : Outcome) (files : Files) : List LogLine :=
  if Capture.IsFile sup.exitFile then
    LogLine.ofFault (.exitNotRecorded sup.exitFile) (writeExit sup.exitFile o.text files).1
  else []

/-- The recovery of the task log, if the run owns one. -/
def recoveryEffects (sup : Supervisor κ) (host : Host κ) : List Effect :=
  match sup.log with
  | some log => .logRead log.path ::
      (log.exchanges sup.control host).map Exchange.effect ++ [.logErased log.path]
  | none => []

/-- What is logged about the recovery, if there is one. -/
def recoveryLines (sup : Supervisor κ) (run : Run κ) : List LogLine :=
  match sup.log with
  | some log => [.ofRecovery (log.cleanUpAll sup.control run).1]
  | none => []

/-- How a run that was cut short is torn down; one that was not is left alone. -/
def teardownEffects (sup : Supervisor κ) (o : Outcome) (host : Host κ) : List Effect :=
  if o.RequiresKill then sup.recoveryEffects host ++ [.called .killOwnGroup] else []

theorem recordExit_eq (sup : Supervisor κ) (o : Outcome) (s : Session κ) :
    sup.recordExit o s =
      s.carryOut sup.control (sup.exitEffects o) (sup.exitLines o s.run.host.files) := by
  unfold recordExit exitEffects exitLines Session.carryOut
  split
  · rfl
  · rw [Run.carryOut_nil, Session.log_nil]

/-- A run that was cut short with its task log recovered, and its group about to be ended. -/
def recovered (sup : Supervisor κ) (child : Nat) (s : Session κ) : Session κ :=
  s.carryOut sup.control (sup.recoveryEffects s.run.host)
    (sup.recoveryLines s.run ++ [.endingGroup child])

/-- A session with the agent's own group asked to hang up. -/
def tornDown (sup : Supervisor κ) (s : Session κ) : Session κ :=
  s.carryOut sup.control [.called .killOwnGroup]
    (LogLine.ofFault .groupNotEnded (sup.control .killOwnGroup s.run.host).1)

theorem recover_eq (sup : Supervisor κ) (s : Session κ) :
    sup.recover s = s.carryOut sup.control (sup.recoveryEffects s.run.host)
      (sup.recoveryLines s.run) := by
  unfold recover recoveryEffects recoveryLines Session.carryOut
  cases sup.log with
  | none => rw [Run.carryOut_nil, Session.log_nil]
  | some log =>
    dsimp only
    rw [TaskLog.snd_cleanUpAll]

theorem kill_eq (sup : Supervisor κ) (child : Nat) (s : Session κ) :
    sup.kill child s = sup.tornDown (sup.recovered child s) := by
  rw [recovered, Session.carryOut, Session.log_append, ← Session.carryOut, ← recover_eq]
  rfl

/-- Records an outcome, and tears the run down if it was cut short. -/
def conclude (sup : Supervisor κ) (l : Launched) (o : Outcome) (s : Session κ) : Session κ :=
  if o.RequiresKill then sup.kill l.behaviour.child (sup.recordExit o s) else sup.recordExit o s

theorem trace_conclude (sup : Supervisor κ) (l : Launched) (o : Outcome) (s : Session κ) :
    (sup.conclude l o s).run.trace = s.run.trace ++ sup.exitEffects o ++
      sup.teardownEffects o (sup.recordExit o s).run.host := by
  have hrecorded : (sup.recordExit o s).run.trace = s.run.trace ++ sup.exitEffects o := by
    rw [recordExit_eq]
    rfl
  unfold conclude teardownEffects
  split
  · rw [kill_eq, ← hrecorded, ← List.append_assoc]
    rfl
  · rw [hrecorded, List.append_nil]

/-- The end of a run is no concern of the reporter and of the capture files. -/
theorem conclude_keeps (sup : Supervisor κ) (l : Launched) (o : Outcome) (s : Session κ) :
    (sup.conclude l o s).desk = s.desk ∧ (sup.conclude l o s).kept = s.kept ∧
      ∀ stream, (sup.conclude l o s).file stream = s.file stream := by
  unfold conclude
  split
  · rw [kill_eq, recordExit_eq]
    exact ⟨rfl, rfl, fun stream => by cases stream <;> rfl⟩
  · rw [recordExit_eq]
    exact ⟨rfl, rfl, fun stream => by cases stream <;> rfl⟩

/-- The four stages of a run. -/
theorem supervise_eq (sup : Supervisor κ) (l : Launched) (sub : Subscription) (s : Session κ) :
    let time := (sup.decision l.behaviour sub).1
    let o := (sup.decision l.behaviour sub).2
    let concluded := sup.conclude l o (sup.atDecision l sub s)
    let deaths := if o.RequiresKill then
      l.behaviour.killed time concluded.run.host.groupEnded else []
    sup.supervise l sub s = (o, reportExit o (sup.drain l time deaths concluded)) := rfl

/-- A run that was not cut short has no use for a control or a log. -/
theorem supervise_of_not_requiresKill (sup : Supervisor κ) {l : Launched} {sub : Subscription}
    (hkill : ¬(sup.decision l.behaviour sub).2.RequiresKill) (s : Session κ) :
    let time := (sup.decision l.behaviour sub).1
    let o := (sup.decision l.behaviour sub).2
    sup.supervise l sub s =
      (o, reportExit o (sup.drain l time [] (sup.recordExit o (sup.atDecision l sub s)))) := by
  simp only [supervise_eq, conclude, if_neg hkill]

theorem killOwnGroup_notMem_recoveryEffects (sup : Supervisor κ) (host : Host κ) :
    .called .killOwnGroup ∉ sup.recoveryEffects host := by
  unfold recoveryEffects
  cases sup.log with
  | none => exact List.not_mem_nil
  | some log =>
    intro hown
    simp only [List.cons_append, List.mem_cons, List.mem_append, List.mem_map, List.not_mem_nil,
      reduceCtorEq, false_or, or_false] at hown
    obtain ⟨x, hx, hcall⟩ := hown
    exact TaskLog.fst_ne_killOwnGroup_of_mem_exchanges hx (Effect.called.inj hcall)

end Supervisor

end Overseer
