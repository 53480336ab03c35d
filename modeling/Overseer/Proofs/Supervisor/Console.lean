import Overseer.Proofs.Log
import Overseer.Proofs.Supervisor.Course

/-!
What appears on the agent's own streams in a supervised run: what the child prints there, in order,
whether a stream is copied or inherited. Of the agent's own there is nothing but the lines that it
logs, which stand on standard error as a whole, and each of them has its reason.
-/

namespace Overseer

variable {κ : Type}

/-- Ending the agent's own group changes neither files nor output, and which processes it ends does
    not depend on them. -/
structure Control.EndsProcessesOnly (control : Control κ) : Prop where
  files : ∀ host, (control .killOwnGroup host).2.files = host.files
  console : ∀ host, (control .killOwnGroup host).2.console = host.console
  groupEnded : ∀ host files console,
    (control .killOwnGroup { host with files, console }).2.groupEnded =
      (control .killOwnGroup host).2.groupEnded

/-- All that a reporter has logged is that a message is lost: it is too long, or its queue refuses
    it. -/
theorem Report.Desk.exists_of_mem_lines {desk : Desk} {request : Request} {office : Office}
    {line : LogLine} (hline : line ∈ desk.lines request office) :
    (∃ length, maxLength < length ∧ line = .messageTooLong length) ∨
      ∃ message fault, (desk.queue.post message office).1 = .error fault ∧
        line = .messageRefused fault := by
  unfold lines at hline
  split at hline
  · cases hline
  · next m _ =>
    split at hline
    · next hlong => exact .inl ⟨_, hlong, List.mem_singleton.1 hline⟩
    · exact .inr ⟨m.encode, LogLine.mem_ofFault_iff.1 hline⟩

namespace Session

/-- What may have to be logged while output is copied: what goes wrong with a capture file or with a
    message. -/
def MayLog (s : Session κ) : LogLine → Prop
  | .captureRefused stream r => (s.file stream).isSome ∧
      ∃ (files : Files) (handle : Handle) (bytes : Bytes), files.write handle bytes = .error r
  | .captureNotClosed stream fault => (s.file stream).isSome ∧ fault = Supervisor.notKept
  | .messageTooLong length => s.desk.isSome ∧ Report.maxLength < length
  | .messageRefused fault => ∃ q, s.desk.map Report.Desk.queue = some q ∧
      ∃ message office, (q.post message office).1 = .error fault
  | _ => False

/-- A session after some bytes were printed on each stream, and lines were logged among them for
    certain reasons. -/
structure Shows (reason : LogLine → Prop) (printed : Stream → Bytes) (before after : Session κ) :
    Prop where
  out : after.run.host.console.out = before.run.host.console.out ++ printed .out
  err : ∃ lines shown, after.logged = before.logged ++ lines ∧
    after.run.host.console.err = before.run.host.console.err ++ shown ∧
    Interspersed (printed .err) (before.logger.texts before.logged.length lines) shown ∧
    ∀ line ∈ lines, before.logger.shows line = true ∧ reason line
  logger : after.logger = before.logger
  sinks : ∀ line, after.MayLog line → before.MayLog line

/-- A session in which moreover no process was ended. -/
structure Prints (reason : LogLine → Prop) (printed : Stream → Bytes) (before after : Session κ) :
    Prop extends before.Shows reason printed after where
  groupEnded : after.run.host.groupEnded = before.run.host.groupEnded
  processes : after.run.host.processes = before.run.host.processes

variable {reason further : LogLine → Prop} {earlier later : Stream → Bytes} {s t u : Session κ}

theorem mayLog_of_sinks (hdesk : t.desk.map Report.Desk.queue = s.desk.map Report.Desk.queue)
    (hfiles : ∀ stream, (t.file stream).isSome → (s.file stream).isSome) (line : LogLine)
    (hline : t.MayLog line) : s.MayLog line := by
  cases line with
  | captureRefused stream r => exact hline.imp_left (hfiles stream)
  | captureNotClosed stream fault => exact hline.imp_left (hfiles stream)
  | messageTooLong length =>
    have hsome := congrArg Option.isSome hdesk
    rw [Option.isSome_map, Option.isSome_map] at hsome
    exact hline.imp_left hsome.symm.trans
  | messageRefused fault =>
    obtain ⟨q, hqueue, hrefused⟩ := hline
    exact ⟨q, hdesk.symm.trans hqueue, hrefused⟩
  | _ => exact hline

theorem shows_nothing (hconsole : t.run.host.console = s.run.host.console)
    (hlogged : t.logged = s.logged) (hlogger : t.logger = s.logger)
    (hdesk : t.desk.map Report.Desk.queue = s.desk.map Report.Desk.queue)
    (hfiles : ∀ stream, (t.file stream).isSome → (s.file stream).isSome) :
    Shows reason (fun _ => []) s t where
  out := by rw [hconsole, List.append_nil]
  err := ⟨[], [], by rw [hlogged, List.append_nil], by rw [hconsole, List.append_nil], .nil,
    fun _ hline => nomatch hline⟩
  logger := hlogger
  sinks := mayLog_of_sinks hdesk hfiles

/-- Files are not shown. -/
theorem prints_nothing (hhost : t.run.host = { s.run.host with files := t.run.host.files })
    (hlogged : t.logged = s.logged) (hlogger : t.logger = s.logger)
    (hdesk : t.desk.map Report.Desk.queue = s.desk.map Report.Desk.queue)
    (hfiles : ∀ stream, (t.file stream).isSome → (s.file stream).isSome) :
    Prints reason (fun _ => []) s t where
  toShows := shows_nothing (by rw [hhost]) hlogged hlogger hdesk hfiles
  groupEnded := by rw [hhost]
  processes := by rw [hhost]

theorem Shows.trans (hearlier : Shows reason earlier s t) (hlater : Shows reason later t u) :
    Shows reason (fun stream => earlier stream ++ later stream) s u where
  out := by rw [hlater.out, hearlier.out, List.append_assoc]
  err := by
    obtain ⟨lines, shown, hlogged, herr, hamong, hreason⟩ := hearlier.err
    obtain ⟨others, rest, hloggedLater, herrLater, hamongLater, hreasonLater⟩ := hlater.err
    rw [hearlier.logger] at hreasonLater
    refine ⟨lines ++ others, shown ++ rest, ?_, ?_, ?_, ?_⟩
    · rw [hloggedLater, hlogged, List.append_assoc]
    · rw [herrLater, herr, List.append_assoc]
    · rw [Logger.texts_append]
      rw [hlogged, hearlier.logger, List.length_append] at hamongLater
      exact hamong.append hamongLater
    · intro line hline
      rcases List.mem_append.1 hline with hline | hline
      · exact hreason line hline
      · exact hreasonLater line hline
  logger := hlater.logger.trans hearlier.logger
  sinks line hline := hearlier.sinks line (hlater.sinks line hline)

theorem Shows.mono (hshows : Shows reason earlier s t)
    (hreason : ∀ line, reason line → further line) : Shows further earlier s t where
  out := hshows.out
  err := by
    obtain ⟨lines, shown, hlogged, herr, hamong, hlines⟩ := hshows.err
    exact ⟨lines, shown, hlogged, herr, hamong, fun line hline =>
      (hlines line hline).imp_right (hreason line)⟩
  logger := hshows.logger
  sinks := hshows.sinks

theorem Shows.congr (hshows : Shows reason earlier s t)
    (hsame : ∀ stream, earlier stream = later stream) : Shows reason later s t := by
  have hfunction : earlier = later := funext hsame
  rwa [hfunction] at hshows

/-- Lines that are logged for a reason are all that is shown. -/
theorem prints_log (reason : LogLine → Prop) (lines : List LogLine) (s : Session κ)
    (hlines : ∀ line ∈ lines, reason line) : Prints reason (fun _ => []) s (s.log lines) where
  out := (List.append_nil _).symm
  err := ⟨_, _, rfl, rfl, .of_lines _, fun line hline =>
    have hshown := List.mem_filter.1 hline
    ⟨hshown.2, hlines line hshown.1⟩⟩
  logger := rfl
  sinks line hline := by cases line <;> exact hline
  groupEnded := rfl
  processes := rfl

theorem Prints.trans (hearlier : Prints reason earlier s t) (hlater : Prints reason later t u) :
    Prints reason (fun stream => earlier stream ++ later stream) s u where
  toShows := hearlier.toShows.trans hlater.toShows
  groupEnded := hlater.groupEnded.trans hearlier.groupEnded
  processes := hlater.processes.trans hearlier.processes

theorem Prints.mono (hprints : Prints reason earlier s t)
    (hreason : ∀ line, reason line → further line) : Prints further earlier s t where
  toShows := hprints.toShows.mono hreason
  groupEnded := hprints.groupEnded
  processes := hprints.processes

theorem Prints.congr (hprints : Prints reason earlier s t)
    (hsame : ∀ stream, earlier stream = later stream) : Prints reason later s t where
  toShows := hprints.toShows.congr hsame
  groupEnded := hprints.groupEnded
  processes := hprints.processes

/-- What is logged later while output is copied could have been logged before. -/
theorem Prints.trans_mayLog (hearlier : Prints s.MayLog earlier s t)
    (hlater : Prints t.MayLog later t u) :
    Prints s.MayLog (fun stream => earlier stream ++ later stream) s u :=
  hearlier.trans (hlater.mono hearlier.sinks)

theorem prints_capture (stream : Stream) (chunk : Bytes) (s : Session κ) :
    Prints s.MayLog (fun _ => []) s (capture stream chunk s).2 := by
  unfold capture
  cases hfile : s.file stream with
  | none => exact prints_nothing rfl rfl rfl rfl fun _ hsome => hsome
  | some handle =>
    have hleft (left : Option Handle) (other : Stream)
        (hsome : ((s.setFile left stream).file other).isSome) : (s.file other).isSome := by
      cases stream <;> cases other <;> first | exact hsome | rw [hfile]; rfl
    dsimp only
    cases hwrite : s.run.host.files.write handle chunk with
    | ok written =>
      cases stream <;> exact prints_nothing rfl rfl rfl rfl (hleft (some written.1))
    | error r =>
      have hgiven : Prints s.MayLog (fun _ => []) s (s.setFile none stream) := by
        cases stream <;> exact prints_nothing rfl rfl rfl rfl (hleft none)
      refine hgiven.trans (prints_log _ _ _ fun line hline => ?_)
      rw [List.mem_singleton.1 hline, MayLog, hfile]
      exact ⟨rfl, _, _, _, hwrite⟩

theorem prints_echo (stream : Stream) (bytes : Bytes) (s : Session κ) :
    Prints reason (fun other => if stream = other then bytes else []) s (s.echo stream bytes) where
  out := by cases stream <;> simp [echo, Console.print]
  err := ⟨[], if stream = .err then bytes else [], (List.append_nil _).symm,
    by cases stream <;> simp [echo, Console.print], .of_bytes _, fun _ hline => nomatch hline⟩
  logger := rfl
  sinks := mayLog_of_sinks rfl fun other hsome => by cases other <;> exact hsome
  groupEnded := rfl
  processes := rfl

/-- The reporter prints nothing, but a message that is lost is logged. -/
theorem prints_report (request : Report.Request) (s : Session κ) :
    Prints s.MayLog (fun _ => []) s (s.report request) := by
  unfold report
  cases hdesk : s.desk with
  | none => exact prints_nothing rfl rfl rfl rfl fun _ hsome => hsome
  | some desk =>
    have hqueue : (desk.handle request ⟨s.run.host.files, s.kept⟩).1.queue = desk.queue := rfl
    dsimp only
    generalize desk.handle request ⟨s.run.host.files, s.kept⟩ = handled at hqueue
    obtain ⟨left, office⟩ := handled
    have hserved : Prints s.MayLog (fun _ => []) s ({ s with desk := some left, kept := office.kept
        }.withFiles fun _ => office.files) :=
      prints_nothing rfl rfl rfl (by rw [hdesk]; exact congrArg some hqueue)
        fun other hsome => by cases other <;> exact hsome
    have hlogged := hserved.trans (prints_log _ (desk.lines request ⟨s.run.host.files, s.kept⟩) _
      fun line hline => by
        rcases Report.Desk.exists_of_mem_lines hline with
          ⟨length, hlong, rfl⟩ | ⟨message, fault, hrefused, rfl⟩
        · exact ⟨by rw [hdesk]; rfl, hlong⟩
        · exact ⟨desk.queue, by rw [hdesk]; rfl, message, _, hrefused⟩)
    have hnoted (t : Session κ) : Prints s.MayLog (fun _ => []) t (t.noteRequest request) := by
      cases request <;>
        exact prints_nothing rfl rfl rfl rfl fun other hsome => by cases other <;> exact hsome
    exact hlogged.trans (hnoted _)

/-- A turn of a pump shows its chunk, whatever becomes of the capture file and the report. -/
theorem prints_takeTurn (s : Session κ) (turn : Stream × Bytes) :
    Prints s.MayLog (fun other => if turn.1 = other then turn.2 else []) s (s.takeTurn turn) := by
  obtain ⟨stream, chunk⟩ := turn
  rw [takeTurn_eq]
  have hall := ((prints_capture stream chunk s).trans_mayLog
    (prints_echo stream chunk _)).trans_mayLog (prints_report (.append stream chunk) _)
  exact hall.congr fun other => by rw [List.nil_append, List.append_nil]

theorem prints_foldl_takeTurn (turns : List (Stream × Bytes)) (s : Session κ) :
    Prints s.MayLog (fun stream => Report.bytesOn stream turns) s (turns.foldl takeTurn s) := by
  induction turns generalizing s with
  | nil => exact prints_nothing rfl rfl rfl rfl fun _ hsome => hsome
  | cons turn later ih => exact (prints_takeTurn s turn).trans_mayLog (ih _)

/-- An act of the child shows what it prints, copied or not. -/
theorem prints_play (l : Launched) (s : Session κ) (a : Activity) :
    Prints s.MayLog (fun stream => a.printed stream) s (l.play s a.act) := by
  unfold Activity.printed
  cases a.act with
  | print stream bytes =>
    unfold Launched.play
    dsimp only
    split
    · rw [copy_eq_foldl_takeTurn]
      refine (prints_foldl_takeTurn _ s).congr fun other => ?_
      rw [Report.bytesOn_map_chunks, Capture.flatten_chunksOf]
    · exact prints_echo stream bytes s
  | change c =>
    refine prints_nothing rfl rfl rfl rfl fun other hsome => ?_
    cases other
    · exact (Option.isSome_map ..).symm.trans hsome
    · exact (Option.isSome_map ..).symm.trans hsome
  | signalAgent | release | ignore | tell =>
    exact prints_nothing rfl rfl rfl rfl fun _ hsome => hsome

theorem prints_foldl_play (l : Launched) (activities : List Activity) (s : Session κ) :
    Prints s.MayLog (fun stream => activities.flatMap (Activity.printed stream)) s
      (activities.foldl (fun s a => l.play s a.act) s) := by
  induction activities generalizing s with
  | nil => exact prints_nothing rfl rfl rfl rfl fun _ hsome => hsome
  | cons a later ih => exact (prints_play l s a).trans_mayLog (ih _)

/-- A session that has only printed differs from before by its files and its output. -/
theorem Prints.host_eq (hprints : Prints reason earlier s t) :
    t.run.host = { s.run.host with
      files := t.run.host.files
      console := t.run.host.console } := by
  dsimp only
  rw [← hprints.groupEnded, ← hprints.processes]

end Session

namespace Supervisor

/-- What may have to be logged in a run without a task log, and why. -/
def MayLog (sup : Supervisor κ) (l : Launched) (sub : Subscription) (s : Session κ) :
    LogLine → Prop
  | .decided child o => child = l.behaviour.child ∧ o = (sup.decision l.behaviour sub).2
  | .interrupted signal => (sup.decision l.behaviour sub).2 = .signalReceived ∧ ¬signal.IsIgnorable
  | .exitNotRecorded file fault => Capture.IsFile sup.exitFile ∧ file = sup.exitFile ∧
      (writeExit file (sup.decision l.behaviour sub).2.text
        (sup.atDecision l sub s).run.host.files).1 = .error fault
  | .endingGroup child => (sup.decision l.behaviour sub).2.RequiresKill ∧ child = l.behaviour.child
  | .groupNotEnded fault => (sup.decision l.behaviour sub).2.RequiresKill ∧
      ∃ host, (sup.control .killOwnGroup host).1 = .error fault
  | line => s.MayLog line

variable {sup : Supervisor κ} {l : Launched} {sub : Subscription} {s : Session κ}

theorem mayLog_of_session {line : LogLine} (hline : s.MayLog line) : sup.MayLog l sub s line := by
  cases line <;> first | exact hline | exact hline.elim

theorem mayLog_of_mem_decisionLines {line : LogLine}
    (hline : line ∈ sup.decisionLines l.behaviour sub) : sup.MayLog l sub s line := by
  unfold decisionLines at hline
  rcases List.mem_append.1 hline with hsignal | hdecided
  · split at hsignal
    · next ho =>
      obtain ⟨signal, hdeciding, rfl⟩ := List.mem_map.1 hsignal
      obtain ⟨a, -, ha⟩ := List.exists_of_findSome?_eq_some (Option.mem_toList.1 hdeciding)
      refine ⟨ho, ?_⟩
      split at ha
      · rw [Option.ite_none_left_eq_some] at ha
        obtain ⟨hmeans, hsame⟩ := ha
        rwa [Option.some.inj hsame] at hmeans
      · cases ha
    · cases hsignal
  · obtain rfl := List.mem_singleton.1 hdecided
    exact ⟨rfl, rfl⟩

/-- Until its decision a run shows what its child prints, and then the decision is logged. -/
theorem prints_atDecision (sup : Supervisor κ) (l : Launched) (sub : Subscription)
    (s : Session κ) :
    Session.Prints (sup.MayLog l sub s)
      (fun stream => (sup.beforeDecision l sub).flatMap (Activity.printed stream)) s
      (sup.atDecision l sub s) := by
  have hwarranted (line : LogLine) (hline : s.MayLog line) : sup.MayLog l sub s line :=
    mayLog_of_session hline
  have hplayed := (Session.prints_foldl_play l (sup.beforeDecision l sub) s).mono hwarranted
  have hlogged := Session.prints_log _ (sup.decisionLines l.behaviour sub)
    ((sup.beforeDecision l sub).foldl (fun s a => l.play s a.act) s)
    fun _ => mayLog_of_mem_decisionLines (s := s)
  exact (hplayed.trans hlogged).congr fun stream => List.append_nil _

theorem prints_recordExit (sup : Supervisor κ) (l : Launched) (sub : Subscription)
    (s : Session κ) :
    Session.Prints (sup.MayLog l sub s) (fun _ => []) (sup.atDecision l sub s)
      (sup.recordExit (sup.decision l.behaviour sub).2 (sup.atDecision l sub s)) := by
  unfold recordExit
  split
  · next hfile =>
    have hwritten (effect : Effect) (f : Files → Files) (t : Session κ) :
        Session.Prints (sup.MayLog l sub s) (fun _ => []) t ((t.note effect).withFiles f) :=
      Session.prints_nothing rfl rfl rfl rfl fun other hsome => by cases other <;> exact hsome
    refine (hwritten _ _ _).trans (Session.prints_log _ _ _ fun line hline => ?_)
    obtain ⟨fault, hfault, rfl⟩ := LogLine.mem_ofFault_iff.1 hline
    exact ⟨hfile, rfl, hfault⟩
  · exact Session.prints_nothing rfl rfl rfl rfl fun _ hsome => hsome

/-- Without a task log nothing is shown when a run is torn down, but what goes wrong is logged. -/
theorem shows_tornDown (hcontrol : sup.control.EndsProcessesOnly)
    (hkill : (sup.decision l.behaviour sub).2.RequiresKill) (t : Session κ) :
    Session.Shows (sup.MayLog l sub s) (fun _ => []) t
      (sup.tornDown (t.log [.endingGroup l.behaviour.child])) := by
  have hending := Session.prints_log (sup.MayLog l sub s) [.endingGroup l.behaviour.child] t
    fun line hline => by
      rw [List.mem_singleton.1 hline]
      exact ⟨hkill, rfl⟩
  generalize t.log [.endingGroup l.behaviour.child] = ending at hending
  have hended : Session.Shows (sup.MayLog l sub s) (fun _ => []) ending
      { ending with run := ending.run.carryOut sup.control [.called .killOwnGroup] } :=
    Session.shows_nothing (hcontrol.console _) rfl rfl rfl
      fun other hsome => by cases other <;> exact hsome
  have hlogged := Session.prints_log (sup.MayLog l sub s)
    (LogLine.ofFault .groupNotEnded (sup.control .killOwnGroup ending.run.host).1)
    { ending with run := ending.run.carryOut sup.control [.called .killOwnGroup] }
    fun line hline => by
      obtain ⟨fault, hfault, rfl⟩ := LogLine.mem_ofFault_iff.1 hline
      exact ⟨hkill, _, hfault⟩
  exact (hending.toShows.trans hended).trans hlogged.toShows

theorem shows_conclude (hlog : sup.log = none) (hcontrol : sup.control.EndsProcessesOnly) :
    Session.Shows (sup.MayLog l sub s) (fun _ => []) (sup.atDecision l sub s)
      (sup.conclude l (sup.decision l.behaviour sub).2 (sup.atDecision l sub s)) := by
  have hrecorded := (sup.prints_recordExit l sub s).toShows
  unfold conclude
  split
  · next hkill =>
    rw [kill_of_log_eq_none sup hlog]
    exact hrecorded.trans (shows_tornDown hcontrol hkill _)
  · exact hrecorded

/-- Who goes by the decision is the same whatever has been printed and written by then. -/
theorem deathsByDecision_eq (sup : Supervisor κ) (hlog : sup.log = none)
    (hcontrol : sup.control.EndsProcessesOnly) (l : Launched) (sub : Subscription)
    (s : Session κ) :
    sup.deathsByDecision l sub s =
      if (sup.decision l.behaviour sub).2.RequiresKill then
        l.behaviour.killed (sup.decision l.behaviour sub).1
          (sup.control .killOwnGroup s.run.host).2.groupEnded
      else [] := by
  unfold deathsByDecision deaths
  dsimp only
  split
  · next hkill =>
    have hrecorded := (sup.prints_atDecision l sub s).trans (sup.prints_recordExit l sub s)
    have hending := hrecorded.trans (Session.prints_log _ [.endingGroup l.behaviour.child] _
      fun line hline => by
        rw [List.mem_singleton.1 hline]
        exact ⟨hkill, rfl⟩)
    have htorn (t : Session κ) : (sup.tornDown t).run.host.groupEnded =
        (sup.control .killOwnGroup t.run.host).2.groupEnded := rfl
    rw [conclude, if_pos hkill, kill_of_log_eq_none sup hlog, htorn, hending.host_eq,
      hcontrol.groupEnded]
  · rfl

theorem mayLog_of_mem_closingLines {ended : Stream → Bool} {line : LogLine}
    (hline : line ∈ closingLines ended s) : s.MayLog line := by
  obtain ⟨⟨stream, handle⟩, hcapture, hclosing⟩ := List.mem_filterMap.1 hline
  obtain ⟨other, -, hfile⟩ := List.mem_filterMap.1 hcapture
  obtain ⟨opened, hopened, hsame⟩ := Option.map_eq_some_iff.1 hfile
  cases hsame
  have hsome : (s.file stream).isSome := by rw [hopened]; rfl
  dsimp only at hclosing
  split at hclosing
  · split at hclosing
    · cases hclosing
      exact ⟨hsome, rfl⟩
    · cases hclosing
  · cases hclosing

/-- Capture files are closed without a word, unless that fails. -/
theorem prints_closed (ended : Stream → Bool) (s : Session κ) :
    Session.Prints s.MayLog (fun _ => []) s (closed ended s) := by
  have hlogged := Session.prints_log _ (closingLines ended s) s fun _ => mayLog_of_mem_closingLines
  have hnoted (t : Session κ) : Session.Prints s.MayLog (fun _ => []) t (t.note .drained) :=
    Session.prints_nothing rfl rfl rfl rfl fun other hsome => by cases other <;> exact hsome
  exact hlogged.trans (hnoted _)

/-- A supervised run shows what is printed before the decision and what is waited for after it, and
    the lines that there was a reason to log. -/
theorem shows_supervise (hlog : sup.log = none) (hcontrol : sup.control.EndsProcessesOnly)
    (l : Launched) (sub : Subscription) (s : Session κ) :
    Session.Shows (sup.MayLog l sub s) (fun stream =>
      (sup.beforeDecision l sub ++ sup.afterDecision l sub s).flatMap (Activity.printed stream))
      s (sup.supervise l sub s).2 := by
  have hdecided := (sup.prints_atDecision l sub s).toShows
  have hconcluded := hdecided.trans (shows_conclude hlog hcontrol)
  have hplayed := Session.prints_foldl_play l (sup.afterDecision l sub s)
    (sup.conclude l (sup.decision l.behaviour sub).2 (sup.atDecision l sub s))
  have hclosed := hplayed.trans_mayLog (prints_closed (sup.ended l (sup.decision l.behaviour sub).1
    (sup.deathsByDecision l sub s)) _)
  have hreported := hclosed.trans_mayLog (Session.prints_report
    (.exit (sup.decision l.behaviour sub).2.text) _)
  have hall := hconcluded.trans (hreported.toShows.mono fun line hline =>
    mayLog_of_session (hconcluded.sinks line hline))
  rw [supervise_eq_finish, finish_eq]
  exact hall.congr fun stream => by simp only [List.append_nil, List.flatMap_append]

end Supervisor

end Overseer
