import Overseer.Proofs.Files.Elsewhere
import Overseer.Proofs.Report.Spool
import Overseer.Proofs.Supervisor.Console
import Overseer.Proofs.Supervisor.Record

/-!
The capture file of a stream in a supervised run: it holds what has been copied so far, as long as
nobody else writes where it is.
-/

namespace Overseer

variable {κ : Type}

/-- The stream that is not this one. -/
def Stream.other : Stream → Stream
  | .out => .err
  | .err => .out

namespace Report

/-- A request leaves the files alone, or adds to the end of the spool file. -/
theorem Desk.files_handle_cases (desk : Desk) (request : Request) (office : Office) :
    (desk.handle request office).2.files = office.files ∨ ∃ q, desk.queue = .spool q ∧
      office.files.DifferAtEnd (desk.handle request office).2.files q := by
  unfold handle Reporter.serve
  obtain ⟨message, r⟩ := desk.reporter.handle request
  cases message with
  | none => exact .inl rfl
  | some message =>
    cases hqueue : desk.queue with
    | memory | refusing => exact .inl rfl
    | spool q =>
      refine .inr ⟨q, rfl, ?_⟩
      dsimp only
      rw [Queue.files_send_spool]
      exact Files.differAtEnd_appendTo ..

end Report

namespace Session

variable {s t : Session κ} {stream : Stream} {p : Path} {others : List Path} {content : Bytes}

/-- Where the capture file of a stream is. -/
def place? (s : Session κ) (stream : Stream) : Option Location :=
  (s.file stream).bind Handle.location

/-- Where the reporter hands its messages. -/
def queue? (s : Session κ) : Option Report.Queue :=
  s.desk.map Report.Desk.queue

/-- A path to a file of its own: none of the others leads there, and messages are spooled to one of
    the others. -/
structure Separates (s : Session κ) (p : Path) (others : List Path) : Prop where
  apart : ∀ q ∈ others, s.run.host.files.Apart p q
  spool : ∀ q, s.queue? = some (.spool q) → q ∈ others

theorem Separates.of_sameDirectories (hseparates : s.Separates p others)
    (hqueue : t.queue? = s.queue?)
    (hsame : s.run.host.files.SameDirectories t.run.host.files) : t.Separates p others where
  apart q hq := (hseparates.apart q hq).of_sameDirectories hsame
  spool q hq := hseparates.spool q (hqueue.symm.trans hq)

/-- A stream whose capture file holds what was copied so far: its path leads to the file that is
    written, behind what it holds, and the other capture file is elsewhere. -/
structure Records (s : Session κ) (stream : Stream) (p : Path) (others : List Path)
    (content : Bytes) : Prop where
  separates : s.Separates p others
  holds : ∃ loc executable, s.file stream = some ⟨some loc, content.length⟩ ∧
    s.run.host.files.locateChecked p = .ok loc ∧
    s.run.host.files.node? loc = some (.file content executable) ∧
    s.place? stream.other ≠ some loc

theorem Records.read (hrecords : s.Records stream p others content) :
    s.run.host.files.read p = .ok content := by
  obtain ⟨loc, executable, -, hleads, hnode, -⟩ := hrecords.holds
  exact Files.read_eq_ok_iff.2
    ⟨_, Files.find?_eq_some_iff.2 ⟨loc, hleads, hnode⟩, Node.noConfusion, rfl⟩

/-- What leaves directories, the reporter's queue and the handles as they are, and writes elsewhere,
    does not concern a capture file. -/
theorem Records.of_elsewhere (hrecords : s.Records stream p others content)
    (hfile : t.file stream = s.file stream)
    (hother : ∀ loc, t.place? stream.other = some loc → s.place? stream.other = some loc)
    (hqueue : t.queue? = s.queue?)
    (hsame : s.run.host.files.SameDirectories t.run.host.files)
    (hnode : ∀ loc, s.run.host.files.locateChecked p = .ok loc → s.place? stream.other ≠ some loc →
      t.run.host.files.node? loc = s.run.host.files.node? loc) :
    t.Records stream p others content := by
  obtain ⟨hseparates, loc, executable, hhandle, hleads, hholds, helse⟩ := hrecords
  refine ⟨hseparates.of_sameDirectories hqueue hsame, loc, executable, hfile.trans hhandle,
    hsame.locateChecked_eq_ok_iff.2 hleads, (hnode loc hleads helse).trans hholds, fun hplace => ?_⟩
  exact helse (hother loc hplace)

/-- What is written at the end of one of the other paths does not concern a capture file. -/
theorem Records.of_differAtEnd (hrecords : s.Records stream p others content) {q : Path}
    (hq : q ∈ others) (hfile : ∀ other, t.file other = s.file other) (hqueue : t.queue? = s.queue?)
    (hdiffer : s.run.host.files.DifferAtEnd t.run.host.files q) :
    t.Records stream p others content := by
  have hplace (other : Stream) : t.place? other = s.place? other := by
    rw [place?, place?, hfile]
  refine hrecords.of_elsewhere (hfile stream) (fun loc hloc => ?_) hqueue hdiffer.same
    fun loc hleads _ => hdiffer.elsewhere loc (hrecords.separates.apart q hq loc hleads)
  rwa [hplace] at hloc

/-- What is logged is not in the capture file. -/
theorem Records.log (hrecords : s.Records stream p others content) (lines : List LogLine) :
    (s.log lines).Records stream p others content :=
  ⟨⟨hrecords.separates.apart, hrecords.separates.spool⟩, hrecords.holds⟩

theorem file_setFile_self (s : Session κ) (handle : Option Handle) (stream : Stream) :
    (s.setFile handle stream).file stream = handle := by
  cases stream <;> rfl

theorem file_setFile_other (s : Session κ) (handle : Option Handle) (stream : Stream) :
    (s.setFile handle stream.other).file stream = s.file stream := by
  cases stream <;> rfl

theorem queue?_report (request : Report.Request) (s : Session κ) :
    (s.report request).queue? = s.queue? := by
  unfold report queue?
  cases hdesk : s.desk with
  | none => simp only [hdesk]
  | some desk => cases request <;> rfl

/-- A message is kept, refused, or added at the end of the spool file. -/
theorem files_report (request : Report.Request) (s : Session κ) :
    (s.report request).run.host.files = s.run.host.files ∨
      ∃ q, s.queue? = some (.spool q) ∧
        s.run.host.files.DifferAtEnd (s.report request).run.host.files q := by
  unfold report queue?
  cases s.desk with
  | none => exact .inl rfl
  | some desk =>
    dsimp only
    rw [host_noteRequest]
    rcases desk.files_handle_cases request ⟨s.run.host.files, s.kept⟩ with
      hsame | ⟨q, hqueue, hdiffer⟩
    · exact .inl hsame
    · exact .inr ⟨q, congrArg some hqueue, hdiffer⟩

theorem Records.report (hrecords : s.Records stream p others content) (request : Report.Request) :
    (s.report request).Records stream p others content := by
  rcases files_report request s with hsame | ⟨q, hqueue, hdiffer⟩
  · refine hrecords.of_elsewhere (file_report request s stream) (fun loc hloc => ?_)
      (queue?_report request s) ?_ fun loc _ _ => by rw [hsame]
    · rwa [place?, file_report] at hloc
    · rw [hsame]
      exact .refl _
  · exact hrecords.of_differAtEnd (hrecords.separates.spool q hqueue) (file_report request s)
      (queue?_report request s) hdiffer

/-- A chunk of the captured stream is added to the capture file. -/
theorem Records.capture_self (hrecords : s.Records stream p others content) (chunk : Bytes) :
    (capture stream chunk s).2.Records stream p others (content ++ chunk) := by
  obtain ⟨hseparates, loc, executable, hhandle, hleads, hnode, helse⟩ := hrecords
  have hwrite := Files.write_at_end hnode chunk
  have hdiffer := Files.differAt_edit s.run.host.files loc (· ++ chunk)
  have hcapture : (capture stream chunk s).2 =
      (s.setFile (some ⟨some loc, (content ++ chunk).length⟩) stream).withFiles fun _ =>
        s.run.host.files.edit loc (· ++ chunk) := by
    simp only [capture, hhandle, hwrite]
  rw [hcapture]
  have hsame : s.run.host.files.SameDirectories (s.run.host.files.edit loc (· ++ chunk)) :=
    hdiffer.same
  refine ⟨hseparates.of_sameDirectories (by cases stream <;> rfl) hsame, loc, executable,
    file_setFile_self .., hsame.locateChecked_eq_ok_iff.2 hleads, ?_, ?_⟩
  · have hedited := Files.node?_edit_self s.run.host.files loc (· ++ chunk)
    rw [hnode] at hedited
    exact hedited
  · cases stream <;> exact helse

/-- A chunk of the other stream goes elsewhere. -/
theorem Records.capture_other (hrecords : s.Records stream p others content) (chunk : Bytes) :
    (capture stream.other chunk s).2.Records stream p others content := by
  have hleft (handle : Option Handle) (loc : Location)
      (hplace : (s.setFile handle stream.other).place? stream.other = some loc) :
      handle.bind Handle.location = some loc := by
    rwa [place?, file_setFile_self] at hplace
  unfold capture
  cases hhandle : s.file stream.other with
  | none => exact hrecords
  | some handle =>
    dsimp only
    cases hwrite : s.run.host.files.write handle chunk with
    | error r =>
      refine hrecords.of_elsewhere (file_setFile_other ..) (fun loc hloc => ?_) ?_ ?_ ?_
      · cases hleft none loc hloc
      · cases stream <;> rfl
      · cases stream <;> exact .refl _
      · cases stream <;> exact fun _ _ _ => rfl
    | ok written =>
      obtain ⟨further, left⟩ := written
      obtain ⟨hlocation, hsame, hnode⟩ := Files.write_elsewhere hwrite
      have hplace : s.place? stream.other = handle.location := by
        rw [place?, hhandle]
        rfl
      refine hrecords.of_elsewhere (file_setFile_other ..) (fun loc hloc => ?_) ?_ hsame ?_
      · rw [hplace, ← hlocation]
        exact hleft (some further) loc hloc
      · cases stream <;> rfl
      · intro loc _ helse
        rw [hplace] at helse
        exact hnode loc helse

/-- A turn of the pump of a captured stream adds to its file, one of the other pump does not. -/
theorem Records.takeTurn (hrecords : s.Records stream p others content)
    (turn : Stream × Bytes) : (s.takeTurn turn).Records stream p others
      (content ++ if turn.1 = stream then turn.2 else []) := by
  obtain ⟨other, chunk⟩ := turn
  have hcapture : (capture other chunk s).2.Records stream p others
      (content ++ if other = stream then chunk else []) := by
    by_cases hsame : other = stream
    · rw [if_pos hsame, hsame]
      exact hrecords.capture_self chunk
    · have hother : other = stream.other := by
        cases other <;> cases stream <;> first | rfl | exact absurd rfl hsame
      rw [if_neg hsame, List.append_nil, hother]
      exact hrecords.capture_other chunk
  have hecho : ((capture other chunk s).2.echo other chunk).Records stream p others
      (content ++ if other = stream then chunk else []) :=
    ⟨⟨hcapture.separates.apart, hcapture.separates.spool⟩, hcapture.holds⟩
  rw [takeTurn_eq]
  exact hecho.report _

theorem Records.foldl_takeTurn (hrecords : s.Records stream p others content)
    (turns : List (Stream × Bytes)) : (turns.foldl Session.takeTurn s).Records stream p others
      (content ++ Report.bytesOn stream turns) := by
  induction turns generalizing s content with
  | nil =>
    rw [Report.bytesOn, List.flatMap_nil, List.append_nil]
    exact hrecords
  | cons turn later ih =>
    have hlater := ih (hrecords.takeTurn turn)
    rw [List.append_assoc] at hlater
    exact hlater

end Session

namespace Launched

/-- No process that the child leaves or starts touches the capture file of a stream in a course of
    activities: whatever it holds, it goes on to hold after a change. -/
def SparesCapture (l : Launched) (stream : Stream) (p : Path) (others : List Path) :
    List Activity → Session κ → Prop
  | [], _ => True
  | a :: later, s =>
    (∀ c content, a.act = .change c → s.Records stream p others content →
      (s.change c).Records stream p others content) ∧
      l.SparesCapture stream p others later (l.play s a.act)

variable {l : Launched} {s : Session κ} {stream : Stream} {p : Path} {others : List Path}
  {content : Bytes}

/-- An act of the child adds what it prints to the capture file of its stream. -/
theorem records_play (hcopies : l.copies stream = true) {a : Activity}
    (hspares : ∀ c content, a.act = .change c → s.Records stream p others content →
      (s.change c).Records stream p others content)
    (hrecords : s.Records stream p others content) :
    (l.play s a.act).Records stream p others (content ++ a.printed stream) := by
  unfold Activity.printed
  cases hact : a.act with
  | print other bytes =>
    unfold play
    dsimp only
    split
    · rw [Session.copy_eq_foldl_takeTurn]
      have hcopied := hrecords.foldl_takeTurn
        ((Capture.chunksOf bytes).map fun chunk => (other, chunk))
      rwa [Report.bytesOn_map_chunks, Capture.flatten_chunksOf] at hcopied
    · next hinherited =>
      have hne : other ≠ stream := by
        rintro rfl
        exact hinherited hcopies
      rw [if_neg hne, List.append_nil]
      exact ⟨⟨hrecords.separates.apart, hrecords.separates.spool⟩, hrecords.holds⟩
  | change c =>
    rw [List.append_nil]
    exact hspares c content hact hrecords
  | signalAgent | release | ignore | tell =>
    rw [List.append_nil]
    exact hrecords

theorem SparesCapture.records_foldl_play (hcopies : l.copies stream = true)
    {activities : List Activity} (hspares : l.SparesCapture stream p others activities s)
    (hrecords : s.Records stream p others content) :
    (activities.foldl (fun s a => l.play s a.act) s).Records stream p others
      (content ++ activities.flatMap (Activity.printed stream)) := by
  induction activities generalizing s content with
  | nil =>
    rw [List.flatMap_nil, List.append_nil]
    exact hrecords
  | cons a later ih =>
    obtain ⟨hnow, hlater⟩ := hspares
    have hplayed := ih hlater (records_play hcopies hnow hrecords)
    rw [List.append_assoc] at hplayed
    exact hplayed

end Launched

namespace Supervisor

variable {sup : Supervisor κ} {s : Session κ} {stream : Stream} {p : Path} {others : List Path}
  {content : Bytes}

theorem records_tornDown (hcontrol : sup.control.EndsProcessesOnly)
    (hrecords : s.Records stream p others content) :
    (sup.tornDown s).Records stream p others content := by
  have hfiles : (sup.tornDown s).run.host.files = s.run.host.files := hcontrol.files _
  refine hrecords.of_elsewhere ?_ (fun _ hloc => hloc) rfl ?_ fun loc _ _ => by rw [hfiles]
  · cases stream <;> rfl
  · rw [hfiles]
    exact .refl _

/-- The record of the outcome and the end of the agent's own group do not concern a capture file,
    unless it is the exit file too. -/
theorem records_conclude (hlog : sup.log = none) (hcontrol : sup.control.EndsProcessesOnly)
    (hexit : Capture.IsFile sup.exitFile → Path.ofString sup.exitFile ∈ others) (l : Launched)
    (o : Outcome) (hrecords : s.Records stream p others content) :
    (sup.conclude l o s).Records stream p others content := by
  have hrecorded : (sup.recordExit o s).Records stream p others content := by
    by_cases hfile : Capture.IsFile sup.exitFile
    · have hdiffer := s.run.host.files.differAtEnd_overwrite (Path.ofString sup.exitFile)
        (Bytes.ofString o.text)
      rw [← sup.files_recordExit o s hfile] at hdiffer
      refine hrecords.of_differAtEnd (hexit hfile) (fun other => ?_) ?_ hdiffer
      · rw [recordExit, if_pos hfile]
        cases other <;> rfl
      · rw [recordExit, if_pos hfile]
        rfl
    · rw [recordExit, if_neg hfile]
      exact hrecords
  unfold conclude
  split
  · rw [kill_of_log_eq_none sup hlog]
    exact records_tornDown hcontrol (hrecorded.log _)
  · exact hrecorded

/-- Nobody but the agent touches a capture file in a supervised run. -/
def SparesCapture (sup : Supervisor κ) (l : Launched) (sub : Subscription) (s : Session κ)
    (stream : Stream) (p : Path) (others : List Path) : Prop :=
  l.SparesCapture stream p others (sup.beforeDecision l sub) s ∧
    l.SparesCapture stream p others (sup.afterDecision l sub s)
      (sup.conclude l (sup.decision l.behaviour sub).2 (sup.atDecision l sub s))

/-- A child that changes no files touches no capture file. -/
theorem sparesCapture_of_quiet {l : Launched} {sub : Subscription}
    (hquiet : ∀ a ∈ l.behaviour.activities, ∀ c, a.act ≠ .change c) :
    sup.SparesCapture l sub s stream p others := by
  have hall (activities : List Activity) (hsub : activities ⊆ l.behaviour.activities)
      (t : Session κ) : l.SparesCapture stream p others activities t := by
    induction activities generalizing t with
    | nil => exact trivial
    | cons a later ih =>
      rw [List.cons_subset] at hsub
      exact ⟨fun c _ hact => absurd hact (hquiet a hsub.1 c), ih hsub.2 _⟩
  exact ⟨hall _ (List.filter_subset_self _) s, hall _ (sublist_afterDecision ..).subset _⟩

/-- In the end a capture file holds what is printed before the decision and what is waited for after
    it. -/
theorem SparesCapture.records_supervise {l : Launched} {sub : Subscription} (hlog : sup.log = none)
    (hcontrol : sup.control.EndsProcessesOnly)
    (hexit : Capture.IsFile sup.exitFile → Path.ofString sup.exitFile ∈ others)
    (hcopies : l.copies stream = true) (hspares : sup.SparesCapture l sub s stream p others)
    (hrecords : s.Records stream p others content) :
    (sup.supervise l sub s).2.Records stream p others (content ++
      (sup.beforeDecision l sub ++ sup.afterDecision l sub s).flatMap
        (Activity.printed stream)) := by
  have hbefore := hspares.1.records_foldl_play hcopies hrecords
  have hconcluded := records_conclude hlog hcontrol hexit l (sup.decision l.behaviour sub).2
    (hbefore.log (sup.decisionLines l.behaviour sub))
  have hafter := hspares.2.records_foldl_play hcopies hconcluded
  have hclosed (ended : Stream → Bool) {t : Session κ} {held : Bytes}
      (hheld : t.Records stream p others held) : (closed ended t).Records stream p others held :=
    ⟨⟨hheld.separates.apart, hheld.separates.spool⟩, hheld.holds⟩
  rw [supervise_eq_finish, finish_eq, List.flatMap_append, ← List.append_assoc]
  exact (hclosed _ hafter).report (.exit (sup.decision l.behaviour sub).2.text)

end Supervisor

end Overseer
