import Overseer.Proofs.Supervisor.Stages
import Overseer.Proofs.Supervisor.Turns

/-!
What the reporter of a supervised run gets: the chunks of both streams in the order in which they are
copied, and the outcome after all of them.
-/

namespace Overseer

variable {κ : Type}

namespace Session

/-- What a session comes to by requests to its reporter, if the messages are kept. -/
def Reports (requests : List Report.Request) (before after : Session κ) : Prop :=
  ∀ r, before.desk = some ⟨r, .memory⟩ →
    after.desk = some ⟨(Report.Reporter.serveAll Report.keep requests r before.kept).1, .memory⟩ ∧
      after.kept = (Report.Reporter.serveAll Report.keep requests r before.kept).2

theorem reports_nil {before after : Session κ} (hdesk : after.desk = before.desk)
    (hkept : after.kept = before.kept) : Reports [] before after := by
  intro r hr
  exact ⟨hdesk.trans hr, hkept⟩

theorem Reports.trans {earlier later : List Report.Request} {s t u : Session κ}
    (hearlier : Reports earlier s t) (hlater : Reports later t u) :
    Reports (earlier ++ later) s u := by
  intro r hr
  obtain ⟨hdesk, hkept⟩ := hearlier r hr
  obtain ⟨hdeskLater, hkeptLater⟩ := hlater _ hdesk
  rw [hkept] at hdeskLater hkeptLater
  rw [Report.Reporter.serveAll_append]
  exact ⟨hdeskLater, hkeptLater⟩

theorem reports_report (request : Report.Request) (s : Session κ) :
    Reports [request] s (s.report request) := by
  intro r hr
  have hsent : r.serve Report.Queue.memory.send request ⟨s.run.host.files, s.kept⟩ =
      ((r.serve Report.keep request s.kept).1,
        ⟨s.run.host.files, (r.serve Report.keep request s.kept).2⟩) := by
    unfold Report.Reporter.serve
    obtain ⟨message, left⟩ := r.handle request
    cases message <;> rfl
  unfold report
  rw [hr]
  simp only [Report.Desk.handle, hsent]
  cases request <;> exact ⟨rfl, rfl⟩

theorem reports_takeTurn (s : Session κ) (turn : Stream × Bytes) :
    Reports [.append turn.1 turn.2] s (s.takeTurn turn) := by
  obtain ⟨stream, chunk⟩ := turn
  have hcapture : Reports [] s (capture stream chunk s).2 := by
    unfold capture
    cases s.file stream with
    | none => exact reports_nil rfl rfl
    | some handle =>
      dsimp only
      cases s.run.host.files.write handle chunk <;> cases stream <;> exact reports_nil rfl rfl
  have hecho (t : Session κ) : Reports [] t (t.echo stream chunk) := reports_nil rfl rfl
  rw [takeTurn_eq]
  exact (hcapture.trans (hecho _)).trans (reports_report (.append stream chunk) _)

theorem reports_foldl_takeTurn (turns : List (Stream × Bytes)) (s : Session κ) :
    Reports (Report.Request.ofTurns turns) s (turns.foldl takeTurn s) := by
  induction turns generalizing s with
  | nil => exact reports_nil rfl rfl
  | cons turn later ih => exact (reports_takeTurn s turn).trans (ih _)

/-- A session whose reporter has dropped nothing and whose messages tell all output and the
    outcome. -/
structure HasTold (s : Session κ) (output : Stream → Bytes) (outcome : String) : Prop where
  desk : ∃ r, s.desk = some ⟨r, .memory⟩ ∧ r.dropped = 0
  kept : Report.Tells s.kept output outcome

theorem Reports.hasTold {s final : Session κ} {task outcome : String}
    {turns : List (Stream × Bytes)}
    (hreports : Reports (Report.Request.ofTurns turns ++ [.exit outcome]) s final)
    (hdesk : s.desk = some ⟨.start task, .memory⟩) (hkept : s.kept = [])
    (hturns : ∀ turn ∈ turns, turn.2.length ≤ Capture.bufferSize)
    (hlength : (Bytes.ofString task).length +
      (Text.Base64.encode (Bytes.ofString outcome)).length ≤ 240000) :
    final.HasTold (fun stream => Report.bytesOn stream turns) outcome := by
  obtain ⟨hfinal, hmessages⟩ := hreports _ hdesk
  rw [hkept] at hfinal hmessages
  obtain ⟨hdropped, htells⟩ := Report.Reporter.serveAll_ofTurns_exit hturns hlength
  refine ⟨⟨_, hfinal, hdropped⟩, ?_⟩
  rw [hmessages]
  exact htells

end Session

namespace Launched

theorem reports_play (l : Launched) (s : Session κ) (act : Act) :
    Session.Reports (Report.Request.ofTurns (l.turns act)) s (l.play s act) := by
  cases act with
  | print stream bytes =>
    unfold turns play
    dsimp only
    split
    · rw [Session.copy_eq_foldl_takeTurn]
      exact Session.reports_foldl_takeTurn _ s
    · exact Session.reports_nil rfl rfl
  | change | signalAgent | release | ignore | tell => exact Session.reports_nil rfl rfl

theorem reports_foldl_play (l : Launched) (activities : List Activity) (s : Session κ) :
    Session.Reports (Report.Request.ofTurns (activities.flatMap fun a => l.turns a.act)) s
      (activities.foldl (fun s a => l.play s a.act) s) := by
  induction activities generalizing s with
  | nil => exact Session.reports_nil rfl rfl
  | cons a later ih =>
    rw [List.flatMap_cons, Report.Request.ofTurns, List.map_append]
    exact (l.reports_play s a.act).trans (ih _)

end Launched

namespace Supervisor

/-- Everything that is done in a run, until the decision and after, whether it is waited for or
    not. -/
def course (sup : Supervisor κ) (l : Launched) (sub : Subscription) (s : Session κ) :
    List Activity :=
  sup.beforeDecision l sub ++ (sup.remainder l sub s).1

/-- What a stream of the child carries in a run. -/
def output (sup : Supervisor κ) (l : Launched) (sub : Subscription) (s : Session κ)
    (stream : Stream) : Bytes :=
  (sup.course l sub s).flatMap (Activity.printed stream)

/-- All output that is printed after the decision is waited for. -/
def IsDrained (sup : Supervisor κ) (l : Launched) (sub : Subscription) (s : Session κ) : Prop :=
  ∀ a ∈ (sup.remainder l sub s).1, ∀ stream, a.printed stream ≠ [] →
    a.time ≤ (sup.remainder l sub s).2 a.act

/-- The chunks that are copied in a run, in order. -/
def turns (sup : Supervisor κ) (l : Launched) (sub : Subscription) (s : Session κ) :
    List (Stream × Bytes) :=
  (sup.beforeDecision l sub ++ sup.afterDecision l sub s).flatMap fun a => l.turns a.act

/-- A supervised run hands in the chunks that are copied, and the outcome behind them. -/
theorem reports_supervise (sup : Supervisor κ) (l : Launched) (sub : Subscription)
    (s : Session κ) :
    Session.Reports (Report.Request.ofTurns (sup.turns l sub s) ++
      [.exit (sup.decision l.behaviour sub).2.text]) s (sup.supervise l sub s).2 := by
  have hbefore := l.reports_foldl_play (sup.beforeDecision l sub) s
  have hdecided : Session.Reports (Report.Request.ofTurns
      ((sup.beforeDecision l sub).flatMap fun a => l.turns a.act)) s (sup.atDecision l sub s) :=
    hbefore
  obtain ⟨hdesk, hkept, -⟩ := sup.conclude_keeps l (sup.decision l.behaviour sub).2
    (sup.atDecision l sub s)
  have hconcluded := hdecided.trans (Session.reports_nil hdesk hkept)
  have hafter := l.reports_foldl_play (sup.afterDecision l sub s)
    (sup.conclude l (sup.decision l.behaviour sub).2 (sup.atDecision l sub s))
  have hclosed (t : Session κ) : Session.Reports [] t (closed (sup.ended l
      (sup.decision l.behaviour sub).1 (sup.deathsByDecision l sub s)) t) :=
    Session.reports_nil rfl rfl
  have hexit := Session.reports_report (κ := κ) (.exit (sup.decision l.behaviour sub).2.text)
  have hall := ((hconcluded.trans hafter).trans (hclosed _)).trans (hexit _)
  rw [List.append_nil, List.append_nil] at hall
  rw [supervise_eq_finish, finish_eq, turns, List.flatMap_append, Report.Request.ofTurns,
    List.map_append]
  exact hall

theorem IsDrained.bytesOn_turns {sup : Supervisor κ} {l : Launched} {sub : Subscription}
    {s : Session κ} (hdrained : sup.IsDrained l sub s) {stream : Stream}
    (hcopies : l.copies stream = true) :
    Report.bytesOn stream (sup.turns l sub s) = sup.output l sub s stream := by
  have hkept : (sup.afterDecision l sub s).flatMap (Activity.printed stream) =
      (sup.remainder l sub s).1.flatMap (Activity.printed stream) := by
    unfold IsDrained at hdrained
    rw [afterDecision_eq]
    generalize (sup.remainder l sub s).1 = activities at hdrained
    induction activities with
    | nil => rfl
    | cons a later ih =>
      rw [List.forall_mem_cons] at hdrained
      rw [List.filter_cons, List.flatMap_cons, ← ih hdrained.2]
      split
      · rw [List.flatMap_cons]
      · next hlate =>
        have hsilent : a.printed stream = [] := by
          by_contra hprinted
          exact hlate (decide_eq_true (hdrained.1 stream hprinted))
        rw [hsilent, List.nil_append]
  rw [turns, Launched.bytesOn_flatMap_turns hcopies, List.flatMap_append, hkept, output, course,
    List.flatMap_append]

theorem length_le_of_mem_turns {sup : Supervisor κ} {l : Launched} {sub : Subscription}
    {s : Session κ} {turn : Stream × Bytes} (hturn : turn ∈ sup.turns l sub s) :
    turn.2.length ≤ Capture.bufferSize := by
  obtain ⟨a, -, hact⟩ := List.mem_flatMap.1 hturn
  exact Launched.length_le_of_mem_turns hact

/-- Nothing that a child prints is missing from the reports. However the pumps cut what they read,
    and in whichever order they take their turns, the messages tell both streams in full and the
    outcome at the end, and none is dropped; and so it is in every supervised run whose output is
    drained. A task id and an outcome that leave no room for output are the exception. -/
theorem reports_tell_output {task : String} {o : Outcome}
    (hlength : (Bytes.ofString task).length +
      (Text.Base64.encode (Bytes.ofString o.text)).length ≤ 240000) :
    (∀ (reads : Stream → List Capture.Read) (turns : List (Stream × Bytes)) (s : Session κ),
      Capture.Interleaves reads turns → s.desk = some ⟨.start task, .memory⟩ → s.kept = [] →
      (reportExit o ((turns.foldl Session.takeTurn s).note .drained)).HasTold
        (fun stream => (Capture.delivered (reads stream)).flatten) o.text) ∧
      ∀ (sup : Supervisor κ) (l : Launched) (sub : Subscription) (s : Session κ),
        (∀ stream, l.copies stream = true) → sup.IsDrained l sub s →
        s.desk = some ⟨.start task, .memory⟩ → s.kept = [] →
        (sup.decision l.behaviour sub).2 = o →
        (sup.supervise l sub s).2.HasTold (sup.output l sub s) o.text := by
  constructor
  · intro reads turns s hturns hdesk hkept
    have hcopied := Session.reports_foldl_takeTurn turns s
    have hnote : Session.Reports [] (turns.foldl Session.takeTurn s)
        ((turns.foldl Session.takeTurn s).note .drained) := Session.reports_nil rfl rfl
    have hexit := Session.reports_report (.exit o.text)
      ((turns.foldl Session.takeTurn s).note .drained)
    have hall := (hcopied.trans hnote).trans hexit
    rw [List.append_nil] at hall
    have htold := hall.hasTold hdesk hkept (fun turn hturn => hturns.length_le hturn) hlength
    simp only [hturns.bytesOn_eq] at htold
    exact htold
  · rintro sup l sub s hcopies hdrained hdesk hkept rfl
    have htold := (sup.reports_supervise l sub s).hasTold hdesk hkept
      (fun turn hturn => length_le_of_mem_turns hturn) hlength
    have houtput : (fun stream => Report.bytesOn stream (sup.turns l sub s)) =
        sup.output l sub s := by
      funext stream
      exact hdrained.bytesOn_turns (hcopies stream)
    rwa [houtput] at htold

/-- A child that fails, whose own child prints on after the decision. -/
theorem reports_tell_output_after_failure :
    let o : Outcome := .failed "exit status 4"
    let reads : Stream → List Capture.Read := fun
      | .out => [.bytes [0x61, 0x62], .bytes []]
      | .err => [.bytes [0x63], .broken, .bytes [0x64]]
    let turns : List (Stream × Bytes) := [(.err, [0x63]), (.out, [0x61, 0x62])]
    let sup : Supervisor Ledger := ⟨Ledger.control, 1000, "", none, 2000⟩
    let l : Launched := ⟨⟨7, [⟨3, [⟨7, 0⟩], .print .out [0x61, 0x62]⟩,
      ⟨8, [⟨8, 2⟩, ⟨7, 0⟩], .print .err [0x63]⟩, ⟨9, [⟨8, 2⟩, ⟨7, 0⟩], .release .err⟩],
      some (5, .ofExit 4)⟩, true, true⟩
    let sub : Subscription := .manual [] false
    let s : Session Ledger := .start ⟨⟨[], [], []⟩, .empty, false, Ledger.start [] []⟩
      (some ⟨.start "t", .memory⟩)
    (reportExit o ((turns.foldl Session.takeTurn s).note .drained)).HasTold
        (fun stream => (Capture.delivered (reads stream)).flatten) o.text ∧
      (sup.supervise l sub s).2.HasTold (sup.output l sub s) o.text ∧
      sup.output l sub s .out = [0x61, 0x62] ∧ sup.output l sub s .err = [0x63] := by
  intro o reads turns sup l sub s
  have hlength : (Bytes.ofString "t").length +
      (Text.Base64.encode (Bytes.ofString o.text)).length ≤ 240000 := by
    rw [Text.Base64.length_encode]
    decide
  have hturns : Capture.Interleaves reads turns := by
    intro stream
    have hab : ∀ chunk ∈ ([[0x61, 0x62]] : List Bytes),
        chunk ≠ [] ∧ chunk.length ≤ Capture.bufferSize := by decide
    have hc : ∀ chunk ∈ ([[0x63]] : List Bytes),
        chunk ≠ [] ∧ chunk.length ≤ Capture.bufferSize := by decide
    cases stream with
    | out =>
      have hout := Capture.delivered_map_bytes_append hab [.bytes []]
      exact hout.symm
    | err =>
      have herr := Capture.delivered_map_bytes_append hc [.broken, .bytes [0x64]]
      exact herr.symm
  have harrivals : inOrder (sup.arrivals l.behaviour sub) =
      [⟨6, .completed o⟩, ⟨1000, .deadline⟩] :=
    List.mergeSort_of_pairwise (by decide)
  have hdecision : sup.decision l.behaviour sub = (6, o) := by
    rw [decision, firstDecision?_eq, harrivals]
    rfl
  have hremainder : sup.remainder l sub s = sup.aftermath l 6 [] := by
    rw [remainder, deathsByDecision, hdecision]
    rfl
  have hafter : (sup.aftermath l 6 []).1 = [⟨8, [⟨8, 2⟩, ⟨7, 0⟩], .print .err [0x63]⟩,
      ⟨9, [⟨8, 2⟩, ⟨7, 0⟩], .release .err⟩] := rfl
  have hlimit : (sup.aftermath l 6 []).2 (.print .err [0x63]) = 9 := rfl
  have hdrained : sup.IsDrained l sub s := by
    rw [IsDrained, hremainder]
    intro a ha stream hprinted
    rw [hafter] at ha
    rcases List.mem_cons.1 ha with rfl | hrelease
    · rw [hlimit]
      decide
    · rw [List.mem_singleton] at hrelease
      subst hrelease
      exact absurd rfl hprinted
  have hcourse : sup.course l sub s = l.behaviour.activities := by
    rw [course, beforeDecision, hdecision, hremainder, hafter]
    rfl
  obtain ⟨hpumps, hrun⟩ := reports_tell_output hlength
  refine ⟨hpumps reads turns s hturns rfl rfl, ?_, ?_, ?_⟩
  · exact hrun sup l sub s (fun stream => by cases stream <;> rfl) hdrained rfl rfl
      (congrArg Prod.snd hdecision)
  · rw [output, hcourse]
    rfl
  · rw [output, hcourse]
    rfl

end Supervisor

end Overseer
