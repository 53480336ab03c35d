import Overseer.Proofs.Files.Write
import Overseer.Proofs.Outcome
import Overseer.Proofs.Supervisor.Stages
import Overseer.Proofs.Text.Encoding

/-!
The record of an outcome: which texts a run writes to its exit file, and what a poller makes of
them.
-/

namespace Overseer

variable {κ : Type}

/-- The exit file and the text of a record. -/
def Effect.record? : Effect → Option (String × String)
  | .exitRecorded file text => some (file, text)
  | .scriptAwaited _ | .logRead _ | .called _ | .logErased _ | .drained | .exitReported _ => none

theorem MayDecide.exists_mem {wakes : List (List Event)} {o : Outcome}
    (hmay : MayDecide wakes (some o)) :
    ∃ ready ∈ wakes, ∃ e ∈ ready, e.outcome? = some o := by
  induction wakes with
  | nil => cases hmay
  | cons ready later ih =>
    rw [MayDecide] at hmay
    split at hmay
    · obtain ⟨group, hgroup, hevent⟩ := ih hmay
      exact ⟨group, List.mem_cons_of_mem _ hgroup, hevent⟩
    · obtain ⟨-, src, hsrc⟩ := hmay
      rw [decide?_eq_findSome?] at hsrc
      obtain ⟨e, he, houtcome⟩ := List.exists_of_findSome?_eq_some hsrc
      exact ⟨ready, List.mem_cons_self, e, (List.mem_filter.1 he).1, houtcome⟩

/-- However a loop takes its turns, its decision is told by its text, if waiting for the child has
    no reserved way to fail. -/
theorem Wait.ofText_text_of_verdict {first : Nat → Nat} {wakes : List (List Event)} {o : Outcome}
    (hplain : ∀ ready ∈ wakes, ∀ e ∈ ready, e.IsPlain)
    (hverdict : (run first wakes).verdict = .decided o) : Outcome.ofText o.text = o := by
  obtain ⟨d, hrun, hmay⟩ := isWaiting_start.exists_mayDecide first wakes
  have hof : Verdict.of d = .decided o := hrun.symm.trans hverdict
  cases d with
  | none => cases hof
  | some decided =>
    cases hof
    obtain ⟨ready, hready, e, he, houtcome⟩ := hmay.exists_mem
    exact (hplain ready hready e he).ofText_text houtcome

namespace Supervisor

/-- What decides a run that nothing has decided before. -/
inductive Decides (sup : Supervisor κ) (b : Behaviour) (sub : Subscription) : Nat → Outcome → Prop
  /-- The child has ended by itself. -/
  | ended {time : Nat} {status : WaitStatus} (hending : b.ending = some (time, status)) :
    sup.Decides b sub (time + latency) (.ofStatus status)
  | timedOut : sup.Decides b sub sup.timeLimit .timedOut
  /-- A signal that means something has waited from the start. -/
  | waiting {s : Signal} (hwaits : s ∈ sub.waiting) (hmeans : ¬s.IsIgnorable) :
    sup.Decides b sub 0 .signalReceived
  /-- A signal that means something was sent to the agent. -/
  | sent {time : Nat} {s : Signal} (hlistens : sub.listens = true) (hsent : (time, s) ∈ b.signals)
    (hsubscribed : s ∈ Signal.subscribed) (hmeans : ¬s.IsIgnorable) :
    sup.Decides b sub (time + latency) .signalReceived

variable {sup : Supervisor κ} {b : Behaviour} {sub : Subscription} {time : Nat} {o : Outcome}

theorem Decides.exists_arrival (hdecides : sup.Decides b sub time o) :
    ∃ a ∈ sup.arrivals b sub, a.time = time ∧ a.event.outcome? = some o := by
  unfold arrivals Subscription.arrivals
  cases hdecides with
  | @ended time status hending =>
    exact ⟨⟨time + latency, .completed (.ofWait (.ok status))⟩, by simp [hending], rfl, rfl⟩
  | timedOut => exact ⟨⟨sup.timeLimit, .deadline⟩, by simp, rfl, rfl⟩
  | @waiting s hwaits hmeans => exact ⟨⟨0, .signal s⟩, by simp [hwaits], rfl, if_neg hmeans⟩
  | @sent time s hlistens hsent hsubscribed hmeans =>
    refine ⟨⟨time + latency, .signal s⟩, ?_, rfl, if_neg hmeans⟩
    rw [if_pos hlistens]
    refine List.mem_append_left _ (List.mem_append_left _ (List.mem_append_right _ ?_))
    refine List.mem_map.2 ⟨(time + latency, s), List.mem_filter.2 ⟨?_, decide_eq_true hsubscribed⟩,
      rfl⟩
    exact List.mem_map.2 ⟨(time, s), hsent, rfl⟩

theorem decides_of_mem_arrivals {a : Arrival} (ha : a ∈ sup.arrivals b sub)
    (ho : a.event.outcome? = some o) : sup.Decides b sub a.time o := by
  unfold arrivals Subscription.arrivals at ha
  simp only [List.mem_append] at ha
  rcases ha with (((hwaiting | hclosed) | hsent) | hending) | hdeadline
  · obtain ⟨s, hwaits, rfl⟩ := List.mem_map.1 hwaiting
    rw [Event.outcome?, Option.ite_none_left_eq_some] at ho
    obtain ⟨hmeans, ho⟩ := ho
    cases ho
    exact .waiting hwaits hmeans
  · split at hclosed
    · rw [List.mem_singleton] at hclosed
      subst hclosed
      cases ho
    · cases hclosed
  · split at hsent
    · next hlistens =>
      obtain ⟨⟨time, s⟩, hfiltered, rfl⟩ := List.mem_map.1 hsent
      obtain ⟨harrived, hsubscribed⟩ := List.mem_filter.1 hfiltered
      obtain ⟨⟨start, s⟩, hsignals, hsame⟩ := List.mem_map.1 harrived
      cases hsame
      rw [Event.outcome?, Option.ite_none_left_eq_some] at ho
      obtain ⟨hmeans, ho⟩ := ho
      cases ho
      exact .sent hlistens hsignals (of_decide_eq_true hsubscribed) hmeans
    · cases hsent
  · obtain ⟨⟨time, status⟩, hended, rfl⟩ := List.mem_map.1 hending
    cases ho
    exact .ended (Option.mem_toList.1 hended)
  · rw [List.mem_singleton] at hdeadline
    subst hdeadline
    cases ho
    exact .timedOut

/-- A run is decided by what decides it, and by nothing that comes later than something else. -/
theorem decision_isFirst (sup : Supervisor κ) (b : Behaviour) (sub : Subscription) :
    sup.Decides b sub (sup.decision b sub).1 (sup.decision b sub).2 ∧
      ∀ time o, sup.Decides b sub time o → (sup.decision b sub).1 ≤ time := by
  unfold decision
  rw [firstDecision?_eq]
  cases hfirst : (inOrder (sup.arrivals b sub)).findSome? _ with
  | none =>
    have hdeadline : sup.Decides b sub sup.timeLimit .timedOut := .timedOut
    obtain ⟨a, ha, -, ho⟩ := hdeadline.exists_arrival
    have hnone := List.findSome?_eq_none_iff.1 hfirst a (List.mem_mergeSort.2 ha)
    rw [ho] at hnone
    cases hnone
  | some decided =>
    obtain ⟨earlier, a, later, harrivals, hdecided, hearlier⟩ :=
      List.findSome?_eq_some_iff.1 hfirst
    obtain ⟨o, ho, rfl⟩ := Option.map_eq_some_iff.1 hdecided
    have hmem (other : Arrival) :
        other ∈ sup.arrivals b sub ↔ other ∈ earlier ++ a :: later := by
      rw [← harrivals, inOrder, List.mem_mergeSort]
    refine ⟨decides_of_mem_arrivals ((hmem a).2 (by simp)) ho, fun time p hdecides => ?_⟩
    obtain ⟨other, hother, rfl, hp⟩ := hdecides.exists_arrival
    have hsorted := pairwise_inOrder (sup.arrivals b sub)
    rw [harrivals] at hsorted
    rcases List.mem_append.1 ((hmem other).1 hother) with hbefore | hafter
    · have hnone := hearlier other hbefore
      rw [hp] at hnone
      cases hnone
    · rcases List.mem_cons.1 hafter with rfl | hlater
      · exact Nat.le_refl _
      · exact (List.pairwise_cons.1 (List.pairwise_append.1 hsorted).2.1).1 other hlater

/-- A run is decided by the status of its child, or it is cut short. -/
theorem decision_cases (sup : Supervisor κ) (b : Behaviour) (sub : Subscription) :
    (∃ time status, b.ending = some (time, status) ∧ (sup.decision b sub).2 = .ofStatus status) ∨
      (sup.decision b sub).2.RequiresKill := by
  obtain ⟨hdecides, -⟩ := sup.decision_isFirst b sub
  generalize sup.decision b sub = decision at hdecides
  obtain ⟨time, o⟩ := decision
  cases hdecides with
  | ended hending => exact .inl ⟨_, _, hending, rfl⟩
  | timedOut => exact .inr (.inl rfl)
  | waiting | sent => exact .inr (.inr rfl)

/-- An outcome that nothing else came before; and it reads like a success only if the child itself
    ended with the zero word. -/
structure ComesFirst (sup : Supervisor κ) (b : Behaviour) (sub : Subscription) (o : Outcome) :
    Prop where
  decides : ∃ time, sup.Decides b sub time o ∧ ∀ other p, sup.Decides b sub other p → time ≤ other
  success : o.text = Outcome.successText →
    ∃ time status, b.ending = some (time, status) ∧ status.raw = 0

theorem comesFirst_decision (sup : Supervisor κ) (b : Behaviour) (sub : Subscription) :
    sup.ComesFirst b sub (sup.decision b sub).2 where
  decides := ⟨_, sup.decision_isFirst b sub⟩
  success htext := by
    rcases sup.decision_cases b sub with ⟨time, status, hending, hstatus⟩ | htimeout | hsignal
    · rw [hstatus, Outcome.text_ofStatus_eq_successText_iff] at htext
      exact ⟨time, status, hending, htext⟩
    · rw [htimeout] at htext
      exact absurd htext (by decide)
    · rw [hsignal] at htext
      exact absurd htext (by decide)

theorem ofText_text_decision (sup : Supervisor κ) (b : Behaviour) (sub : Subscription) :
    Outcome.ofText (sup.decision b sub).2.text = (sup.decision b sub).2 := by
  rcases sup.decision_cases b sub with ⟨-, status, -, hstatus⟩ | htimeout | hsignal
  · rw [hstatus]
    exact Outcome.ofText_text_ofStatus status
  · rw [htimeout]
    rfl
  · rw [hsignal]
    rfl

theorem two_le_length_text_decision {sup : Supervisor κ} {b : Behaviour} {sub : Subscription}
    (hfailed : (sup.decision b sub).2 ≠ .success) :
    2 ≤ (Bytes.ofString (sup.decision b sub).2.text).length := by
  rcases sup.decision_cases b sub with ⟨-, status, -, hstatus⟩ | htimeout | hsignal
  · rw [hstatus] at hfailed ⊢
    exact Outcome.two_le_length_text_ofStatus hfailed
  · rw [htimeout]
    decide
  · rw [hsignal]
    decide

theorem trace_finish (sup : Supervisor κ) (l : Launched) (time : Nat) (o : Outcome)
    (s : Session κ) :
    (sup.finish l time o s).run.trace = s.run.trace ++ (sup.exitEffects o ++
      (sup.teardownEffects o (sup.recordExit o s).run.host ++ ([.drained] ++
        if s.desk.isSome then [.exitReported o.text] else []))) := by
  obtain ⟨hdesk, -⟩ := sup.conclude_keeps l o s
  have halike := Session.alike_foldl_play l (sup.drained l time (deaths l time o
    (sup.conclude l o s))) (sup.conclude l o s)
  have hreporter := halike.desk
  rw [hdesk] at hreporter
  rw [finish_eq, reportExit, Session.trace_report_exit, trace_closed, halike.trace, trace_conclude,
    ← hreporter]
  simp only [List.append_assoc]
  rfl

theorem filterMap_record?_recoveryEffects (sup : Supervisor κ) (host : Host κ) :
    (sup.recoveryEffects host).filterMap Effect.record? = [] := by
  unfold recoveryEffects
  cases sup.log with
  | none => rfl
  | some log =>
    have hcalls : ((log.exchanges sup.control host).map Exchange.effect).filterMap
        Effect.record? = [] := by
      rw [List.filterMap_map, List.filterMap_eq_nil_iff]
      intro x hx
      rfl
    dsimp only
    rw [List.cons_append, List.filterMap_cons, List.filterMap_append, hcalls]
    rfl

/-- An outcome is recorded once from its decision on, if there is an exit file. -/
theorem exists_trace_finish (sup : Supervisor κ) (l : Launched) (time : Nat) (o : Outcome)
    (s : Session κ) :
    ∃ effects, (sup.finish l time o s).run.trace = s.run.trace ++ effects ∧
      effects.filterMap Effect.record? =
        if Capture.IsFile sup.exitFile then [(sup.exitFile, o.text)] else [] := by
  refine ⟨_, sup.trace_finish l time o s, ?_⟩
  have hexit : (sup.exitEffects o).filterMap Effect.record? =
      if Capture.IsFile sup.exitFile then [(sup.exitFile, o.text)] else [] := by
    unfold exitEffects
    split <;> rfl
  have hteardown (host : Host κ) : (sup.teardownEffects o host).filterMap Effect.record? = [] := by
    unfold teardownEffects
    split
    · rw [List.filterMap_append, filterMap_record?_recoveryEffects]
      rfl
    · rfl
  have hreport : (if s.desk.isSome then [Effect.exitReported o.text] else []).filterMap
      Effect.record? = [] := by
    split <;> rfl
  rw [List.filterMap_append, List.filterMap_append, List.filterMap_append, hexit, hteardown,
    hreport]
  exact List.append_nil _

/-- The outcome that a poller makes of an exit file, once it finds text in it. -/
def polled? (exitFile : String) (files : Files) : Option Outcome :=
  match files.read (Path.ofString exitFile) with
  | .ok content => (Bytes.toString? content).map Outcome.ofText
  | .error _ => none

/-- A run that records an outcome in a way that tells it: one record is made, of a text that stands
    for the outcome and no other, and a poller that finds a file there finds that text. -/
structure TellsOutcome (sup : Supervisor κ) (o : Outcome) (decided final : Session κ) : Prop where
  ofText_text : Outcome.ofText o.text = o
  recorded : ∃ effects, final.run.trace = decided.run.trace ++ effects ∧
    effects.filterMap Effect.record? =
      if Capture.IsFile sup.exitFile then [(sup.exitFile, o.text)] else []
  accepted : Capture.IsFile sup.exitFile →
    (writeExit sup.exitFile o.text decided.run.host.files).1 = .ok () →
    ∃ node, (sup.recordExit o decided).run.host.files.find? (Path.ofString sup.exitFile) =
      some node ∧ node ≠ .directory
  polled : Capture.IsFile sup.exitFile → ∀ content executable,
    (sup.recordExit o decided).run.host.files.find? (Path.ofString sup.exitFile) =
      some (.file content executable) →
    polled? sup.exitFile (sup.recordExit o decided).run.host.files = some o

theorem files_recordExit (sup : Supervisor κ) (o : Outcome) (s : Session κ)
    (hfile : Capture.IsFile sup.exitFile) :
    (sup.recordExit o s).run.host.files =
      (s.run.host.files.overwrite (Path.ofString sup.exitFile) (Bytes.ofString o.text)).2 := by
  have hwrite : (writeExit sup.exitFile o.text s.run.host.files).2 =
      (s.run.host.files.overwrite (Path.ofString sup.exitFile) (Bytes.ofString o.text)).2 := by
    unfold writeExit
    rw [if_pos hfile]
    split <;> simp [*]
  rw [recordExit, if_pos hfile, ← hwrite]
  rfl

theorem tellsOutcome_finish {o : Outcome} (htext : Outcome.ofText o.text = o)
    (sup : Supervisor κ) (l : Launched) (time : Nat) (s : Session κ) :
    sup.TellsOutcome o s (sup.finish l time o s) where
  ofText_text := htext
  recorded := sup.exists_trace_finish l time o s
  accepted hfile hok := by
    rw [sup.files_recordExit o s hfile]
    refine Files.exists_find?_overwrite ?_
    unfold writeExit at hok
    rw [if_pos hfile] at hok
    split at hok
    · next hoverwrite => rw [hoverwrite]
    · cases hok
  polled hfile content executable hfind := by
    rw [sup.files_recordExit o s hfile] at hfind ⊢
    have hcontent := Files.find?_overwrite_self hfind rfl
    have hread := Files.read_eq_ok_iff.2 ⟨_, hfind, Node.noConfusion, hcontent⟩
    rw [polled?, hread]
    dsimp only
    rw [Bytes.toString?_ofString, Option.map_some, htext]

end Supervisor

end Overseer
