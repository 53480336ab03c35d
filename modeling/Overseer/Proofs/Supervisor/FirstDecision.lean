import Overseer.Proofs.Supervisor.Wait

/-!
Which verdicts a wait may come to when several events are ready at the same time: those of the
orders in which each group of events may be taken, and no others.
-/

namespace Overseer

/-- Groups of events in an order in which they may be taken: one group after the other, and within a
    group the events of each source as they came. -/
inductive Arranged : List (List Event) → List Event → Prop
  | nil : Arranged [] []
  | cons {ready order : List Event} {later : List (List Event)} {rest : List Event}
      (hready : ∀ src, (order.filter fun e => e.source = src) =
        ready.filter fun e => e.source = src)
      (hlater : Arranged later rest) : Arranged (ready :: later) (order ++ rest)

/-- Groups without the events that decide nothing. A group of which nothing is left is left out. -/
def decisive (wakes : List (List Event)) : List (List Event) :=
  (wakes.map fun ready => ready.filter fun e => e.outcome?.isSome).filter fun ready => ready ≠ []

/-- The verdict of a wait after a decision, or without one. -/
def Verdict.of : Option Outcome → Verdict
  | some o => .decided o
  | none => .waiting

/-- What may be decided: what one source decides in the first group with a decisive event. -/
def MayDecide : List (List Event) → Option Outcome → Prop
  | [], d => d = none
  | ready :: later, d =>
    if decide? ready = none then MayDecide later d
    else d.isSome ∧ ∃ src, decide? (ready.filter fun e => e.source = src) = d

theorem Arranged.flatten (wakes : List (List Event)) : Arranged wakes wakes.flatten := by
  induction wakes with
  | nil => exact .nil
  | cons ready later ih => exact .cons (fun _ => rfl) ih

theorem Arranged.mayDecide {wakes : List (List Event)} {events : List Event}
    (harranged : Arranged wakes events) : MayDecide wakes (decide? events) := by
  induction harranged with
  | nil => rfl
  | @cons ready order later rest hready hlater ih =>
    have hnone : decide? order = none ↔ decide? ready = none := by
      rw [decide?_eq_none_iff_forall_source order, decide?_eq_none_iff_forall_source ready]
      simp only [hready]
    rw [MayDecide, decide?_append]
    split
    · next hsilent => rwa [hnone.2 hsilent, Option.none_or]
    · next hdecides =>
      cases horder : decide? order with
      | none => exact absurd (hnone.1 horder) hdecides
      | some o =>
        obtain ⟨src, hsrc⟩ := exists_decide?_filter_eq_some horder
        rw [hready src] at hsrc
        exact ⟨rfl, src, hsrc⟩

/-- Taking the events of one source before all others of a group keeps the order of every source. -/
theorem filter_source_append (ready : List Event) (src other : Source) :
    (((ready.filter fun e => e.source = src) ++ ready.filter fun e => e.source ≠ src).filter
      fun e => e.source = other) = ready.filter fun e => e.source = other := by
  rw [List.filter_append, List.filter_filter, List.filter_filter]
  by_cases hsame : other = src
  · subst hsame
    have hothers : (ready.filter fun e =>
        decide (e.source = other) && decide (e.source ≠ other)) = [] := by
      simp
    rw [hothers, List.append_nil]
    simp
  · have hown : (ready.filter fun e =>
        decide (e.source = other) && decide (e.source = src)) = [] := by
      rw [List.filter_eq_nil_iff]
      intro e _ hboth
      simp only [Bool.and_eq_true, decide_eq_true_eq] at hboth
      exact hsame (hboth.1.symm.trans hboth.2)
    rw [hown, List.nil_append]
    refine List.filter_congr fun e _ => ?_
    by_cases hsource : e.source = other
    · simp [hsource, hsame]
    · simp [hsource]

/-- To let a source decide, its events are taken before the others of the group. -/
theorem MayDecide.exists_arranged {wakes : List (List Event)} {d : Option Outcome}
    (hmay : MayDecide wakes d) : ∃ events, Arranged wakes events ∧ decide? events = d := by
  induction wakes with
  | nil => exact ⟨[], .nil, hmay.symm⟩
  | cons ready later ih =>
    rw [MayDecide] at hmay
    split at hmay
    · next hsilent =>
      obtain ⟨rest, hrest, hdecide⟩ := ih hmay
      refine ⟨ready ++ rest, .cons (fun _ => rfl) hrest, ?_⟩
      rw [decide?_append, hsilent, Option.none_or, hdecide]
    · obtain ⟨hsome, src, hsrc⟩ := hmay
      refine ⟨((ready.filter fun e => e.source = src) ++ ready.filter fun e => e.source ≠ src) ++
        later.flatten, .cons (fun other => ?_) (.flatten later), ?_⟩
      · exact filter_source_append ready src other
      · rw [decide?_append, decide?_append, hsrc]
        cases d with
        | none => cases hsome
        | some o => rfl

theorem decisive_cons (ready : List Event) (later : List (List Event)) :
    decisive (ready :: later) = if decide? ready = none then decisive later
      else (ready.filter fun e => e.outcome?.isSome) :: decisive later := by
  have hempty : (ready.filter fun e => e.outcome?.isSome) = [] ↔ decide? ready = none := by
    rw [List.filter_eq_nil_iff, decide?_eq_none_iff]
    simp
  unfold decisive
  rw [List.map_cons, List.filter_cons]
  by_cases hsilent : decide? ready = none
  · simp [hempty.2 hsilent, hsilent]
  · simp [hempty, hsilent]

theorem mayDecide_decisive_iff (wakes : List (List Event)) {d : Option Outcome} :
    MayDecide (decisive wakes) d ↔ MayDecide wakes d := by
  induction wakes with
  | nil => rfl
  | cons ready later ih =>
    rw [decisive_cons, MayDecide]
    split
    · exact ih
    · next hdecides =>
      have hsource (src : Source) : decide? ((ready.filter fun e => e.outcome?.isSome).filter
          fun e => e.source = src) = decide? (ready.filter fun e => e.source = src) := by
        have hswap := decide?_filter_decisive (ready.filter fun e => e.source = src)
        rw [List.filter_filter] at hswap ⊢
        simpa only [Bool.and_comm] using hswap
      rw [MayDecide, decide?_filter_decisive, if_neg hdecides]
      simp only [hsource]

namespace Wait

/-- However the loop takes its turns, it decides what may be decided, or goes on waiting. -/
theorem IsWaiting.exists_mayDecide {w : Wait} (hw : w.IsWaiting) (first : Nat → Nat)
    (wakes : List (List Event)) :
    ∃ d, (wakes.foldl (wake first) w).verdict = .of d ∧ MayDecide wakes d := by
  induction wakes generalizing w with
  | nil => exact ⟨none, hw.verdict, rfl⟩
  | cons ready later ih =>
    rw [List.foldl_cons]
    rcases hw.wake_cases first ready with ⟨src, o, hsrc, hverdict⟩ | ⟨hsilent, hwaiting⟩
    · refine ⟨some o, ?_, ?_⟩
      · rw [foldl_wake_of_decided hverdict, hverdict]
        rfl
      · have hdecides : decide? ready ≠ none := by
          intro hsilent
          rw [(decide?_eq_none_iff_forall_source ready).1 hsilent src] at hsrc
          cases hsrc
        rw [MayDecide, if_neg hdecides]
        exact ⟨rfl, src, hsrc⟩
    · obtain ⟨d, hverdict, hmay⟩ := ih hwaiting
      exact ⟨d, hverdict, by rwa [MayDecide, if_pos hsilent]⟩

/-- Whatever may be decided is decided if the turns are taken accordingly. -/
theorem exists_first_of_mayDecide {wakes : List (List Event)} {d : Option Outcome}
    (hmay : MayDecide wakes d) :
    ∃ first, ∀ w : Wait, w.IsWaiting → (wakes.foldl (wake first) w).verdict = .of d := by
  induction wakes with
  | nil =>
    refine ⟨fun _ => 0, fun w hw => ?_⟩
    rw [show d = none from hmay]
    exact hw.verdict
  | cons ready later ih =>
    rw [MayDecide] at hmay
    split at hmay
    · next hsilent =>
      obtain ⟨first, hfirst⟩ := ih hmay
      refine ⟨first, fun w hw => hfirst _ ?_⟩
      rcases hw.wake_cases first ready with ⟨src, o, hsrc, -⟩ | ⟨-, hwaiting⟩
      · rw [(decide?_eq_none_iff_forall_source ready).1 hsilent src] at hsrc
        cases hsrc
      · exact hwaiting
    · -- the groups before decide nothing in any turn, so every turn may start with this source
      obtain ⟨hsome, src, hsrc⟩ := hmay
      obtain ⟨o, rfl⟩ := Option.isSome_iff_exists.1 hsome
      obtain ⟨k, others, hk⟩ := Source.exists_inTurn_eq_cons src
      refine ⟨fun _ => k, fun w hw => ?_⟩
      have hverdict := hw.verdict_wake_of_first hk hsrc
      rw [List.foldl_cons, foldl_wake_of_decided hverdict, hverdict]
      rfl

theorem exists_verdict_run_iff {wakes : List (List Event)} {v : Verdict} :
    (∃ first, (run first wakes).verdict = v) ↔ ∃ d, MayDecide wakes d ∧ v = .of d := by
  constructor
  · rintro ⟨first, rfl⟩
    obtain ⟨d, hverdict, hmay⟩ := isWaiting_start.exists_mayDecide first wakes
    exact ⟨d, hmay, hverdict⟩
  · rintro ⟨d, hmay, rfl⟩
    obtain ⟨first, hfirst⟩ := exists_first_of_mayDecide hmay
    exact ⟨first, hfirst start isWaiting_start⟩

/-- Events that come one by one leave no choice. -/
theorem IsWaiting.verdict_foldl_singletons {w : Wait} (hw : w.IsWaiting) (first : Nat → Nat)
    (events : List Event) :
    ((events.map fun e => [e]).foldl (wake first) w).verdict = .of (decide? events) := by
  induction events generalizing w with
  | nil => exact hw.verdict
  | cons e later ih =>
    rw [List.map_cons, List.foldl_cons, decide?]
    rcases hw.wake_singleton_cases first e with ⟨o, houtcome, hverdict⟩ | ⟨houtcome, hwaiting⟩
    · rw [foldl_wake_of_decided hverdict, hverdict, houtcome]
      rfl
    · rw [houtcome]
      exact ih hwaiting

/-- The time and the outcome of a run are those of the first decisive arrival. -/
theorem IsWaiting.decision?_eq {w : Wait} (hw : w.IsWaiting) (first : Nat → Nat)
    (arrivals : List Arrival) :
    w.decision? first arrivals =
      arrivals.findSome? fun a => a.event.outcome?.map fun o => (a.time, o) := by
  induction arrivals generalizing w with
  | nil => rfl
  | cons a later ih =>
    rw [decision?, List.findSome?_cons]
    rcases hw.wake_singleton_cases first a.event with
      ⟨o, houtcome, hverdict⟩ | ⟨houtcome, hwaiting⟩
    · rw [hverdict, houtcome]
      rfl
    · rw [hwaiting.verdict, houtcome]
      exact ih hwaiting

/-- However the turns are taken, a loop that goes on waiting has nothing left. -/
theorem IsWaiting.of_verdict {w : Wait} (hw : w.IsWaiting) {first : Nat → Nat}
    {wakes : List (List Event)} (hverdict : (wakes.foldl (wake first) w).verdict = .waiting) :
    (wakes.foldl (wake first) w).IsWaiting := by
  induction wakes generalizing w with
  | nil => exact hw
  | cons ready later ih =>
    rw [List.foldl_cons] at hverdict ⊢
    rcases hw.wake_cases first ready with ⟨src, o, -, hdecided⟩ | ⟨-, hwaiting⟩
    · rw [foldl_wake_of_decided hdecided, hdecided] at hverdict
      cases hverdict
    · exact ih hwaiting hverdict

/-- The first decisive event wins. When several events are ready at the same time, the verdicts to
    be had are those of the orders that keep each source in its own; events that come one by one
    leave no choice. Signals that are let pass and the closing of the signals do not show, wherever
    they stand, and every other signal ends the wait. -/
theorem first_decisive_event_wins :
    (∀ wakes v, (∃ first, (run first wakes).verdict = v) ↔
        ∃ events, Arranged wakes events ∧ v = .of (events.findSome? Event.outcome?)) ∧
      (∀ first (events : List Event), (run first (events.map fun e => [e])).verdict =
        .of (events.findSome? Event.outcome?)) ∧
      (∀ wakes others, decisive wakes = decisive others → ∀ v,
        (∃ first, (run first wakes).verdict = v) ↔ ∃ first, (run first others).verdict = v) ∧
      ∀ first wakes number, (run first wakes).verdict = .waiting →
        ¬(Signal.ofNumber number).IsIgnorable →
        (run first (wakes ++ [[.signal (Signal.ofNumber number)]])).verdict =
          .decided .signalReceived := by
  refine ⟨fun wakes v => ?orders, fun first events => ?single, fun wakes others hsame v => ?pass,
    fun first wakes number hwaiting hsignal => ?signal⟩
  case orders =>
    simp only [exists_verdict_run_iff, ← decide?_eq_findSome?]
    constructor
    · rintro ⟨d, hmay, rfl⟩
      obtain ⟨events, harranged, hdecide⟩ := hmay.exists_arranged
      exact ⟨events, harranged, by rw [hdecide]⟩
    · rintro ⟨events, harranged, rfl⟩
      exact ⟨_, harranged.mayDecide, rfl⟩
  case single =>
    rw [← decide?_eq_findSome?]
    exact isWaiting_start.verdict_foldl_singletons first events
  case pass =>
    simp only [exists_verdict_run_iff]
    simp only [← mayDecide_decisive_iff wakes, hsame, mayDecide_decisive_iff]
  case signal =>
    have hw : (run first wakes).IsWaiting := isWaiting_start.of_verdict hwaiting
    have hrun : run first (wakes ++ [[.signal (Signal.ofNumber number)]]) =
        (run first wakes).wake first [.signal (Signal.ofNumber number)] := by
      rw [run, List.foldl_append]
      rfl
    have houtcome : (Event.signal (Signal.ofNumber number)).outcome? = some .signalReceived := by
      rw [Event.outcome?, if_neg hsignal]
    rw [hrun]
    rcases hw.wake_singleton_cases first (.signal (Signal.ofNumber number)) with
      ⟨o, ho, hverdict⟩ | ⟨hnone, -⟩
    · rw [houtcome] at ho
      rw [hverdict, ← Option.some.inj ho]
    · rw [houtcome] at hnone
      cases hnone

/-- A change of the window is let pass, whether the signals close after it or not; the deadline or a
    request to terminate ends the wait. -/
theorem first_decisive_event_after_windowChanged :
    let wakes : List (List Event) := [[.signal .windowChanged], [.signalsClosed], [.deadline]]
    let terminate : Event := .signal (Signal.ofNumber 15)
    (∀ first, (run first wakes).verdict = .decided .timedOut) ∧
      (∀ v, (∃ first, (run first wakes).verdict = v) ↔
        ∃ first, (run first [[.deadline]]).verdict = v) ∧
      ∀ first, (run first [[.signal .windowChanged]]).verdict = .waiting ∧
        (run first ([[.signal .windowChanged]] ++ [[terminate]])).verdict =
          .decided .signalReceived := by
  intro wakes terminate
  obtain ⟨-, hsingle, hpass, hsignal⟩ := first_decisive_event_wins
  have hwaiting (first : Nat → Nat) : (run first [[.signal .windowChanged]]).verdict = .waiting :=
    hsingle first [.signal .windowChanged]
  exact ⟨fun first => hsingle first [.signal .windowChanged, .signalsClosed, .deadline],
    hpass wakes [[.deadline]] (by decide),
    fun first => ⟨hwaiting first, hsignal first _ 15 (hwaiting first) (by decide)⟩⟩

end Wait

theorem pairwise_inOrder (arrivals : List Arrival) :
    (inOrder arrivals).Pairwise fun a later => a.time ≤ later.time := by
  have hordered : (inOrder arrivals).Pairwise fun a later => decide (a.time ≤ later.time) = true :=
    List.pairwise_mergeSort (by simpa using fun _ _ _ => Nat.le_trans)
      (by simpa using fun a b => Nat.le_total _ _) arrivals
  exact hordered.imp fun hle => of_decide_eq_true hle

/-- The first decisive arrival in order of time decides a run. -/
theorem firstDecision?_eq (arrivals : List Arrival) :
    firstDecision? arrivals =
      (inOrder arrivals).findSome? fun a => a.event.outcome?.map fun o => (a.time, o) :=
  Wait.isWaiting_start.decision?_eq _ _

end Overseer
