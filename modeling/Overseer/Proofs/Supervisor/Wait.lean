import Overseer.Supervisor.Wait

/-!
What the wait for a decision comes to: the first decisive event decides, in one of the orders in
which events that are ready at the same time may be taken. Signals that are let pass and the closing
of the signals do not show.
-/

namespace Overseer

theorem decide?_eq_findSome? (events : List Event) :
    decide? events = events.findSome? Event.outcome? := by
  induction events with
  | nil => rfl
  | cons e later ih =>
    rw [decide?, List.findSome?_cons]
    cases e.outcome? with
    | none => exact ih
    | some o => rfl

theorem decide?_eq_none_iff {events : List Event} :
    decide? events = none ↔ ∀ e ∈ events, e.outcome? = none := by
  rw [decide?_eq_findSome?, List.findSome?_eq_none_iff]

theorem decide?_eq_none_iff_forall_source (events : List Event) :
    decide? events = none ↔ ∀ src, decide? (events.filter fun e => e.source = src) = none := by
  simp only [decide?_eq_none_iff, List.mem_filter, decide_eq_true_eq]
  exact ⟨fun h src e he => h e he.1, fun h e he => h e.source e ⟨he, rfl⟩⟩

/-- What decides is decisive among the events of its own source. -/
theorem exists_decide?_filter_eq_some {events : List Event} {o : Outcome}
    (hevents : decide? events = some o) :
    ∃ src, decide? (events.filter fun e => e.source = src) = some o := by
  induction events with
  | nil => cases hevents
  | cons e later ih =>
    rw [decide?] at hevents
    cases houtcome : e.outcome? with
    | some other =>
      rw [houtcome] at hevents
      refine ⟨e.source, ?_⟩
      rw [List.filter_cons_of_pos (by simp), decide?, houtcome]
      exact hevents
    | none =>
      rw [houtcome] at hevents
      obtain ⟨src, hsrc⟩ := ih hevents
      refine ⟨src, ?_⟩
      rw [List.filter_cons]
      split
      · rw [decide?, houtcome]
        exact hsrc
      · exact hsrc

/-- Events that decide nothing do not show. -/
theorem decide?_filter_decisive (events : List Event) :
    decide? (events.filter fun e => e.outcome?.isSome) = decide? events := by
  induction events with
  | nil => rfl
  | cons e later ih =>
    rw [List.filter_cons]
    cases houtcome : e.outcome? with
    | some o => simp [decide?, houtcome]
    | none => simp [decide?, houtcome, ih]

namespace Source

theorem mem_inTurn (first : Nat) (src : Source) : src ∈ inTurn first := by
  unfold inTurn
  split <;> cases src <;> decide

/-- Any source may be the first in a turn. -/
theorem exists_inTurn_eq_cons (src : Source) : ∃ first others, inTurn first = src :: others := by
  cases src with
  | completion => exact ⟨0, _, rfl⟩
  | deadline => exact ⟨1, _, rfl⟩
  | signals => exact ⟨2, _, rfl⟩

end Source

namespace Inbox

/-- Nothing is left to be taken from a source. -/
def IsSilent (b : Inbox) : Source → Prop
  | .completion => b.completions = []
  | .deadline => b.expired = false
  | .signals => b.signals = []

/-- Nothing is left to be taken from any source. -/
def IsIdle (b : Inbox) : Prop :=
  ∀ src, b.IsSilent src

/-- What a source decides if the others are silent. -/
def offer? (b : Inbox) : Source → Option Outcome
  | .completion => b.completions.head?
  | .deadline => if b.expired then some .timedOut else none
  | .signals => decide? (b.signals.map .signal)

theorem IsSilent.offer?_eq_none {b : Inbox} {src : Source} (hsilent : b.IsSilent src) :
    b.offer? src = none := by
  cases src <;> simp_all [IsSilent, offer?, decide?]

theorem isSilent_or_ready (b : Inbox) (src : Source) :
    b.IsSilent src ∨ ∃ e rest, b.look src = .ready e rest := by
  cases src with
  | completion =>
    cases hcompletions : b.completions with
    | nil => exact .inl hcompletions
    | cons o later => exact .inr ⟨_, _, by rw [look, hcompletions]⟩
  | deadline =>
    cases hexpired : b.expired with
    | false => exact .inl hexpired
    | true => exact .inr ⟨_, _, by rw [look, hexpired]; rfl⟩
  | signals =>
    cases hsignals : b.signals with
    | nil => exact .inl hsignals
    | cons s later => exact .inr ⟨_, _, by rw [look, hsignals]⟩

/-- An event that arrives adds to what its source decides, and to nothing else. -/
theorem offer?_receive (b : Inbox) (e : Event) (src : Source) :
    (b.receive e).offer? src =
      (b.offer? src).or (if e.source = src then e.outcome? else none) := by
  cases src with
  | completion =>
    cases e <;> simp [receive, offer?, Event.source, Event.outcome?, List.head?_append]
  | deadline =>
    cases hexpired : b.expired <;> cases e <;>
      simp [receive, offer?, Event.source, Event.outcome?, hexpired]
  | signals =>
    cases e with
    | signal s =>
      have hone : decide? [.signal s] = (Event.signal s).outcome? := by
        rw [decide?]
        cases (Event.signal s).outcome? <;> rfl
      simp [receive, offer?, Event.source, decide?_append, hone]
    | completed | deadline | signalsClosed => simp [receive, offer?, Event.source, Event.outcome?]

theorem offer?_foldl_receive (b : Inbox) (events : List Event) (src : Source) :
    (events.foldl receive b).offer? src =
      (b.offer? src).or (decide? (events.filter fun e => e.source = src)) := by
  induction events generalizing b with
  | nil => simp [decide?]
  | cons e later ih =>
    rw [List.foldl_cons, ih, offer?_receive, Option.or_assoc]
    by_cases hsource : e.source = src
    · rw [if_pos hsource, List.filter_cons_of_pos (by simpa using hsource), decide?]
      cases e.outcome? <;> rfl
    · rw [if_neg hsource, List.filter_cons_of_neg (by simpa using hsource), Option.none_or]

theorem IsIdle.offer?_foldl_receive {b : Inbox} (hidle : b.IsIdle) (events : List Event)
    (src : Source) :
    (events.foldl receive b).offer? src = decide? (events.filter fun e => e.source = src) := by
  rw [Inbox.offer?_foldl_receive, (hidle src).offer?_eq_none, Option.none_or]

/-- What is taken from a source either decides what the source does, or leaves it to the rest. -/
theorem offer?_of_look_eq_ready {b rest : Inbox} {src : Source} {e : Event}
    (hlook : b.look src = .ready e rest) :
    (∀ o, e.outcome? = some o → b.offer? src = some o) ∧
      (e.outcome? = none → ∀ other, rest.offer? other = b.offer? other) := by
  cases src with
  | completion =>
    cases hcompletions : b.completions with
    | nil => simp [look, hcompletions] at hlook
    | cons first later =>
      simp only [look, hcompletions, Look.ready.injEq] at hlook
      simp [← hlook.1, Event.outcome?, offer?, hcompletions]
  | deadline =>
    cases hexpired : b.expired with
    | false => simp [look, hexpired] at hlook
    | true =>
      simp only [look, hexpired, if_true, Look.ready.injEq] at hlook
      simp [← hlook.1, Event.outcome?, offer?, hexpired]
  | signals =>
    cases hsignals : b.signals with
    | nil =>
      simp only [look, hsignals] at hlook
      split at hlook <;> cases hlook
    | cons first later =>
      simp only [look, hsignals, Look.ready.injEq] at hlook
      obtain ⟨rfl, rfl⟩ := hlook
      constructor
      · intro o ho
        simp [offer?, hsignals, decide?, ho]
      · intro hnone other
        cases other <;> simp [offer?, hsignals, decide?, hnone]

/-- A silent source has something to wait for, unless no sender of signals is left. -/
theorem IsSilent.look_eq {b : Inbox} {src : Source} (hsilent : b.IsSilent src) :
    b.look src = if src = .signals ∧ b.closed then .exhausted else .pending := by
  cases src <;> simp_all [IsSilent, look]

/-- A turn takes what one of its sources has, or finds them all silent and waits. It is never stuck,
    because the child's end is waited for. -/
theorem turn_cases (b : Inbox) (pending : Bool) (sources : List Source)
    (hopen : pending = true ∨ .completion ∈ sources) :
    (∃ src ∈ sources, ∃ e rest, b.look src = .ready e rest ∧
        b.turn pending sources = .took e rest) ∨
      (∀ src ∈ sources, b.IsSilent src) ∧ b.turn pending sources = .waits := by
  induction sources generalizing pending with
  | nil =>
    rcases hopen with rfl | hmem
    · exact .inr ⟨fun src hsrc => absurd hsrc List.not_mem_nil, rfl⟩
    · cases hmem
  | cons src others ih =>
    rw [turn]
    rcases b.isSilent_or_ready src with hsilent | ⟨e, rest, hlook⟩
    · rw [hsilent.look_eq]
      by_cases hclosed : src = .signals ∧ b.closed
      · -- a closed source is no reason to wait, but it is not the child's end either
        rw [if_pos hclosed]
        have hothers : pending = true ∨ .completion ∈ others := by
          rcases hopen with hpending | hmem
          · exact .inl hpending
          · rw [hclosed.1] at hmem
            exact .inr (by simpa using hmem)
        rcases ih pending hothers with ⟨taken, htaken, hturn⟩ | ⟨hsilents, hturn⟩
        · exact .inl ⟨taken, List.mem_cons_of_mem _ htaken, hturn⟩
        · exact .inr ⟨List.forall_mem_cons.2 ⟨hsilent, hsilents⟩, hturn⟩
      · rw [if_neg hclosed]
        rcases ih true (.inl rfl) with ⟨taken, htaken, hturn⟩ | ⟨hsilents, hturn⟩
        · exact .inl ⟨taken, List.mem_cons_of_mem _ htaken, hturn⟩
        · exact .inr ⟨List.forall_mem_cons.2 ⟨hsilent, hsilents⟩, hturn⟩
    · exact .inl ⟨src, List.mem_cons_self, e, rest, hlook, by rw [hlook]⟩

end Inbox

namespace Wait

/-- The loop listens, and there is nothing that it could take. -/
structure IsWaiting (w : Wait) : Prop where
  inbox : w.inbox.IsIdle
  verdict : w.verdict = .waiting

theorem isWaiting_start : start.IsWaiting :=
  ⟨fun src => by cases src <;> rfl, rfl⟩

theorem settle_of_waits {first : Nat → Nat} {b : Inbox} {turns : Nat}
    (hturn : b.turn false (Source.inTurn (first turns)) = .waits) :
    settle first b turns = ⟨b, turns + 1, .waiting⟩ := by
  rw [settle]
  split <;> simp_all

/-- Taking an event ends the loop if the event is decisive, and is followed by a turn if not. -/
theorem settle_of_took {first : Nat → Nat} {b rest : Inbox} {turns : Nat} {e : Event}
    (hturn : b.turn false (Source.inTurn (first turns)) = .took e rest) :
    settle first b turns =
      match e.outcome? with
      | some o => ⟨rest, turns + 1, .decided o⟩
      | none => settle first rest (turns + 1) := by
  rw [settle]
  split
  · simp_all
  · simp_all
  · next taken left htook =>
    rw [hturn, Turn.took.injEq] at htook
    obtain ⟨rfl, rfl⟩ := htook
    split <;> simp_all

/-- The loop takes turns until a source has decided, or until nothing is left and none could. -/
theorem settle_cases (first : Nat → Nat) (b : Inbox) (turns : Nat) :
    (∃ src o, b.offer? src = some o ∧ (settle first b turns).verdict = .decided o) ∨
      (∀ src, b.offer? src = none) ∧ (settle first b turns).IsWaiting := by
  induction hlength : b.signals.length using Nat.strongRecOn generalizing b turns with
  | ind n ih =>
    rcases b.turn_cases false (Source.inTurn (first turns)) (.inr (Source.mem_inTurn _ _)) with
      ⟨src, -, e, rest, hlook, hturn⟩ | ⟨hsilent, hturn⟩
    · obtain ⟨hdecides, hleaves⟩ := Inbox.offer?_of_look_eq_ready hlook
      rw [settle_of_took hturn]
      cases houtcome : e.outcome? with
      | some o => exact .inl ⟨src, o, hdecides o houtcome, rfl⟩
      | none =>
        have hless : rest.signals.length < n := by
          rw [← hlength]
          exact Inbox.length_signals_lt_of_turn hturn houtcome
        simpa only [hleaves houtcome] using ih _ hless rest (turns + 1) rfl
    · have hidle : b.IsIdle := fun src => hsilent src (Source.mem_inTurn _ src)
      rw [settle_of_waits hturn]
      exact .inr ⟨fun src => (hidle src).offer?_eq_none, hidle, rfl⟩

/-- A source that every turn starts with decides if it can. -/
theorem verdict_settle_of_first {src : Source} {others : List Source} {k : Nat}
    (hfirst : Source.inTurn k = src :: others) {o : Outcome} (b : Inbox) (turns : Nat)
    (hoffer : b.offer? src = some o) : (settle (fun _ => k) b turns).verdict = .decided o := by
  induction hlength : b.signals.length using Nat.strongRecOn generalizing b turns with
  | ind n ih =>
    rcases b.isSilent_or_ready src with hsilent | ⟨e, rest, hlook⟩
    · rw [hsilent.offer?_eq_none] at hoffer
      cases hoffer
    · obtain ⟨hdecides, hleaves⟩ := Inbox.offer?_of_look_eq_ready hlook
      have hturn : b.turn false (Source.inTurn k) = .took e rest := by
        rw [hfirst, Inbox.turn, hlook]
      rw [settle_of_took hturn]
      cases houtcome : e.outcome? with
      | some other =>
        rw [hdecides other houtcome] at hoffer
        exact congrArg Verdict.decided (Option.some.inj hoffer)
      | none =>
        have hless : rest.signals.length < n := by
          rw [← hlength]
          exact Inbox.length_signals_lt_of_turn hturn houtcome
        exact ih _ hless rest (turns + 1) (by rw [hleaves houtcome, hoffer]) rfl

theorem IsWaiting.wake_eq {w : Wait} (hw : w.IsWaiting) (first : Nat → Nat) (ready : List Event) :
    w.wake first ready = settle first (ready.foldl Inbox.receive w.inbox) w.turns := by
  rw [wake, hw.verdict]

/-- Being woken, the loop comes to what one of the sources decides, or goes on waiting if none of
    them decides anything. -/
theorem IsWaiting.wake_cases {w : Wait} (hw : w.IsWaiting) (first : Nat → Nat)
    (ready : List Event) :
    (∃ src o, decide? (ready.filter fun e => e.source = src) = some o ∧
        (w.wake first ready).verdict = .decided o) ∨
      decide? ready = none ∧ (w.wake first ready).IsWaiting := by
  have hsettle := settle_cases first (ready.foldl Inbox.receive w.inbox) w.turns
  simp only [hw.inbox.offer?_foldl_receive] at hsettle
  rwa [hw.wake_eq, decide?_eq_none_iff_forall_source]

/-- A single event decides if it is decisive, and leaves the loop waiting if not. -/
theorem IsWaiting.wake_singleton_cases {w : Wait} (hw : w.IsWaiting) (first : Nat → Nat)
    (e : Event) :
    (∃ o, e.outcome? = some o ∧ (w.wake first [e]).verdict = .decided o) ∨
      e.outcome? = none ∧ (w.wake first [e]).IsWaiting := by
  rcases hw.wake_cases first [e] with ⟨src, o, hsrc, hverdict⟩ | ⟨hsilent, hwaiting⟩
  · rw [decide?_eq_findSome?] at hsrc
    obtain ⟨taken, htaken, houtcome⟩ := List.exists_of_findSome?_eq_some hsrc
    have he : taken = e := by
      simpa using (List.mem_filter.1 htaken).1
    exact .inl ⟨o, he ▸ houtcome, hverdict⟩
  · exact .inr ⟨decide?_eq_none_iff.1 hsilent e (by simp), hwaiting⟩

theorem IsWaiting.verdict_wake_of_first {w : Wait} (hw : w.IsWaiting) {src : Source}
    {others : List Source} {k : Nat} (hfirst : Source.inTurn k = src :: others) {o : Outcome}
    {ready : List Event} (hready : decide? (ready.filter fun e => e.source = src) = some o) :
    (w.wake (fun _ => k) ready).verdict = .decided o := by
  rw [hw.wake_eq]
  apply verdict_settle_of_first hfirst
  rw [hw.inbox.offer?_foldl_receive, hready]

/-- A loop at its end stays there. -/
theorem foldl_wake_of_decided {w : Wait} {o : Outcome} (hw : w.verdict = .decided o)
    (first : Nat → Nat) (wakes : List (List Event)) : wakes.foldl (wake first) w = w := by
  induction wakes with
  | nil => rfl
  | cons ready later ih =>
    have hwake : w.wake first ready = w := by rw [wake, hw]
    rw [List.foldl_cons, hwake, ih]

end Wait

end Overseer
