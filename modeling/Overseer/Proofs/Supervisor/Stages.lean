import Overseer.Proofs.Supervisor.Effects

/-!
A supervised run taken apart at its decision: what takes effect before, what still takes effect
after, and what the agent itself does in between and at the end.
-/

namespace Overseer.Supervisor

variable {κ : Type}

/-- A run without a task log is torn down by one call. -/
theorem kill_of_log_eq_none (sup : Supervisor κ) (hlog : sup.log = none) (child : Nat)
    (s : Session κ) :
    sup.kill child s = sup.tornDown (s.log [.endingGroup child]) := by
  unfold kill recover
  rw [hlog]
  rfl

/-- A child that nobody interferes with decides its run by the way it ends. -/
theorem decision_of_ending (sup : Supervisor κ) (b : Behaviour) (sub : Subscription) {time : Nat}
    {status : WaitStatus}
    (hending : b.ending = some (time, status)) (hintime : time + latency ≤ sup.timeLimit)
    (hsignals : sub.arrivals (b.signals.map fun (time, s) => (time + latency, s)) = []) :
    sup.decision b sub = (time + latency, Outcome.ofWait (.ok status)) := by
  have harrivals : sup.arrivals b sub =
      [⟨time + latency, .completed (Outcome.ofWait (.ok status))⟩, ⟨sup.timeLimit, .deadline⟩] := by
    rw [arrivals, hsignals, hending]
    rfl
  have horder : inOrder (sup.arrivals b sub) = sup.arrivals b sub := by
    rw [harrivals]
    exact List.mergeSort_of_pairwise (by simpa using hintime)
  rw [decision, firstDecision?_eq, horder, harrivals]
  rfl

/-- All that may decide a run of a child that runs on while one signal is sent. -/
theorem inOrder_arrivals_of_signal (sup : Supervisor κ) (b : Behaviour) (sub : Subscription)
    {time : Nat} {signal : Signal}
    (hending : b.ending = none) (hintime : time ≤ sup.timeLimit)
    (hsignal : sub.arrivals (b.signals.map fun (time, s) => (time + latency, s)) =
      [⟨time, .signal signal⟩]) :
    inOrder (sup.arrivals b sub) = [⟨time, .signal signal⟩, ⟨sup.timeLimit, .deadline⟩] := by
  have harrivals : sup.arrivals b sub =
      [⟨time, .signal signal⟩, ⟨sup.timeLimit, .deadline⟩] := by
    rw [arrivals, hsignal, hending]
    rfl
  rw [harrivals]
  exact List.mergeSort_of_pairwise (by simpa using hintime)

/-- A run that no signal decides is decided with one line about it. -/
theorem atDecision_of_decision (sup : Supervisor κ) (l : Launched) (sub : Subscription)
    {time : Nat} {o : Outcome} (hdecision : sup.decision l.behaviour sub = (time, o))
    (hsignal : o ≠ .signalReceived) (s : Session κ) :
    sup.atDecision l sub s = ((l.behaviour.activities.filter fun a =>
      decide (a.time ≤ time)).foldl (fun s a => l.play s a.act) s).log
        [.decided l.behaviour.child o] := by
  simp only [atDecision, decisionLines, hdecision, if_neg hsignal, List.nil_append]

/-- Who goes by the end of a run that was cut short. -/
def deaths (l : Launched) (time : Nat) (o : Outcome) (concluded : Session κ) : List Death :=
  if o.RequiresKill then l.behaviour.killed time concluded.run.host.groupEnded else []

/-- Everything that is done once an outcome is decided. -/
def finish (sup : Supervisor κ) (l : Launched) (time : Nat) (o : Outcome) (s : Session κ) :
    Session κ :=
  let concluded := sup.conclude l o s
  reportExit o (sup.drain l time (deaths l time o concluded) concluded)

theorem supervise_eq_finish (sup : Supervisor κ) (l : Launched) (sub : Subscription)
    (s : Session κ) :
    sup.supervise l sub s = ((sup.decision l.behaviour sub).2,
      sup.finish l (sup.decision l.behaviour sub).1 (sup.decision l.behaviour sub).2
        (sup.atDecision l sub s)) := rfl

/-- What is still done after a decision if some processes go then, and until when each act is waited
    for. -/
def aftermath (sup : Supervisor κ) (l : Launched) (time : Nat) (deaths : List Death) :
    List Activity × (Act → Nat) :=
  let b := l.behaviour
  let (_, gone) := b.remaining (fun _ _ => false) deaths
  let outEnd := sup.drainEnd l.copiesOut time (b.heldUntil gone .out)
  let (kept, gone) := b.remaining
    (fun stream time => decide (stream = .out) && l.copiesOut && decide (outEnd < time)) deaths
  let errEnd := sup.drainEnd l.copiesErr outEnd (b.heldUntil gone .err)
  (kept.filter fun a => decide (time < a.time), fun
    | .print .out _ => if l.copiesOut then outEnd else errEnd
    | _ => errEnd)

/-- What takes effect after a decision: everything that is waited for. -/
def drained (sup : Supervisor κ) (l : Launched) (time : Nat) (deaths : List Death) :
    List Activity :=
  (sup.aftermath l time deaths).1.filter fun a =>
    decide (a.time ≤ (sup.aftermath l time deaths).2 a.act)

/-- Which streams come to their ends before their pumps are given up, if some processes go at a
    decision. -/
def ended (sup : Supervisor κ) (l : Launched) (time : Nat) (deaths : List Death) : Stream → Bool :=
  let b := l.behaviour
  let (_, gone) := b.remaining (fun _ _ => false) deaths
  let outHeld := b.heldUntil gone .out
  let outEnd := sup.drainEnd l.copiesOut time outHeld
  let (_, gone) := b.remaining
    (fun stream time => decide (stream = .out) && l.copiesOut && decide (outEnd < time)) deaths
  fun
    | .out => decide (outHeld ≤ time + sup.grace)
    | .err => decide (b.heldUntil gone .err ≤ outEnd + sup.grace)

/-- A session whose pumps are through: the capture files are closed. -/
def closed (ended : Stream → Bool) (s : Session κ) : Session κ :=
  (s.log (closingLines ended s)).note .drained

theorem trace_closed (ended : Stream → Bool) (s : Session κ) :
    (closed ended s).run.trace = s.run.trace ++ [.drained] := rfl

theorem drain_eq (sup : Supervisor κ) (l : Launched) (time : Nat) (deaths : List Death)
    (s : Session κ) :
    sup.drain l time deaths s = closed (sup.ended l time deaths)
      ((sup.drained l time deaths).foldl (fun s a => l.play s a.act) s) := by
  have hcongr {kept others : List Activity} (hsame : kept = others) :
      closed (sup.ended l time deaths) (kept.foldl (fun s a => l.play s a.act) s) =
        closed (sup.ended l time deaths) (others.foldl (fun s a => l.play s a.act) s) := by
    rw [hsame]
  unfold drained aftermath
  dsimp only
  rw [List.filter_filter]
  refine hcongr (List.filter_congr fun a _ => ?_)
  have hboth (limit : Nat) : decide (time < a.time ∧ a.time ≤ limit) =
      (decide (a.time ≤ limit) && decide (time < a.time)) := by
    rw [Bool.decide_and, Bool.and_comm]
  cases a.act with
  | print stream bytes => cases stream <;> exact hboth _
  | change | signalAgent | release | ignore | tell => exact hboth _

/-- Once an outcome is decided, it is recorded and the run torn down, then what is waited for takes
    effect, and the outcome is reported. -/
theorem finish_eq (sup : Supervisor κ) (l : Launched) (time : Nat) (o : Outcome)
    (s : Session κ) :
    let concluded := sup.conclude l o s
    let gone := deaths l time o concluded
    sup.finish l time o s = reportExit o (closed (sup.ended l time gone)
      ((sup.drained l time gone).foldl (fun s a => l.play s a.act) concluded)) := by
  intro concluded gone
  rw [← drain_eq]
  rfl

/-- What is done until a run is decided. -/
def beforeDecision (sup : Supervisor κ) (l : Launched) (sub : Subscription) : List Activity :=
  l.behaviour.activities.filter fun a => decide (a.time ≤ (sup.decision l.behaviour sub).1)

/-- Who goes by the decision of a run. -/
def deathsByDecision (sup : Supervisor κ) (l : Launched) (sub : Subscription) (s : Session κ) :
    List Death :=
  let o := (sup.decision l.behaviour sub).2
  deaths l (sup.decision l.behaviour sub).1 o (sup.conclude l o (sup.atDecision l sub s))

/-- What is still done after the decision of a run, and until when it is waited for. -/
def remainder (sup : Supervisor κ) (l : Launched) (sub : Subscription) (s : Session κ) :
    List Activity × (Act → Nat) :=
  sup.aftermath l (sup.decision l.behaviour sub).1 (sup.deathsByDecision l sub s)

/-- What takes effect after the decision of a run. -/
def afterDecision (sup : Supervisor κ) (l : Launched) (sub : Subscription) (s : Session κ) :
    List Activity :=
  sup.drained l (sup.decision l.behaviour sub).1 (sup.deathsByDecision l sub s)

theorem afterDecision_eq (sup : Supervisor κ) (l : Launched) (sub : Subscription)
    (s : Session κ) :
    sup.afterDecision l sub s = (sup.remainder l sub s).1.filter fun a =>
      decide (a.time ≤ (sup.remainder l sub s).2 a.act) := rfl

end Overseer.Supervisor
