import Overseer.Proofs.Supervisor.Stages
import Overseer.Proofs.Supervisor.Turns

/-!
What a child prints if all its output is read to the end. That does not depend on who reads it, the
pumps of the agent or whoever reads the agent's own streams.
-/

namespace Overseer

variable {κ : Type}

namespace Behaviour

variable {b : Behaviour} {closed : Stream → Nat → Bool} {deaths : List Death}

/-- Whether nobody reads what an activity writes. -/
def isUnheard (closed : Stream → Nat → Bool) (deaths : List Death) (a : Activity) : Bool :=
  match a.act with
  | .print stream _ => closed stream a.time
  | .tell listener => deaths.any fun d => d.process == listener && decide (d.time ≤ a.time)
  | _ => false

/-- Carries what is still done, latest first, and who has gone on by one activity. -/
def goOn (b : Behaviour) (closed : Stream → Nat → Bool) :
    List Activity × List Death → Activity → List Activity × List Death
  | (kept, deaths), a =>
    if !a.lineage.lives deaths a.time then (kept, deaths)
    else if !isUnheard closed deaths a then (a :: kept, deaths)
    else if Lineage.ignores b.activities brokenPipe a.lineage a.time then (kept, deaths)
    else (kept, a.lineage.head?.toList.map (⟨·.process, a.time⟩) ++ deaths)

theorem remaining_eq (b : Behaviour) (closed : Stream → Nat → Bool) (deaths : List Death) :
    b.remaining closed deaths =
      ((b.activities.foldl (b.goOn closed) ([], deaths)).1.reverse,
        (b.activities.foldl (b.goOn closed) ([], deaths)).2) := rfl

/-- An activity is done or not; what was done before stays. -/
theorem fst_goOn (b : Behaviour) (closed : Stream → Nat → Bool)
    (sofar : List Activity × List Death) (a : Activity) :
    (b.goOn closed sofar a).1 = sofar.1 ∨ (b.goOn closed sofar a).1 = a :: sofar.1 := by
  obtain ⟨kept, deaths⟩ := sofar
  dsimp only [goOn]
  split
  · exact .inl rfl
  · split
    · exact .inr rfl
    · split <;> exact .inl rfl

theorem subset_foldl_goOn (activities : List Activity) (sofar : List Activity × List Death) :
    sofar.1 ⊆ (activities.foldl (b.goOn closed) sofar).1 := by
  induction activities generalizing sofar with
  | nil => exact List.Subset.refl _
  | cons a later ih =>
    refine List.Subset.trans ?_ (ih (b.goOn closed sofar a))
    rcases b.fst_goOn closed sofar a with hsame | hdone
    · rw [hsame]
      exact List.Subset.refl _
    · rw [hdone]
      exact List.subset_cons_self a sofar.1

theorem sublist_foldl_goOn (activities : List Activity) (sofar : List Activity × List Death) :
    (activities.foldl (b.goOn closed) sofar).1.reverse.Sublist (sofar.1.reverse ++ activities) := by
  induction activities generalizing sofar with
  | nil => rw [List.append_nil]; exact List.Sublist.refl _
  | cons a later ih =>
    refine (ih (b.goOn closed sofar a)).trans ?_
    rcases b.fst_goOn closed sofar a with hsame | hdone
    · rw [hsame]
      exact (List.Sublist.refl _).append (List.sublist_cons_self a later)
    · rw [hdone, List.reverse_cons, List.append_assoc]
      exact List.Sublist.refl _

/-- What remains of a course is in the order of the course. -/
theorem sublist_remaining (b : Behaviour) (closed : Stream → Nat → Bool) (deaths : List Death) :
    (b.remaining closed deaths).1.Sublist b.activities :=
  sublist_foldl_goOn b.activities ([], deaths)

theorem foldl_goOn_congr {activities : List Activity} {sofar : List Activity × List Death}
    (hopen : ∀ a ∈ (activities.foldl (b.goOn fun _ _ => false) sofar).1, ∀ stream bytes,
      a.act = .print stream bytes → closed stream a.time = false) :
    activities.foldl (b.goOn closed) sofar = activities.foldl (b.goOn fun _ _ => false) sofar := by
  induction activities generalizing sofar with
  | nil => rfl
  | cons a later ih =>
    obtain ⟨kept, deaths⟩ := sofar
    rw [List.foldl_cons] at hopen
    have hnow : b.goOn closed (kept, deaths) a = b.goOn (fun _ _ => false) (kept, deaths) a := by
      cases hlives : a.lineage.lives deaths a.time with
      | false => simp only [goOn, hlives, Bool.not_false, if_true]
      | true =>
        have hunheard : isUnheard closed deaths a = isUnheard (fun _ _ => false) deaths a := by
          cases hact : a.act with
          | print stream bytes =>
            have hsilent : isUnheard (fun _ _ => false) deaths a = false := by
              simp only [isUnheard, hact]
            have hdone : (b.goOn (fun _ _ => false) (kept, deaths) a).1 = a :: kept := by
              simp [goOn, hlives, hsilent]
            have hkept : a ∈ (b.goOn (fun _ _ => false) (kept, deaths) a).1 := by
              rw [hdone]
              exact List.mem_cons_self ..
            have hclosed := hopen a (subset_foldl_goOn later _ hkept) stream bytes hact
            rw [hsilent]
            simp only [isUnheard, hact, hclosed]
          | change | signalAgent | release | ignore | tell => simp only [isUnheard, hact]
        simp only [goOn, hunheard]
    rw [List.foldl_cons, List.foldl_cons, hnow, ih hopen]

/-- If everything that would be printed is read, nobody goes for want of a reader. -/
theorem remaining_congr
    (hopen : ∀ a ∈ (b.remaining (fun _ _ => false) deaths).1, ∀ stream bytes,
      a.act = .print stream bytes → closed stream a.time = false) :
    b.remaining closed deaths = b.remaining (fun _ _ => false) deaths := by
  have hfold := foldl_goOn_congr (b := b) fun a ha =>
    hopen a (List.mem_reverse.2 ha)
  rw [remaining_eq, remaining_eq, hfold]

/-- What is still done after a time if some processes go then, and all output is read to its end. -/
def undisturbed (b : Behaviour) (time : Nat) (deaths : List Death) : List Activity :=
  (b.remaining (fun _ _ => false) deaths).1.filter fun a => decide (time < a.time)

/-- What a stream carries if some processes go after a time, and it is read to its end. -/
def output (b : Behaviour) (time : Nat) (deaths : List Death) (stream : Stream) : Bytes :=
  (b.activities.filter fun a => decide (a.time ≤ time)).flatMap (Activity.printed stream) ++
    (b.undisturbed time deaths).flatMap (Activity.printed stream)

end Behaviour

namespace Activity

variable {stream : Stream} {activities : List Activity}

theorem exists_act_eq_print {a : Activity} (hprinted : a.printed stream ≠ []) :
    ∃ bytes, a.act = .print stream bytes := by
  unfold printed at hprinted
  cases hact : a.act with
  | print other bytes =>
    rw [hact] at hprinted
    dsimp only at hprinted
    split at hprinted
    · next hsame => exact ⟨bytes, by rw [hsame]⟩
    · exact absurd rfl hprinted
  | change | signalAgent | release | ignore | tell =>
    rw [hact] at hprinted
    exact absurd rfl hprinted

/-- For what a stream carries it does not matter which activities count that do not print on it. -/
theorem flatMap_printed_filter_congr {p q : Activity → Bool}
    (hsame : ∀ a ∈ activities, ∀ bytes, a.act = .print stream bytes → p a = q a) :
    (activities.filter p).flatMap (printed stream) =
      (activities.filter q).flatMap (printed stream) := by
  induction activities with
  | nil => rfl
  | cons a later ih =>
    rw [List.forall_mem_cons] at hsame
    have hlater := ih hsame.2
    by_cases hprinted : a.printed stream = []
    · have hnothing (r : Activity → Bool) : ((a :: later).filter r).flatMap (printed stream) =
          (later.filter r).flatMap (printed stream) := by
        rw [List.filter_cons]
        split
        · rw [List.flatMap_cons, hprinted, List.nil_append]
        · rfl
      rw [hnothing, hnothing, hlater]
    · obtain ⟨bytes, hact⟩ := exists_act_eq_print hprinted
      rw [List.filter_cons, List.filter_cons, hsame.1 bytes hact]
      split
      · rw [List.flatMap_cons, List.flatMap_cons, hlater]
      · exact hlater

/-- In ascending order of time, what is printed up to a moment comes before what is printed later. -/
theorem flatMap_printed_filter_append
    (hsorted : activities.Pairwise fun a later => a.time ≤ later.time) (moment : Nat) :
    (activities.filter fun a => decide (a.time ≤ moment)).flatMap (printed stream) ++
        (activities.filter fun a => decide (moment < a.time)).flatMap (printed stream) =
      activities.flatMap (printed stream) := by
  rw [← List.flatMap_append]
  congr 1
  induction activities with
  | nil => rfl
  | cons a later ih =>
    obtain ⟨hfirst, hlater⟩ := List.pairwise_cons.1 hsorted
    by_cases hmoment : a.time ≤ moment
    · rw [List.filter_cons_of_pos (by simpa using hmoment),
        List.filter_cons_of_neg (by simpa using hmoment), List.cons_append, ih hlater]
    · have hafter : ∀ other ∈ a :: later, moment < other.time := by
        intro other hother
        rcases List.mem_cons.1 hother with rfl | hmem
        · exact Nat.not_le.1 hmoment
        · exact Nat.lt_of_lt_of_le (Nat.not_le.1 hmoment) (hfirst other hmem)
      have hnone : (a :: later).filter (fun a => decide (a.time ≤ moment)) = [] := by
        rw [List.filter_eq_nil_iff]
        intro other hother
        simpa using hafter other hother
      have hall : (a :: later).filter (fun a => decide (moment < a.time)) = a :: later := by
        rw [List.filter_eq_self]
        intro other hother
        simpa using hafter other hother
      rw [hnone, hall, List.nil_append]

end Activity

namespace Supervisor

variable {sup : Supervisor κ} {l : Launched} {sub : Subscription} {s : Session κ}

/-- The output of every stream that is copied ends before its pump is given up. -/
def PumpsDrained (sup : Supervisor κ) (l : Launched) (sub : Subscription) (s : Session κ) : Prop :=
  ∀ a ∈ l.behaviour.undisturbed (sup.decision l.behaviour sub).1 (sup.deathsByDecision l sub s),
    ∀ stream bytes, a.act = .print stream bytes → l.copies stream = true →
      a.time ≤ (sup.remainder l sub s).2 a.act

/-- What a stream that is not copied carries once the agent has finished: processes that are left
    go on to print on it. -/
def late (sup : Supervisor κ) (l : Launched) (sub : Subscription) (s : Session κ)
    (stream : Stream) : Bytes :=
  if l.copies stream then []
  else ((sup.remainder l sub s).1.filter fun a =>
    decide ((sup.remainder l sub s).2 a.act < a.time)).flatMap (Activity.printed stream)

theorem le_drainEnd (sup : Supervisor κ) (copied : Bool) (start stop : Nat) :
    start ≤ sup.drainEnd copied start stop := by
  unfold drainEnd
  split <;> omega

/-- What takes effect after a decision is done in the order of the course. -/
theorem sublist_afterDecision (sup : Supervisor κ) (l : Launched) (sub : Subscription)
    (s : Session κ) : (sup.afterDecision l sub s).Sublist l.behaviour.activities := by
  unfold afterDecision drained aftermath
  dsimp only
  refine List.filter_sublist.trans (List.filter_sublist.trans ?_)
  exact Behaviour.sublist_remaining ..

/-- Until when a print is waited for depends on its stream only. -/
theorem remainder_limit_print (sup : Supervisor κ) (l : Launched) (sub : Subscription)
    (s : Session κ) (stream : Stream) (bytes : Bytes) :
    (sup.remainder l sub s).2 (.print stream bytes) =
      (sup.remainder l sub s).2 (.print stream []) := by
  cases stream <;> rfl

/-- Pumps that copy all output disturb nobody. -/
theorem PumpsDrained.remainder_eq (hdrained : sup.PumpsDrained l sub s) :
    (sup.remainder l sub s).1 =
      l.behaviour.undisturbed (sup.decision l.behaviour sub).1 (sup.deathsByDecision l sub s) := by
  unfold PumpsDrained at hdrained
  unfold remainder at hdrained ⊢
  generalize (sup.decision l.behaviour sub).1 = time at hdrained ⊢
  generalize sup.deathsByDecision l sub s = deaths at hdrained ⊢
  unfold aftermath Behaviour.undisturbed
  dsimp only
  rw [Behaviour.remaining_congr]
  intro a ha stream bytes hact
  cases stream with
  | err => rfl
  | out =>
    by_cases hcopied : l.copiesOut = true
    · have hend := sup.le_drainEnd l.copiesOut time (l.behaviour.heldUntil
        (l.behaviour.remaining (fun _ _ => false) deaths).2 .out)
      have hintime : a.time ≤ sup.drainEnd l.copiesOut time (l.behaviour.heldUntil
          (l.behaviour.remaining (fun _ _ => false) deaths).2 .out) := by
        by_cases hlate : time < a.time
        · have hmem : a ∈ l.behaviour.undisturbed time deaths :=
            List.mem_filter.2 ⟨ha, decide_eq_true hlate⟩
          have hlimit := hdrained a hmem .out bytes hact hcopied
          rw [hact] at hlimit
          unfold aftermath at hlimit
          simpa only [hcopied, if_true] using hlimit
        · omega
      simpa [hcopied] using hintime
    · simp [hcopied]

/-- What a stream carries under the eyes of the agent and afterwards is all that the child prints on
    it, whether it is copied or not. -/
theorem PumpsDrained.output_eq (hdrained : sup.PumpsDrained l sub s)
    (hsorted : l.behaviour.activities.Pairwise fun a later => a.time ≤ later.time)
    (stream : Stream) :
    (sup.beforeDecision l sub ++ sup.afterDecision l sub s).flatMap (Activity.printed stream) ++
        sup.late l sub s stream =
      l.behaviour.output (sup.decision l.behaviour sub).1 (sup.deathsByDecision l sub s) stream := by
  have hremainder := hdrained.remainder_eq
  have hpairwise : (sup.remainder l sub s).1.Pairwise fun a later => a.time ≤ later.time := by
    rw [hremainder]
    exact (hsorted.sublist (Behaviour.sublist_remaining ..)).filter _
  have hafter : (sup.afterDecision l sub s).flatMap (Activity.printed stream) ++
      sup.late l sub s stream = (sup.remainder l sub s).1.flatMap (Activity.printed stream) := by
    rw [afterDecision_eq, late]
    split
    · next hcopies =>
      have hintime : ∀ a ∈ (sup.remainder l sub s).1, ∀ bytes, a.act = .print stream bytes →
          decide (a.time ≤ (sup.remainder l sub s).2 a.act) = true := by
        intro a ha bytes hact
        rw [hremainder] at ha
        exact decide_eq_true (hdrained a ha stream bytes hact hcopies)
      rw [Activity.flatMap_printed_filter_congr hintime, List.filter_true, List.append_nil]
    · have hlimit : ∀ a ∈ (sup.remainder l sub s).1, ∀ bytes, a.act = .print stream bytes →
          (sup.remainder l sub s).2 a.act = (sup.remainder l sub s).2 (.print stream []) := by
        intro a _ bytes hact
        rw [hact, remainder_limit_print]
      rw [← Activity.flatMap_printed_filter_append hpairwise
          ((sup.remainder l sub s).2 (.print stream []))]
      congr 1
      · exact Activity.flatMap_printed_filter_congr fun a ha bytes hact => by
          rw [hlimit a ha bytes hact]
      · exact Activity.flatMap_printed_filter_congr fun a ha bytes hact => by
          rw [hlimit a ha bytes hact]
  rw [List.flatMap_append, List.append_assoc, hafter, hremainder]
  rfl

end Supervisor

end Overseer
