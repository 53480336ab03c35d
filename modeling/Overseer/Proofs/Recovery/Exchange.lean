import Overseer.Proofs.Effects

/-!
Exchanges: calls with the answers that a control gives to them. What a recovery pass does is read
off the exchanges that its plan asks for, up to the first cleanup command that fails.
-/

namespace Overseer

variable {κ : Type}

/-- A call with its answer. -/
abbrev Exchange := Call × Except Fault Unit

namespace Exchange

/-- The call of an exchange as an effect. -/
def effect (x : Exchange) : Effect :=
  .called x.1

/-- The process group that was ended. -/
def killed? : Exchange → Option Int
  | (.killGroup group, .ok ()) => some group
  | _ => none

/-- The file that was deleted. -/
def removed? : Exchange → Option Path
  | (.removeFile p, .ok ()) => some p
  | _ => none

/-- Whether a kill or a deletion failed, which a pass counts and passes over. -/
def isSkipped : Exchange → Bool
  | (.killGroup _, .error _) | (.removeFile _, .error _) => true
  | _ => false

/-- The fault of a cleanup command that failed, which ends a pass. -/
def fault? : Exchange → Option Fault
  | (.runCleanup _ _, .error fault) => some fault
  | _ => none

/-- The exchanges up to the first cleanup command that fails, and none after it. -/
def upToFault : List Exchange → List Exchange
  | [] => []
  | x :: later => if x.fault?.isSome then [x] else x :: upToFault later

theorem fault?_eq_some_iff {x : Exchange} {fault : Fault} :
    x.fault? = some fault ↔ ∃ command pids, x = (.runCleanup command pids, .error fault) := by
  obtain ⟨c, answer⟩ := x
  cases c <;> cases answer <;> simp [fault?]

theorem upToFault_isPrefix (xs : List Exchange) : upToFault xs <+: xs := by
  induction xs with
  | nil => exact List.prefix_rfl
  | cons x later ih =>
    rw [upToFault]
    split
    · exact ⟨later, rfl⟩
    · exact (List.cons_prefix_cons).2 ⟨rfl, ih⟩

/-- Exchanges without a failed cleanup command are all made before those that follow. -/
theorem upToFault_append {earlier later : List Exchange}
    (hearlier : ∀ x ∈ earlier, x.fault? = none) :
    upToFault (earlier ++ later) = earlier ++ upToFault later := by
  induction earlier with
  | nil => rfl
  | cons x rest ih =>
    rw [List.forall_mem_cons] at hearlier
    rw [List.cons_append, upToFault, hearlier.1, ih hearlier.2]
    rfl

/-- The only cleanup command that can have failed is the one that ended the pass. -/
theorem findSome?_fault?_upToFault_eq_some_iff {xs : List Exchange} {fault : Fault} :
    (upToFault xs).findSome? fault? = some fault ↔
      ∃ command pids, (.runCleanup command pids, .error fault) ∈ upToFault xs := by
  have hmem : (∃ command pids, (.runCleanup command pids, .error fault) ∈ upToFault xs) ↔
      ∃ x ∈ upToFault xs, x.fault? = some fault := by
    constructor
    · rintro ⟨command, pids, hx⟩
      exact ⟨_, hx, rfl⟩
    · rintro ⟨x, hx, hfault⟩
      obtain ⟨command, pids, rfl⟩ := fault?_eq_some_iff.1 hfault
      exact ⟨command, pids, hx⟩
  rw [hmem]
  clear hmem
  induction xs with
  | nil => simp [upToFault]
  | cons x later ih =>
    rw [upToFault]
    cases hfault : x.fault? with
    | some other => simp [hfault]
    | none => simpa [hfault] using ih

/-- Kills, deletions and cleanup commands, each part with calls of its kind only. -/
structure Parts (kills deletions cleanups : List Exchange) : Prop where
  kills : ∀ x ∈ kills, ∃ group, x.1 = .killGroup group
  deletions : ∀ x ∈ deletions, ∃ p, x.1 = .removeFile p
  cleanups : ∀ x ∈ cleanups, ∃ command pids, x.1 = .runCleanup command pids

namespace Parts

variable {kills deletions cleanups : List Exchange}

theorem filterMap_killed? (hparts : Parts kills deletions cleanups) :
    (kills ++ (deletions ++ cleanups)).filterMap killed? = kills.filterMap killed? := by
  have hdeletions : deletions.filterMap killed? = [] := by
    rw [List.filterMap_eq_nil_iff]
    rintro ⟨c, answer⟩ hx
    obtain ⟨p, rfl⟩ := hparts.deletions _ hx
    rfl
  have hcleanups : cleanups.filterMap killed? = [] := by
    rw [List.filterMap_eq_nil_iff]
    rintro ⟨c, answer⟩ hx
    obtain ⟨command, pids, rfl⟩ := hparts.cleanups _ hx
    rfl
  rw [List.filterMap_append, List.filterMap_append, hdeletions, hcleanups, List.append_nil,
    List.append_nil]

theorem filterMap_removed? (hparts : Parts kills deletions cleanups) :
    (kills ++ (deletions ++ cleanups)).filterMap removed? = deletions.filterMap removed? := by
  have hkills : kills.filterMap removed? = [] := by
    rw [List.filterMap_eq_nil_iff]
    rintro ⟨c, answer⟩ hx
    obtain ⟨group, rfl⟩ := hparts.kills _ hx
    rfl
  have hcleanups : cleanups.filterMap removed? = [] := by
    rw [List.filterMap_eq_nil_iff]
    rintro ⟨c, answer⟩ hx
    obtain ⟨command, pids, rfl⟩ := hparts.cleanups _ hx
    rfl
  rw [List.filterMap_append, List.filterMap_append, hkills, hcleanups, List.append_nil,
    List.nil_append]

theorem countP_isSkipped (hparts : Parts kills deletions cleanups) :
    (kills ++ (deletions ++ cleanups)).countP isSkipped =
      kills.countP isSkipped + deletions.countP isSkipped := by
  have hcleanups : cleanups.countP isSkipped = 0 := by
    rw [List.countP_eq_zero]
    rintro ⟨c, answer⟩ hx
    obtain ⟨command, pids, rfl⟩ := hparts.cleanups _ hx
    exact Bool.false_ne_true
  rw [List.countP_append, List.countP_append, hcleanups, Nat.add_zero]

theorem fault?_eq_none (hparts : Parts kills deletions cleanups) :
    ∀ x ∈ kills ++ deletions, x.fault? = none := by
  rintro ⟨c, answer⟩ hx
  rcases List.mem_append.1 hx with hkill | hdeletion
  · obtain ⟨group, rfl⟩ := hparts.kills _ hkill
    rfl
  · obtain ⟨p, rfl⟩ := hparts.deletions _ hdeletion
    rfl

theorem findSome?_fault? (hparts : Parts kills deletions cleanups) :
    (kills ++ (deletions ++ cleanups)).findSome? fault? = cleanups.findSome? fault? := by
  rw [← List.append_assoc, List.findSome?_append,
    List.findSome?_eq_none_iff.2 hparts.fault?_eq_none, Option.none_or]

end Parts

end Exchange

namespace Control

/-- The exchanges that calls come to when they are made one after the other. -/
def answers (control : Control κ) : List Call → Host κ → List Exchange
  | [], _ => []
  | c :: later, host => (c, (control c host).1) :: answers control later (control c host).2

@[simp] theorem map_fst_answers (control : Control κ) (calls : List Call) (host : Host κ) :
    (control.answers calls host).map Prod.fst = calls := by
  induction calls generalizing host with
  | nil => rfl
  | cons c later ih => simp only [answers, List.map_cons, ih]

@[simp] theorem map_effect_answers (control : Control κ) (calls : List Call) (host : Host κ) :
    (control.answers calls host).map Exchange.effect = calls.map .called := by
  have hcalls := congrArg (List.map Effect.called) (map_fst_answers control calls host)
  rwa [List.map_map] at hcalls

/-- Later calls meet the host that the earlier ones have left. -/
theorem answers_append (control : Control κ) (earlier later : List Call) (run : Run κ) :
    control.answers (earlier ++ later) run.host = control.answers earlier run.host ++
      control.answers later (run.carryOut control (earlier.map .called)).host := by
  induction earlier generalizing run with
  | nil => rfl
  | cons c rest ih =>
    have hrest := ih (run.carryOut control [.called c])
    rw [List.cons_append, answers, answers, List.map_cons, Run.carryOut_cons, List.cons_append]
    exact congrArg _ hrest

theorem exists_of_mem_answers {α : Type} {control : Control κ} {toCall : α → Call} {items : List α}
    {host : Host κ} {x : Exchange} (hx : x ∈ control.answers (items.map toCall) host) :
    ∃ item, x.1 = toCall item := by
  have hcall := List.mem_map_of_mem (f := Prod.fst) hx
  rw [map_fst_answers] at hcall
  obtain ⟨item, -, hitem⟩ := List.mem_map.1 hcall
  exact ⟨item, hitem.symm⟩

/-- A control that puts nothing where a path leads: what is there after a call was there before. -/
def Spares (control : Control κ) (p : Path) : Prop :=
  ∀ c host node, (control c host).2.files.find? p = some node → host.files.find? p = some node

theorem Spares.find?_of_carryOut {control : Control κ} {p : Path} (hspares : control.Spares p)
    {calls : List Call} {run : Run κ} {node : Node}
    (hfind : (run.carryOut control (calls.map .called)).host.files.find? p = some node) :
    run.host.files.find? p = some node := by
  induction calls generalizing run with
  | nil => exact hfind
  | cons c later ih =>
    rw [List.map_cons, Run.carryOut_cons] at hfind
    exact hspares c run.host node (ih hfind)

end Control

end Overseer
