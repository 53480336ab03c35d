import Overseer.Proofs.Text.Encoding
import Overseer.TaskLog.Replay

/-!
The order of a plan: every cleanup command has one batch, and the batches stand in ascending order
of the bytes of their commands.
-/

namespace Overseer.Plan

/-- Texts in ascending order of their bytes, each once. -/
def Ascending (texts : List String) : Prop :=
  (texts.map Bytes.ofString).Pairwise (· < ·)

theorem ascending_of_pairwise_lt {texts : List String} (hlt : texts.Pairwise (· < ·)) :
    Ascending texts := by
  rw [Ascending, List.pairwise_map]
  exact hlt.imp Bytes.ofString_lt_ofString

private theorem pairwise_lt_eraseDups {texts : List String} (hsorted : texts.Pairwise (· ≤ ·)) :
    texts.eraseDups.Pairwise (· < ·) := by
  induction hlength : texts.length using Nat.strongRecOn generalizing texts with
  | ind n ih =>
    cases texts with
    | nil => exact .nil
    | cons first rest =>
      obtain ⟨hfirst, hrest⟩ := List.pairwise_cons.1 hsorted
      rw [List.eraseDups_cons, List.pairwise_cons]
      constructor
      · intro text htext
        rw [List.mem_eraseDups, List.mem_filter] at htext
        have hne : text ≠ first := by simpa using htext.2
        exact String.not_le.1 fun hle => hne (String.le_antisymm hle (hfirst text htext.1))
      · refine ih _ ?_ (hrest.filter _) rfl
        have hfilter := List.length_filter_le (fun text => !text == first) rest
        simp only [← hlength, List.length_cons]
        omega

/-- Distinct texts stand in strictly ascending order. -/
theorem pairwise_lt_distinct (texts : List String) : (distinct texts).Pairwise (· < ·) := by
  apply pairwise_lt_eraseDups
  have htrans (a b c : String) (hab : decide (a ≤ b)) (hbc : decide (b ≤ c)) : decide (a ≤ c) := by
    rw [decide_eq_true_eq] at hab hbc ⊢
    exact String.le_trans hab hbc
  have htotal (a b : String) : (decide (a ≤ b) || decide (b ≤ a)) = true := by
    simpa using String.le_total a b
  exact (List.pairwise_mergeSort htrans htotal texts).imp fun h => of_decide_eq_true h

theorem mem_distinct_iff {texts : List String} {text : String} :
    text ∈ distinct texts ↔ text ∈ texts := by
  rw [distinct, List.mem_eraseDups, List.mem_mergeSort]

/-- The cleanup commands of a plan. -/
def commands (plan : Plan) : List String :=
  plan.batches.map Prod.fst

theorem commands_ofLive (live : List (String × Option String)) :
    (ofLive live).commands = distinct ((live.map fun (pid, cleanup) =>
      (pid, Disposition.of pid cleanup)).filterMap fun
        | (_, .batch command) => some command
        | _ => none) := by
  rw [commands, ofLive, List.map_map]
  exact List.map_id _

theorem pairwise_lt_commands (live : List (String × Option String)) :
    (ofLive live).commands.Pairwise (· < ·) := by
  rw [commands_ofLive]
  exact pairwise_lt_distinct _

/-- The batches of a plan stand in ascending byte order of their commands, each command once. -/
theorem pairwise_lt_batches (live : List (String × Option String)) :
    ((ofLive live).batches.map fun batch => Bytes.ofString batch.1).Pairwise (· < ·) := by
  have hcommands := ascending_of_pairwise_lt (pairwise_lt_commands live)
  rwa [Ascending, commands, List.map_map] at hcommands

end Overseer.Plan
