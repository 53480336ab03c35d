import Overseer.Outcome
import Overseer.Proofs.Text.Encoding
import Overseer.Supervisor.Decision

/-!
Which outcomes their texts tell: all but failures that are described by a text with a meaning of its
own, and no status of a process is described like that.
-/

namespace Overseer

namespace WaitStatus

/-- How descriptions start. -/
def openings : List String :=
  ["exit status ", "signal: ", "stopped (not terminated) by signal: ", "continued (WIFCONTINUED)",
    "unrecognised wait status: "]

theorem exists_describe_eq_append (s : WaitStatus) :
    ∃ opening ∈ openings, ∃ rest, s.describe = opening ++ rest := by
  unfold describe display
  cases s.ending with
  | exited code => exact ⟨"exit status ", by decide, _, rfl⟩
  | signalled number dumped => exact ⟨"signal: ", by decide, _, rfl⟩
  | stopped number =>
    exact ⟨"stopped (not terminated) by signal: ", by decide, _, String.append_assoc ..⟩
  | continued => exact ⟨"continued (WIFCONTINUED)", by decide, "", rfl⟩
  | unrecognised =>
    refine ⟨"unrecognised wait status: ", by decide, toString s.signed ++ (" 0x" ++
      Text.Quoted.hex s.raw.toNat), ?_⟩
    rw [← String.append_assoc, ← String.append_assoc]
    rfl

theorem two_le_length_describe (s : WaitStatus) : 2 ≤ (Bytes.ofString s.describe).length := by
  have hopenings : ∀ opening ∈ openings, 2 ≤ (Bytes.ofString opening).length := by decide
  obtain ⟨opening, hopening, rest, hdescribe⟩ := s.exists_describe_eq_append
  have hlength := hopenings opening hopening
  rw [hdescribe, Bytes.ofString_append, List.length_append]
  omega

end WaitStatus

namespace Outcome

/-- The texts that do not describe a failure. -/
def IsReserved (text : String) : Prop :=
  text = successText ∨ text = timeoutText ∨ text = signalText

instance (text : String) : Decidable (IsReserved text) :=
  inferInstanceAs (Decidable (_ ∨ _ ∨ _))

theorem not_isReserved_describe (s : WaitStatus) : ¬IsReserved s.describe := by
  have hheads : ∀ opening ∈ WaitStatus.openings, opening.toList ≠ [] ∧
      ∀ reserved ∈ [successText, timeoutText, signalText],
        opening.toList.head? ≠ reserved.toList.head? := by
    decide
  obtain ⟨opening, hopening, rest, hdescribe⟩ := s.exists_describe_eq_append
  obtain ⟨hnonempty, hdiffers⟩ := hheads opening hopening
  have hhead : s.describe.toList.head? = opening.toList.head? := by
    rw [hdescribe, String.toList_append, List.head?_append,
      Option.or_of_isSome (by simpa using hnonempty)]
  intro hreserved
  refine hdiffers s.describe ?_ hhead.symm
  simpa [IsReserved] using hreserved

/-- A text tells its outcome unless a failure is described by a reserved text. -/
theorem ofText_text_iff {o : Outcome} :
    ofText o.text = o ↔ ∀ description, o = .failed description → ¬IsReserved description := by
  cases o with
  | success | timedOut | signalReceived => simp [text, ofText, successText, timeoutText, signalText]
  | failed description =>
    have hfailed : ofText description = .failed description ↔ ¬IsReserved description := by
      unfold ofText IsReserved
      split
      · next hsuccess => simp [hsuccess]
      · split
        · next htimeout => simp [htimeout]
        · split
          · next hsignal => simp [hsignal]
          · next hsuccess htimeout hsignal => simp [hsuccess, htimeout, hsignal]
    simpa [text] using hfailed

theorem ofText_text_ofStatus (status : WaitStatus) :
    ofText (ofStatus status).text = ofStatus status := by
  rw [ofText_text_iff]
  intro description hfailed
  unfold ofStatus at hfailed
  split at hfailed
  · cases hfailed
  · cases hfailed
    exact not_isReserved_describe status

theorem text_ofStatus_eq_successText_iff {status : WaitStatus} :
    (ofStatus status).text = successText ↔ status.raw = 0 := by
  have hsuccess : status.IsSuccess ↔ status.raw = 0 := Iff.rfl
  rw [← hsuccess]
  unfold ofStatus
  split
  · next hok => exact ⟨fun _ => hok, fun _ => rfl⟩
  · next hnot =>
    constructor
    · intro htext
      exact absurd (Or.inl htext) (not_isReserved_describe status)
    · intro hok
      exact absurd hok hnot

theorem two_le_length_text_ofStatus {status : WaitStatus} (hfailed : ofStatus status ≠ success) :
    2 ≤ (Bytes.ofString (ofStatus status).text).length := by
  unfold ofStatus at hfailed ⊢
  split
  · next hok => exact absurd (if_pos hok) hfailed
  · exact status.two_le_length_describe

/-- The end of a wait that says what went wrong, if it failed, in words of its own. -/
def IsPlain (ended : Except String WaitStatus) : Prop :=
  ∀ reason, ended = .error reason → ¬IsReserved reason

theorem ofText_text_ofWait {ended : Except String WaitStatus} (hplain : IsPlain ended) :
    ofText (ofWait ended).text = ofWait ended := by
  cases ended with
  | ok status => exact ofText_text_ofStatus status
  | error reason =>
    rw [ofText_text_iff]
    intro description hfailed
    cases hfailed
    exact hplain reason rfl

end Outcome

/-- An event that, if it is the end of the child, is that of a plain wait. -/
def Event.IsPlain (e : Event) : Prop :=
  ∀ o, e = .completed o → ∃ ended, Outcome.IsPlain ended ∧ o = Outcome.ofWait ended

theorem Event.IsPlain.ofText_text {e : Event} (hplain : e.IsPlain) {o : Outcome}
    (houtcome : e.outcome? = some o) : Outcome.ofText o.text = o := by
  cases e with
  | completed ended =>
    cases houtcome
    obtain ⟨ended, hended, rfl⟩ := hplain o rfl
    exact Outcome.ofText_text_ofWait hended
  | deadline =>
    cases houtcome
    rfl
  | signal s =>
    rw [outcome?] at houtcome
    split at houtcome
    · cases houtcome
    · cases houtcome
      rfl
  | signalsClosed => cases houtcome

end Overseer
