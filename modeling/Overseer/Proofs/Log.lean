import Overseer.Log

/-!
Log lines among other bytes of a stream: each of them stands there as a whole, and what is left
without them is what the stream carried by itself.
-/

namespace Overseer

/-- Shows nothing of the levels of which no lines are told here. -/
def Logger.IsTerse (logger : Logger) : Prop :=
  ∀ level ∈ logger.level, level.rank ≤ LogLevel.info.rank

instance (logger : Logger) : Decidable logger.IsTerse :=
  inferInstanceAs (Decidable (∀ level ∈ logger.level, level.rank ≤ LogLevel.info.rank))

/-- Bytes with lines among them, both in order. -/
inductive Interspersed : Bytes → List Bytes → Bytes → Prop
  | nil : Interspersed [] [] []
  | byte (b : UInt8) {bytes : Bytes} {lines : List Bytes} {shown : Bytes}
    (hrest : Interspersed bytes lines shown) : Interspersed (b :: bytes) lines (b :: shown)
  | line (line : Bytes) {bytes : Bytes} {lines : List Bytes} {shown : Bytes}
    (hrest : Interspersed bytes lines shown) : Interspersed bytes (line :: lines) (line ++ shown)

namespace Interspersed

variable {bytes later : Bytes} {lines further : List Bytes} {shown rest : Bytes}

theorem append (hshown : Interspersed bytes lines shown) (hrest : Interspersed later further rest) :
    Interspersed (bytes ++ later) (lines ++ further) (shown ++ rest) := by
  induction hshown with
  | nil => exact hrest
  | byte b _ ih => exact .byte b ih
  | line line _ ih =>
    rw [List.append_assoc]
    exact .line line ih

theorem of_bytes (bytes : Bytes) : Interspersed bytes [] bytes := by
  induction bytes with
  | nil => exact .nil
  | cons b later ih => exact .byte b ih

theorem of_lines (lines : List Bytes) : Interspersed [] lines lines.flatten := by
  induction lines with
  | nil => exact .nil
  | cons line later ih => exact .line line ih

/-- Where there are no lines, nothing stands among the bytes. -/
theorem eq_of_nil (hshown : Interspersed bytes [] shown) : shown = bytes := by
  generalize hnone : ([] : List Bytes) = lines at hshown
  induction hshown with
  | nil => rfl
  | byte b _ ih => rw [ih hnone]
  | line => cases hnone

end Interspersed

end Overseer
