import Overseer.Control.Basic

/-!
Copying a stream of output: every chunk goes to a capture file, is echoed, and is reported. An echo
that fails is passed over and tried again with the next chunk; a capture file that fails is given
up, so that the stream keeps flowing.
-/

namespace Overseer.Capture

/-- Where the chunks of a stream go. Writing to the capture file or the echo may be refused. -/
structure Outlets (σ : Type) where
  capture : Bytes → σ → Bool × σ
  echo : Bytes → σ → Bool × σ
  report : Bytes → σ → σ

/-- A stream being copied: whether its capture file is still written. -/
structure Tee (σ : Type) where
  capturing : Bool
  sinks : σ

namespace Tee

variable {σ : Type}

/-- Copies one chunk to the capture file, the echo and the report, in this order. -/
def write (outlets : Outlets σ) (tee : Tee σ) (chunk : Bytes) : Tee σ :=
  let (capturing, sinks) :=
    if tee.capturing then outlets.capture chunk tee.sinks else (false, tee.sinks)
  ⟨capturing, outlets.report chunk (outlets.echo chunk sinks).2⟩

/-- Copies chunks in order. -/
def writeAll (outlets : Outlets σ) (tee : Tee σ) (chunks : List Bytes) : Tee σ :=
  chunks.foldl (write outlets) tee

end Tee

/-- What one attempt to read a stream yields. -/
inductive Read
  | bytes (chunk : Bytes)
  | broken
  deriving DecidableEq, Repr

/-- The most that is read at once. -/
def bufferSize : Nat := 8192

/-- The chunks of what arrived together, none longer than the buffer. -/
def chunksOf (bytes : Bytes) : List Bytes :=
  go bytes []
where
  go : Bytes → List Bytes → List Bytes
    | [], done => done.reverse
    | b :: rest, done =>
      go (rest.drop (bufferSize - 1)) ((b :: rest.take (bufferSize - 1)) :: done)
  termination_by bytes => bytes.length
  decreasing_by simp only [List.length_drop, List.length_cons]; omega

private theorem flatten_go (bytes : Bytes) (done : List Bytes) :
    (chunksOf.go bytes done).flatten = done.reverse.flatten ++ bytes := by
  fun_induction chunksOf.go bytes done with
  | case1 => simp
  | case2 b rest done ih => simp [ih, List.append_assoc]

/-- Chunks put together are what arrived. -/
@[simp] theorem flatten_chunksOf (bytes : Bytes) : (chunksOf bytes).flatten = bytes := by
  simp [chunksOf, flatten_go]

private theorem length_le_of_mem_go (bytes : Bytes) (done : List Bytes)
    (hdone : ∀ chunk ∈ done, chunk.length ≤ bufferSize) :
    ∀ chunk ∈ chunksOf.go bytes done, chunk.length ≤ bufferSize := by
  fun_induction chunksOf.go bytes done with
  | case1 => simpa using hdone
  | case2 b rest done ih =>
    refine ih fun chunk hchunk => ?_
    rcases List.mem_cons.1 hchunk with rfl | hmem
    · rw [List.length_cons, List.length_take]
      have : 0 < bufferSize := by decide
      omega
    · exact hdone chunk hmem

/-- No chunk is longer than the buffer. -/
theorem length_le_of_mem_chunksOf {bytes chunk : Bytes} (hchunk : chunk ∈ chunksOf bytes) :
    chunk.length ≤ bufferSize :=
  length_le_of_mem_go bytes [] (by simp) chunk hchunk

/-- The chunks that come before the first empty or broken read. -/
def delivered : List Read → List Bytes
  | .bytes [] :: _ | .broken :: _ | [] => []
  | .bytes (b :: chunk) :: rest => chunksOf (b :: chunk) ++ delivered rest

/-- Copies a stream up to its end or its first failure. -/
def pump {σ : Type} (outlets : Outlets σ) (tee : Tee σ) (reads : List Read) : Tee σ :=
  tee.writeAll outlets (delivered reads)

/-- Whether a path names a capture file. -/
def IsFile (p : String) : Prop :=
  p ≠ "" ∧ p ≠ "-"

instance (p : String) : Decidable (IsFile p) :=
  inferInstanceAs (Decidable (_ ∧ _))

end Overseer.Capture
