import Overseer.Proofs.Report.Delivery
import Overseer.Supervisor.Basic

/-!
The turns of the two pumps: how reads are cut into chunks, in which orders the pumps may copy them,
and that what a child prints is copied turn by turn.
-/

namespace Overseer

variable {κ : Type}

namespace Capture

/-- Turns of two pumps that copy what their reads deliver, each in its own order. -/
def Interleaves (reads : Stream → List Read) (turns : List (Stream × Bytes)) : Prop :=
  ∀ stream, (turns.filter fun turn => turn.1 = stream).map Prod.snd = delivered (reads stream)

theorem chunksOf_eq_singleton {bytes : Bytes} (hbytes : bytes ≠ [])
    (hlength : bytes.length ≤ bufferSize) : chunksOf bytes = [bytes] := by
  cases bytes with
  | nil => exact absurd rfl hbytes
  | cons b rest =>
    have hrest : rest.length ≤ bufferSize - 1 := by
      rw [List.length_cons] at hlength
      omega
    rw [chunksOf, chunksOf.go, List.take_of_length_le hrest, List.drop_of_length_le hrest,
      chunksOf.go, List.reverse_singleton]

/-- Reads that each fit into the buffer deliver a stream as it was cut. -/
theorem delivered_map_bytes_append {chunks : List Bytes}
    (hchunks : ∀ chunk ∈ chunks, chunk ≠ [] ∧ chunk.length ≤ bufferSize) (rest : List Read) :
    delivered (chunks.map .bytes ++ rest) = chunks ++ delivered rest := by
  induction chunks with
  | nil => rfl
  | cons chunk later ih =>
    rw [List.forall_mem_cons] at hchunks
    obtain ⟨⟨hnonempty, hlength⟩, hlater⟩ := hchunks
    have hone := chunksOf_eq_singleton hnonempty hlength
    cases chunk with
    | nil => exact absurd rfl hnonempty
    | cons b bytes =>
      rw [List.map_cons, List.cons_append, delivered, hone, ih hlater]
      rfl

theorem length_le_of_mem_delivered {reads : List Read} {chunk : Bytes}
    (hchunk : chunk ∈ delivered reads) : chunk.length ≤ bufferSize := by
  induction reads with
  | nil => cases hchunk
  | cons read later ih =>
    match read with
    | .bytes [] | .broken => cases hchunk
    | .bytes (b :: rest) =>
      rw [delivered, List.mem_append] at hchunk
      rcases hchunk with hnow | hlater
      · exact length_le_of_mem_chunksOf hnow
      · exact ih hlater

theorem Interleaves.length_le {reads : Stream → List Read} {turns : List (Stream × Bytes)}
    (hturns : Interleaves reads turns) {turn : Stream × Bytes} (hturn : turn ∈ turns) :
    turn.2.length ≤ bufferSize := by
  have hown : turn ∈ turns.filter fun other => other.1 = turn.1 :=
    List.mem_filter.2 ⟨hturn, by simp⟩
  have hdelivered := List.mem_map_of_mem (f := Prod.snd) hown
  rw [hturns turn.1] at hdelivered
  exact length_le_of_mem_delivered hdelivered

/-- Whatever the order of the turns, each stream gets what its own reads deliver. -/
theorem Interleaves.bytesOn_eq {reads : Stream → List Read} {turns : List (Stream × Bytes)}
    (hturns : Interleaves reads turns) (stream : Stream) :
    Report.bytesOn stream turns = (delivered (reads stream)).flatten := by
  rw [← hturns stream, Report.bytesOn]
  clear hturns
  induction turns with
  | nil => rfl
  | cons turn later ih =>
    rw [List.flatMap_cons, ih, List.filter_cons]
    by_cases hsame : turn.1 = stream
    · simp [hsame]
    · simp [hsame]

end Capture

namespace Session

/-- One turn of a pump: a chunk goes to the capture file, the echo and the reporter. -/
def takeTurn (s : Session κ) (turn : Stream × Bytes) : Session κ :=
  (Capture.Tee.write (outlets turn.1) ⟨(s.file turn.1).isSome, s⟩ turn.2).sinks

/-- A session without a capture file has nothing to capture. -/
theorem takeTurn_eq (stream : Stream) (chunk : Bytes) (s : Session κ) :
    s.takeTurn (stream, chunk) =
      ((capture stream chunk s).2.echo stream chunk).report (.append stream chunk) := by
  have hcaptured : (if (s.file stream).isSome then capture stream chunk s else (false, s)).2 =
      (capture stream chunk s).2 := by
    split
    · rfl
    · next hnone =>
      rw [Option.not_isSome_iff_eq_none] at hnone
      rw [capture, hnone]
  rw [← hcaptured]
  rfl

theorem host_noteRequest (request : Report.Request) (s : Session κ) :
    (s.noteRequest request).run.host = s.run.host := by
  cases request <;> rfl

theorem file_report (request : Report.Request) (s : Session κ) (stream : Stream) :
    (s.report request).file stream = s.file stream := by
  unfold report
  cases s.desk with
  | none => rfl
  | some desk => cases request <;> cases stream <;> rfl

/-- A pump gives its capture file up exactly when the session has none any more. -/
theorem capturing_write (stream : Stream) (chunk : Bytes) (s : Session κ) :
    let written := Capture.Tee.write (outlets stream) ⟨(s.file stream).isSome, s⟩ chunk
    written.capturing = (written.sinks.file stream).isSome := by
  have hreport (t : Session κ) : ((t.echo stream chunk).report (.append stream chunk)).file stream =
      t.file stream := by
    rw [file_report]
    cases stream <;> rfl
  cases hfile : s.file stream with
  | none =>
    have hwritten : (Capture.Tee.write (outlets stream) ⟨false, s⟩ chunk).sinks.file stream =
        s.file stream := hreport s
    rw [Option.isSome_none]
    dsimp only
    rw [hwritten, hfile]
    rfl
  | some handle =>
    have hcapture : (capture stream chunk s).1 =
        ((capture stream chunk s).2.file stream).isSome := by
      unfold capture
      rw [hfile]
      dsimp only
      cases s.run.host.files.write handle chunk <;> cases stream <;> rfl
    have hwritten : (Capture.Tee.write (outlets stream) ⟨true, s⟩ chunk).sinks.file stream =
        (capture stream chunk s).2.file stream := hreport (capture stream chunk s).2
    rw [Option.isSome_some]
    dsimp only
    rw [hwritten, ← hcapture]
    rfl

/-- What is copied at once is copied turn by turn. -/
theorem copy_eq_foldl_takeTurn (stream : Stream) (bytes : Bytes) (s : Session κ) :
    s.copy stream bytes =
      ((Capture.chunksOf bytes).map fun chunk => (stream, chunk)).foldl takeTurn s := by
  unfold copy Capture.Tee.writeAll
  generalize Capture.chunksOf bytes = chunks
  induction chunks generalizing s with
  | nil => rfl
  | cons chunk later ih =>
    rw [List.foldl_cons, List.map_cons, List.foldl_cons, takeTurn, ← ih, ← capturing_write]

end Session

namespace Launched

/-- What fits into the buffer is copied in one turn. -/
theorem play_print_of_length_le {l : Launched} {stream : Stream} {bytes : Bytes}
    (hcopies : l.copies stream = true) (hbytes : bytes ≠ [])
    (hlength : bytes.length ≤ Capture.bufferSize) (s : Session κ) :
    l.play s (.print stream bytes) = s.takeTurn (stream, bytes) := by
  unfold play
  dsimp only
  rw [if_pos hcopies, Session.copy_eq_foldl_takeTurn, Capture.chunksOf_eq_singleton hbytes hlength]
  rfl

/-- The turns that an act of the child gives to the pumps. -/
def turns (l : Launched) : Act → List (Stream × Bytes)
  | .print stream bytes =>
    if l.copies stream then (Capture.chunksOf bytes).map fun chunk => (stream, chunk) else []
  | .change _ | .signalAgent _ | .release _ | .ignore _ | .tell _ => []

end Launched

/-- The bytes that an activity prints on one stream. -/
def Activity.printed (stream : Stream) (a : Activity) : Bytes :=
  match a.act with
  | .print other bytes => if other = stream then bytes else []
  | _ => []

/-- The chunks of one stream are on that stream, and all of them. -/
theorem Report.bytesOn_map_chunks (stream other : Stream) (chunks : List Bytes) :
    bytesOn stream (chunks.map fun chunk => (other, chunk)) =
      if other = stream then chunks.flatten else [] := by
  rw [bytesOn, List.flatMap_map]
  by_cases hsame : other = stream
  · simp [hsame, List.flatMap_id']
  · simp [hsame]

/-- Copying loses nothing of what is printed. -/
theorem Launched.bytesOn_flatMap_turns {l : Launched} {stream : Stream}
    (hcopies : l.copies stream = true) (activities : List Activity) :
    Report.bytesOn stream (activities.flatMap fun a => l.turns a.act) =
      activities.flatMap (Activity.printed stream) := by
  induction activities with
  | nil => rfl
  | cons a later ih =>
    have happend (xs ys : List (Stream × Bytes)) : Report.bytesOn stream (xs ++ ys) =
        Report.bytesOn stream xs ++ Report.bytesOn stream ys := List.flatMap_append
    rw [List.flatMap_cons, List.flatMap_cons, happend, ih]
    congr 1
    unfold turns Activity.printed
    cases a.act with
    | print other bytes =>
      dsimp only
      by_cases hsame : other = stream
      · subst hsame
        rw [if_pos hcopies, Report.bytesOn_map_chunks, if_pos rfl, if_pos rfl, Capture.flatten_chunksOf]
      · rw [if_neg hsame]
        split
        · rw [Report.bytesOn_map_chunks, if_neg hsame]
        · rfl
    | change | signalAgent | release | ignore | tell => rfl

theorem Launched.length_le_of_mem_turns {l : Launched} {act : Act} {turn : Stream × Bytes}
    (hturn : turn ∈ l.turns act) : turn.2.length ≤ Capture.bufferSize := by
  unfold turns at hturn
  split at hturn
  · split at hturn
    · obtain ⟨chunk, hchunk, rfl⟩ := List.mem_map.1 hturn
      exact Capture.length_le_of_mem_chunksOf hchunk
    · cases hturn
  all_goals cases hturn

end Overseer
