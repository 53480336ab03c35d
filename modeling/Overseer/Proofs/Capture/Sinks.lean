import Overseer.Proofs.Supervisor.Turns

/-!
Copying to sinks that have nothing in common: a capture file, an echo and a reporter. What becomes
of each is told without the others, whichever writes they refuse, and once all is read it is told by
the bytes of the stream alone.
-/

namespace Overseer.Capture

/-- A way to write bytes somewhere. A write may be refused, and may have left some of its bytes all
    the same. -/
abbrev Writer (φ : Type) := Bytes → φ → Bool × φ

namespace Writer

variable {φ : Type}

/-- Every write that is accepted adds its bytes behind those that are held. -/
def Appends (write : Writer φ) (held : φ → Bytes) : Prop :=
  ∀ chunk f, (write chunk f).1 = true → held (write chunk f).2 = held f ++ chunk

/-- It does not show where one write ends and the next one begins, even when one is refused. -/
structure Composes (write : Writer φ) : Prop where
  nil : ∀ f, write [] f = (true, f)
  append : ∀ xs ys f, write (xs ++ ys) f =
    if (write xs f).1 then write ys (write xs f).2 else write xs f

/-- Writes to a store with room for so many bytes. What fits is written; a write is refused if not
    all of it fits. -/
def roomFor (room : Nat) : Writer Bytes := fun chunk held =>
  (decide (chunk.length ≤ room - held.length), held ++ chunk.take (room - held.length))

/-- Adds to a store that is never full. -/
def unlimited : Writer Bytes := fun chunk held => (true, held ++ chunk)

theorem appends_unlimited : unlimited.Appends id := fun _ _ _ => rfl

/-- A full store shows where the bytes ended that had room, and not how they were written. -/
theorem composes_roomFor (room : Nat) : (roomFor room).Composes where
  nil held := by simp [roomFor]
  append xs ys held := by
    by_cases hfits : xs.length ≤ room - held.length
    · have hleft : room - (held.length + xs.length) = room - held.length - xs.length := by omega
      have hboth : xs.length + ys.length ≤ room - held.length ↔
          ys.length ≤ room - held.length - xs.length := by omega
      simp [roomFor, hfits, hleft, hboth, List.take_append, List.take_of_length_le hfits]
    · have hnone : room - held.length - xs.length = 0 := by omega
      have hlong : ¬xs.length + ys.length ≤ room - held.length := by omega
      simp [roomFor, hfits, hlong, hnone, List.take_append]

/-- Writes chunks in order, up to the first that is refused. -/
def untilRefused (write : Writer φ) : List Bytes → φ → Bool × φ
  | [], f => (true, f)
  | chunk :: later, f =>
    if (write chunk f).1 then untilRefused write later (write chunk f).2 else write chunk f

variable {write : Writer φ} {held : φ → Bytes}

theorem untilRefused_append (earlier later : List Bytes) (f : φ) :
    untilRefused write (earlier ++ later) f =
      if (untilRefused write earlier f).1 then
        untilRefused write later (untilRefused write earlier f).2
      else untilRefused write earlier f := by
  induction earlier generalizing f with
  | nil => rfl
  | cons chunk rest ih =>
    rw [List.cons_append, untilRefused, untilRefused, ih]
    by_cases haccepted : (write chunk f).1 = true
    · simp only [haccepted, if_true]
    · simp only [haccepted, if_false, Bool.false_eq_true]

/-- Chunks that were all accepted stand one behind the other. -/
theorem Appends.untilRefused (happends : write.Appends held) {chunks : List Bytes} {f : φ}
    (haccepted : (untilRefused write chunks f).1 = true) :
    held (write.untilRefused chunks f).2 = held f ++ chunks.flatten := by
  induction chunks generalizing f with
  | nil => rw [Writer.untilRefused, List.flatten_nil, List.append_nil]
  | cons chunk later ih =>
    rw [Writer.untilRefused] at haccepted ⊢
    split
    · next hchunk =>
      rw [if_pos hchunk] at haccepted
      rw [ih haccepted, happends chunk f hchunk, List.append_assoc, List.flatten_cons]
    · next hchunk =>
      rw [if_neg hchunk] at haccepted
      exact absurd haccepted hchunk

/-- It makes no difference how the bytes are cut into chunks. -/
theorem Composes.untilRefused (hcomposes : write.Composes) (chunks : List Bytes) (f : φ) :
    write.untilRefused chunks f = write chunks.flatten f := by
  induction chunks generalizing f with
  | nil => exact (hcomposes.nil f).symm
  | cons chunk later ih => rw [Writer.untilRefused, ih, List.flatten_cons, hcomposes.append]

end Writer

/-- A capture file, an echo and a reporter that have nothing in common. There may be no reporter;
    with it stands what its messages are handed to. -/
structure Sinks (φ ε σ : Type) where
  file : φ
  echo : ε
  reporter : Option (Report.Reporter × σ)

variable {φ ε ε' σ : Type}

/-- The outlets of a stream to such sinks. -/
def Outlets.separate (stream : Stream) (save : Writer φ) (echo : Writer ε)
    (transport : Report.Transport σ) : Outlets (Sinks φ ε σ) where
  capture chunk sinks :=
    ((save chunk sinks.file).1, { sinks with file := (save chunk sinks.file).2 })
  echo chunk sinks :=
    ((echo chunk sinks.echo).1, { sinks with echo := (echo chunk sinks.echo).2 })
  report chunk sinks :=
    { sinks with reporter := sinks.reporter.map fun served =>
                   served.1.serve transport (.append stream chunk) served.2 }

namespace Tee

variable {stream : Stream} {save : Writer φ} {echo : Writer ε} {transport : Report.Transport σ}

/-- What becomes of a capture file, and whether it is written still, after chunks were copied. -/
def captured (save : Writer φ) (capturing : Bool) (f : φ) (chunks : List Bytes) : Bool × φ :=
  if capturing then save.untilRefused chunks f else (false, f)

theorem captured_append (capturing : Bool) (f : φ) (earlier later : List Bytes) :
    captured save capturing f (earlier ++ later) =
      captured save (captured save capturing f earlier).1 (captured save capturing f earlier).2
        later := by
  cases capturing with
  | false => rfl
  | true =>
    simp only [captured, if_true, Writer.untilRefused_append]
    split
    · rfl
    · next hrefused => rw [← Bool.eq_false_iff.2 hrefused]

theorem captured_singleton (f : φ) (chunk : Bytes) :
    captured save true f [chunk] = save chunk f := by
  rw [captured, if_pos rfl, Writer.untilRefused]
  split
  · next haccepted => rw [Writer.untilRefused, ← haccepted]
  · rfl

/-- What becomes of a reporter that is told of chunks. -/
def reported (stream : Stream) (transport : Report.Transport σ)
    (reporter : Option (Report.Reporter × σ)) (chunks : List Bytes) :
    Option (Report.Reporter × σ) :=
  reporter.map fun served =>
    Report.Reporter.serveAll transport (chunks.map (.append stream)) served.1 served.2

/-- A chunk that is copied goes to each sink. -/
theorem write_separate (capturing : Bool) (sinks : Sinks φ ε σ) (chunk : Bytes) :
    write (.separate stream save echo transport) ⟨capturing, sinks⟩ chunk =
      ⟨(captured save capturing sinks.file [chunk]).1,
        (captured save capturing sinks.file [chunk]).2, (echo chunk sinks.echo).2,
        reported stream transport sinks.reporter [chunk]⟩ := by
  cases capturing with
  | false => rfl
  | true =>
    rw [captured_singleton]
    rfl

/-- Each sink goes its own way. -/
theorem writeAll_separate (capturing : Bool) (sinks : Sinks φ ε σ) (chunks : List Bytes) :
    writeAll (.separate stream save echo transport) ⟨capturing, sinks⟩ chunks =
      ⟨(captured save capturing sinks.file chunks).1,
        (captured save capturing sinks.file chunks).2,
        chunks.foldl (fun e chunk => (echo chunk e).2) sinks.echo,
        reported stream transport sinks.reporter chunks⟩ := by
  induction chunks generalizing capturing sinks with
  | nil =>
    have hreporter : reported stream transport sinks.reporter [] = sinks.reporter :=
      congrFun Option.map_id _
    cases capturing <;> simp [writeAll, captured, Writer.untilRefused, hreporter]
  | cons chunk later ih =>
    have hreporter : reported stream transport (reported stream transport sinks.reporter [chunk])
        later = reported stream transport sinks.reporter (chunk :: later) := Option.map_map ..
    have hcaptured : captured save capturing sinks.file (chunk :: later) =
        captured save (captured save capturing sinks.file [chunk]).1
          (captured save capturing sinks.file [chunk]).2 later :=
      captured_append capturing sinks.file [chunk] later
    rw [writeAll, List.foldl_cons, write_separate, ← writeAll, ih, ← hcaptured, hreporter]
    rfl

/-- A capture file that was given up is not written any more. -/
theorem captured_of_refused {capturing : Bool} {f : φ} {earlier : List Bytes}
    (hrefused : (captured save capturing f earlier).1 = false) (later : List Bytes) :
    captured save capturing f (earlier ++ later) = captured save capturing f earlier := by
  rw [captured_append, hrefused]
  exact Prod.ext hrefused.symm rfl

/-- A capture file that is written still holds all that was copied. -/
theorem captured_of_appends {held : φ → Bytes} (happends : save.Appends held) {capturing : Bool}
    {f : φ} {chunks : List Bytes} (hwritten : (captured save capturing f chunks).1 = true) :
    held (captured save capturing f chunks).2 = held f ++ chunks.flatten := by
  cases capturing with
  | false => cases hwritten
  | true => exact happends.untilRefused hwritten

/-- An echo that refuses nothing has heard all that was copied. -/
theorem echoed_of_appends {heard : ε → Bytes} (happends : echo.Appends heard)
    (haccepts : ∀ chunk e, (echo chunk e).1 = true) (e : ε) (chunks : List Bytes) :
    heard (chunks.foldl (fun e chunk => (echo chunk e).2) e) = heard e ++ chunks.flatten := by
  induction chunks generalizing e with
  | nil => rw [List.foldl_nil, List.flatten_nil, List.append_nil]
  | cons chunk later ih =>
    rw [List.foldl_cons, ih, happends chunk e (haccepts chunk e), List.append_assoc,
      List.flatten_cons]

/-- A reporter has all that was copied in messages or holds it back, and nothing else of it, and no
    more than before of the other stream. -/
theorem part_reported (r : Report.Reporter) (state : σ) (chunks : List Bytes) (other : Stream) :
    (r.formed (chunks.map (.append stream))).reduceOption.flatMap (·.part other) ++
        (Report.Reporter.serveAll transport (chunks.map (.append stream)) r state).1.part other =
      r.part other ++ if stream = other then chunks.flatten else [] := by
  have hgiven := Report.flatMap_given_ofTurns other (chunks.map fun chunk => (stream, chunk))
  rw [Report.bytesOn_map_chunks, Report.Request.ofTurns, List.map_map] at hgiven
  rw [Report.Reporter.part_serveAll, ← hgiven]
  rfl

end Tee

/-- What a read yields. -/
def Read.content : Read → Bytes
  | bytes chunk => chunk
  | broken => []

/-- The bytes that reads yield before the first one that is empty or broken. -/
def yielded (reads : List Read) : Bytes :=
  (reads.takeWhile fun read => read.content ≠ []).flatMap Read.content

/-- A pump delivers what is read up to the end, however it is cut. -/
theorem flatten_delivered (reads : List Read) : (delivered reads).flatten = yielded reads := by
  induction reads with
  | nil => rfl
  | cons read later ih =>
    match read with
    | .bytes [] | .broken => rfl
    | .bytes (b :: chunk) =>
      rw [delivered, List.flatten_append, flatten_chunksOf, ih]
      rfl

/-- Sinks of a copied stream do not disturb each other. Whatever the echo refuses, the capture file
    and the reporter come to the same; the reporter is told of every chunk once, in order, on the
    stream's own side, and the echo is offered every chunk. A capture file holds all chunks so far
    as long as it accepts them; each is written as long as none was refused, and after that it stays
    as the refused write left it. What a pump makes of the sinks is told by the bytes that were read
    up to the end, and not by the way in which they were cut: this is so for a capture file that
    accepts all, and for one that refuses wherever it is full, for an echo that accepts all, and for
    the bytes that the reporter has in messages and holds back. -/
theorem failing_sink_disturbs_no_other (stream : Stream) (save : Writer φ) (echo : Writer ε)
    (mirror : Writer ε') (transport : Report.Transport σ) (capturing : Bool) (f : φ) (e : ε)
    (e' : ε') (reporter : Option (Report.Reporter × σ)) :
    let outlets := Outlets.separate stream save echo transport
    let start : Tee (Sinks φ ε σ) := ⟨capturing, f, e, reporter⟩
    let copied := start.writeAll outlets
    (∀ chunks,
      let other := Tee.writeAll (.separate stream save mirror transport)
        ⟨capturing, f, e', reporter⟩ chunks
      (copied chunks).capturing = other.capturing ∧
        (copied chunks).sinks.file = other.sinks.file ∧
          (copied chunks).sinks.reporter = other.sinks.reporter) ∧
    (∀ chunks,
      (copied chunks).sinks.reporter = reporter.map (fun served =>
        Report.Reporter.serveAll transport (chunks.map (.append stream)) served.1 served.2) ∧
      (copied chunks).sinks.echo = chunks.foldl (fun e chunk => (echo chunk e).2) e) ∧
    (∀ held, save.Appends held → ∀ chunks, (copied chunks).capturing = true →
      held (copied chunks).sinks.file = held f ++ chunks.flatten) ∧
    (∀ earlier chunk, (copied earlier).capturing = true →
      let after := copied (earlier ++ [chunk])
      (after.capturing, after.sinks.file) = save chunk (copied earlier).sinks.file) ∧
    (∀ earlier later, (copied earlier).capturing = false →
      let after := copied (earlier ++ later)
      after.capturing = false ∧ after.sinks.file = (copied earlier).sinks.file) ∧
    ∀ reads,
      let pumped := pump outlets start reads
      (∀ held, save.Appends held → pumped.capturing = true →
        held pumped.sinks.file = held f ++ yielded reads) ∧
      (save.Composes → capturing = true →
        (pumped.capturing, pumped.sinks.file) = save (yielded reads) f) ∧
      (∀ heard, echo.Appends heard → (∀ chunk e, (echo chunk e).1 = true) →
        heard pumped.sinks.echo = heard e ++ yielded reads) ∧
      ∀ r state, reporter = some (r, state) → ∃ r' state',
        pumped.sinks.reporter = some (r', state') ∧ ∀ other,
          (r.formed ((delivered reads).map (.append stream))).reduceOption.flatMap
              (·.part other) ++ r'.part other =
            r.part other ++ if stream = other then yielded reads else [] := by
  intro outlets start copied
  have hcopied (chunks : List Bytes) : copied chunks = _ := Tee.writeAll_separate ..
  refine ⟨fun chunks => ?_, fun chunks => ?_, fun held happends chunks hwritten => ?_,
    fun earlier chunk hwritten => ?_, fun earlier later hrefused => ?_, fun reads => ?_⟩
  · intro other
    have hother : other = _ := Tee.writeAll_separate ..
    rw [hcopied, hother]
    exact ⟨rfl, rfl, rfl⟩
  · rw [hcopied]
    exact ⟨rfl, rfl⟩
  · rw [hcopied] at hwritten ⊢
    exact Tee.captured_of_appends happends hwritten
  · rw [hcopied] at hwritten
    have hwritten : (Tee.captured save capturing f earlier).1 = true := hwritten
    simp only [hcopied, Tee.captured_append, hwritten, Tee.captured_singleton]
  · rw [hcopied] at hrefused
    have hrefused : (Tee.captured save capturing f earlier).1 = false := hrefused
    simp only [hcopied, Tee.captured_of_refused hrefused, hrefused, and_self]
  · intro pumped
    have hpumped : pumped = _ := Tee.writeAll_separate ..
    rw [← flatten_delivered, hpumped]
    refine ⟨fun held happends hwritten => Tee.captured_of_appends happends hwritten,
      fun hcomposes hcapturing => ?_, fun heard happends haccepts =>
        Tee.echoed_of_appends happends haccepts e (delivered reads), ?_⟩
    · subst hcapturing
      exact hcomposes.untilRefused (delivered reads) f
    · rintro r state rfl
      exact ⟨_, _, rfl, Tee.part_reported r state (delivered reads)⟩

/-- A capture file with room for three bytes, and an echo with room for none, beside an echo that is
    never full. The third read does not count, since the second one was the end. -/
theorem failing_sink_disturbs_no_other_when_full :
    let reads : List Read := [.bytes [97, 98], .bytes [99, 100], .bytes [], .bytes [101]]
    let start : Tee (Sinks Bytes Bytes (List Bytes)) := ⟨true, [], [], some (.start "7", [])⟩
    let mute := pump (.separate .err (.roomFor 3) (.roomFor 0) Report.keep) start reads
    let loud := pump (.separate .err (.roomFor 3) .unlimited Report.keep) start reads
    (Writer.roomFor 3).Composes ∧ Writer.unlimited.Appends id ∧
      (mute.capturing, mute.sinks.file) = (false, [97, 98, 99]) ∧
      mute.sinks.reporter = loud.sinks.reporter ∧ loud.sinks.echo = [97, 98, 99, 100] ∧
      ∃ r state, loud.sinks.reporter = some (r, state) ∧ r.part .err = [97, 98, 99, 100] := by
  intro reads start mute loud
  have hyielded : yielded reads = [97, 98, 99, 100] := by decide +kernel
  obtain ⟨hagree, -, -, -, -, hmute⟩ := failing_sink_disturbs_no_other .err (.roomFor 3)
    (.roomFor 0) .unlimited Report.keep true [] [] [] (some (.start "7", []))
  obtain ⟨-, -, -, -, -, hloud⟩ := failing_sink_disturbs_no_other .err (.roomFor 3)
    .unlimited (.roomFor 0) Report.keep true [] [] [] (some (.start "7", []))
  obtain ⟨-, hfile, -, -⟩ := hmute reads
  obtain ⟨-, -, hecho, htold⟩ := hloud reads
  rw [hyielded] at hfile hecho htold
  obtain ⟨r, state, hreporter, hparts⟩ := htold _ _ rfl
  refine ⟨Writer.composes_roomFor 3, Writer.appends_unlimited, ?_,
    (hagree (delivered reads)).2.2, ?_, r, state, hreporter, ?_⟩
  · exact hfile (Writer.composes_roomFor 3) rfl
  · exact hecho id Writer.appends_unlimited fun _ _ => rfl
  · have hparts := hparts .err
    have hnone : ((Report.Reporter.start "7").formed
        ((delivered reads).map (.append .err))).reduceOption = [] := by decide +kernel
    rw [hnone, List.flatMap_nil, List.nil_append] at hparts
    exact hparts

end Overseer.Capture
