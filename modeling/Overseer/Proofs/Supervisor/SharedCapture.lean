import Overseer.Proofs.Supervisor.CaptureFile

/-!
One file as the capture file of both streams. Each pump writes at a position of its own, so what one
of them writes lies over what the other has written there.
-/

namespace Overseer

variable {κ : Type}

theorem Stream.eq_or_eq_other (stream other : Stream) : other = stream ∨ other = stream.other := by
  cases stream <;> cases other <;> decide

namespace Files

variable {content bytes : Bytes} {position : Nat}

theorem length_overlay (hposition : position ≤ content.length) (bytes : Bytes) :
    (overlay content position bytes).length = max content.length (position + bytes.length) := by
  simp only [overlay, List.length_append, List.length_take, List.length_replicate, List.length_drop]
  omega

/-- A byte of an overlaid file is one of those that were written, at its place among them, or has
    been there before. -/
theorem getElem?_overlay_cases (hposition : position ≤ content.length) {i : Nat} {b : UInt8}
    (hb : (overlay content position bytes)[i]? = some b) :
    position ≤ i ∧ bytes[i - position]? = some b ∨ content[i]? = some b := by
  have hgap : position - content.length = 0 := by omega
  rw [overlay, hgap, List.replicate_zero, List.append_nil] at hb
  have htake : (content.take position).length = position := List.length_take_of_le hposition
  by_cases hbefore : i < position
  · rw [List.append_assoc, List.getElem?_append_left (by omega),
      List.getElem?_take_of_lt hbefore] at hb
    exact .inr hb
  · rw [List.append_assoc, List.getElem?_append_right (by omega), htake] at hb
    by_cases hwritten : i - position < bytes.length
    · rw [List.getElem?_append_left hwritten] at hb
      exact .inl ⟨by omega, hb⟩
    · rw [List.getElem?_append_right (by omega), List.getElem?_drop] at hb
      have hindex : position + bytes.length + (i - position - bytes.length) = i := by omega
      rw [hindex] at hb
      exact .inr hb

end Files

namespace Capture

/-- A content that two streams have been written over each other into, each from the start: it is
    as long as the longer one, and holds at each place what one of them has there. -/
structure Overlaid (content : Bytes) (written : Stream → Bytes) : Prop where
  length_eq : content.length = max (written .out).length (written .err).length
  agrees : ∀ (i : Nat) (b : UInt8), content[i]? = some b → ∃ stream, (written stream)[i]? = some b

namespace Overlaid

variable {content : Bytes} {written : Stream → Bytes}

theorem nil : Overlaid [] fun _ => [] :=
  ⟨rfl, fun _ _ hb => by cases hb⟩

theorem length_le (hoverlaid : Overlaid content written) (stream : Stream) :
    (written stream).length ≤ content.length := by
  rw [hoverlaid.length_eq]
  cases stream
  · exact Nat.le_max_left ..
  · exact Nat.le_max_right ..

/-- The next chunk of a stream goes behind what the stream has written, whatever the other one has
    written there. -/
theorem overlay (hoverlaid : Overlaid content written) (stream : Stream) (chunk : Bytes) :
    Overlaid (Files.overlay content (written stream).length chunk)
      fun other => written other ++ if stream = other then chunk else [] := by
  have hposition := hoverlaid.length_le stream
  constructor
  · rw [Files.length_overlay hposition, hoverlaid.length_eq]
    cases stream
    · simp only [if_true, reduceCtorEq, if_false, List.append_nil, List.length_append]
      omega
    · simp only [if_true, reduceCtorEq, if_false, List.append_nil, List.length_append]
      omega
  · intro i b hb
    rcases Files.getElem?_overlay_cases hposition hb with ⟨hbehind, hnew⟩ | hold
    · refine ⟨stream, ?_⟩
      rw [if_pos rfl, List.getElem?_append_right hbehind]
      exact hnew
    · obtain ⟨other, hother⟩ := hoverlaid.agrees i b hold
      obtain ⟨hlength, -⟩ := List.getElem?_eq_some_iff.1 hother
      refine ⟨other, ?_⟩
      rw [List.getElem?_append_left hlength]
      exact hother

/-- Nothing is lost only if there is nothing to lie over: one of the streams is empty. -/
theorem keeps_both_iff (hoverlaid : Overlaid content written) :
    (content.length = (written .out).length + (written .err).length ∧
      ∀ stream, (written stream).Sublist content) ↔ ∃ stream, written stream = [] := by
  constructor
  · rintro ⟨hlength, -⟩
    rw [hoverlaid.length_eq] at hlength
    by_cases hout : (written .out).length = 0
    · exact ⟨.out, List.length_eq_zero_iff.1 hout⟩
    · exact ⟨.err, List.length_eq_zero_iff.1 (by omega)⟩
  · rintro ⟨stream, hempty⟩
    have hlength : content.length = (written stream.other).length := by
      rw [hoverlaid.length_eq]
      cases stream with
      | out =>
        rw [hempty]
        exact Nat.zero_max _
      | err =>
        rw [hempty]
        exact Nat.max_zero _
    have hcontent : content = written stream.other := by
      apply List.ext_getElem hlength
      intro i hi hother
      obtain ⟨source, hsource⟩ := hoverlaid.agrees i _ (List.getElem?_eq_getElem hi)
      rcases stream.eq_or_eq_other source with rfl | rfl
      · rw [hempty] at hsource
        cases hsource
      · exact (List.getElem_of_getElem? hsource).2.symm
    refine ⟨?_, fun other => ?_⟩
    · rw [hlength]
      cases stream with
      | out => rw [hempty, List.length_nil, Nat.zero_add, Stream.other]
      | err => rw [hempty, List.length_nil, Nat.add_zero, Stream.other]
    · rcases stream.eq_or_eq_other other with rfl | rfl
      · rw [hempty]
        exact List.nil_sublist content
      · rw [hcontent]

end Overlaid

end Capture

namespace Session

variable {s : Session κ} {paths : Stream → Path} {others : List Path} {written : Stream → Bytes}

/-- A session that captures both streams in one regular file: the path of each leads there, each is
    written behind what it has written so far, and messages are spooled elsewhere. -/
structure Shares (s : Session κ) (paths : Stream → Path) (others : List Path)
    (written : Stream → Bytes) : Prop where
  separates : ∀ stream, s.Separates (paths stream) others
  holds : ∃ loc content executable,
    (∀ stream, s.file stream = some ⟨some loc, (written stream).length⟩) ∧
    (∀ stream, s.run.host.files.locateChecked (paths stream) = .ok loc) ∧
    s.run.host.files.node? loc = some (.file content executable) ∧
    Capture.Overlaid content written

namespace Shares

theorem exists_read (hshares : s.Shares paths others written) :
    ∃ content, Capture.Overlaid content written ∧
      ∀ stream, s.run.host.files.read (paths stream) = .ok content := by
  obtain ⟨loc, content, executable, -, hleads, hnode, hoverlaid⟩ := hshares.holds
  refine ⟨content, hoverlaid, fun stream => ?_⟩
  have hfind := Files.find?_eq_some_iff.2 ⟨loc, hleads stream, hnode⟩
  exact Files.read_eq_ok_iff.2 ⟨_, hfind, Node.noConfusion, rfl⟩

/-- A chunk of either stream is laid over the file, where the stream has got to. -/
theorem capture (hshares : s.Shares paths others written) (stream : Stream) (chunk : Bytes) :
    (Session.capture stream chunk s).2.Shares paths others
      fun other => written other ++ if stream = other then chunk else [] := by
  obtain ⟨hseparates, loc, content, executable, hfile, hleads, hnode, hoverlaid⟩ := hshares
  have hwrite := Files.write_file hnode (written stream).length chunk
  have hdiffer := Files.differAt_edit s.run.host.files loc fun content =>
    Files.overlay content (written stream).length chunk
  have hcapture : (Session.capture stream chunk s).2 =
      (s.setFile (some ⟨some loc, (written stream).length + chunk.length⟩) stream).withFiles fun _ =>
        s.run.host.files.edit loc fun content =>
          Files.overlay content (written stream).length chunk := by
    simp only [Session.capture, hfile, hwrite]
  rw [hcapture]
  refine ⟨fun other => (hseparates other).of_sameDirectories ?_ hdiffer.same, loc, _, executable,
    fun other => ?_, fun other => hdiffer.same.locateChecked_eq_ok_iff.2 (hleads other), ?_,
    hoverlaid.overlay stream chunk⟩
  · cases stream <;> rfl
  · rcases stream.eq_or_eq_other other with rfl | rfl
    · rw [if_pos rfl, List.length_append]
      exact file_setFile_self ..
    · cases stream
      · rw [if_neg (by decide), List.append_nil]
        exact hfile .err
      · rw [if_neg (by decide), List.append_nil]
        exact hfile .out
  · have hedited := Files.node?_edit_self s.run.host.files loc fun content =>
      Files.overlay content (written stream).length chunk
    rw [hnode] at hedited
    exact hedited

theorem report (hshares : s.Shares paths others written) (request : Report.Request) :
    (s.report request).Shares paths others written := by
  obtain ⟨hseparates, loc, content, executable, hfile, hleads, hnode, hoverlaid⟩ := hshares
  have hleft : s.run.host.files.SameDirectories (s.report request).run.host.files ∧
      (s.report request).run.host.files.node? loc = s.run.host.files.node? loc := by
    rcases files_report request s with hsame | ⟨q, hqueue, hdiffer⟩
    · rw [hsame]
      exact ⟨.refl _, rfl⟩
    · have hspool := (hseparates .out).spool q hqueue
      exact ⟨hdiffer.same, hdiffer.elsewhere loc ((hseparates .out).apart q hspool loc (hleads .out))⟩
  obtain ⟨hsame, helse⟩ := hleft
  exact ⟨fun stream => (hseparates stream).of_sameDirectories (queue?_report request s) hsame, loc,
    content, executable, fun stream => (file_report request s stream).trans (hfile stream),
    fun stream => hsame.locateChecked_eq_ok_iff.2 (hleads stream), helse.trans hnode, hoverlaid⟩

theorem takeTurn (hshares : s.Shares paths others written) (turn : Stream × Bytes) :
    (s.takeTurn turn).Shares paths others
      fun stream => written stream ++ if turn.1 = stream then turn.2 else [] := by
  obtain ⟨stream, chunk⟩ := turn
  have hcaptured := hshares.capture stream chunk
  have hechoed : ((Session.capture stream chunk s).2.echo stream chunk).Shares paths others
      fun other => written other ++ if stream = other then chunk else [] :=
    ⟨fun other => ⟨(hcaptured.separates other).apart, (hcaptured.separates other).spool⟩,
      hcaptured.holds⟩
  rw [takeTurn_eq]
  exact hechoed.report _

theorem foldl_takeTurn (hshares : s.Shares paths others written) (turns : List (Stream × Bytes)) :
    (turns.foldl Session.takeTurn s).Shares paths others
      fun stream => written stream ++ Report.bytesOn stream turns := by
  induction turns generalizing s written with
  | nil =>
    simp only [Report.bytesOn, List.flatMap_nil, List.append_nil]
    exact hshares
  | cons turn later ih =>
    have hlater := ih (hshares.takeTurn turn)
    simp only [List.append_assoc] at hlater
    exact hlater

end Shares

end Session

end Overseer
