import Overseer.Proofs.Agent.Launch
import Overseer.Proofs.Supervisor.SharedCapture

/-!
What the capture files of a command hold when both pumps are through, for any two capture paths. A
file that one stream is captured in holds that stream. One file for both streams loses bytes wherever
both of them have some.
-/

namespace Overseer

variable {κ : Type}

/-- Where the capture file of a stream is, if its name stands for one. -/
def LaunchSpec.capturePath (spec : LaunchSpec) (stream : Stream) : Path :=
  Path.ofString (spec.captureFile stream)

/-- Where the other stream is captured, if it is. -/
def LaunchSpec.otherCaptures (spec : LaunchSpec) (stream : Stream) : List Path :=
  if Capture.IsFile (spec.captureFile stream.other) then [spec.capturePath stream.other] else []

theorem LaunchSpec.mem_otherCaptures_iff {spec : LaunchSpec} {stream : Stream} {q : Path} :
    q ∈ spec.otherCaptures stream ↔
      Capture.IsFile (spec.captureFile stream.other) ∧ q = spec.capturePath stream.other := by
  unfold otherCaptures
  split
  · next hfile => rw [List.mem_singleton, and_iff_right hfile]
  · next hnone => exact iff_of_false List.not_mem_nil fun h => hnone h.1

namespace Platform

open Session

variable {platform : Platform κ} {settings : Settings} {request : ExecRequest} {host : Host κ}
  {spec : LaunchSpec} {others : List Path} {stream : Stream} {loc : Location}
  {l : Launched} {s t : Session κ}

/-- Two capture paths that lead to one place open one file twice, each at its start. -/
theorem shares_launch (hfiles : ∀ stream, Capture.IsFile (spec.captureFile stream))
    (hown : ∀ stream, s.run.host.files.IsOwn (spec.capturePath stream) others)
    (hspool : ∀ q, s.queue? = some (.spool q) → q ∈ others)
    (hleads : ∀ stream, s.run.host.files.locateChecked (spec.capturePath stream) = .ok loc)
    (hlaunch : platform.launch spec s = (.ok l, t)) :
    t.Shares spec.capturePath others fun _ => [] := by
  obtain ⟨u, v, hout, herr, rfl, -⟩ := launch_cases hlaunch
  obtain ⟨first, hplace, hu, hfirst, executable, hnode⟩ :=
    openCapture_of_isFile (hfiles .out) (hown .out).plain hout
  obtain rfl : loc = first := Except.ok.inj ((hleads .out).symm.trans hplace)
  have hagain := hfirst.same.locateChecked_eq_ok_iff.2 (hleads .err)
  have hemptied (node : Node)
      (hfind : u.run.host.files.find? (spec.capturePath .err) = some node) :
      ∃ content executable, node = .file content executable := by
    obtain ⟨here, hhere, hfound⟩ := Files.find?_eq_some_iff.1 hfind
    rw [hagain] at hhere
    cases hhere
    rw [hnode] at hfound
    cases hfound
    exact ⟨_, _, rfl⟩
  obtain ⟨second, hplace, hv, hsecond, executable, hnode⟩ :=
    openCapture_of_isFile (hfiles .err) hemptied herr
  obtain rfl : loc = second := Except.ok.inj (hagain.symm.trans hplace)
  have hsame := hfirst.same.trans hsecond.same
  have hqueue : (v.log [startLine spec l]).queue? = s.queue? := by
    rw [hv, hu]
    rfl
  refine ⟨fun stream => ⟨fun q hq => ((hown stream).apart q hq).of_sameDirectories hsame,
    fun q hq => hspool q (hqueue.symm.trans hq)⟩, loc, [], executable, fun stream => ?_,
    fun stream => hsame.locateChecked_eq_ok_iff.2 (hleads stream), hnode, .nil⟩
  rw [hv, hu]
  cases stream <;> rfl

/-- A stream has a capture file of its own if the other one is captured elsewhere, or not at all. -/
theorem records_launch_prepare (hfile : Capture.IsFile (request.spec.captureFile stream))
    (hown : host.files.IsOwn (request.spec.capturePath stream) platform.spools)
    (hapart : Capture.IsFile (request.spec.captureFile stream.other) →
      host.files.Apart (request.spec.capturePath stream) (request.spec.capturePath stream.other))
    (hlaunch : platform.launch request.spec (platform.prepare settings request host) = (.ok l, s)) :
    s.Records stream (request.spec.capturePath stream)
      (request.spec.otherCaptures stream ++ platform.spools) [] := by
  have hcan : (platform.prepare settings request host).CanRecord stream
      (request.spec.capturePath stream) (request.spec.otherCaptures stream ++ platform.spools) := by
    refine ⟨⟨hown.plain, fun q hq => ?_⟩, fun q hq => ?_, fun loc _ hplace => ?_⟩
    · rcases List.mem_append.1 hq with hother | hspool
      · obtain ⟨hcaptured, rfl⟩ := LaunchSpec.mem_otherCaptures_iff.1 hother
        exact hapart hcaptured
      · exact hown.apart q hspool
    · exact List.mem_append_right _ (mem_spools_of_queue? hq)
    · cases stream <;> cases hplace
  have hothers (hother : Capture.IsFile (request.spec.captureFile stream.other)) :
      request.spec.capturePath stream.other ∈
        request.spec.otherCaptures stream ++ platform.spools :=
    List.mem_append_left _ (LaunchSpec.mem_otherCaptures_iff.2 ⟨hother, rfl⟩)
  exact (records_launch hcan hfile hothers hlaunch).2

/-- What capture files hold when both pumps are through, in whatever order they took their turns. A
    regular file that only one stream is captured in holds all that the stream delivered. A regular
    file that both streams are captured in holds, at each place, what one of them has there, and is as
    long as the longer one. So it keeps both of them only if one is empty. -/
theorem capture_file_keeps_unshared_output (platform : Platform κ) (settings : Settings)
    (request : ExecRequest) (host : Host κ) (l : Launched) (s : Session κ)
    (reads : Stream → List Capture.Read) (turns : List (Stream × Bytes))
    (hlaunch : platform.launch request.spec (platform.prepare settings request host) = (.ok l, s))
    (hturns : Capture.Interleaves reads turns)
    (hown : ∀ stream, Capture.IsFile (request.spec.captureFile stream) →
      host.files.IsOwn (request.spec.capturePath stream) platform.spools) :
    let delivered (stream : Stream) := (Capture.delivered (reads stream)).flatten
    let read (stream : Stream) :=
      (turns.foldl Session.takeTurn s).run.host.files.read (request.spec.capturePath stream)
    (∀ stream, Capture.IsFile (request.spec.captureFile stream) →
      (Capture.IsFile (request.spec.captureFile stream.other) →
        host.files.Apart (request.spec.capturePath stream)
          (request.spec.capturePath stream.other)) →
      read stream = .ok (delivered stream)) ∧
    ∀ loc, (∀ stream, Capture.IsFile (request.spec.captureFile stream) ∧
        host.files.locateChecked (request.spec.capturePath stream) = .ok loc) →
      ∃ content, (∀ stream, read stream = .ok content) ∧ Capture.Overlaid content delivered ∧
        ((content.length = (delivered .out).length + (delivered .err).length ∧
          ∀ stream, (delivered stream).Sublist content) ↔ ∃ stream, delivered stream = []) := by
  intro delivered read
  constructor
  · intro stream hfile hapart
    have hrecords := records_launch_prepare hfile (hown stream hfile) hapart hlaunch
    have hread := (hrecords.foldl_takeTurn turns).read
    rw [List.nil_append, hturns.bytesOn_eq] at hread
    exact hread
  · intro loc hshared
    have hshares := shares_launch (fun stream => (hshared stream).1)
      (fun stream => hown stream (hshared stream).1) (fun q hq => mem_spools_of_queue? hq)
      (fun stream => (hshared stream).2) hlaunch
    obtain ⟨content, hoverlaid, hread⟩ := (hshares.foldl_takeTurn turns).exists_read
    have hdelivered : (fun stream => [] ++ Report.bytesOn stream turns) = delivered := by
      funext stream
      rw [List.nil_append, hturns.bytesOn_eq]
    rw [hdelivered] at hoverlaid
    exact ⟨content, hread, hoverlaid, hoverlaid.keeps_both_iff⟩

/-- What a command prints on each stream. -/
def outspokenBytes : Stream → Bytes
  | .out => [0x61, 0x62]
  | .err => [0x63, 0x64]

/-- The command that prints this, on standard output first. -/
def outspoken : Behaviour :=
  ⟨7, [⟨3, [⟨7, 0⟩], .print .out (outspokenBytes .out)⟩,
    ⟨4, [⟨7, 0⟩], .print .err (outspokenBytes .err)⟩], some (5, .ofExit 0)⟩

/-- A platform that knows this command only. -/
def listening : Platform Ledger :=
  ⟨4711, .empty, .ok (), fun _ _ _ _ => .ok outspoken, Ledger.control, ⟨[]⟩, .silent⟩

/-- A request for the command with its output in two files, or in one. -/
def outspokenRequest (stdoutFile stderrFile : String) : ExecRequest :=
  ⟨1, stdoutFile, stderrFile, "-", "tool", []⟩

/-- A host without files. -/
def bare : Host Ledger := ⟨⟨[], [], []⟩, .empty, false, Ledger.start [] []⟩

/-- The session in which the command is supervised. -/
def launchedOutspoken (stdoutFile stderrFile : String) : Session Ledger :=
  (listening.launch (outspokenRequest stdoutFile stderrFile).spec
    (listening.prepare .default (outspokenRequest stdoutFile stderrFile) bare)).2

theorem outspokenBytes_chunk (stream : Stream) :
    outspokenBytes stream ≠ [] ∧ (outspokenBytes stream).length ≤ Capture.bufferSize := by
  cases stream <;> decide

theorem delivered_outspokenBytes (stream : Stream) :
    Capture.delivered [.bytes (outspokenBytes stream)] = [outspokenBytes stream] := by
  have hchunks : ∀ chunk ∈ [outspokenBytes stream],
      chunk ≠ [] ∧ chunk.length ≤ Capture.bufferSize := by
    intro chunk hchunk
    rw [List.mem_singleton.1 hchunk]
    exact outspokenBytes_chunk stream
  exact Capture.delivered_map_bytes_append hchunks []

theorem isOwn_bare {p : Path} {loc : Location} (hleads : bare.files.locateChecked p = .ok loc)
    (hnone : bare.files.node? loc = none) : bare.files.IsOwn p listening.spools := by
  refine ⟨fun node hfind => ?_, fun q hq => by cases hq⟩
  obtain ⟨here, hhere, hnode⟩ := Files.find?_eq_some_iff.1 hfind
  rw [hleads] at hhere
  cases hhere
  rw [hnone] at hnode
  cases hnode

/-- The command captured in two files, and in one that is spelled in two ways. -/
theorem capture_file_keeps_unshared_output_of_two_streams :
    let turns := [(Stream.err, outspokenBytes .err), (.out, outspokenBytes .out)]
    let apart := turns.foldl Session.takeTurn (launchedOutspoken "x" "y")
    let shared := turns.foldl Session.takeTurn (launchedOutspoken "x" "./x")
    apart.run.host.files.read (Path.ofString "x") = .ok (outspokenBytes .out) ∧
      apart.run.host.files.read (Path.ofString "y") = .ok (outspokenBytes .err) ∧
      ∃ content, shared.run.host.files.read (Path.ofString "x") = .ok content ∧
        ¬(content.length = 4 ∧ ∀ stream, (outspokenBytes stream).Sublist content) := by
  intro turns apart shared
  let reads (stream : Stream) : List Capture.Read := [.bytes (outspokenBytes stream)]
  have hdelivered (stream : Stream) :
      (Capture.delivered (reads stream)).flatten = outspokenBytes stream := by
    rw [delivered_outspokenBytes, List.flatten_singleton]
  have hturns : Capture.Interleaves reads turns := by
    intro stream
    rw [delivered_outspokenBytes]
    cases stream <;> rfl
  have hx : bare.files.locateChecked (Path.ofString "x") = .ok [[0x78]] := rfl
  have hdotx : bare.files.locateChecked (Path.ofString "./x") = .ok [[0x78]] := rfl
  have hy : bare.files.locateChecked (Path.ofString "y") = .ok [[0x79]] := rfl
  have htwo : ∀ stream, Capture.IsFile ((outspokenRequest "x" "y").spec.captureFile stream) →
      bare.files.IsOwn ((outspokenRequest "x" "y").spec.capturePath stream) listening.spools := by
    rintro (_ | _) -
    · exact isOwn_bare hx rfl
    · exact isOwn_bare hy rfl
  have hone : ∀ stream, Capture.IsFile ((outspokenRequest "x" "./x").spec.captureFile stream) →
      bare.files.IsOwn ((outspokenRequest "x" "./x").spec.capturePath stream) listening.spools := by
    rintro (_ | _) -
    · exact isOwn_bare hx rfl
    · exact isOwn_bare hdotx rfl
  obtain ⟨hapart, -⟩ := capture_file_keeps_unshared_output listening .default
    (outspokenRequest "x" "y") bare ⟨outspoken, true, true⟩ (launchedOutspoken "x" "y") reads turns
    rfl hturns htwo
  obtain ⟨-, hshared⟩ := capture_file_keeps_unshared_output listening .default
    (outspokenRequest "x" "./x") bare ⟨outspoken, true, true⟩ (launchedOutspoken "x" "./x") reads
    turns rfl hturns hone
  simp only [hdelivered] at hapart hshared
  refine ⟨hapart .out (by decide) fun _ loc hleads hother => ?_,
    hapart .err (by decide) fun _ loc hleads hother => ?_, ?_⟩
  · cases hx.symm.trans hleads
    cases hy.symm.trans hother
  · cases hy.symm.trans hleads
    cases hx.symm.trans hother
  · obtain ⟨content, hread, -, hkeeps⟩ := hshared [[0x78]] fun stream => by
      cases stream
      · exact ⟨by decide, hx⟩
      · exact ⟨by decide, hdotx⟩
    refine ⟨content, hread .out, fun hboth => ?_⟩
    obtain ⟨stream, hempty⟩ := hkeeps.1 hboth
    exact (outspokenBytes_chunk stream).1 hempty

/-- The supervised command gives each pump one turn. -/
theorem supervise_outspoken {sup : Supervisor κ} (hlimit : 6 ≤ sup.timeLimit) (s : Session κ) :
    let copied := (s.takeTurn (.out, outspokenBytes .out)).takeTurn (.err, outspokenBytes .err)
    sup.supervise ⟨outspoken, true, true⟩ .toSystem s =
      (.success, sup.finish ⟨outspoken, true, true⟩ 6 .success
        (copied.log [.decided 7 .success])) := by
  intro copied
  have hdecision : sup.decision outspoken .toSystem = (6, .success) :=
    sup.decision_of_ending outspoken .toSystem rfl hlimit rfl
  have hplay (stream : Stream) (s : Session κ) : (Launched.mk outspoken true true).play s
      (.print stream (outspokenBytes stream)) = s.takeTurn (stream, outspokenBytes stream) := by
    obtain ⟨hnonempty, hlength⟩ := outspokenBytes_chunk stream
    exact Launched.play_print_of_length_le (by cases stream <;> rfl) hnonempty hlength s
  have hacts : sup.atDecision ⟨outspoken, true, true⟩ .toSystem s =
      ((Launched.mk outspoken true true).play ((Launched.mk outspoken true true).play s
        (.print .out (outspokenBytes .out))) (.print .err (outspokenBytes .err))).log
          [.decided 7 .success] :=
    sup.atDecision_of_decision ⟨outspoken, true, true⟩ .toSystem hdecision Outcome.noConfusion s
  rw [hplay .out, hplay .err] at hacts
  rw [Supervisor.supervise_eq_finish, hacts, hdecision]

/-- What the command prints first is lost if both of its streams are captured in one file, although
    the run succeeds and everything is echoed. -/
theorem shared_capture_file_loses_output :
    let run := listening.execute .default (outspokenRequest "x" "x") bare
    run.1 = .ok 0 ∧ run.2.console.out = listening.handshake ++ outspokenBytes .out ∧
      run.2.console.err = outspokenBytes .err ∧
      run.2.files.read (Path.ofString "x") = .ok (outspokenBytes .err) ∧
      ¬(outspokenBytes .out).Sublist (outspokenBytes .err) := by
  intro run
  have hlaunch : listening.launch (outspokenRequest "x" "x").spec
      (listening.prepare .default (outspokenRequest "x" "x") bare) =
        (.ok ⟨outspoken, true, true⟩, launchedOutspoken "x" "x") := rfl
  have hlimit : 6 ≤ (listening.requestSupervisor (outspokenRequest "x" "x")).timeLimit := by decide
  have hrun : run = _ := execute_of_launch rfl hlaunch
  rw [supervise_outspoken hlimit] at hrun
  rw [hrun]
  exact ⟨rfl, rfl, rfl, rfl, by decide⟩

end Platform

end Overseer
