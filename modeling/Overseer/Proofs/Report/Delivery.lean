import Overseer.Capture
import Overseer.Proofs.Report.Conservation

/-!
Reports of copied output: no message is too long as long as task id and outcome are not, and a queue
that accepts every message holds the output of both streams in full, with the outcome at the end.
-/

namespace Overseer.Report

variable {σ : Type}

/-- What a chunk can add to a message leaves room for a task id and an outcome. -/
theorem Message.not_isTooLong {m : Message}
    (hbytes : m.out.length + m.err.length ≤ threshold + Capture.bufferSize)
    (hlength : (Bytes.ofString m.task).length +
      (Text.Base64.encode (Bytes.ofString m.exit)).length ≤ 240000) : ¬m.IsTooLong := by
  have hthreshold : threshold = 1024 := rfl
  have hbuffer : Capture.bufferSize = 8192 := rfl
  have hmax : maxLength = 256000 := rfl
  rw [IsTooLong, length_encode]
  rw [Text.Base64.length_encode] at hlength
  omega

/-- Keeps every message. -/
def keep : Transport (List Bytes) := fun message kept => (true, kept ++ [message])

theorem foldl_keep (messages : List Message) (kept : List Bytes) :
    messages.foldl (fun kept m => (keep m.encode kept).2) kept =
      kept ++ messages.map Message.encode := by
  induction messages generalizing kept with
  | nil => simp
  | cons m later ih =>
    rw [List.foldl_cons, ih, keep, List.map_cons, List.append_assoc, List.singleton_append]

namespace Reporter

theorem formed_append (transport : Transport σ) (earlier later : List Request) (r : Reporter)
    (state : σ) :
    r.formed (earlier ++ later) =
      r.formed earlier ++ (serveAll transport earlier r state).1.formed later := by
  induction earlier generalizing r state with
  | nil => rfl
  | cons request rest ih =>
    rw [List.cons_append, formed, formed, serveAll_cons, ih, List.cons_append]

theorem exists_request_of_mem_formed {requests : List Request} {r : Reporter} {m : Message}
    (hheld : r.held ≤ threshold) (hm : m ∈ (r.formed requests).reduceOption) :
    ∃ request ∈ requests, m.task = r.task ∧ m.exit = request.exitField ∧
      m.out.length + m.err.length ≤
        threshold + (request.given .out).length + (request.given .err).length := by
  induction requests generalizing r with
  | nil => cases hm
  | cons request later ih =>
    rw [reduceOption_formed_cons, List.mem_append] at hm
    rcases hm with hnow | hlater
    · rcases r.handle_cases request with
        ⟨n, hformed, htask, hexit, hpart, -⟩ | ⟨stream, bytes, -, hformed, -⟩
      · rw [hformed, Option.toList_some, List.mem_singleton] at hnow
        subst hnow
        have hout := congrArg List.length (hpart .out)
        have herr := congrArg List.length (hpart .err)
        have hboth : (r.part .out).length + (r.part .err).length ≤ threshold := hheld
        rw [List.length_append] at hout herr
        refine ⟨request, List.mem_cons_self .., htask, hexit, ?_⟩
        change (m.part .out).length + (m.part .err).length ≤ _
        omega
      · rw [hformed] at hnow
        cases hnow
    · obtain ⟨found, hfound, htask, hrest⟩ := ih (r.held_handle_le request) hlater
      rw [task_handle] at htask
      exact ⟨found, List.mem_cons_of_mem _ hfound, htask, hrest⟩

/-- Requests that hand in no more than a chunk each lead to messages that are handed over. -/
theorem not_isTooLong_of_mem_formed {task : String} {requests : List Request} {m : Message}
    (hgiven : ∀ request ∈ requests,
      (request.given .out).length + (request.given .err).length ≤ Capture.bufferSize)
    (hlength : ∀ request ∈ requests, (Bytes.ofString task).length +
      (Text.Base64.encode (Bytes.ofString request.exitField)).length ≤ 240000)
    (hm : m ∈ ((start task).formed requests).reduceOption) : ¬m.IsTooLong := by
  have hempty : (start task).held ≤ threshold := Nat.zero_le _
  obtain ⟨request, hrequest, htask, hexit, hbytes⟩ := exists_request_of_mem_formed hempty hm
  have hchunk := hgiven request hrequest
  apply Message.not_isTooLong
  · omega
  · rw [htask, hexit]
    exact hlength request hrequest

theorem part_handle_exit (r : Reporter) (text : String) (stream : Stream) :
    (r.handle (.exit text)).2.part stream = [] := by
  rw [handle, flush_eq]
  split <;> cases stream <;> rfl

end Reporter

/-- The requests by which chunks are handed in as they are copied. -/
def Request.ofTurns (turns : List (Stream × Bytes)) : List Request :=
  turns.map fun turn => .append turn.1 turn.2

/-- The bytes of one stream among those that are copied. -/
def bytesOn (stream : Stream) (turns : List (Stream × Bytes)) : Bytes :=
  turns.flatMap fun turn => if turn.1 = stream then turn.2 else []

theorem flatMap_given_ofTurns (stream : Stream) (turns : List (Stream × Bytes)) :
    (Request.ofTurns turns).flatMap (Request.given stream) = bytesOn stream turns := by
  rw [Request.ofTurns, List.flatMap_map]
  rfl

/-- Kept messages that tell the whole output and the outcome: together they carry all bytes of each
    stream, and the last of them, and no other, carries the outcome. -/
def Tells (kept : List Bytes) (output : Stream → Bytes) (outcome : String) : Prop :=
  ∃ earlier last, kept.mapM Message.decode? = some (earlier ++ [last]) ∧
    (∀ stream, (earlier ++ [last]).flatMap (·.part stream) = output stream) ∧
    (∀ m ∈ earlier, m.exit = "") ∧ last.exit = outcome

theorem forall_mem_ofTurns_exit {task outcome : String} {turns : List (Stream × Bytes)}
    (hturns : ∀ turn ∈ turns, turn.2.length ≤ Capture.bufferSize)
    (hlength : (Bytes.ofString task).length +
      (Text.Base64.encode (Bytes.ofString outcome)).length ≤ 240000) :
    ∀ request ∈ Request.ofTurns turns ++ [.exit outcome],
      (request.given .out).length + (request.given .err).length ≤ Capture.bufferSize ∧
        (Bytes.ofString task).length +
          (Text.Base64.encode (Bytes.ofString request.exitField)).length ≤ 240000 := by
  intro request hrequest
  rcases List.mem_append.1 hrequest with hturn | hexit
  · obtain ⟨⟨stream, bytes⟩, hmem, rfl⟩ := List.mem_map.1 hturn
    have hbound : bytes.length ≤ Capture.bufferSize := hturns _ hmem
    have hnothing : (Text.Base64.encode (Bytes.ofString "")).length = 0 := by
      rw [Text.Base64.length_encode]
      rfl
    constructor
    · cases stream <;> simpa [Request.given] using hbound
    · rw [Request.exitField, hnothing]
      omega
  · rw [List.mem_singleton] at hexit
    subst hexit
    exact ⟨Nat.zero_le _, hlength⟩

/-- Chunks that are handed in as they are copied, and the outcome behind them, are told in full, and
    no message is dropped. -/
theorem Reporter.serveAll_ofTurns_exit {task outcome : String} {turns : List (Stream × Bytes)}
    (hturns : ∀ turn ∈ turns, turn.2.length ≤ Capture.bufferSize)
    (hlength : (Bytes.ofString task).length +
      (Text.Base64.encode (Bytes.ofString outcome)).length ≤ 240000) :
    let served := serveAll keep (Request.ofTurns turns ++ [.exit outcome]) (start task) []
    served.1.dropped = 0 ∧ Tells served.2 (fun stream => bytesOn stream turns) outcome := by
  intro served
  set requests := Request.ofTurns turns ++ [.exit outcome] with hrequests
  set copied := (serveAll keep (Request.ofTurns turns) (start task) []).1
  set earlier := ((start task).formed (Request.ofTurns turns)).reduceOption
  have hmessages : ((start task).formed requests).reduceOption =
      earlier ++ [copied.message outcome] := by
    rw [hrequests, formed_append keep _ _ (start task) [], List.reduceOption_append]
    rfl
  have hshort : ∀ m ∈ earlier ++ [copied.message outcome], ¬m.IsTooLong := by
    intro m hm
    rw [← hmessages] at hm
    have hsmall := forall_mem_ofTurns_exit hturns hlength
    exact not_isTooLong_of_mem_formed (fun request hrequest => (hsmall request hrequest).1)
      (fun request hrequest => (hsmall request hrequest).2) hm
  have hkept : served.2 = (earlier ++ [copied.message outcome]).map Message.encode := by
    have hsent := snd_serveAll keep requests (start task) []
    rw [hmessages, List.filter_eq_self.2 (by simpa using hshort), foldl_keep,
      List.nil_append] at hsent
    exact hsent
  refine ⟨?_, earlier, copied.message outcome, ?_, fun stream => ?_, fun m hm => ?_, rfl⟩
  · have hdropped := dropped_serveAll keep requests (start task) []
    rw [hmessages, List.countP_eq_zero.2 (by simpa using hshort)] at hdropped
    exact hdropped
  · rw [hkept]
    exact Text.Base64.mapM_map_eq_some fun m _ => Message.decode?_encode m
  · have hparts := part_serveAll keep requests (start task) [] stream
    have hnothing : served.1.part stream = [] := by
      have hsplit := serveAll_append keep (Request.ofTurns turns) [.exit outcome] (start task) []
      have hlast : served.1 = (copied.handle (.exit outcome)).2 := congrArg Prod.fst hsplit
      rw [hlast, part_handle_exit]
    have hstart : (start task).part stream = [] := by
      cases stream <;> rfl
    have hgiven : requests.flatMap (Request.given stream) = bytesOn stream turns := by
      rw [hrequests, List.flatMap_append, flatMap_given_ofTurns, List.flatMap_singleton,
        Request.given, List.append_nil]
    rw [hmessages, hnothing, List.append_nil, hstart, List.nil_append, hgiven] at hparts
    exact hparts
  · have hempty : (start task).held ≤ threshold := Nat.zero_le _
    obtain ⟨request, hrequest, -, hexit, -⟩ := exists_request_of_mem_formed hempty hm
    obtain ⟨turn, -, rfl⟩ := List.mem_map.1 hrequest
    exact hexit

end Overseer.Report
