import Mathlib.Data.List.ReduceOption
import Overseer.Proofs.Report.Message
import Overseer.Report.Reporter

/-!
What becomes of the bytes that a reporter is given: they are all in the messages that it forms or
still held back, in order and each on its own stream, whatever happens to the messages.
-/

namespace Overseer.Report

variable {σ : Type}

/-- What a message carries of one stream. -/
def Message.part (m : Message) : Stream → Bytes
  | .out => m.out
  | .err => m.err

namespace Request

/-- The bytes of one stream that a request hands in. -/
def given (stream : Stream) : Request → Bytes
  | append other bytes => if other = stream then bytes else []
  | flush | exit _ => []

/-- The exit field of the message that a request leads to. -/
def exitField : Request → String
  | exit text => text
  | append _ _ | flush => ""

end Request

namespace Reporter

/-- What is held back of one stream. -/
def part (r : Reporter) : Stream → Bytes
  | .out => r.out
  | .err => r.err

/-- The messages that requests make a reporter form, one place for every request. -/
def formed (r : Reporter) : List Request → List (Option Message)
  | [] => []
  | request :: later => r.formed? request :: (r.handle request).2.formed later

/-- Carries out requests one after the other. -/
def serveAll (transport : Transport σ) (requests : List Request) (r : Reporter) (state : σ) :
    Reporter × σ :=
  requests.foldl (fun served request => served.1.serve transport request served.2) (r, state)

theorem part_hold (r : Reporter) (stream other : Stream) (bytes : Bytes) :
    (r.hold stream bytes).part other = r.part other ++ Request.given other (.append stream bytes) := by
  cases stream <;> cases other <;> simp [hold, part, Request.given]

/-- A flush empties the reporter. The message goes out, or counts as dropped. -/
theorem flush_eq (r : Reporter) (exit : String) :
    r.flush exit = if (r.message exit).IsTooLong then (none, ⟨r.task, [], [], r.dropped + 1⟩)
      else (some (r.message exit).encode, ⟨r.task, [], [], r.dropped⟩) := rfl

/-- A request either forms a message of all that is held back and was handed in, or hands in bytes
    that are held back. -/
theorem handle_cases (r : Reporter) (request : Request) :
    (∃ m, r.formed? request = some m ∧ m.task = r.task ∧ m.exit = request.exitField ∧
        (∀ stream, m.part stream = r.part stream ++ request.given stream) ∧
        r.handle request = if m.IsTooLong then (none, ⟨r.task, [], [], r.dropped + 1⟩)
          else (some m.encode, ⟨r.task, [], [], r.dropped⟩)) ∨
      ∃ stream bytes, request = .append stream bytes ∧ r.formed? request = none ∧
        r.handle request = (none, r.hold stream bytes) ∧
        (r.hold stream bytes).held ≤ threshold := by
  cases request with
  | append stream bytes =>
    by_cases hmany : (r.hold stream bytes).held > threshold
    · refine .inl ⟨(r.hold stream bytes).message "", ?_, ?_, rfl, fun other => ?_, ?_⟩
      · rw [formed?, if_pos hmany]
      · cases stream <;> rfl
      · rw [← part_hold]
        cases other <;> rfl
      · rw [handle, append, if_pos hmany, flush_eq]
        cases stream <;> rfl
    · refine .inr ⟨stream, bytes, rfl, ?_, ?_, Nat.not_lt.1 hmany⟩
      · rw [formed?, if_neg hmany]
      · rw [handle, append, if_neg hmany]
  | flush =>
    refine .inl ⟨r.message "", rfl, rfl, rfl, fun other => ?_, flush_eq r ""⟩
    rw [Request.given, List.append_nil]
    cases other <;> rfl
  | exit text =>
    refine .inl ⟨r.message text, rfl, rfl, rfl, fun other => ?_, flush_eq r text⟩
    rw [Request.given, List.append_nil]
    cases other <;> rfl

theorem held_handle_le (r : Reporter) (request : Request) :
    (r.handle request).2.held ≤ threshold := by
  rcases r.handle_cases request with ⟨m, -, -, -, -, hhandle⟩ | ⟨stream, bytes, -, -, hhandle, hheld⟩
  · rw [hhandle]
    split <;> exact Nat.zero_le _
  · rw [hhandle]
    exact hheld

theorem task_handle (r : Reporter) (request : Request) : (r.handle request).2.task = r.task := by
  rcases r.handle_cases request with ⟨m, -, -, -, -, hhandle⟩ | ⟨stream, bytes, -, -, hhandle, -⟩
  · rw [hhandle]
    split <;> rfl
  · rw [hhandle]
    cases stream <;> rfl

/-- What was held back and is handed in is in the message or held back afterwards. -/
theorem part_handle (r : Reporter) (request : Request) (stream : Stream) :
    (r.formed? request).toList.flatMap (·.part stream) ++ (r.handle request).2.part stream =
      r.part stream ++ request.given stream := by
  rcases r.handle_cases request with
    ⟨m, hformed, -, -, hpart, hhandle⟩ | ⟨other, bytes, rfl, hformed, hhandle, -⟩
  · have hempty : (r.handle request).2.part stream = [] := by
      rw [hhandle]
      split <;> cases stream <;> rfl
    rw [hformed, hempty, List.append_nil, Option.toList_some, List.flatMap_singleton]
    exact hpart stream
  · rw [hformed, hhandle, Option.toList_none, List.flatMap_nil, List.nil_append]
    exact part_hold r other stream bytes

theorem dropped_handle (r : Reporter) (request : Request) :
    (r.handle request).2.dropped =
      r.dropped + (r.formed? request).toList.countP fun m => m.IsTooLong := by
  rcases r.handle_cases request with
    ⟨m, hformed, -, -, -, hhandle⟩ | ⟨stream, bytes, -, hformed, hhandle, -⟩
  · rw [hformed, hhandle, Option.toList_some, List.countP_singleton]
    by_cases hlong : m.IsTooLong <;> simp [hlong]
  · rw [hformed, hhandle]
    cases stream <;> rfl

/-- A message is handed over once, unless it is too long. -/
theorem snd_serve (transport : Transport σ) (r : Reporter) (request : Request) (state : σ) :
    (r.serve transport request state).2 =
      ((r.formed? request).toList.filter fun m => ¬m.IsTooLong).foldl
        (fun state m => (transport m.encode state).2) state := by
  rcases r.handle_cases request with
    ⟨m, hformed, -, -, -, hhandle⟩ | ⟨stream, bytes, -, hformed, hhandle, -⟩
  · rw [serve, hformed, hhandle]
    by_cases hlong : m.IsTooLong <;> simp [hlong]
  · rw [serve, hformed, hhandle]
    rfl

theorem reduceOption_formed_cons (r : Reporter) (request : Request) (later : List Request) :
    (r.formed (request :: later)).reduceOption =
      (r.formed? request).toList ++ ((r.handle request).2.formed later).reduceOption := by
  rw [formed]
  cases r.formed? request with
  | none => rw [List.reduceOption_cons_of_none]; rfl
  | some m => rw [List.reduceOption_cons_of_some]; rfl

theorem serveAll_cons (transport : Transport σ) (request : Request) (later : List Request)
    (r : Reporter) (state : σ) :
    serveAll transport (request :: later) r state =
      serveAll transport later (r.handle request).2 (r.serve transport request state).2 := rfl

theorem serveAll_append (transport : Transport σ) (earlier later : List Request) (r : Reporter)
    (state : σ) :
    serveAll transport (earlier ++ later) r state =
      serveAll transport later (serveAll transport earlier r state).1
        (serveAll transport earlier r state).2 := by
  rw [serveAll, List.foldl_append]
  rfl

/-- A reporter that holds back no more than the threshold never does. -/
theorem held_serveAll_le (transport : Transport σ) (requests : List Request) {r : Reporter}
    (hheld : r.held ≤ threshold) (state : σ) :
    (serveAll transport requests r state).1.held ≤ threshold := by
  induction requests generalizing r state with
  | nil => exact hheld
  | cons request later ih =>
    rw [serveAll_cons]
    exact ih (r.held_handle_le request) _

theorem part_serveAll (transport : Transport σ) (requests : List Request) (r : Reporter) (state : σ)
    (stream : Stream) :
    (r.formed requests).reduceOption.flatMap (·.part stream) ++
        (serveAll transport requests r state).1.part stream =
      r.part stream ++ requests.flatMap (Request.given stream) := by
  induction requests generalizing r state with
  | nil => simp [formed, serveAll]
  | cons request later ih =>
    rw [reduceOption_formed_cons, serveAll_cons, List.flatMap_append, List.append_assoc, ih,
      ← List.append_assoc, part_handle, List.append_assoc, List.flatMap_cons]

theorem dropped_serveAll (transport : Transport σ) (requests : List Request) (r : Reporter)
    (state : σ) :
    (serveAll transport requests r state).1.dropped =
      r.dropped + (r.formed requests).reduceOption.countP fun m => m.IsTooLong := by
  induction requests generalizing r state with
  | nil => rfl
  | cons request later ih =>
    rw [reduceOption_formed_cons, serveAll_cons, ih, dropped_handle, List.countP_append,
      Nat.add_assoc]

theorem snd_serveAll (transport : Transport σ) (requests : List Request) (r : Reporter)
    (state : σ) :
    (serveAll transport requests r state).2 =
      ((r.formed requests).reduceOption.filter fun m => ¬m.IsTooLong).foldl
        (fun state m => (transport m.encode state).2) state := by
  induction requests generalizing r state with
  | nil => rfl
  | cons request later ih =>
    rw [reduceOption_formed_cons, serveAll_cons, ih, snd_serve, List.filter_append,
      List.foldl_append]

/-- Every request has its place, and what it forms has the exit field that it asks for. -/
theorem forall₂_formed (r : Reporter) (requests : List Request) :
    List.Forall₂ (fun request message =>
      (∀ m ∈ message, m.task = r.task ∧ m.exit = request.exitField) ∧
        (message = none → ∃ stream bytes, request = .append stream bytes))
      requests (r.formed requests) := by
  induction requests generalizing r with
  | nil => exact .nil
  | cons request later ih =>
    have hlater := ih (r.handle request).2
    rw [task_handle] at hlater
    refine .cons ?_ hlater
    rcases r.handle_cases request with
      ⟨m, hformed, htask, hexit, -⟩ | ⟨stream, bytes, hrequest, hformed, -⟩
    · rw [hformed]
      refine ⟨fun n hn => ?_, fun hnone => nomatch hnone⟩
      obtain rfl := Option.some.inj hn
      exact ⟨htask, hexit⟩
    · rw [hformed]
      refine ⟨fun n hn => ?_, fun _ => ⟨stream, bytes, hrequest⟩⟩
      cases hn

/-- Whatever a reporter is asked to do, and whichever messages are accepted: every message comes back
    from what is sent; the bytes of each stream are in the messages or still held back, in order; a
    text handed in as the outcome is the exit field of the message that it leads to, and all other
    exit fields are empty; messages are handed over once and in order, but for those that are too
    long, and these are counted. No more than the threshold is ever held back. -/
theorem serveAll_conserves (transport : Transport σ) (task : String) (requests : List Request)
    (state : σ) :
    let formed := (start task).formed requests
    let served := serveAll transport requests (start task) state
    (formed.reduceOption.map Message.encode).mapM Message.decode? = some formed.reduceOption ∧
      (∀ stream, formed.reduceOption.flatMap (·.part stream) ++ served.1.part stream =
        requests.flatMap (Request.given stream)) ∧
      List.Forall₂ (fun request message =>
        (∀ m ∈ message, m.task = task ∧ m.exit = request.exitField) ∧
          (message = none → ∃ stream bytes, request = .append stream bytes)) requests formed ∧
      served.2 = (formed.reduceOption.filter fun m => m.encode.length ≤ 256000).foldl
        (fun state m => (transport m.encode state).2) state ∧
      served.1.dropped = formed.reduceOption.countP (fun m => 256000 < m.encode.length) ∧
      ∀ n, (serveAll transport (requests.take n) (start task) state).1.held ≤ 1024 := by
  intro formed served
  have hparts (stream : Stream) := part_serveAll transport requests (start task) state stream
  have hnothing (stream : Stream) : (start task).part stream = [] := by
    cases stream <;> rfl
  have hempty : (start task).held ≤ threshold := Nat.zero_le _
  refine ⟨Text.Base64.mapM_map_eq_some fun m _ => Message.decode?_encode m, fun stream => ?_,
    forall₂_formed (start task) requests, ?_, ?_, fun n => ?_⟩
  · rw [hparts, hnothing, List.nil_append]
  · have hsent := snd_serveAll transport requests (start task) state
    rw [hsent]
    congr 1
    refine List.filter_congr fun m _ => ?_
    simp [Message.IsTooLong, maxLength]
  · have hdropped := dropped_serveAll transport requests (start task) state
    rw [hdropped]
    exact Nat.zero_add _
  · exact held_serveAll_le transport (requests.take n) hempty state

end Reporter

end Overseer.Report
