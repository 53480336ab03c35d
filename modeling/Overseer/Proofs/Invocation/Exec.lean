import Overseer.Proofs.Invocation.Mode

/-!
The exec mode: its parameters are taken by their position and as they are, but for the first
terminator, which disappears unless a child argument comes before it.
-/

namespace Overseer.Invocation

variable {parameters before after : List String} {request : ExecRequest}

theorem execParameters_eq_self (hplain : terminator ∉ parameters.take 6) :
    execParameters parameters = parameters :=
  if_neg hplain

/-- A terminator that comes before any child argument disappears. -/
theorem execParameters_append (hbefore : terminator ∉ before) (hshort : before.length < 6) :
    execParameters (before ++ terminator :: after) = before ++ after := by
  have hmem : terminator ∈ (before ++ terminator :: after).take 6 := by
    obtain ⟨room, hroom⟩ := Nat.exists_eq_add_of_lt hshort
    rw [hroom, Nat.add_assoc, List.take_length_add_append, List.take_succ_cons]
    exact List.mem_append_right _ (List.mem_cons_self ..)
  rw [execParameters, if_pos hmem, List.erase_append_right _ hbefore, List.erase_cons_head]

theorem length_execParameters_lt (hmem : terminator ∈ parameters.take 6) :
    (execParameters parameters).length < parameters.length := by
  have hmem' := List.mem_of_mem_take hmem
  rw [execParameters, if_pos hmem, List.length_erase_of_mem hmem']
  have hpositive := List.length_pos_of_mem hmem'
  omega

theorem length_execParameters_le (parameters : List String) :
    (execParameters parameters).length ≤ parameters.length := by
  by_cases hmem : terminator ∈ parameters.take 6
  · exact Nat.le_of_lt (length_execParameters_lt hmem)
  · exact Nat.le_of_eq (congrArg List.length (execParameters_eq_self hmem))

/-- A request has five parameters of its own; the others are the child's arguments. -/
theorem length_of_requestOf (hrequest : requestOf parameters = .ok request) :
    parameters.length = request.args.length + 5 := by
  unfold requestOf at hrequest
  split at hrequest
  · split at hrequest
    · cases hrequest
      rfl
    · cases hrequest
  · cases hrequest

theorem requestOf_of_length_lt (hfew : parameters.length < 5) :
    requestOf parameters = .error (.usage "Invalid number of parameters for 'exec' command") := by
  unfold requestOf
  split
  · simp only [List.length_cons] at hfew
    omega
  · rfl

variable {env : Environment} {files : Files} {name : String} {exe : Path}

theorem parse_exec (hexe : Locate.resolve env files name = .ok exe) (parameters : List String) :
    parse env files (name :: "exec" :: parameters) = (requestOf (execParameters parameters)).map
      fun request => ⟨.execute request, name :: "exec" :: parameters, exe⟩ := by
  rw [parse_of_resolve hexe]
  have hmode : parseMode ("exec" :: parameters) =
      (requestOf (execParameters parameters)).map .execute := rfl
  rw [hmode]
  cases requestOf (execParameters parameters) <;> rfl

/-- The exec mode passes the command line through exactly if no terminator stands up to the first
    child argument; the first that does disappears, and the parameters behind it move up. With fewer
    than five parameters there is no request, and a time limit that is no number is refused in the
    words it was given. -/
theorem exec_passes_parameters_through (hexe : Locate.resolve env files name = .ok exe) :
    (∀ (timeLimit out err exit command : String) (args : List String) (seconds : Int),
      Text.NumeralRange.int64.read? (Text.trimmed timeLimit) = some seconds →
        let parameters := timeLimit :: out :: err :: exit :: command :: args
        parse env files (name :: "exec" :: parameters) =
            .ok ⟨.execute ⟨seconds, out, err, exit, command, args⟩,
              name :: "exec" :: parameters, exe⟩ ↔
          terminator ∉ parameters.take 6) ∧
    (∀ parameters : List String, parameters.length < 5 →
      parse env files (name :: "exec" :: parameters) =
        .error (.usage "Invalid number of parameters for 'exec' command")) ∧
    (∀ (timeLimit out err exit command : String) (args : List String),
      Text.NumeralRange.int64.read? (Text.trimmed timeLimit) = none →
        let parameters := timeLimit :: out :: err :: exit :: command :: args
        terminator ∉ parameters.take 6 →
          parse env files (name :: "exec" :: parameters) = .error (.timeLimit timeLimit)) ∧
    ∀ before after : List String, terminator ∉ before → before.length < 6 →
      let parameters := before ++ terminator :: after
      parse env files (name :: "exec" :: parameters) = (requestOf (before ++ after)).map
        fun request => ⟨.execute request, name :: "exec" :: parameters, exe⟩ := by
  refine ⟨?_, fun parameters hfew => ?_, ?_, fun before after hbefore hshort => ?_⟩
  · intro timeLimit out err exit command args seconds hread parameters
    rw [parse_exec hexe]
    constructor
    · intro hparse hmem
      cases hrequest : requestOf (execParameters parameters) with
      | error fault =>
        rw [hrequest] at hparse
        cases hparse
      | ok request =>
        rw [hrequest] at hparse
        cases hparse
        have hsame : (execParameters parameters).length = parameters.length :=
          length_of_requestOf hrequest
        have hless := length_execParameters_lt hmem
        omega
    · intro hplain
      have hrequest : requestOf parameters = .ok ⟨seconds, out, err, exit, command, args⟩ := by
        simp only [parameters, requestOf, hread]
      rw [execParameters_eq_self hplain, hrequest]
      rfl
  · have hle := length_execParameters_le parameters
    rw [parse_exec hexe, requestOf_of_length_lt (by omega)]
    rfl
  · intro timeLimit out err exit command args hread parameters hplain
    have hrequest : requestOf parameters = .error (.timeLimit timeLimit) := by
      simp only [parameters, requestOf, hread]
    rw [parse_exec hexe, execParameters_eq_self hplain, hrequest]
    rfl
  · intro parameters
    rw [parse_exec hexe, execParameters_append hbefore hshort]

/-- Hyphens, blanks, empty texts and a terminator behind the first child argument come through. -/
theorem exec_passes_hyphens_through :
    let args := ["-la", "", "--", "-"]
    let line := "/fg" :: "exec" :: " -1 " :: "-" :: "--out" :: "" :: "ls" :: args
    Locate.resolve .empty ⟨[], [], []⟩ "/fg" = .ok (Path.ofString "/fg").clean ∧
      Text.NumeralRange.int64.read? (Text.trimmed " -1 ") = some (-1) ∧
      parse .empty ⟨[], [], []⟩ line =
        .ok ⟨.execute ⟨-1, "-", "--out", "", "ls", args⟩, line, (Path.ofString "/fg").clean⟩ := by
  intro args line
  have hexe : Locate.resolve .empty ⟨[], [], []⟩ "/fg" = .ok (Path.ofString "/fg").clean :=
    Locate.resolve_of_isAbsolute (by decide +kernel)
  have hread : Text.NumeralRange.int64.read? (Text.trimmed " -1 ") = some (-1) := by
    decide +kernel
  obtain ⟨hthrough, -⟩ := exec_passes_parameters_through hexe
  exact ⟨hexe, hread, (hthrough " -1 " "-" "--out" "" "ls" args (-1) hread).2 (by decide)⟩

/-- A terminator that is the first child argument does not reach the child. -/
theorem exec_loses_terminator :
    let line := ["/fg", "exec", "0", "-", "-", "-", "ls", "--", "x"]
    let exe := (Path.ofString "/fg").clean
    Locate.resolve .empty ⟨[], [], []⟩ "/fg" = .ok exe ∧
      Text.NumeralRange.int64.read? (Text.trimmed "0") = some 0 ∧
      parse .empty ⟨[], [], []⟩ line = .ok ⟨.execute ⟨0, "-", "-", "-", "ls", ["x"]⟩, line, exe⟩ ∧
      parse .empty ⟨[], [], []⟩ line ≠
        .ok ⟨.execute ⟨0, "-", "-", "-", "ls", ["--", "x"]⟩, line, exe⟩ := by
  intro line exe
  have hexe : Locate.resolve .empty ⟨[], [], []⟩ "/fg" = .ok exe :=
    Locate.resolve_of_isAbsolute (by decide +kernel)
  have hread : Text.NumeralRange.int64.read? (Text.trimmed "0") = some 0 := by decide +kernel
  have hrequest : requestOf (execParameters ["0", "-", "-", "-", "ls", "--", "x"]) =
      .ok ⟨0, "-", "-", "-", "ls", ["x"]⟩ := by
    have hparameters : execParameters ["0", "-", "-", "-", "ls", "--", "x"] =
        ["0", "-", "-", "-", "ls", "x"] := by decide
    simp only [hparameters, requestOf, hread]
  have hparse : parse .empty ⟨[], [], []⟩ line =
      .ok ⟨.execute ⟨0, "-", "-", "-", "ls", ["x"]⟩, line, exe⟩ := by
    rw [parse_exec hexe, hrequest]
    rfl
  refine ⟨hexe, hread, hparse, fun hthrough => ?_⟩
  rw [hparse] at hthrough
  simp at hthrough

end Overseer.Invocation
