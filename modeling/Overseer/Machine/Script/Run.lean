import Overseer.Machine.Script.Pipeline

/-!
Carrying out commands. One step does what a command asks for, given a way to carry out the commands
within it; a run takes steps to a bounded depth, and beyond that counts as never ending.
-/

namespace Overseer.Machine.Script

/-- Carries out a compound command with its redirections. -/
def runRedirected (run : Runner) (line : Nat) (body : Command) (rs : List Redirect) (sh : Shell) :
    Shell × Flow :=
  let (targets, before) := expandTargets run rs { sh with final := false, line }
  unlessHalted before fun before =>
    let (ok, inner) := redirectAll targets (setAside before)
    if ok then
      let (inner, flow) := run body inner
      putBack before targets inner flow
    else checked (putBack before targets (inner.setStatus Shell.errorStatus) .finished)

/-- Carries out a command whose failure ends nothing. -/
def runCondition (run : Runner) (body : Command) (sh : Shell) : Shell × Flow :=
  let (inner, flow) := run body { sh with tested := true, final := false }
  ({ inner with tested := sh.tested }, flow)

/-- A loop is taken to be endless after this many turns. -/
def maxTurns : Nat := 20000

/-- Takes turns of a loop. -/
def runTurns (run : Runner) (whileFails : Bool) (condition body : Command) (last : Nat) :
    Nat → Shell → Shell × Flow
  | 0, sh => (sh, .endless)
  | turns + 1, sh =>
    let further (sh : Shell) : Shell × Flow :=
      runTurns run whileFails condition body sh.status turns sh
    let (sh, flow) := runCondition run condition sh
    match flow with
    | .left n => (sh, if n ≤ 1 then .finished else .left (n - 1))
    | .again n => if n ≤ 1 then further sh else (sh, .again (n - 1))
    | .finished =>
      if (sh.status == 0) == whileFails then (sh.setStatus last, .finished)
      else
        let (sh, flow) := run body sh
        match flow with
        | .finished => further sh
        | .left n => (sh, if n ≤ 1 then .finished else .left (n - 1))
        | .again n => if n ≤ 1 then further sh else (sh, .again (n - 1))
        | flow => (sh, flow)
    | flow => (sh, flow)

/-- Takes one turn for each value. -/
def runEach (run : Runner) (name : String) (body : Command) : List String → Shell → Shell × Flow
  | [], sh => (sh, .finished)
  | value :: rest, sh =>
    unlessHalted (sh.assign name value) fun sh =>
      let (sh, flow) := run body sh
      match flow with
      | .finished => runEach run name body rest sh
      | .left n => (sh, if n ≤ 1 then .finished else .left (n - 1))
      | .again n =>
        if n ≤ 1 then runEach run name body rest sh else (sh, .again (n - 1))
      | flow => (sh, flow)

/-- Does something within a loop. -/
def inLoop (sh : Shell) (f : Shell → Shell × Flow) : Shell × Flow :=
  let (inner, flow) := f { sh with loops := sh.loops + 1 }
  ({ inner with loops := sh.loops }, flow)

/-- Whether one of several patterns fits a text. -/
def anyFits (run : Runner) (text : String) : List Word → Shell → Bool × Shell
  | [], sh => (false, sh)
  | w :: rest, sh =>
    let (pattern, sh) := expandPattern run w sh
    if sh.halted.isNone ∧ pattern.fits text.toList then (true, sh) else anyFits run text rest sh

/-- Carries out the first alternative that fits a text. -/
def runSelected (run : Runner) (final : Bool) (text : String) :
    List (List Word × Command) → Shell → Shell × Flow
  | [], sh => (sh.setStatus 0, .finished)
  | (patterns, body) :: rest, sh =>
    let (found, sh) := anyFits run text patterns sh
    unlessHalted sh fun sh =>
      if found then run body { sh with status := 0, final }
      else runSelected run final text rest sh

/-- Carries out one command, the commands within it by the given runner. Where it ends with one of
    them, that one is the last thing to do whenever the whole command is. -/
def step (run : Runner) : Command → Shell → Shell × Flow
  | .nothing, sh => (sh, .finished)
  | .simple line assignments words rs, sh => runSimple run line assignments words rs sh
  | .redirected line body rs, sh => runRedirected run line body rs sh
  | .subshell line body rs, sh => runSubshell run line body rs sh
  | .sequence first second, sh =>
    let (inner, flow) := run first { sh with final := false }
    if flow = .finished then run second { inner with final := sh.final } else (inner, flow)
  | .both first second, sh =>
    let (inner, flow) := runCondition run first sh
    if flow = .finished ∧ inner.status = 0 then run second { inner with final := sh.final }
    else (inner, flow)
  | .either first second, sh =>
    let (inner, flow) := runCondition run first sh
    if flow = .finished ∧ inner.status ≠ 0 then run second { inner with final := sh.final }
    else (inner, flow)
  | .choose condition yes no, sh =>
    let (inner, flow) := runCondition run condition sh
    if flow ≠ .finished then (inner, flow)
    else
      let chosen := if inner.status = 0 then yes else no
      run chosen { inner with status := 0, final := sh.final }
  | .select line subject alternatives, sh =>
    let (text, inner) := expandText run subject { sh with final := false, line }
    unlessHalted inner fun inner => runSelected run sh.final text alternatives inner
  | .pipe first second, sh => runPipeline run (first :: stages second) sh
  | .negate body, sh =>
    let (sh, flow) := runCondition run body sh
    (if flow = .finished then sh.setStatus (if sh.status = 0 then 1 else 0) else sh, flow)
  | .background body, sh => runBeside run body sh
  | .loop whileFails condition body, sh =>
    inLoop { sh with final := false } fun sh =>
      runTurns run whileFails condition body 0 maxTurns sh
  | .each line name words body, sh =>
    let (values, sh) := match words with
      | some words => expandAll run words { sh with final := false, line }
      | none => (sh.parameters, { sh with final := false, line })
    unlessHalted sh fun sh => inLoop (sh.setStatus 0) fun sh => runEach run name body values sh
  | .define name body, sh =>
    ({ sh with functions := (name, body) :: sh.functions, status := 0 }, .finished)

/-- Commands are nested no deeper than this. -/
def maxDepth : Nat := 1000

/-- Carries out a command to a bounded depth, and attends to the signals that came in. -/
def run : Nat → Runner
  | 0 => fun _ sh => (sh, .endless)
  | depth + 1 => fun command sh =>
    let (inner, flow) := step (run depth) command sh
    Builtin.attend (run depth) { inner with tested := sh.tested, final := false } flow

end Overseer.Machine.Script
