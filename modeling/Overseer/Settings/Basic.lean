import Overseer.Fault
import Overseer.Path
import Overseer.Settings.Source
import Overseer.Text.Numeral
import Overseer.Text.Words

/-!
The agent's settings: their defaults, and how they are read from a source. Every key is optional; a
blank value counts as absent.
-/

namespace Overseer

structure Settings where
  /-- The program that runs a workflow. -/
  interpreter : String
  /-- Its arguments in front of the task-log flag. -/
  interpreterArgs : List String
  /-- The flag that introduces the path of the task log. -/
  taskLogFlag : String
  /-- Whether generated scripts are held back until they are complete. -/
  checksum : Bool
  /-- How often a script is looked at. -/
  checksumIterations : Nat
  /-- Milliseconds between two looks. -/
  checksumPause : Nat
  logLevel : Option String
  deriving DecidableEq, Repr

namespace Settings

/-- In an interpreter argument, this stands for the agent's own path. -/
def placeholder : String := "\x7bexe\x7d"

def default : Settings where
  interpreter := "java"
  interpreterArgs := ["-Xmx2G", "-cp", placeholder, "org.bds.Bds"]
  taskLogFlag := "-pid"
  checksum := true
  checksumIterations := 100
  checksumPause := 10
  logLevel := none

/-- Why a source holds no valid settings. -/
inductive Problem
  | unbalancedQuotes (value : String)
  | notBoolean (value : String)
  | iterations (value : String) (fault : Text.NumeralFault)
  | noIterations
  | pause (value : String) (fault : Text.NumeralFault)
  deriving DecidableEq, Repr

namespace Problem

def message : Problem → String
  | unbalancedQuotes value => "interpreter_args has unbalanced quotes: " ++ value
  | notBoolean value => "checksum must be a boolean (got '" ++ value ++ "')"
  | iterations value fault => "checksum_iterations '" ++ value ++ "': " ++ fault.message
  | noIterations => "checksum_iterations must be >= 1 (got 0)"
  | pause value fault => "checksum_sleep_ms '" ++ value ++ "': " ++ fault.message

end Problem

/-- The trimmed value of a key, unless it is absent or blank. -/
def value? (source : Source) (key : String) : Option String :=
  (source[key]?.map Text.trimmed).filter (· ≠ "")

/-- Reads a value, if there is one, or keeps the default. -/
def valueOr {α : Type} (source : Source) (key : String) (fallback : α)
    (read : String → Except Problem α) : Except Problem α :=
  match value? source key with
  | none => .ok fallback
  | some value => read value

def readArgs (value : String) : Except Problem (List String) :=
  match Text.Words.split? value with
  | some words => .ok words
  | none => .error (.unbalancedQuotes value)

/-- Boolean words count in any letter case. -/
def readBoolean (value : String) : Except Problem Bool :=
  let word := Text.Lowercase.ofString value
  if word ∈ ["true", "yes", "1", "on"] then .ok true
  else if word ∈ ["false", "no", "0", "off"] then .ok false
  else .error (.notBoolean word)

def readIterations (value : String) : Except Problem Nat :=
  match Text.NumeralRange.uint32.read value with
  | .error fault => .error (.iterations value fault)
  | .ok n => if n = 0 then .error .noIterations else .ok n.toNat

def readPause (value : String) : Except Problem Nat :=
  match Text.NumeralRange.uint64.read value with
  | .error fault => .error (.pause value fault)
  | .ok n => .ok n.toNat

/-- Reads settings from a source. The keys are read in a fixed order, and the first invalid value
    is the one reported. -/
def ofSource (source : Source) : Except Problem Settings := do
  let interpreterArgs ←
    valueOr source "interpreter_args" default.interpreterArgs readArgs
  let checksum ← valueOr source "checksum" default.checksum readBoolean
  let checksumIterations ←
    valueOr source "checksum_iterations" default.checksumIterations readIterations
  let checksumPause ← valueOr source "checksum_sleep_ms" default.checksumPause readPause
  return {
    interpreter := (value? source "interpreter").getD default.interpreter
    interpreterArgs
    taskLogFlag := (value? source "task_log_flag").getD default.taskLogFlag
    checksum
    checksumIterations
    checksumPause
    logLevel := value? source "log_level" }

/-- Settings from a source, or the failure that the agent reports. -/
def validate (source : Source) : Except Fault Settings :=
  (ofSource source).mapError fun problem => .settings problem.message

/-- Puts a text in place of every occurrence of a pattern, from the left. -/
def replaceAll (pattern replacement : List Char) : List Char → List Char
  | [] => []
  | c :: rest =>
    if pattern.isPrefixOf (c :: rest) then
      replacement ++ replaceAll pattern replacement (rest.drop (pattern.length - 1))
    else c :: replaceAll pattern replacement rest
  termination_by cs => cs.length
  decreasing_by
    · simp only [List.length_drop, List.length_cons]; omega
    · simp

/-- The interpreter arguments with the agent's own path filled in. -/
def argsFor (settings : Settings) (exe : Path) : List String :=
  settings.interpreterArgs.map fun arg =>
    String.ofList (replaceAll placeholder.toList exe.display.toList arg.toList)

end Settings

end Overseer
