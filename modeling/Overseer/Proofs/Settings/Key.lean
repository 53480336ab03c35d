import Overseer.Proofs.Text.Lines
import Overseer.Proofs.Text.Lowercase
import Overseer.Settings.Basic

/-!
The keys of the settings: which texts they may be given, and what these stand for.
-/

namespace Overseer.Text

/-- Nothing is left of blanks, and something of everything else. -/
theorem trim_eq_nil_iff {cs : List Char} : trim cs = [] ↔ ∀ c ∈ cs, isBlank c = true := by
  constructor
  · intro hnil c hc
    refine Bool.not_eq_false _ ▸ fun hblank => ?_
    have hkept := mem_trim_of_mem hc hblank
    rw [hnil] at hkept
    cases hkept
  · intro hblank
    have hnothing := trim_append_append hblank (List.forall_mem_nil _) []
    rwa [List.append_nil, List.append_nil] at hnothing

theorem trimmed_eq_empty_iff {s : String} :
    trimmed s = "" ↔ ∀ c ∈ s.toList, isBlank c = true := by
  rw [← trim_eq_nil_iff, trimmed, ← String.toList_inj, String.toList_ofList]
  rfl

end Overseer.Text

namespace Overseer.Settings

/-- A source gives a key a text: its value without the blanks around it, if anything is left. -/
def Gives (source : Source) (name text : String) : Prop :=
  ∃ raw, source[name]? = some raw ∧ Text.trimmed raw = text ∧ text ≠ ""

/-- A source in which a key is absent or blank. -/
def Lacks (source : Source) (name : String) : Prop :=
  ∀ raw, source[name]? = some raw → ∀ c ∈ raw.toList, Text.isBlank c = true

/-- The words that stand for a truth value. -/
def booleanWords : Bool → List String
  | true => ["true", "yes", "1", "on"]
  | false => ["false", "no", "0", "off"]

/-- A word that stands for a truth value, in any letter case. -/
def IsBooleanWord (text : String) (b : Bool) : Prop :=
  ∃ word ∈ booleanWords b, text.toList.map Char.toLower = word.toList

/-- The settings, each with a key of its own. -/
inductive Key
  | interpreter
  | interpreterArgs
  | taskLogFlag
  | checksum
  | checksumIterations
  | checksumPause
  | logLevel
  deriving DecidableEq, Repr

namespace Key

/-- A key as a settings file has it. -/
def name : Key → String
  | interpreter => "interpreter"
  | interpreterArgs => "interpreter_args"
  | taskLogFlag => "task_log_flag"
  | checksum => "checksum"
  | checksumIterations => "checksum_iterations"
  | checksumPause => "checksum_sleep_ms"
  | logLevel => "log_level"

/-- What a setting holds. -/
def Value : Key → Type
  | interpreter | taskLogFlag => String
  | interpreterArgs => List String
  | checksum => Bool
  | checksumIterations | checksumPause => Nat
  | logLevel => Option String

/-- The setting itself. -/
def field : (key : Key) → Settings → key.Value
  | interpreter => Settings.interpreter
  | interpreterArgs => Settings.interpreterArgs
  | taskLogFlag => Settings.taskLogFlag
  | checksum => Settings.checksum
  | checksumIterations => Settings.checksumIterations
  | checksumPause => Settings.checksumPause
  | logLevel => Settings.logLevel

/-- What a text given for a key stands for: program and flag are taken as they are, arguments by the
    words of a command line, numbers within 32 and 64 bits. -/
def Denotes : (key : Key) → String → key.Value → Prop
  | interpreter, text, (value : String) | taskLogFlag, text, (value : String) => value = text
  | interpreterArgs, text, (words : List String) => Text.Words.split? text = some words
  | checksum, text, (b : Bool) => IsBooleanWord text b
  | checksumIterations, text, (n : Nat) => Text.IsNumeral 10 text.toList n ∧ 0 < n ∧ n < 2 ^ 32
  | checksumPause, text, (n : Nat) => Text.IsNumeral 10 text.toList n ∧ n < 2 ^ 64
  | logLevel, text, (level : Option String) => level = some text

end Key

section Source

variable {source other : Source} {name text : String}

theorem value?_eq_some_iff : value? source name = some text ↔ Gives source name text := by
  rw [value?, Option.filter_eq_some_iff, Gives]
  simp only [Option.map_eq_some_iff, decide_eq_true_eq]
  constructor
  · rintro ⟨⟨raw, hraw, htrim⟩, hne⟩
    exact ⟨raw, hraw, htrim, hne⟩
  · rintro ⟨raw, hraw, htrim, hne⟩
    exact ⟨⟨raw, hraw, htrim⟩, hne⟩

theorem value?_eq_none_iff : value? source name = none ↔ Lacks source name := by
  simp only [Option.eq_none_iff_forall_ne_some, Ne, value?_eq_some_iff, Gives, Lacks,
    ← Text.trimmed_eq_empty_iff]
  constructor
  · intro hnone raw hraw
    by_contra hne
    exact hnone _ ⟨raw, hraw, rfl, hne⟩
  · rintro hblank text ⟨raw, hraw, rfl, hne⟩
    exact hne (hblank raw hraw)

end Source

section Readers

variable {text : String}

theorem readArgs_eq_ok_iff {words : List String} :
    readArgs text = .ok words ↔ Text.Words.split? text = some words := by
  unfold readArgs
  cases Text.Words.split? text <;> simp

/-- All letters of the boolean words are the lower-case form of ASCII letters only. -/
theorem isSettled_of_mem_booleanWords : ∀ b, ∀ word ∈ booleanWords b, ∀ c ∈ word.toList,
    Text.Lowercase.IsSettled c := by
  simp [booleanWords, Text.Lowercase.IsSettled]

theorem mem_booleanWords_iff {b : Bool} :
    Text.Lowercase.ofString text ∈ booleanWords b ↔ IsBooleanWord text b := by
  constructor
  · intro hmem
    exact ⟨_, hmem, (Text.Lowercase.ofString_eq_iff (isSettled_of_mem_booleanWords b _ hmem)).1 rfl⟩
  · rintro ⟨word, hmem, hform⟩
    rwa [(Text.Lowercase.ofString_eq_iff (isSettled_of_mem_booleanWords b word hmem)).2 hform]

theorem readBoolean_eq_ok_iff {b : Bool} : readBoolean text = .ok b ↔ IsBooleanWord text b := by
  have happart : ∀ word ∈ booleanWords true, word ∉ booleanWords false := by decide
  have htrue : booleanWords true = ["true", "yes", "1", "on"] := rfl
  have hfalse : booleanWords false = ["false", "no", "0", "off"] := rfl
  rw [← mem_booleanWords_iff, readBoolean, ← htrue, ← hfalse]
  split
  · next hmem =>
    cases b with
    | true => simp [hmem]
    | false => simp [happart _ hmem]
  · next hno =>
    split
    · next hmem => cases b <;> simp [hno, hmem]
    · next hnot => cases b <;> simp [hno, hnot]

theorem read_uint32_eq_ok_iff {n : Nat} : Text.NumeralRange.uint32.read text = .ok (n : Int) ↔
    Text.IsNumeral 10 text.toList n ∧ n < 2 ^ 32 := by
  have hhi : Text.NumeralRange.uint32.hi = 0xFFFFFFFF := rfl
  rw [Text.NumeralRange.read_eq_ok_natCast_iff (by decide) (by decide) rfl (by decide)]
  exact and_congr Iff.rfl (by omega)

theorem read_uint64_eq_ok_iff {n : Nat} : Text.NumeralRange.uint64.read text = .ok (n : Int) ↔
    Text.IsNumeral 10 text.toList n ∧ n < 2 ^ 64 := by
  have hhi : Text.NumeralRange.uint64.hi = 0xFFFFFFFFFFFFFFFF := rfl
  rw [Text.NumeralRange.read_eq_ok_natCast_iff (by decide) (by decide) rfl (by decide)]
  exact and_congr Iff.rfl (by omega)

theorem readIterations_eq_ok_iff {n : Nat} : readIterations text = .ok n ↔
    Text.IsNumeral 10 text.toList n ∧ 0 < n ∧ n < 2 ^ 32 := by
  rw [and_comm (a := 0 < n), ← and_assoc, ← read_uint32_eq_ok_iff, readIterations]
  cases hread : Text.NumeralRange.uint32.read text with
  | error fault => simp
  | ok v =>
    obtain ⟨m, rfl⟩ :=
      Text.NumeralRange.exists_natCast_of_read (by decide) (by decide) rfl (by decide) hread
    dsimp only
    split
    · next hzero =>
      simp only [reduceCtorEq, Except.ok.injEq, false_iff]
      omega
    · next hpositive =>
      simp only [Except.ok.injEq, Int.toNat_natCast]
      omega

theorem readPause_eq_ok_iff {n : Nat} : readPause text = .ok n ↔
    Text.IsNumeral 10 text.toList n ∧ n < 2 ^ 64 := by
  rw [← read_uint64_eq_ok_iff, readPause]
  cases hread : Text.NumeralRange.uint64.read text with
  | error fault => simp
  | ok v =>
    obtain ⟨m, rfl⟩ :=
      Text.NumeralRange.exists_natCast_of_read (by decide) (by decide) rfl (by decide) hread
    simp

/-- The key whose value a problem is about. -/
def Problem.key : Problem → Key
  | unbalancedQuotes _ => .interpreterArgs
  | notBoolean _ => .checksum
  | iterations .. | noIterations => .checksumIterations
  | pause .. => .checksumPause

/-- A message begins with the key that it is about. -/
theorem Problem.exists_message_eq (problem : Problem) :
    ∃ rest, problem.message = problem.key.name ++ " " ++ rest := by
  have hbehind {start front : String} (hstart : ∃ rest, start = front ++ rest) (more : String) :
      ∃ rest, start ++ more = front ++ rest := by
    obtain ⟨rest, rfl⟩ := hstart
    exact ⟨rest ++ more, String.append_assoc ..⟩
  have hargs : "interpreter_args has unbalanced quotes: " =
    "interpreter_args" ++ " " ++ "has unbalanced quotes: " := by decide
  have hboolean : "checksum must be a boolean (got '" =
    "checksum" ++ " " ++ "must be a boolean (got '" := by decide
  have hiterations : "checksum_iterations '" = "checksum_iterations" ++ " " ++ "'" := by decide
  have hpause : "checksum_sleep_ms '" = "checksum_sleep_ms" ++ " " ++ "'" := by decide
  cases problem with
  | unbalancedQuotes value => exact hbehind ⟨_, hargs⟩ value
  | notBoolean value => exact hbehind (hbehind ⟨_, hboolean⟩ value) "')"
  | iterations value fault =>
    exact hbehind (hbehind (hbehind ⟨_, hiterations⟩ value) "': ") fault.message
  | noIterations => exact ⟨"must be >= 1 (got 0)", by decide⟩
  | pause value fault => exact hbehind (hbehind (hbehind ⟨_, hpause⟩ value) "': ") fault.message

/-- A reader that takes the texts which stand for something, and whose problems are about its key. -/
structure Key.IsReader (key : Key) (read : String → Except Problem key.Value) : Prop where
  eq_ok_iff : ∀ text value, read text = .ok value ↔ key.Denotes text value
  key_eq : ∀ text problem, read text = .error problem → problem.key = key

theorem isReader_readArgs : Key.IsReader .interpreterArgs readArgs := by
  refine ⟨fun text words => readArgs_eq_ok_iff, fun text problem hread => ?_⟩
  unfold readArgs at hread
  split at hread <;> cases hread
  rfl

theorem isReader_readBoolean : Key.IsReader .checksum readBoolean := by
  refine ⟨fun text b => readBoolean_eq_ok_iff, fun text problem hread => ?_⟩
  simp only [readBoolean] at hread
  split at hread
  · cases hread
  · split at hread <;> cases hread
    rfl

theorem isReader_readIterations : Key.IsReader .checksumIterations readIterations := by
  refine ⟨fun text n => readIterations_eq_ok_iff, fun text problem hread => ?_⟩
  unfold readIterations at hread
  split at hread
  · cases hread
    rfl
  · split at hread <;> cases hread
    rfl

theorem isReader_readPause : Key.IsReader .checksumPause readPause := by
  refine ⟨fun text n => readPause_eq_ok_iff, fun text problem hread => ?_⟩
  unfold readPause at hread
  split at hread <;> cases hread
  rfl

end Readers

/-- A text stands for one thing at most. -/
theorem Key.Denotes.unique {key : Key} {text : String} {value again : key.Value}
    (hvalue : key.Denotes text value) (hagain : key.Denotes text again) : value = again := by
  have hsame {read : String → Except Problem key.Value} (hread : key.IsReader read) :
      value = again := by
    have hok := (hread.eq_ok_iff text value).2 hvalue
    rw [(hread.eq_ok_iff text again).2 hagain] at hok
    exact (Except.ok.inj hok).symm
  cases key with
  | interpreter | taskLogFlag | logLevel => exact Eq.trans hvalue (Eq.symm hagain)
  | interpreterArgs => exact hsame isReader_readArgs
  | checksum => exact hsame isReader_readBoolean
  | checksumIterations => exact hsame isReader_readIterations
  | checksumPause => exact hsame isReader_readPause

end Overseer.Settings
