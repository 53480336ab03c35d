import Overseer.Proofs.Seal.Flushing
import Overseer.Proofs.Settings.Key
import Overseer.Settings.Load

/-!
Valid settings: what a source makes of each key, which invalid value is the one reported, and that no
key has a say in the setting of another.
-/

namespace Overseer.Settings

namespace Key

/-- What a source makes of a setting: what the given text stands for, and the default where there is
    none. -/
def Holds (key : Key) (source : Source) (value : key.Value) : Prop :=
  (∀ text, Gives source key.name text → key.Denotes text value) ∧
    (Lacks source key.name → value = key.field default)

/-- A source that gives a key a text which stands for nothing. -/
def IsInvalid (key : Key) (source : Source) : Prop :=
  ∃ text, Gives source key.name text ∧ ∀ value, ¬key.Denotes text value

/-- The keys that not every text will do for, in the order in which they are looked at. -/
def restricted : List Key :=
  [interpreterArgs, checksum, checksumIterations, checksumPause]

/-- The first key that has an invalid value. -/
def IsFirstInvalid (key : Key) (source : Source) : Prop :=
  ∃ earlier later, restricted = earlier ++ key :: later ∧ key.IsInvalid source ∧
    ∀ other ∈ earlier, ¬other.IsInvalid source

/-- Whether a name may be set to a value: a key to a blank one or to one that stands for something,
    and any other name to everything. -/
def Admits (name raw : String) : Prop :=
  ∀ key : Key, key.name = name →
    Text.trimmed raw = "" ∨ ∃ value, key.Denotes (Text.trimmed raw) value

end Key

section Source

variable {source other : Source} {settings changed : Settings} {fault : Fault} {key : Key}

namespace Key

/-- A key without a value has its default, and one with a value what that stands for. -/
theorem holds_iff {value : key.Value} :
    key.Holds source value ↔ match value? source key.name with
      | none => value = key.field default
      | some text => key.Denotes text value := by
  unfold Holds
  simp only [← value?_eq_some_iff, ← value?_eq_none_iff]
  cases value? source key.name <;> simp

theorem Holds.unique {value again : key.Value} (hvalue : key.Holds source value)
    (hagain : key.Holds source again) : value = again := by
  rw [holds_iff] at hvalue hagain
  cases hgiven : value? source key.name with
  | none =>
    rw [hgiven] at hvalue hagain
    exact hvalue.trans hagain.symm
  | some text =>
    rw [hgiven] at hvalue hagain
    exact hvalue.unique hagain

/-- Nothing but the value of the key has a say. -/
theorem holds_congr (hsame : source[key.name]? = other[key.name]?) {value : key.Value} :
    key.Holds source value ↔ key.Holds other value := by
  simp only [Holds, Gives, Lacks, hsame]

theorem isInvalid_congr (hsame : source[key.name]? = other[key.name]?) :
    key.IsInvalid source ↔ key.IsInvalid other := by
  simp only [IsInvalid, Gives, hsame]

/-- A key has a setting unless its value is invalid. -/
theorem exists_holds_iff : (∃ value, key.Holds source value) ↔ ¬key.IsInvalid source := by
  simp only [holds_iff, IsInvalid, ← value?_eq_some_iff]
  cases value? source key.name <;> simp

/-- Only some keys can have an invalid value. -/
theorem mem_restricted_of_isInvalid (hinvalid : key.IsInvalid source) : key ∈ restricted := by
  obtain ⟨text, -, hnothing⟩ := hinvalid
  cases key with
  | interpreter | taskLogFlag => exact absurd rfl (hnothing text)
  | logLevel => exact absurd rfl (hnothing (some text))
  | interpreterArgs | checksum | checksumIterations | checksumPause => decide

/-- Reading a key by its reader gives the setting, or the problem with it. -/
theorem IsReader.valueOr_eq_ok_iff {read : String → Except Problem key.Value}
    (hread : key.IsReader read) {value : key.Value} :
    valueOr source key.name (key.field default) read = .ok value ↔ key.Holds source value := by
  rw [holds_iff, valueOr]
  cases value? source key.name with
  | none => simp [eq_comm]
  | some text => exact hread.eq_ok_iff text value

/-- A key is read, or its value is invalid and the problem is about it. -/
theorem IsReader.valueOr_cases {read : String → Except Problem key.Value}
    (hread : key.IsReader read) (source : Source) :
    (∃ value, valueOr source key.name (key.field default) read = .ok value ∧
      key.Holds source value) ∨
    ∃ problem, valueOr source key.name (key.field default) read = .error problem ∧
      problem.key = key ∧ key.IsInvalid source := by
  cases hvalue : valueOr source key.name (key.field default) read with
  | ok value => exact .inl ⟨value, rfl, hread.valueOr_eq_ok_iff.1 hvalue⟩
  | error problem =>
    refine .inr ⟨problem, rfl, ?_, ?_⟩
    · rw [valueOr] at hvalue
      split at hvalue
      · cases hvalue
      · exact hread.key_eq _ _ hvalue
    · refine Classical.byContradiction fun hvalid => ?_
      obtain ⟨value, hholds⟩ := exists_holds_iff.2 hvalid
      rw [hread.valueOr_eq_ok_iff.2 hholds] at hvalue
      cases hvalue

end Key

/-- Settings are the same if they are key by key. -/
theorem eq_of_field (hsame : ∀ key : Key, key.field settings = key.field changed) :
    settings = changed := by
  obtain ⟨interpreter, args, flag, checksum, iterations, pause, level⟩ := settings
  obtain rfl : interpreter = _ := hsame .interpreter
  obtain rfl : args = _ := hsame .interpreterArgs
  obtain rfl : flag = _ := hsame .taskLogFlag
  obtain rfl : checksum = _ := hsame .checksum
  obtain rfl : iterations = _ := hsame .checksumIterations
  obtain rfl : pause = _ := hsame .checksumPause
  obtain rfl : level = _ := hsame .logLevel
  rfl

/-- The keys are read one behind the other. -/
theorem ofSource_eq (source : Source) :
    ofSource source = (do
      let args ← valueOr source (Key.name .interpreterArgs) (Key.field .interpreterArgs default)
        readArgs
      let checksum ← valueOr source (Key.name .checksum) (Key.field .checksum default) readBoolean
      let iterations ← valueOr source (Key.name .checksumIterations)
        (Key.field .checksumIterations default) readIterations
      let pause ← valueOr source (Key.name .checksumPause) (Key.field .checksumPause default)
        readPause
      return ⟨(value? source (Key.name .interpreter)).getD (Key.field .interpreter default), args,
        (value? source (Key.name .taskLogFlag)).getD (Key.field .taskLogFlag default), checksum,
        iterations, pause, value? source (Key.name .logLevel)⟩) :=
  rfl

/-- Either every key has its setting, or the first one that cannot have any is reported. -/
theorem ofSource_cases (source : Source) :
    (∃ settings, ofSource source = .ok settings ∧
      ∀ key : Key, key.Holds source (key.field settings)) ∨
    ∃ key : Key, ∃ problem, ofSource source = .error problem ∧ problem.key = key ∧
      key.IsFirstInvalid source := by
  have hvalid {key : Key} {value : key.Value} (hholds : key.Holds source value) :
      ¬key.IsInvalid source := Key.exists_holds_iff.1 ⟨value, hholds⟩
  rw [ofSource_eq]
  rcases isReader_readArgs.valueOr_cases source with
    ⟨args, hargs, hargsHold⟩ | ⟨problem, hargs, hkey, hinvalid⟩ <;> rw [hargs]
  case inr =>
    exact .inr ⟨_, problem, rfl, hkey, [], _, rfl, hinvalid, List.forall_mem_nil _⟩
  rcases isReader_readBoolean.valueOr_cases source with
    ⟨checksum, hchecksum, hchecksumHold⟩ | ⟨problem, hchecksum, hkey, hinvalid⟩ <;> rw [hchecksum]
  case inr =>
    exact .inr ⟨_, problem, rfl, hkey, [.interpreterArgs], _, rfl, hinvalid,
      by simp [hvalid hargsHold]⟩
  rcases isReader_readIterations.valueOr_cases source with
    ⟨iterations, hiterations, hiterationsHold⟩ | ⟨problem, hiterations, hkey, hinvalid⟩ <;>
    rw [hiterations]
  case inr =>
    exact .inr ⟨_, problem, rfl, hkey, [.interpreterArgs, .checksum], _, rfl, hinvalid,
      by simp [hvalid hargsHold, hvalid hchecksumHold]⟩
  rcases isReader_readPause.valueOr_cases source with
    ⟨pause, hpause, hpauseHold⟩ | ⟨problem, hpause, hkey, hinvalid⟩ <;> rw [hpause]
  case inr =>
    exact .inr ⟨_, problem, rfl, hkey, [.interpreterArgs, .checksum, .checksumIterations], _, rfl,
      hinvalid, by simp [hvalid hargsHold, hvalid hchecksumHold, hvalid hiterationsHold]⟩
  refine .inl ⟨_, rfl, fun key => ?_⟩
  cases key with
  | interpreterArgs => exact hargsHold
  | checksum => exact hchecksumHold
  | checksumIterations => exact hiterationsHold
  | checksumPause => exact hpauseHold
  | interpreter | taskLogFlag | logLevel =>
    rw [Key.holds_iff]
    split
    · next hnone => simp only [Key.field, hnone, Option.getD_none]; rfl
    · next text hsome => simp only [Key.field, Key.Denotes, hsome, Option.getD_some]

/-- Settings are read exactly if every key has its setting. -/
theorem ofSource_eq_ok_iff :
    ofSource source = .ok settings ↔ ∀ key : Key, key.Holds source (key.field settings) := by
  rcases ofSource_cases source with ⟨found, hfound, hholds⟩ | ⟨key, problem, hproblem, -, hfirst⟩
  · rw [hfound, Except.ok.injEq]
    constructor
    · rintro rfl
      exact hholds
    · exact fun hall => eq_of_field fun key => (hholds key).unique (hall key)
  · rw [hproblem]
    refine iff_of_false (by rintro ⟨⟩) fun hall => ?_
    obtain ⟨-, -, -, hinvalid, -⟩ := hfirst
    exact Key.exists_holds_iff.1 ⟨_, hall key⟩ hinvalid

theorem validate_eq_ok_iff :
    validate source = .ok settings ↔ ∀ key : Key, key.Holds source (key.field settings) := by
  rw [← ofSource_eq_ok_iff, validate]
  cases ofSource source <;> simp [Except.mapError]

/-- What is reported is about the first key with an invalid value. -/
theorem exists_isFirstInvalid_of_validate (hfault : validate source = .error fault) :
    ∃ key : Key, ∃ rest, key.IsFirstInvalid source ∧
      fault = .settings (key.name ++ " " ++ rest) := by
  rcases ofSource_cases source with ⟨found, hfound, -⟩ | ⟨key, problem, hproblem, hkey, hfirst⟩
  · rw [validate, hfound] at hfault
    cases hfault
  · rw [validate, hproblem] at hfault
    obtain ⟨rest, hmessage⟩ := problem.exists_message_eq
    cases hfault
    exact ⟨key, rest, hfirst, congrArg Fault.settings (hkey ▸ hmessage)⟩

theorem exists_validate_eq_error_iff :
    (∃ fault, validate source = .error fault) ↔ ∃ key ∈ Key.restricted, key.IsInvalid source := by
  constructor
  · rintro ⟨fault, hfault⟩
    obtain ⟨key, -, ⟨earlier, later, -, hinvalid, -⟩, -⟩ := exists_isFirstInvalid_of_validate hfault
    exact ⟨key, Key.mem_restricted_of_isInvalid hinvalid, hinvalid⟩
  · rintro ⟨key, -, hinvalid⟩
    cases hvalid : validate source with
    | error fault => exact ⟨fault, rfl⟩
    | ok settings =>
      exact absurd hinvalid (Key.exists_holds_iff.1 ⟨_, validate_eq_ok_iff.1 hvalid key⟩)

theorem exists_validate_eq_ok (hvalid : ∀ key : Key, ¬key.IsInvalid source) :
    ∃ settings, validate source = .ok settings := by
  cases hsettings : validate source with
  | ok settings => exact ⟨settings, rfl⟩
  | error fault =>
    obtain ⟨key, -, ⟨earlier, later, -, hinvalid, -⟩, -⟩ :=
      exists_isFirstInvalid_of_validate hsettings
    exact absurd hinvalid (hvalid key)

/-- Settings from two sources agree where the sources do. -/
theorem field_eq_of_getElem?_eq (hsettings : validate source = .ok settings)
    (hchanged : validate other = .ok changed) (hsame : source[key.name]? = other[key.name]?) :
    key.field settings = key.field changed := by
  have hholds := validate_eq_ok_iff.1 hsettings key
  rw [Key.holds_congr hsame] at hholds
  exact hholds.unique (validate_eq_ok_iff.1 hchanged key)

/-- Valid settings stay valid, and the same but for one, when a name is set to what it admits. -/
theorem exists_validate_insert (hsettings : validate source = .ok settings) {name raw : String}
    (hadmits : Key.Admits name raw) :
    ∃ changed, validate (source.insert name raw) = .ok changed ∧
      ∀ key : Key, key.name ≠ name → key.field changed = key.field settings := by
  have helsewhere (key : Key) (hname : key.name ≠ name) :
      (source.insert name raw)[key.name]? = source[key.name]? := by
    rw [Std.TreeMap.getElem?_insert, if_neg]
    exact fun hsame => hname (Std.compare_eq_iff_eq.1 hsame).symm
  have hvalid (key : Key) : ¬key.IsInvalid (source.insert name raw) := by
    by_cases hname : key.name = name
    · rintro ⟨text, ⟨given, hgiven, rfl, hne⟩, hnothing⟩
      rw [hname, Std.TreeMap.getElem?_insert_self] at hgiven
      obtain rfl := Option.some.inj hgiven
      rcases hadmits key hname with hblank | ⟨value, hvalue⟩
      · exact hne hblank
      · exact hnothing value hvalue
    · rw [Key.isInvalid_congr (helsewhere key hname)]
      exact Key.exists_holds_iff.1 ⟨_, validate_eq_ok_iff.1 hsettings key⟩
  obtain ⟨changed, hchanged⟩ := exists_validate_eq_ok hvalid
  exact ⟨changed, hchanged, fun key hname =>
    field_eq_of_getElem?_eq hchanged hsettings (helsewhere key hname)⟩

/-- Valid settings make the gate look once at least. -/
theorem checksumIterations_pos (hsettings : validate source = .ok settings) :
    0 < settings.checksumIterations := by
  have hholds := Key.holds_iff.1 (validate_eq_ok_iff.1 hsettings .checksumIterations)
  split at hholds
  · have hdefault : settings.checksumIterations = 100 := hholds
    omega
  · exact hholds.2.1

end Source

/-- Settings are refused exactly if one of four keys has a value that stands for nothing, and the
    first such key is named. Otherwise every setting is what the value of its key stands for, or the
    default where the key is absent or blank. So no other name has a say in it: settings from two
    sources agree where the sources do, and a name may be set to anything that it admits without any
    other setting changing. The gate of an agent with valid settings looks at a script at least
    once. -/
theorem settings_are_validated_key_by_key :
    (∀ source, (∃ fault, validate source = .error fault) ↔
      ∃ key ∈ Key.restricted, key.IsInvalid source) ∧
    (∀ source fault, validate source = .error fault → ∃ key : Key, ∃ rest,
      key.IsFirstInvalid source ∧ fault = .settings (key.name ++ " " ++ rest)) ∧
    (∀ source settings, validate source = .ok settings ↔
      ∀ key : Key, key.Holds source (key.field settings)) ∧
    (∀ source settings other changed, validate source = .ok settings →
      validate other = .ok changed → ∀ key : Key, source[key.name]? = other[key.name]? →
        key.field settings = key.field changed) ∧
    (∀ source settings name raw, validate source = .ok settings → Key.Admits name raw →
      ∃ changed, validate (source.insert name raw) = .ok changed ∧
        ∀ key : Key, key.name ≠ name → key.field changed = key.field settings) ∧
    ∀ source settings, validate source = .ok settings → 0 < settings.checksumIterations ∧
      ∀ looks, Readiness.passes settings.checksumIterations looks = true ↔
        ∃ i < settings.checksumIterations, ∃ content, looks i = some content ∧
          Seal.verify content = true :=
  ⟨fun _ => exists_validate_eq_error_iff, fun _ _ => exists_isFirstInvalid_of_validate,
    fun _ _ => validate_eq_ok_iff, fun _ _ _ _ hsettings hchanged _ hsame =>
      field_eq_of_getElem?_eq hsettings hchanged hsame,
    fun _ _ _ _ hsettings hadmits => exists_validate_insert hsettings hadmits,
    fun _ _ hsettings => ⟨checksumIterations_pos hsettings, fun _ => Readiness.passes_eq_true_iff⟩⟩

/-- Words in any case, a sign and zeros, a blank value, and a name that is no key. Of two invalid
    values the first is reported. -/
theorem settings_are_validated_key_by_key_in_mixed_source :
    let source : Source := (∅ : Source).insert "interpreter_args" " -cp 'a b' "
      |>.insert "checksum" "oFF" |>.insert "checksum_iterations" "+007"
      |>.insert "log_level" "  " |>.insert "colour" "1 0"
    let settings : Settings := ⟨"java", ["-cp", "a b"], "-pid", false, 7, 10, none⟩
    let broken := source.insert "checksum_sleep_ms" "soon" |>.insert "checksum" "maybe"
    validate source = .ok settings ∧ Key.checksum.Holds source false ∧ 0 < 7 ∧
      (∃ changed, validate (source.insert "checksum_sleep_ms" " 5") = .ok changed ∧
        changed.interpreterArgs = ["-cp", "a b"]) ∧
      validate broken = .error (.settings "checksum must be a boolean (got 'maybe')") ∧
      ∃ key : Key, key.IsFirstInvalid broken := by
  intro source settings broken
  obtain ⟨-, hfirst, hholds, -, hinsert, hgate⟩ := settings_are_validated_key_by_key
  have hsettings : validate source = .ok settings := by rfl
  have hbroken : validate broken =
    .error (.settings "checksum must be a boolean (got 'maybe')") := by rfl
  have hadmits : Key.Admits "checksum_sleep_ms" " 5" := by
    intro key hkey
    obtain rfl : key = .checksumPause := by
      revert hkey
      cases key <;> decide
    exact .inr ⟨(5 : Nat), readPause_eq_ok_iff.1 (by rfl)⟩
  obtain ⟨changed, hchanged, hothers⟩ := hinsert _ _ _ _ hsettings hadmits
  obtain ⟨key, rest, hkey, -⟩ := hfirst _ _ hbroken
  exact ⟨hsettings, (hholds _ _).1 hsettings .checksum, (hgate _ _ hsettings).1,
    ⟨changed, hchanged, hothers .interpreterArgs (by decide)⟩, hbroken, key, hkey⟩

end Overseer.Settings
