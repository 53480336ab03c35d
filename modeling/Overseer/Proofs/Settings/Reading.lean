import Overseer.Proofs.Settings.Line

/-!
Settings files as maps. A key has the value of the last line that sets it, lines that set nothing
count for nothing, and a map that is written line by line is read back.
-/

namespace Overseer.Settings.Source

open Text

variable {s : String} {k v : String} {ls : List (List Char)} {line : List Char}

/-- The lines of a settings file, without their line ends and without one more carriage return. -/
def fileLines (s : String) : List (List Char) :=
  (lines s.toList).map dropReturn

theorem newline_notMem_of_mem_fileLines (hline : line ∈ fileLines s) : '\n' ∉ line := by
  obtain ⟨ended, hended, rfl⟩ := List.mem_map.1 hline
  exact fun hmem => newline_notMem_of_mem_lines hended (mem_of_mem_dropReturn hmem)

/-- What settings amount to, the later ones in place of the earlier ones. -/
def ofSettings (settings : List (String × String)) : Source :=
  settings.foldl (fun source (k, v) => source.insert k v) ∅

theorem ofSettings_concat (settings : List (String × String)) (k v : String) :
    ofSettings (settings ++ [(k, v)]) = (ofSettings settings).insert k v := by
  rw [ofSettings, List.foldl_append]
  rfl

theorem ofText_eq (s : String) : ofText s = ofSettings ((fileLines s).filterMap setting?) := by
  rw [fileLines, List.filterMap_map]
  rfl

/-- The last line that sets a key sets it to this value. -/
def SetsLast (ls : List (List Char)) (k v : String) : Prop :=
  ∃ earlier line later, ls = earlier ++ line :: later ∧ Sets line k v ∧
    ∀ other ∈ later, ∀ w, ¬Sets other k w

namespace SetsLast

theorem not_nil : ¬SetsLast [] k v := by
  rintro ⟨earlier, line, later, hnil, -⟩
  cases earlier <;> cases hnil

theorem exists_mem (h : SetsLast ls k v) : ∃ line ∈ ls, Sets line k v := by
  obtain ⟨earlier, line, later, rfl, hsets, -⟩ := h
  exact ⟨line, by simp, hsets⟩

/-- A line behind the others sets the key, or leaves it to them. -/
theorem concat_iff :
    SetsLast (ls ++ [line]) k v ↔
      Sets line k v ∨ (∀ w, ¬Sets line k w) ∧ SetsLast ls k v := by
  constructor
  · rintro ⟨earlier, found, later, hls, hsets, hlater⟩
    rcases List.eq_nil_or_concat later with rfl | ⟨between, last, rfl⟩
    · obtain ⟨-, hsame⟩ := List.append_inj' hls rfl
      obtain rfl := List.singleton_inj.1 hsame
      exact .inl hsets
    · rw [List.concat_eq_append] at hls hlater
      rw [← List.cons_append, ← List.append_assoc] at hls
      obtain ⟨rfl, hsame⟩ := List.append_inj' hls rfl
      obtain rfl := List.singleton_inj.1 hsame
      exact .inr ⟨hlater line (by simp), earlier, found, between, rfl, hsets,
        fun other hother => hlater other (List.mem_append_left _ hother)⟩
  · rintro (hsets | ⟨hleaves, earlier, found, later, rfl, hsets, hlater⟩)
    · exact ⟨ls, line, [], rfl, hsets, by simp⟩
    · refine ⟨earlier, found, later ++ [line], by simp, hsets, fun other hother => ?_⟩
      rcases List.mem_append.1 hother with hmem | hsame
      · exact hlater other hmem
      · obtain rfl := List.mem_singleton.1 hsame
        exact hleaves

/-- Where lines set a key, one of them is the last. -/
theorem exists_of_mem (hline : line ∈ ls) (hsets : Sets line k v) : ∃ w, SetsLast ls k w := by
  induction ls using List.reverseRecOn with
  | nil => cases hline
  | append_singleton earlier last ih =>
    by_cases hlast : ∃ w, Sets last k w
    · obtain ⟨w, hw⟩ := hlast
      exact ⟨w, concat_iff.2 (.inl hw)⟩
    · rw [not_exists] at hlast
      have hearlier : line ∈ earlier := by
        refine (List.mem_append.1 hline).resolve_right fun hsame => ?_
        obtain rfl := List.mem_singleton.1 hsame
        exact hlast v hsets
      obtain ⟨w, hw⟩ := ih hearlier
      exact ⟨w, concat_iff.2 (.inr ⟨hlast, hw⟩)⟩

end SetsLast

/-- A key has the value that it is set to last. -/
theorem getElem?_ofSettings_filterMap :
    (ofSettings (ls.filterMap setting?))[k]? = some v ↔ SetsLast ls k v := by
  induction ls using List.reverseRecOn with
  | nil => simp [ofSettings, SetsLast.not_nil]
  | append_singleton earlier last ih =>
    rw [SetsLast.concat_iff, List.filterMap_append]
    cases hlast : setting? last with
    | none =>
      have hleaves := setting?_eq_none_iff.1 hlast
      rw [List.filterMap_cons_none hlast, List.filterMap_nil, List.append_nil, ih]
      simp [hleaves]
    | some setting =>
      obtain ⟨k', v'⟩ := setting
      have hsets := setting?_eq_some_iff.1 hlast
      rw [List.filterMap_cons_some hlast, List.filterMap_nil, ofSettings_concat,
        Std.TreeMap.getElem?_insert]
      split
      · next hk =>
        obtain rfl := Std.compare_eq_iff_eq.1 hk
        have hset : ¬∀ w, ¬Sets last k' w := fun hnone => hnone v' hsets
        rw [Option.some_inj, or_iff_left fun hleft => hset hleft.1]
        exact ⟨fun hv => hv ▸ hsets, fun hother => (hsets.unique hother).2⟩
      · next hk =>
        have hleaves : ∀ w, ¬Sets last k w :=
          fun w hother => hk (Std.compare_eq_iff_eq.2 (hsets.unique hother).1)
        simp [hleaves, ih]

theorem getElem?_ofText_eq_some_iff : (ofText s)[k]? = some v ↔ SetsLast (fileLines s) k v := by
  rw [ofText_eq, getElem?_ofSettings_filterMap]

/-- A key that comes back as it was written. -/
structure IsPlainKey (k : String) : Prop where
  nonempty : k.toList ≠ []
  trimmed : trim k.toList = k.toList
  lowercase : Lowercase.ofString k = k
  noSign : '=' ∉ k.toList
  noNewline : '\n' ∉ k.toList
  noComment : k.toList.head? ≠ some '#'

/-- A value that comes back as it was written. -/
structure IsPlainValue (v : String) : Prop where
  noNewline : '\n' ∉ v.toList
  noReturn : v.toList.getLast? ≠ some '\r'

/-- The line for a setting. -/
def lineOf (setting : String × String) : List Char :=
  setting.1.toList ++ '=' :: setting.2.toList

/-- The text of a settings file, one line for each setting. -/
def written (settings : List (String × String)) : String :=
  String.ofList (settings.flatMap fun setting => lineOf setting ++ ['\n'])

section Written

variable {settings : List (String × String)} {setting : String × String}

theorem IsPlainKey.sets (hkey : IsPlainKey k) (v : String) : Sets (lineOf (k, v)) k v := by
  refine ⟨k.toList, v.toList, rfl, hkey.noSign, ?_⟩
  rw [hkey.trimmed, String.ofList_toList, String.ofList_toList, hkey.lowercase]
  exact ⟨hkey.nonempty, hkey.noComment, rfl, rfl⟩

theorem newline_notMem_lineOf (hkey : IsPlainKey k) (hvalue : IsPlainValue v) :
    '\n' ∉ lineOf (k, v) := by
  have hkeyLine := hkey.noNewline
  have hvalueLine := hvalue.noNewline
  simp [lineOf, hkeyLine, hvalueLine]

theorem dropReturn_lineOf (hvalue : IsPlainValue v) :
    dropReturn (lineOf (k, v)) = lineOf (k, v) := by
  refine if_neg fun hreturn => ?_
  rw [lineOf, List.getLast?_append, Option.or_of_isSome (by simp), List.getLast?_cons] at hreturn
  cases hlast : v.toList.getLast? with
  | none =>
    rw [hlast] at hreturn
    cases hreturn
  | some c =>
    rw [hlast] at hreturn
    exact hvalue.noReturn (hlast.trans hreturn)

/-- Plain settings are written in lines of their own. -/
theorem fileLines_written
    (hplain : ∀ setting ∈ settings, IsPlainKey setting.1 ∧ IsPlainValue setting.2) :
    fileLines (written settings) = settings.map lineOf := by
  rw [fileLines, written, String.toList_ofList]
  induction settings with
  | nil => rfl
  | cons setting more ih =>
    obtain ⟨⟨hkey, hvalue⟩, hmore⟩ := List.forall_mem_cons.1 hplain
    rw [List.flatMap_cons, List.append_assoc, List.singleton_append,
      lines_append_newline (newline_notMem_lineOf hkey hvalue), List.map_cons, List.map_cons,
      dropReturn_lineOf hvalue, dropReturn_lineOf hvalue, ih hmore]

/-- A map that is written in any order is read back. -/
theorem ofText_written {map : Source} (horder : settings.Perm map.toList)
    (hplain : ∀ setting ∈ settings, IsPlainKey setting.1 ∧ IsPlainValue setting.2) :
    (ofText (written settings)).Equiv map := by
  have hread (k v : String) :
      (ofText (written settings))[k]? = some v ↔ SetsLast (settings.map lineOf) k v := by
    rw [getElem?_ofText_eq_some_iff, fileLines_written hplain]
  have hmap (k v : String) : (k, v) ∈ settings ↔ map[k]? = some v := by
    rw [horder.mem_iff, Std.TreeMap.mem_toList_iff_getElem?_eq_some]
  have hof (k v : String) (hlast : SetsLast (settings.map lineOf) k v) : map[k]? = some v := by
    obtain ⟨line, hline, hsets⟩ := hlast.exists_mem
    obtain ⟨⟨k', v'⟩, hmem, rfl⟩ := List.mem_map.1 hline
    obtain ⟨rfl, rfl⟩ := ((hplain _ hmem).1.sets v').unique hsets
    exact (hmap k' v').1 hmem
  refine Std.TreeMap.Equiv.of_forall_constGet?_eq fun k => Option.ext fun v => ?_
  constructor
  · exact fun hfound => hof k v ((hread k v).1 hfound)
  · intro hfound
    have hmem := (hmap k v).2 hfound
    obtain ⟨w, hlast⟩ := SetsLast.exists_of_mem (List.mem_map_of_mem hmem)
      ((hplain _ hmem).1.sets v)
    obtain rfl : v = w := Option.some.inj (hfound.symm.trans (hof k w hlast))
    exact (hread k v).2 hlast

end Written

/-- To read the lines by their form is to read them by their first equals signs: a key has the value
    of the last line that sets it, other lines may stand anywhere, and a map that was written in any
    order is read back. -/
theorem last_setting_of_key_counts :
    (∀ s, ofText s = ofSettings ((fileLines s).filterMap byForm?)) ∧
    (∀ s k v, (ofText s)[k]? = some v ↔ SetsLast (fileLines s) k v) ∧
    (∀ s t earlier noise later, fileLines s = earlier ++ noise ++ later →
      fileLines t = earlier ++ later → (∀ line ∈ noise, ∀ k v, ¬Sets line k v) →
      ofText s = ofText t) ∧
    ∀ (map : Source) (settings : List (String × String)), settings.Perm map.toList →
      (∀ setting ∈ settings, IsPlainKey setting.1 ∧ IsPlainValue setting.2) →
      (ofText (written settings)).Equiv map := by
  refine ⟨fun s => ?_, fun s k v => getElem?_ofText_eq_some_iff, ?_,
    fun map settings horder hplain => ofText_written horder hplain⟩
  · rw [ofText_eq, List.filterMap_congr fun line hline =>
      (byForm?_eq (newline_notMem_of_mem_fileLines hline)).symm]
  · intro s t earlier noise later hs ht hnoise
    have hnothing : noise.filterMap setting? = [] := by
      rw [List.filterMap_eq_nil_iff]
      exact fun line hline => setting?_eq_none_iff.2 (hnoise line hline)
    rw [ofText_eq, ofText_eq, hs, ht, List.filterMap_append, List.filterMap_append,
      List.filterMap_append, hnothing, List.append_nil]

/-- Keys differ in case, a comment looks like a setting, and lines end in carriage returns. -/
theorem last_setting_of_key_counts_in_any_case :
    (ofText "Url=first\r\n#url=comment\nurl =last \r\r\nno sign\n")["url"]? = some "last " ∧
    ofText "Url=first\r\n#url=comment\nurl =last \r\r\nno sign\n" =
      ofText "Url=first\r\nurl =last \r\r\nno sign\n" ∧
    (ofText (written [("path", "a=b"), ("name", " x")])).Equiv
      ((∅ : Source).insert "path" "a=b" |>.insert "name" " x") := by
  obtain ⟨-, hlast, hnoise, hwritten⟩ := last_setting_of_key_counts
  refine ⟨(hlast _ _ _).2 ?_, hnoise _ _ ["Url=first".toList] ["#url=comment".toList]
    ["url =last ".toList, "no sign".toList] (by decide +kernel) (by decide +kernel) ?_,
    hwritten _ _ (by decide +kernel) ?_⟩
  · refine ⟨["Url=first".toList, "#url=comment".toList], "url =last ".toList, ["no sign".toList],
      by decide +kernel, setting?_eq_some_iff.1 (by decide +kernel), ?_⟩
    rw [List.forall_mem_singleton]
    exact setting?_eq_none_iff.1 (by decide +kernel) "url"
  · rw [List.forall_mem_singleton]
    exact setting?_eq_none_iff.1 (by decide +kernel)
  · rw [List.forall_mem_cons, List.forall_mem_singleton]
    exact ⟨⟨⟨by decide, by decide, by decide +kernel, by decide, by decide, by decide⟩,
      ⟨by decide, by decide⟩⟩, ⟨by decide, by decide, by decide +kernel, by decide, by decide,
      by decide⟩, ⟨by decide, by decide⟩⟩

end Overseer.Settings.Source
