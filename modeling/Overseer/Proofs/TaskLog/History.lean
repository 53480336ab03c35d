import Mathlib.Data.List.Induction
import Overseer.TaskLog.Replay

/-!
What a list of entries says about one process id, and that a replay knows just this: the standing of
a process id depends on the entries about it and on their order, and on no other entries.
-/

namespace Overseer

namespace Entry

/-- The entries about one process id, in their order. -/
def about (pid : String) (es : List Entry) : List Entry :=
  es.filter (·.pid = pid)

def lastAbout? (pid : String) (es : List Entry) : Option Entry :=
  (about pid es).getLast?

def startCleanup? (e : Entry) : Option String :=
  if e.marker = .started then e.cleanup else none

/-- The cleanup command of the last start of a process id that carries one. -/
def lastCleanup? (pid : String) (es : List Entry) : Option String :=
  ((about pid es).filterMap startCleanup?).getLast?

theorem about_cons_of_eq {pid : String} {e : Entry} (hpid : e.pid = pid) (later : List Entry) :
    about pid (e :: later) = e :: about pid later :=
  List.filter_cons_of_pos (by simpa using hpid)

theorem about_cons_of_ne {pid : String} {e : Entry} (hpid : e.pid ≠ pid) (later : List Entry) :
    about pid (e :: later) = about pid later :=
  List.filter_cons_of_neg (by simpa using hpid)

theorem about_append (pid : String) (es later : List Entry) :
    about pid (es ++ later) = about pid es ++ about pid later :=
  List.filter_append _ _

end Entry

/-- The standing of a process id after one more entry about it. -/
def Standing.next (s? : Option Standing) (e : Entry) : Option Standing :=
  match e.marker with
  | .started => some ⟨true, e.cleanup.or (s?.bind Standing.cleanup)⟩
  | .finished => s?.map fun s => { s with live := false }

namespace Liveness

/-- An entry changes the standing of its own process id and no other. -/
theorem getElem?_standings_apply (l : Liveness) (e : Entry) (pid : String) :
    (l.apply e).standings[pid]? =
      if e.pid = pid then Standing.next l.standings[pid]? e else l.standings[pid]? := by
  by_cases hpid : e.pid = pid
  · subst hpid
    rw [if_pos rfl]
    cases hmarker : e.marker with
    | started => simp [apply, Standing.next, hmarker]
    | finished =>
      cases hknown : l.standings[e.pid]? <;> simp [apply, Standing.next, hmarker, hknown]
  · rw [if_neg hpid]
    cases hmarker : e.marker with
    | started => simp [apply, hmarker, Std.TreeMap.getElem?_insert, hpid]
    | finished =>
      cases hknown : l.standings[e.pid]? <;>
        simp [apply, hmarker, hknown, Std.TreeMap.getElem?_insert, hpid]

theorem getElem?_standings_foldl_apply (l : Liveness) (es : List Entry) (pid : String) :
    (es.foldl apply l).standings[pid]? =
      (Entry.about pid es).foldl Standing.next l.standings[pid]? := by
  induction es generalizing l with
  | nil => rfl
  | cons e later ih =>
    rw [List.foldl_cons, ih, getElem?_standings_apply]
    by_cases hpid : e.pid = pid
    · rw [if_pos hpid, Entry.about_cons_of_eq hpid, List.foldl_cons]
    · rw [if_neg hpid, Entry.about_cons_of_ne hpid]

theorem getElem?_standings_ofEntries (es : List Entry) (pid : String) :
    (ofEntries es).standings[pid]? = (Entry.about pid es).foldl Standing.next none := by
  rw [ofEntries, getElem?_standings_foldl_apply, empty, Std.TreeMap.getElem?_emptyc]

end Liveness

namespace Standing

/-- After any entries about a process id, it is live if the last of them is a start, and its cleanup
    command is that of the last start that carries one. -/
theorem foldl_next_none (es : List Entry) :
    ((es.foldl next none).any live = true ↔
        ∃ e, es.getLast? = some e ∧ e.marker = .started) ∧
      (es.foldl next none).bind cleanup = (es.filterMap Entry.startCleanup?).getLast? := by
  induction es using List.reverseRecOn with
  | nil => simp
  | append_singleton earlier e ih =>
    obtain ⟨-, hcleanup⟩ := ih
    rw [List.foldl_append, List.foldl_cons, List.foldl_nil, List.getLast?_concat,
      List.filterMap_append, List.getLast?_append, ← hcleanup]
    generalize earlier.foldl next none = s?
    cases hmarker : e.marker with
    | started =>
      cases hgiven : e.cleanup with
      | none => simp [next, Entry.startCleanup?, hmarker, hgiven]
      | some command => simp [next, Entry.startCleanup?, hmarker, hgiven]
    | finished => cases s? <;> simp [next, Entry.startCleanup?, hmarker]

end Standing

namespace Liveness

theorem isLive_ofEntries_iff {es : List Entry} {pid : String} :
    (ofEntries es).isLive pid = true ↔
      ∃ e, Entry.lastAbout? pid es = some e ∧ e.marker = .started := by
  rw [Entry.lastAbout?, ← (Standing.foldl_next_none (Entry.about pid es)).1, isLive,
    getElem?_standings_ofEntries]
  cases (Entry.about pid es).foldl Standing.next none <;> simp

/-- What a replay lists of a standing. -/
theorem mem_live_iff {l : Liveness} {pid : String} {cleanup : Option String} :
    (pid, cleanup) ∈ l.live ↔ l.standings[pid]? = some ⟨true, cleanup⟩ := by
  rw [live, List.mem_filterMap]
  constructor
  · rintro ⟨⟨known, s⟩, hs, hlive⟩
    rw [Std.TreeMap.mem_toList_iff_getElem?_eq_some] at hs
    obtain ⟨alive, command⟩ := s
    cases alive with
    | false => simp at hlive
    | true =>
      obtain ⟨rfl, rfl⟩ : known = pid ∧ command = cleanup := by simpa using hlive
      exact hs
  · intro hs
    exact ⟨(pid, ⟨true, cleanup⟩), Std.TreeMap.mem_toList_iff_getElem?_eq_some.2 hs, rfl⟩

theorem getElem?_standings_eq_iff {l : Liveness} {pid : String} {cleanup : Option String} :
    l.standings[pid]? = some ⟨true, cleanup⟩ ↔
      l.isLive pid = true ∧ l.standings[pid]?.bind Standing.cleanup = cleanup := by
  rw [isLive]
  cases l.standings[pid]? with
  | none => simp
  | some s =>
    obtain ⟨alive, command⟩ := s
    simp

/-- A live process id stands in the list of a replay with the cleanup command of its last start that
    carries one. -/
theorem mem_live_ofEntries_iff {es : List Entry} {pid : String} {cleanup : Option String} :
    (pid, cleanup) ∈ (ofEntries es).live ↔
      (ofEntries es).isLive pid = true ∧ Entry.lastCleanup? pid es = cleanup := by
  rw [mem_live_iff, getElem?_standings_eq_iff, getElem?_standings_ofEntries,
    (Standing.foldl_next_none (Entry.about pid es)).2, Entry.lastCleanup?]

theorem mem_livePids_iff {l : Liveness} {pid : String} :
    pid ∈ l.livePids ↔ l.isLive pid = true := by
  rw [livePids, List.mem_map]
  constructor
  · rintro ⟨⟨known, cleanup⟩, hmem, rfl⟩
    exact (getElem?_standings_eq_iff.1 (mem_live_iff.1 hmem)).1
  · intro hlive
    exact ⟨(pid, _), mem_live_iff.2 (getElem?_standings_eq_iff.2 ⟨hlive, rfl⟩), rfl⟩

theorem pairwise_lt_livePids (l : Liveness) : l.livePids.Pairwise (· < ·) := by
  have hkeys : l.standings.toList.Pairwise fun a b => a.1 < b.1 := by
    refine Std.TreeMap.ordered_keys_toList.imp ?_
    intro a b hlt
    exact compareOfLessAndEq_eq_lt.1 hlt
  rw [livePids, List.pairwise_map, live, List.pairwise_filterMap]
  refine hkeys.imp ?_
  rintro ⟨pid, s⟩ ⟨other, t⟩ hlt listed hlisted otherListed hotherListed
  obtain ⟨-, rfl⟩ : s.live = true ∧ (pid, s.cleanup) = listed := by simpa using hlisted
  obtain ⟨-, rfl⟩ : t.live = true ∧ (other, t.cleanup) = otherListed := by simpa using hotherListed
  exact hlt

/-- Replays of entries that say the same about every process id have the same live process ids with
    the same cleanup commands. -/
theorem live_ofEntries_congr {es others : List Entry}
    (hsame : ∀ pid, Entry.about pid es = Entry.about pid others) :
    (ofEntries es).live = (ofEntries others).live := by
  have hstandings (pid : String) :
      (ofEntries es).standings[pid]? = (ofEntries others).standings[pid]? := by
    rw [getElem?_standings_ofEntries, getElem?_standings_ofEntries, hsame]
  rw [live, live, (Std.TreeMap.Equiv.of_forall_constGet?_eq hstandings).toList_eq]

end Liveness

end Overseer
