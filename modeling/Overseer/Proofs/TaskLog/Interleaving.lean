import Mathlib.Data.Fin.VecNotation
import Mathlib.Data.List.Nodup
import Overseer.Proofs.TaskLog.Append
import Overseer.Proofs.TaskLog.History

/-!
Several writers on one log. The plan depends on what each of them adds, and not on how their lines
interleave, or on lines between them that are no entries.
-/

namespace Overseer

/-- A line that is no entry, because it is no text, or blank, or malformed. -/
def Bytes.IsNoise (line : Bytes) : Prop :=
  newline ∉ line ∧ ∀ text ∈ toString? line, ¬Entry.IsWellFormed text

instance (line : Bytes) : Decidable line.IsNoise :=
  inferInstanceAs (Decidable (_ ∧ _))

theorem TaskLog.entriesOf_noise {line : Bytes} (hline : line.IsNoise) :
    entriesOf (line ++ [Bytes.newline]) = [] := by
  rw [entriesOf_line hline.1, Option.toList_eq_nil_iff, entryOfBytes?, Option.bind_eq_none_iff]
  intro text htext
  rw [← Option.not_isSome_iff_eq_none, Entry.isSome_ofLine?_iff]
  exact hline.2 text htext

/-- What is put on a log in one write: an entry of one of several writers, or any other line. -/
inductive Deposit (n : Nat)
  | entry (writer : Fin n) (e : Entry)
  | noise (line : Bytes)
  deriving DecidableEq

namespace Deposit

variable {n : Nat}

def bytes : Deposit n → Bytes
  | entry _ e => TaskLog.record e
  | noise line => line ++ [Bytes.newline]

def recorded? : Deposit n → Option Entry
  | entry _ e => some e
  | noise _ => none

def recordedBy? (w : Fin n) : Deposit n → Option Entry
  | entry writer e => if writer = w then some e else none
  | noise _ => none

/-- Entries are added by the handles of their writers. -/
def put (log : TaskLog) (handles : Fin n → TaskLog) (files : Files) : Deposit n → Files
  | entry writer e => ((handles writer).append files e).2
  | noise line => (files.appendTo log.path (line ++ [Bytes.newline])).2

/-- Writes the entries of one writer after the other. -/
def putInTurn (handles : Fin n → TaskLog) (writes : Fin n → List Entry) (order : List (Fin n))
    (files : Files) : Files :=
  order.foldl (fun files w =>
    (writes w).foldl (fun files e => ((handles w).append files e).2) files) files

/-- The entries of each writer are as given, in their order, and all other lines are noise. -/
structure Interleave (writes : Fin n → List Entry) (deposits : List (Deposit n)) : Prop where
  entries : ∀ w, deposits.filterMap (recordedBy? w) = writes w
  noise : ∀ line, .noise line ∈ deposits → line.IsNoise

variable {writes : Fin n → List Entry} {deposits : List (Deposit n)}

theorem isWhole_bytes (d : Deposit n) : d.bytes.IsWhole := by
  cases d with
  | entry writer e => exact TaskLog.isWhole_record e
  | noise line => exact Bytes.isWhole_append_newline line

theorem Interleave.mem_iff (hdeposits : Interleave writes deposits) {w : Fin n} {e : Entry} :
    .entry w e ∈ deposits ↔ e ∈ writes w := by
  rw [← hdeposits.entries w, List.mem_filterMap]
  constructor
  · intro hmem
    exact ⟨_, hmem, if_pos rfl⟩
  · rintro ⟨d, hd, hby⟩
    cases d with
    | noise line => cases hby
    | entry writer other =>
      obtain ⟨rfl, hother⟩ := Option.ite_none_right_eq_some.1 hby
      exact Option.some.inj hother ▸ hd

theorem Interleave.entriesOf_flatMap_bytes (hdeposits : Interleave writes deposits)
    (hcanonical : ∀ w, ∀ e ∈ writes w, e.IsCanonical) :
    TaskLog.entriesOf (deposits.flatMap bytes) = deposits.filterMap recorded? := by
  have hread : ∀ d ∈ deposits, TaskLog.entriesOf d.bytes = d.recorded?.toList := by
    intro d hd
    cases d with
    | entry writer e =>
      exact TaskLog.entriesOf_record_eq_iff.2 (hcanonical writer e (hdeposits.mem_iff.1 hd))
    | noise line => exact TaskLog.entriesOf_noise (hdeposits.noise line hd)
  rw [TaskLog.entriesOf_flatMap isWhole_bytes, List.flatMap_congr hread,
    List.filterMap_eq_flatMap_toList]

/-- The entries about a process id are those of the one writer that writes about it. -/
theorem about_filterMap_recorded? {pid : String} {w : Fin n}
    (howner : ∀ v e, .entry v e ∈ deposits → e.pid = pid → v = w) :
    Entry.about pid (deposits.filterMap recorded?) =
      Entry.about pid (deposits.filterMap (recordedBy? w)) := by
  unfold Entry.about
  rw [List.filter_filterMap, List.filter_filterMap]
  refine List.filterMap_congr fun d hd => ?_
  cases d with
  | noise line => rfl
  | entry v e =>
    by_cases hpid : e.pid = pid
    · rw [howner v e hd hpid]
      simp [recorded?, recordedBy?]
    · by_cases hv : v = w <;> simp [recorded?, recordedBy?, hv, hpid]

theorem filterMap_recordedBy?_map (w v : Fin n) (es : List Entry) :
    (es.map (entry v)).filterMap (recordedBy? w) = if v = w then es else [] := by
  rw [List.filterMap_map]
  by_cases hv : v = w
  · have hown : recordedBy? w ∘ entry v = some := funext fun e => if_pos hv
    rw [if_pos hv, hown, List.filterMap_some]
  · rw [if_neg hv, List.filterMap_eq_nil_iff]
    exact fun e _ => if_neg hv

theorem interleave_inTurn (writes : Fin n → List Entry) {order : List (Fin n)}
    (hnodup : order.Nodup) (hall : ∀ w, w ∈ order) :
    Interleave writes (order.flatMap fun w => (writes w).map (entry w)) := by
  constructor
  case entries =>
    intro w
    have hothers {vs : List (Fin n)} (hvs : w ∉ vs) :
        vs.flatMap (fun v => if v = w then writes v else []) = [] := by
      rw [List.flatMap_eq_nil_iff]
      intro v hv
      exact if_neg (ne_of_mem_of_not_mem hv hvs)
    obtain ⟨before, after, horder⟩ := List.append_of_mem (hall w)
    rw [horder, List.nodup_middle, List.nodup_cons, List.mem_append, not_or] at hnodup
    rw [List.filterMap_flatMap]
    simp only [filterMap_recordedBy?_map]
    rw [horder, List.flatMap_append, List.flatMap_cons, hothers hnodup.1.1, hothers hnodup.1.2,
      if_pos rfl, List.nil_append, List.append_nil]
  case noise =>
    intro line hline
    simp at hline

theorem Interleave.about_of_mem (hdeposits : Interleave writes deposits)
    (howner : ∀ v w, ∀ e ∈ writes v, ∀ e' ∈ writes w, e.pid = e'.pid → v = w) {w : Fin n}
    {e : Entry} (he : e ∈ writes w) :
    Entry.about e.pid (deposits.filterMap recorded?) = Entry.about e.pid (writes w) := by
  rw [about_filterMap_recorded? (w := w), hdeposits.entries]
  intro v e' hmem hpid
  exact howner v w e' (hdeposits.mem_iff.1 hmem) e he hpid

theorem Interleave.about_of_forall_ne (hdeposits : Interleave writes deposits) {pid : String}
    (hpid : ∀ w, ∀ e ∈ writes w, e.pid ≠ pid) :
    Entry.about pid (deposits.filterMap recorded?) = [] := by
  rw [Entry.about, List.filter_eq_nil_iff]
  intro e he hsame
  obtain ⟨d, hd, hread⟩ := List.mem_filterMap.1 he
  cases d with
  | noise line => cases hread
  | entry w written =>
    obtain rfl := Option.some.inj hread
    exact hpid w written (hdeposits.mem_iff.1 hd) (of_decide_eq_true hsame)

theorem filterMap_recorded?_inTurn (writes : Fin n → List Entry) (order : List (Fin n)) :
    (order.flatMap fun w => (writes w).map (entry w)).filterMap recorded? =
      order.flatMap writes := by
  rw [List.filterMap_flatMap]
  refine List.flatMap_congr fun w _ => ?_
  have hread : recorded? ∘ entry w = some := rfl
  rw [List.filterMap_map, hread, List.filterMap_some]

/-- What interleaved lines say about a process id depends only on what each writer adds. -/
theorem Interleave.about_eq {other : List (Deposit n)} (hdeposits : Interleave writes deposits)
    (hother : Interleave writes other)
    (howner : ∀ v w, ∀ e ∈ writes v, ∀ e' ∈ writes w, e.pid = e'.pid → v = w) (pid : String) :
    Entry.about pid (deposits.filterMap recorded?) =
      Entry.about pid (other.filterMap recorded?) := by
  by_cases hwritten : ∃ w, ∃ e ∈ writes w, e.pid = pid
  · obtain ⟨w, e, he, rfl⟩ := hwritten
    rw [hdeposits.about_of_mem howner he, hother.about_of_mem howner he]
  · have hpid : ∀ w, ∀ e ∈ writes w, e.pid ≠ pid := fun w e he hsame => hwritten ⟨w, e, he, hsame⟩
    rw [hdeposits.about_of_forall_ne hpid, hother.about_of_forall_ne hpid]

def path (log : TaskLog) (handles : Fin n → TaskLog) : Deposit n → Path
  | entry writer _ => (handles writer).path
  | noise _ => log.path

theorem put_eq (log : TaskLog) (handles : Fin n → TaskLog) (files : Files) (d : Deposit n) :
    d.put log handles files = (files.appendTo (d.path log handles) d.bytes).2 := by
  cases d with
  | entry writer e => exact TaskLog.snd_append (handles writer) files e
  | noise line => rfl

theorem putInTurn_eq (log : TaskLog) (handles : Fin n → TaskLog) (writes : Fin n → List Entry)
    (order : List (Fin n)) (files : Files) :
    putInTurn handles writes order files =
      (order.flatMap fun w => (writes w).map (entry w)).foldl (put log handles) files := by
  rw [putInTurn, List.foldl_flatMap]
  simp only [List.foldl_map]
  rfl

variable {log : TaskLog} {files : Files} {content : Bytes} {executable : Bool}
  {handles : Fin n → TaskLog}

/-- A log of whole lines that takes interleaved lines replays with the entries among them. -/
theorem Interleave.replay_eq (hdeposits : Interleave writes deposits)
    (hfind : files.find? log.path = some (.file content executable)) (hwhole : content.IsWhole)
    (hplace : ∀ w, files.locateChecked (handles w).path = files.locateChecked log.path)
    (hcanonical : ∀ w, ∀ e ∈ writes w, e.IsCanonical) :
    log.replay (deposits.foldl (put log handles) files) =
      .ok (Liveness.ofEntries (TaskLog.entriesOf content ++ deposits.filterMap recorded?)) := by
  have hall : ∀ d : Deposit n, files.locateChecked (d.path log handles) =
      files.locateChecked log.path := by
    intro d
    cases d with
    | entry writer e => exact hplace writer
    | noise line => rfl
  have hput := Files.find?_foldl_appendTo hfind
    (deposits.map fun d => (d.path log handles, d.bytes)) (List.forall_mem_map.2 fun d _ => hall d)
  simp only [List.foldl_map, List.flatMap_map, ← put_eq] at hput
  rw [TaskLog.replay_of_entries (TaskLog.entries_of_find? hput), TaskLog.entriesOf_append hwhole,
    hdeposits.entriesOf_flatMap_bytes hcanonical]

end Deposit

/-- However the lines of several writers interleave on a log, each writing about process ids of its
    own, and whatever noise stands between them, the plan is as if the writers had written one
    after the other. Then the log is read as it was written. -/
theorem TaskLog.plan_of_interleaving {n : Nat} {log : TaskLog} {files : Files} {content : Bytes}
    {executable : Bool} (hfind : files.find? log.path = some (.file content executable))
    (hwhole : content.IsWhole) {handles : Fin n → TaskLog}
    (hplace : ∀ w, files.locateChecked (handles w).path = files.locateChecked log.path)
    {writes : Fin n → List Entry} (hcanonical : ∀ w, ∀ e ∈ writes w, e.IsCanonical)
    (howner : ∀ v w, ∀ e ∈ writes v, ∀ e' ∈ writes w, e.pid = e'.pid → v = w)
    {deposits : List (Deposit n)} (hdeposits : Deposit.Interleave writes deposits)
    {order : List (Fin n)} (hnodup : order.Nodup) (hall : ∀ w, w ∈ order) :
    ∃ interleaved inTurn,
      log.replay (deposits.foldl (Deposit.put log handles) files) = .ok interleaved ∧
      log.replay (Deposit.putInTurn handles writes order files) = .ok inTurn ∧
      interleaved.plan = inTurn.plan ∧
      inTurn = Liveness.ofEntries (entriesOf content ++ order.flatMap writes) := by
  have hturn := Deposit.interleave_inTurn writes hnodup hall
  rw [Deposit.putInTurn_eq log, ← Deposit.filterMap_recorded?_inTurn]
  refine ⟨_, _, hdeposits.replay_eq hfind hwhole hplace hcanonical,
    hturn.replay_eq hfind hwhole hplace hcanonical, ?_, rfl⟩
  have hsame (pid : String) := hdeposits.about_eq hturn howner pid
  rw [Liveness.plan, Liveness.plan, Liveness.live_ofEntries_congr]
  intro pid
  rw [Entry.about_append, Entry.about_append, hsame]

/-- Two writers by different paths, among lines that are no text, blank, and without a marker. -/
theorem TaskLog.plan_of_interleaving_two :
    let log := ofPath (Path.ofString "log")
    let content := Bytes.ofString "31\t+\tscancel\n"
    let files : Files := ⟨[([Bytes.ofString "log"], .file content false)], [], []⟩
    let handles : Fin 2 → TaskLog := ![log, ofPath (Path.ofString "./log")]
    let writes : Fin 2 → List Entry :=
      ![[.start "7" none, .finish "7", .start "7" none], [.start "out" (some "rm")]]
    let deposits : List (Deposit 2) :=
      [.entry 0 (.start "7" none), .noise [0xFF], .entry 1 (.start "out" (some "rm")), .noise [],
        .entry 0 (.finish "7"), .noise (Bytes.ofString "9\t?"), .entry 0 (.start "7" none)]
    files.find? log.path = some (.file content false) ∧ content.IsWhole ∧
      (∀ w, files.locateChecked (handles w).path = files.locateChecked log.path) ∧
      (∀ w, ∀ e ∈ writes w, e.IsCanonical) ∧
      (∀ v w, ∀ e ∈ writes v, ∀ e' ∈ writes w, e.pid = e'.pid → v = w) ∧
      Deposit.Interleave writes deposits ∧ [(1 : Fin 2), 0].Nodup ∧ (∀ w, w ∈ [(1 : Fin 2), 0]) ∧
      ∃ interleaved inTurn,
        log.replay (deposits.foldl (Deposit.put log handles) files) = .ok interleaved ∧
        log.replay (Deposit.putInTurn handles writes [1, 0] files) = .ok inTurn ∧
        interleaved.plan = inTurn.plan ∧
        inTurn = Liveness.ofEntries [.start "31" (some "scancel"), .start "out" (some "rm"),
          .start "7" none, .finish "7", .start "7" none] := by
  intro log content files handles writes deposits
  have hfind : files.find? log.path = some (.file content false) := rfl
  have hwhole : content.IsWhole := by decide +kernel
  have hplace : ∀ w, files.locateChecked (handles w).path = files.locateChecked log.path :=
    Fin.forall_fin_two.2 ⟨rfl, rfl⟩
  have hcanonical : ∀ w, ∀ e ∈ writes w, e.IsCanonical := by decide +kernel
  have howner : ∀ v w, ∀ e ∈ writes v, ∀ e' ∈ writes w, e.pid = e'.pid → v = w := by
    decide +kernel
  have hnoise : ∀ line ∈ [[0xFF], [], Bytes.ofString "9\t?"], Bytes.IsNoise line := by
    decide +kernel
  have hdeposits : Deposit.Interleave writes deposits :=
    ⟨Fin.forall_fin_two.2 ⟨rfl, rfl⟩, fun line hline =>
      hnoise line (by simpa [deposits] using hline)⟩
  have hnodup : [(1 : Fin 2), 0].Nodup := by decide
  have hall : ∀ w, w ∈ [(1 : Fin 2), 0] := by decide
  exact ⟨hfind, hwhole, hplace, hcanonical, howner, hdeposits, hnodup, hall,
    plan_of_interleaving hfind hwhole hplace hcanonical howner hdeposits hnodup hall⟩

end Overseer
