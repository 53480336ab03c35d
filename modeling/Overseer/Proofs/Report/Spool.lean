import Overseer.Proofs.Files.Write
import Overseer.Proofs.Report.Conservation
import Overseer.Report.Queue

/-!
The spool file of a reporter: what it holds after any requests, and when its lines can be told apart
again. The task id is the one field that is written as it is, so it decides.
-/

namespace Overseer

namespace Files

/-- What a spool file holds. One that is not there yet holds nothing. -/
def spooled (files : Files) (p : Path) : Bytes :=
  (files.read p).toOption.getD []

/-- A path at which a regular file is written to: there is one, or one is made. -/
def TakesLines (files : Files) (p : Path) : Prop :=
  ∃ loc opened executable, files.openForWriting p = .ok (loc, opened) ∧
    opened.node? loc = some (.file (files.spooled p) executable)

theorem spooled_of_find? {files : Files} {p : Path} {content : Bytes} {executable : Bool}
    (hfind : files.find? p = some (.file content executable)) : files.spooled p = content := by
  have hread : files.read p = .ok content :=
    read_eq_ok_iff.2 ⟨_, hfind, Node.noConfusion, rfl⟩
  rw [spooled, hread]
  rfl

/-- It makes no difference to what is added whether a file is there already or still to be made. -/
theorem appendTo_of_openForWriting {files opened : Files} {p : Path} {loc : Location}
    {content : Bytes} {executable : Bool} (hopen : files.openForWriting p = .ok (loc, opened))
    (hnode : opened.node? loc = some (.file content executable)) (bytes : Bytes) :
    files.appendTo p bytes = opened.appendTo p bytes := by
  obtain ⟨hleads, hdiffer, -⟩ := openForWriting_cases hopen
  have hagain : opened.openForWriting p = .ok (loc, opened) :=
    openForWriting_eq (hdiffer.same.locateChecked_eq_ok_iff.2 hleads) hnode
  rw [appendTo, appendTo, hopen, hagain]

/-- Pieces that are added to a spool file stand behind what it held, in order. -/
theorem TakesLines.spooled_foldl_appendTo {files : Files} {p : Path} (htakes : files.TakesLines p)
    (pieces : List Bytes) :
    (pieces.foldl (fun files bytes => (files.appendTo p bytes).2) files).spooled p =
      files.spooled p ++ pieces.flatten := by
  obtain ⟨loc, opened, executable, hopen, hnode⟩ := htakes
  obtain ⟨hleads, hdiffer, -⟩ := openForWriting_cases hopen
  have hfind : opened.find? p = some (.file (files.spooled p) executable) :=
    find?_eq_some_iff.2 ⟨loc, hdiffer.same.locateChecked_eq_ok_iff.2 hleads, hnode⟩
  have hadded := find?_foldl_appendTo hfind (pieces.map fun bytes => (p, bytes)) fun piece hpiece => by
    obtain ⟨bytes, -, rfl⟩ := List.mem_map.1 hpiece
    rfl
  rw [List.foldl_map, List.flatMap_map, List.flatMap_id'] at hadded
  cases pieces with
  | nil => rw [List.foldl_nil, List.flatten_nil, List.append_nil]
  | cons first later =>
    rw [List.foldl_cons, appendTo_of_openForWriting hopen hnode]
    exact spooled_of_find? hadded

end Files

namespace Report

/-- The messages that a reporter hands over: all that it forms, but those that are too long. -/
def Reporter.sent (r : Reporter) (requests : List Request) : List Message :=
  (r.formed requests).reduceOption.filter fun m => ¬m.IsTooLong

/-- A message as a line of a spool file. -/
def Message.line (m : Message) : Bytes :=
  m.encode ++ [Bytes.newline]

/-- Carries out requests one after the other. -/
def Desk.handleAll (desk : Desk) (requests : List Request) (office : Office) : Desk × Office :=
  requests.foldl (fun served request => served.1.handle request served.2) (desk, office)

theorem Desk.handleAll_eq (desk : Desk) (requests : List Request) (office : Office) :
    let served := Reporter.serveAll desk.queue.send requests desk.reporter office
    desk.handleAll requests office = (⟨served.1, desk.queue⟩, served.2) := by
  induction requests generalizing desk office with
  | nil => rfl
  | cons request later ih => exact ih (desk.handle request office).1 (desk.handle request office).2

theorem Queue.files_send_spool (p : Path) (message : Bytes) (office : Office) :
    ((Queue.spool p).send message office).2.files =
      (office.files.appendTo p (message ++ [Bytes.newline])).2 := by
  dsimp only [send, post, addToSpool]
  generalize office.files.appendTo p (message ++ [Bytes.newline]) = appended
  obtain ⟨answer, files⟩ := appended
  cases answer <;> rfl

/-- A spool file gets the messages that are handed over, one behind the other. -/
theorem Desk.spooled_handleAll {desk : Desk} {p : Path} {office : Office}
    (hqueue : desk.queue = .spool p) (htakes : office.files.TakesLines p)
    (requests : List Request) :
    (desk.handleAll requests office).2.files.spooled p =
      office.files.spooled p ++ (desk.reporter.sent requests).flatMap Message.line := by
  have hfiles (messages : List Message) (office : Office) :
      (messages.foldl (fun office m => ((Queue.spool p).send m.encode office).2) office).files =
        (messages.map Message.line).foldl (fun files bytes => (files.appendTo p bytes).2)
          office.files := by
    induction messages generalizing office with
    | nil => rfl
    | cons m later ih =>
      rw [List.foldl_cons, ih, Queue.files_send_spool]
      rfl
  rw [handleAll_eq, hqueue]
  dsimp only
  rw [Reporter.snd_serveAll, hfiles, htakes.spooled_foldl_appendTo, List.flatMap_def]
  rfl

theorem Reporter.task_of_mem_sent {r : Reporter} {requests : List Request} {m : Message}
    (hm : m ∈ r.sent requests) : m.task = r.task := by
  have hformed := (List.mem_filter.1 hm).1
  clear hm
  induction requests generalizing r with
  | nil => cases hformed
  | cons request later ih =>
    rw [reduceOption_formed_cons, List.mem_append] at hformed
    rcases hformed with hnow | hlater
    · rcases r.handle_cases request with ⟨n, hn, htask, -⟩ | ⟨stream, bytes, -, hn, -⟩
      · rw [hn, Option.toList_some, List.mem_singleton] at hnow
        rw [hnow, htask]
      · rw [hn] at hnow
        cases hnow
    · rw [ih hlater, task_handle]

namespace Message

/-- Between lines nothing but the task id can break one. -/
theorem newline_mem_encode_iff (m : Message) :
    Bytes.newline ∈ m.encode ↔ '\n' ∈ m.task.toList := by
  have hencoded (bs : Bytes) : Bytes.newline ∉ Text.Base64.encode bs := by
    intro hmem
    have hlt := Text.Base64.lt_of_mem_encode hmem
    have hnewline : Bytes.newline.toNat = 10 := rfl
    omega
  have hne : Bytes.newline ≠ Bytes.tab := by decide
  rw [encode_eq]
  simp only [List.mem_append, List.mem_cons, hencoded, hne, or_false]
  exact Bytes.newline_mem_ofString_iff

theorem tab_mem_ofString_iff {s : String} : Bytes.tab ∈ Bytes.ofString s ↔ '\t' ∈ s.toList := by
  rw [Bytes.mem_ofString_iff (by decide)]
  constructor
  · rintro ⟨c, hc, hvalue⟩
    have htab : c = '\t' := Char.toNat_inj.1 hvalue
    exact htab ▸ hc
  · exact fun hmem => ⟨'\t', hmem, rfl⟩

/-- A message falls into four fields unless its task id holds a tab. -/
theorem cut_encode_eq_iff (m : Message) (out err exit : Bytes) :
    Text.cut Bytes.tab m.encode = [Bytes.ofString m.task, out, err, exit] ↔
      '\t' ∉ m.task.toList ∧ Text.Base64.encode m.out = out ∧ Text.Base64.encode m.err = err ∧
        Text.Base64.encode (Bytes.ofString m.exit) = exit := by
  rw [← tab_mem_ofString_iff, cut_encode]
  constructor
  · intro hcut
    rw [← List.singleton_append (x := Bytes.ofString m.task)] at hcut
    obtain ⟨htask, hfields⟩ := List.append_inj' hcut rfl
    refine ⟨?_, by simpa using hfields⟩
    exact Text.notMem_of_mem_cut (htask ▸ List.mem_singleton_self _)
  · rintro ⟨htab, rfl, rfl, rfl⟩
    rw [Text.cut_of_notMem htab, List.singleton_append]

end Message

/-- A spool file that can be taken apart: its lines are the messages in order, and each line has four
    fields between tabs, the task id and three that decode to what the message carries. -/
structure IsFramed (spool : Bytes) (sent : List Message) : Prop where
  lines : Bytes.lines spool = sent.map Message.encode
  fields : ∀ m ∈ sent, ∃ out err exit,
    Text.cut Bytes.tab m.encode = [Bytes.ofString m.task, out, err, exit] ∧
      Text.Base64.decode? out = some m.out ∧ Text.Base64.decode? err = some m.err ∧
      (Text.Base64.decode? exit).bind Bytes.toString? = some m.exit

/-- Every newline in a message ends a line, the one behind it too. -/
theorem lines_flatMap_line (sent : List Message) :
    Bytes.lines (sent.flatMap Message.line) =
      sent.flatMap fun m => Text.cut Bytes.newline m.encode := by
  induction sent with
  | nil => rfl
  | cons m later ih =>
    have hone : Bytes.lines m.line = Text.cut Bytes.newline m.encode := by
      have hpieces : ∀ piece ∈ Text.cut Bytes.newline m.encode, Bytes.newline ∉ piece :=
        fun _ hpiece => Text.notMem_of_mem_cut hpiece
      have hlines := Bytes.lines_flatMap_append hpieces []
      rw [← Bytes.join_append_sep (Text.cut_ne_nil _ _), Text.join_cut, List.append_nil] at hlines
      rw [Message.line, hlines]
      exact List.append_nil _
    have hwhole : m.line.IsWhole := Bytes.isWhole_append_newline m.encode
    rw [List.flatMap_cons, hwhole.lines_append, ih, hone, List.flatMap_cons]

theorem isFramed_iff {task : String} {sent : List Message} (htask : ∀ m ∈ sent, m.task = task) :
    IsFramed (sent.flatMap Message.line) sent ↔
      sent = [] ∨ '\n' ∉ task.toList ∧ '\t' ∉ task.toList := by
  have hnewline (m : Message) (hm : m ∈ sent) : Bytes.newline ∈ m.encode ↔ '\n' ∈ task.toList := by
    rw [← htask m hm]
    exact m.newline_mem_encode_iff
  constructor
  · rintro ⟨hlines, hfields⟩
    refine or_iff_not_imp_left.2 fun hsent => ?_
    obtain ⟨m, later, rfl⟩ := List.exists_cons_of_ne_nil hsent
    have hm : m ∈ m :: later := List.mem_cons_self ..
    constructor
    · rw [← hnewline m hm]
      exact Bytes.newline_notMem_of_mem_lines (hlines ▸ List.mem_map_of_mem hm)
    · obtain ⟨out, err, exit, hcut, -⟩ := hfields m hm
      rw [← htask m hm]
      exact ((m.cut_encode_eq_iff out err exit).1 hcut).1
  · rintro (rfl | ⟨hline, htab⟩)
    · exact ⟨rfl, by simp⟩
    · refine ⟨?_, fun m hm => ⟨_, _, _, (m.cut_encode_eq_iff _ _ _).2 ⟨?_, rfl, rfl, rfl⟩, ?_⟩⟩
      · rw [lines_flatMap_line, List.map_eq_flatMap]
        refine List.flatMap_congr fun m hm => ?_
        exact Text.cut_of_notMem fun hmem => hline ((hnewline m hm).1 hmem)
      · rw [htask m hm]
        exact htab
      · simp only [Text.Base64.decode?_encode, Option.bind_some, Bytes.toString?_ofString, and_self]

/-- A spool file holds the messages that are handed over, each with a newline behind it, and nothing
    else. Whatever the task id, a message can be taken apart from its end; but its lines are the
    messages, with four fields each, exactly if the task id holds neither a newline nor a tab, or
    nothing is handed over at all. -/
theorem spool_isFramed_iff {env : Environment} {desk : Desk} {p : Path} {office : Office}
    (hdesk : deskOfEnvironment? env = some desk) (hqueue : desk.queue = .spool p)
    (htakes : office.files.TakesLines p) (hempty : office.files.spooled p = [])
    (requests : List Request) :
    let task := (env.text? taskVariable).getD ""
    let sent := (Reporter.start task).sent requests
    let spool := (desk.handleAll requests office).2.files.spooled p
    spool = sent.flatMap (fun m => m.encode ++ [Bytes.newline]) ∧
      (∀ m ∈ sent, m.task = task ∧ Message.decode? m.encode = some m) ∧
      Bytes.lines spool = sent.flatMap (fun m => Text.cut Bytes.newline m.encode) ∧
      (IsFramed spool sent ↔ sent = [] ∨ '\n' ∉ task.toList ∧ '\t' ∉ task.toList) := by
  intro task sent spool
  have hreporter : desk.reporter = .start task := by
    obtain ⟨name, -, rfl⟩ := Option.map_eq_some_iff.1 hdesk
    rfl
  have hspool : spool = sent.flatMap Message.line := by
    have hadded := Desk.spooled_handleAll hqueue htakes requests
    rwa [hempty, List.nil_append, hreporter] at hadded
  have htask (m : Message) (hm : m ∈ sent) : m.task = task := Reporter.task_of_mem_sent hm
  refine ⟨hspool, fun m hm => ⟨htask m hm, Message.decode?_encode m⟩, ?_, ?_⟩
  · rw [hspool, lines_flatMap_line]
  · rw [hspool]
    exact isFramed_iff htask

theorem deskOfEnvironment?_of_text? {env : Environment} {name : String}
    (hspool : env.text? spoolVariable = some name) (hname : name ≠ "") :
    deskOfEnvironment? env =
      some ⟨.start ((env.text? taskVariable).getD ""), .spool (Path.ofString name)⟩ := by
  have hnonEmpty : env.nonEmpty? spoolVariable = some name := by
    rw [Environment.nonEmpty?, hspool]
    simp [hname]
  rw [deskOfEnvironment?, hnonEmpty]
  rfl

/-- An environment that asks for reports about a task. -/
def reporting (task : String) : Environment :=
  ⟨[(spoolVariable, Bytes.ofString "spool"), (taskVariable, Bytes.ofString task)],
    Path.ofString "/"⟩

/-- An office without any files. -/
def newOffice : Office := ⟨⟨[], [], []⟩, []⟩

theorem deskOfEnvironment?_reporting (task : String) :
    deskOfEnvironment? (reporting task) =
      some ⟨.start task, .spool (Path.ofString "spool")⟩ := by
  have htask : (reporting task).text? taskVariable = some task := Bytes.toString?_ofString task
  have hspool : (reporting task).text? spoolVariable = some "spool" :=
    Bytes.toString?_ofString "spool"
  rw [deskOfEnvironment?_of_text? hspool (by decide), htask]
  rfl

theorem takesLines_newOffice : newOffice.files.TakesLines (Path.ofString "spool") :=
  ⟨[Bytes.ofString "spool"], newOffice.files.put [Bytes.ofString "spool"] (.file [] false), false,
    rfl, rfl⟩

/-- Output and outcome of a task with a plain id, each on a line. -/
theorem spool_isFramed_plain :
    let desk : Desk := ⟨.start "job 7", .spool (Path.ofString "spool")⟩
    let requests : List Request := [.append .out [0x0A, 0x09], .flush, .exit "0"]
    let spool := (desk.handleAll requests newOffice).2.files.spooled (Path.ofString "spool")
    deskOfEnvironment? (reporting "job 7") = some desk ∧
      newOffice.files.TakesLines (Path.ofString "spool") ∧
      spool = Bytes.ofString "job 7\tCgk=\t\t\njob 7\t\t\tMA==\n" ∧
      IsFramed spool ((Reporter.start "job 7").sent requests) := by
  intro desk requests spool
  have hdesk : deskOfEnvironment? (reporting "job 7") = some desk :=
    deskOfEnvironment?_reporting "job 7"
  have htask : ((reporting "job 7").text? taskVariable).getD "" = "job 7" := by
    rw [Environment.text?]
    exact congrArg (Option.getD · "") (Bytes.toString?_ofString "job 7")
  obtain ⟨-, -, -, hframed⟩ := spool_isFramed_iff hdesk rfl takesLines_newOffice rfl requests
  rw [htask] at hframed
  exact ⟨hdesk, takesLines_newOffice, by decide +kernel, hframed.2 (.inr (by decide))⟩

/-- A newline in the task id breaks the line of a message in two. -/
theorem spool_of_newline_in_task :
    let desk : Desk := ⟨.start "a\nb", .spool (Path.ofString "spool")⟩
    let sent := (Reporter.start "a\nb").sent [.exit "0"]
    let spool := (desk.handleAll [.exit "0"] newOffice).2.files.spooled (Path.ofString "spool")
    deskOfEnvironment? (reporting "a\nb") = some desk ∧
      newOffice.files.TakesLines (Path.ofString "spool") ∧
      newOffice.files.spooled (Path.ofString "spool") = [] ∧
      Bytes.lines spool = [Bytes.ofString "a", Bytes.ofString "b\t\t\tMA=="] ∧
      sent.map Message.encode = [Bytes.ofString "a\nb\t\t\tMA=="] ∧ ¬IsFramed spool sent := by
  intro desk sent spool
  have hlines : Bytes.lines spool = [Bytes.ofString "a", Bytes.ofString "b\t\t\tMA=="] := by
    decide +kernel
  have hsent : sent.map Message.encode = [Bytes.ofString "a\nb\t\t\tMA=="] := by decide +kernel
  refine ⟨deskOfEnvironment?_reporting _, takesLines_newOffice, rfl, hlines, hsent, fun hframed => ?_⟩
  have hsame := hframed.lines
  rw [hlines, hsent] at hsame
  cases hsame

end Report

end Overseer
