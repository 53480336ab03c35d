import Mathlib.Algebra.Order.Floor.Div
import Overseer.Proofs.Text.Base64
import Overseer.Proofs.Text.Lines
import Overseer.Report.Message

/-!
Messages as they are sent: each can be taken apart again, whatever its task id, at its last three
tabs and in no other way, and its length is that of the task id, three tabs and three base-64 forms.
-/

namespace Overseer.Report.Message

theorem encode_eq (m : Message) : m.encode = Bytes.ofString m.task ++ Bytes.tab ::
    (Text.Base64.encode m.out ++ Bytes.tab :: (Text.Base64.encode m.err ++ Bytes.tab ::
      Text.Base64.encode (Bytes.ofString m.exit))) := by
  simp [encode, Text.join]

/-- A byte string that is cut at its last three tabs. -/
structure CutsAtLastTabs (bs task out err exit : Bytes) : Prop where
  eq : bs = task ++ Bytes.tab :: (out ++ Bytes.tab :: (err ++ Bytes.tab :: exit))
  out : Bytes.tab ∉ out
  err : Bytes.tab ∉ err
  exit : Bytes.tab ∉ exit

/-- The last three pieces between tabs are those behind the cuts. -/
theorem CutsAtLastTabs.cut_eq {bs task out err exit : Bytes}
    (hcuts : CutsAtLastTabs bs task out err exit) :
    Text.cut Bytes.tab bs = Text.cut Bytes.tab task ++ [out, err, exit] := by
  rw [hcuts.eq, Text.cut_append_sep, Text.cut_append_cons hcuts.out,
    Text.cut_append_cons hcuts.err, Text.cut_of_notMem hcuts.exit]

/-- There is only one way to cut. -/
theorem CutsAtLastTabs.unique {bs task out err exit task' out' err' exit' : Bytes}
    (hcuts : CutsAtLastTabs bs task out err exit)
    (hother : CutsAtLastTabs bs task' out' err' exit') :
    task = task' ∧ out = out' ∧ err = err' ∧ exit = exit' := by
  have hpieces := hcuts.cut_eq.symm.trans hother.cut_eq
  obtain ⟨htask, hfields⟩ := List.append_inj' hpieces rfl
  refine ⟨?_, by simpa using hfields⟩
  rw [← Text.join_cut Bytes.tab task, htask, Text.join_cut]

/-- The last three tabs of a message are those between its fields. -/
theorem cutsAtLastTabs_encode (m : Message) :
    CutsAtLastTabs m.encode (Bytes.ofString m.task) (Text.Base64.encode m.out)
      (Text.Base64.encode m.err) (Text.Base64.encode (Bytes.ofString m.exit)) where
  eq := encode_eq m
  out := Text.Base64.tab_notMem_encode m.out
  err := Text.Base64.tab_notMem_encode m.err
  exit := Text.Base64.tab_notMem_encode (Bytes.ofString m.exit)

theorem cut_encode (m : Message) : Text.cut Bytes.tab m.encode =
    Text.cut Bytes.tab (Bytes.ofString m.task) ++ [Text.Base64.encode m.out,
      Text.Base64.encode m.err, Text.Base64.encode (Bytes.ofString m.exit)] :=
  (cutsAtLastTabs_encode m).cut_eq

/-- A message comes back from what is sent. -/
@[simp] theorem decode?_encode (m : Message) : decode? m.encode = some m := by
  obtain ⟨first, more, hreverse⟩ := List.exists_cons_of_ne_nil
    (List.reverse_ne_nil_iff.2 (Text.cut_ne_nil Bytes.tab (Bytes.ofString m.task)))
  have htask : Text.join [Bytes.tab] (first :: more).reverse = Bytes.ofString m.task := by
    rw [← hreverse, List.reverse_reverse, Text.join_cut]
  have hpieces : (Text.cut Bytes.tab m.encode).reverse =
      Text.Base64.encode (Bytes.ofString m.exit) :: Text.Base64.encode m.err ::
        Text.Base64.encode m.out :: first :: more := by
    rw [cut_encode, List.reverse_append, hreverse]
    rfl
  rw [decode?, hpieces]
  simp only [htask, Bytes.toString?_ofString, Text.Base64.decode?_encode, Option.bind_eq_bind,
    Option.bind_some]

theorem encode_injective {m n : Message} (h : m.encode = n.encode) : m = n := by
  have hread := decode?_encode m
  rw [h, decode?_encode] at hread
  exact (Option.some.inj hread).symm

theorem length_encode (m : Message) : m.encode.length = (Bytes.ofString m.task).length + 3 +
    4 * ((m.out.length + 2) / 3) + 4 * ((m.err.length + 2) / 3) +
      4 * (((Bytes.ofString m.exit).length + 2) / 3) := by
  rw [encode_eq]
  simp only [List.length_append, List.length_cons, Text.Base64.length_encode]
  omega

/-- Nothing else is taken apart than messages as they are sent. -/
theorem eq_encode_of_decode? {bs : Bytes} {m : Message} (h : decode? bs = some m) :
    bs = m.encode := by
  unfold decode? at h
  split at h
  · next exit err out first more hpieces =>
    simp only [Option.bind_eq_bind, Option.bind_eq_some_iff, Bytes.toString?_eq_some_iff,
      Text.Base64.decode?_eq_some_iff] at h
    obtain ⟨task, htask, out, rfl, err, rfl, exit, ⟨bytes, rfl, rfl⟩, h⟩ := h
    obtain rfl := Option.some.inj h
    have hcut : Text.cut Bytes.tab bs = (first :: more).reverse ++ [Text.Base64.encode out,
        Text.Base64.encode err, Text.Base64.encode (Bytes.ofString exit)] := by
      rw [← List.reverse_reverse (Text.cut Bytes.tab bs), hpieces]
      simp
    have hfirst : Text.cut Bytes.tab (Bytes.ofString task) = (first :: more).reverse := by
      rw [← htask]
      refine Text.cut_join (by simp) fun piece hpiece => ?_
      have hmem : piece ∈ Text.cut Bytes.tab bs := by
        rw [hcut]
        exact List.mem_append_left _ hpiece
      exact Text.notMem_of_mem_cut hmem
    rw [← Text.join_cut Bytes.tab bs, hcut, ← hfirst, ← cut_encode ⟨task, out, err, exit⟩,
      Text.join_cut]
  · cases h

/-- Reading accepts exactly what is sent. -/
theorem decode?_eq_some_iff {bs : Bytes} {m : Message} : decode? bs = some m ↔ bs = m.encode :=
  ⟨eq_encode_of_decode?, fun h => h ▸ decode?_encode m⟩

/-- Every message can be taken apart, whatever is in its fields. What is sent of it can be cut at
    its last three tabs in one way, and this gives the task id as it is and the other fields in
    base-64 form. So two different messages are never sent as the same bytes. The length is that of
    the task id, three tabs, and four letters for every three bytes begun of each other field. -/
theorem message_comes_apart (m : Message) :
    (∃ task out err exit, CutsAtLastTabs m.encode task out err exit) ∧
      (∀ task out err exit, CutsAtLastTabs m.encode task out err exit →
        task = Bytes.ofString m.task ∧ Text.Base64.decode? out = some m.out ∧
          Text.Base64.decode? err = some m.err ∧
            Text.Base64.decode? exit = some (Bytes.ofString m.exit)) ∧
      (∀ bs, decode? bs = some m ↔ bs = m.encode) ∧
      (∀ n : Message, n.encode = m.encode → n = m) ∧
      m.encode.length = (Bytes.ofString m.task).length + 3 + 4 * (m.out.length ⌈/⌉ 3) +
        4 * (m.err.length ⌈/⌉ 3) + 4 * ((Bytes.ofString m.exit).length ⌈/⌉ 3) := by
  refine ⟨⟨_, _, _, _, cutsAtLastTabs_encode m⟩, fun task out err exit hcuts => ?_,
    fun bs => decode?_eq_some_iff, fun n hsame => encode_injective hsame, ?_⟩
  · obtain ⟨rfl, rfl, rfl, rfl⟩ := hcuts.unique (cutsAtLastTabs_encode m)
    simp only [Text.Base64.decode?_encode, and_self]
  · rw [length_encode]
    simp only [Nat.ceilDiv_eq_add_pred_div, Nat.add_sub_assoc, Nat.reduceSub, Nat.reduceLeDiff]

/-- A task id with a tab and a line end in it, and fields whose last groups have one, two and three
    bytes. -/
theorem message_comes_apart_of_tab_in_task :
    let m : Message := ⟨"a\tb\n", [0], [0x61, 0x09], "end"⟩
    m.encode = Bytes.ofString "a\tb\n\tAA==\tYQk=\tZW5k" ∧
      CutsAtLastTabs m.encode (Bytes.ofString "a\tb\n") (Bytes.ofString "AA==")
        (Bytes.ofString "YQk=") (Bytes.ofString "ZW5k") ∧
      Text.Base64.decode? (Bytes.ofString "AA==") = some m.out ∧
      Text.Base64.decode? (Bytes.ofString "YQk=") = some m.err ∧
      Text.Base64.decode? (Bytes.ofString "ZW5k") = some (Bytes.ofString "end") := by
  intro m
  have hencode : m.encode = Bytes.ofString "a\tb\n\tAA==\tYQk=\tZW5k" := by decide +kernel
  have hcuts : CutsAtLastTabs m.encode (Bytes.ofString "a\tb\n") (Bytes.ofString "AA==")
      (Bytes.ofString "YQk=") (Bytes.ofString "ZW5k") :=
    ⟨by rw [hencode]; decide +kernel, by decide +kernel, by decide +kernel, by decide +kernel⟩
  obtain ⟨-, hfields, -⟩ := message_comes_apart m
  exact ⟨hencode, hcuts, (hfields _ _ _ _ hcuts).2⟩

end Overseer.Report.Message
