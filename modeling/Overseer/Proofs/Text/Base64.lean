import Overseer.Text.Base64

/-!
The base-64 form of bytes: every byte string comes back from its form, nothing else is read as a
form, the form holds letters and padding only, and four letters stand for every three bytes begun.
-/

namespace Overseer.Text.Base64

section Groups

variable {α : Type}

private theorem groups_go_eq (size : Nat) (xs : List α) (done : List (List α)) :
    groups.go size xs done = done.reverse ++ groups size xs := by
  have haccumulated (ys : List α) (earlier : List (List α)) :
      groups.go size ys earlier = earlier.reverse ++ groups.go size ys [] := by
    induction hlength : ys.length using Nat.strongRecOn generalizing ys earlier with
    | ind n ih =>
      cases ys with
      | nil => simp [groups.go]
      | cons y rest =>
        have hshorter : (rest.drop size).length < n := by
          rw [← hlength, List.length_drop, List.length_cons]
          omega
        rw [groups.go, groups.go, ih _ hshorter _ _ rfl, ih _ hshorter _ [y :: rest.take size] rfl]
        simp
  exact haccumulated xs done

theorem groups_nil (size : Nat) : groups size ([] : List α) = [] := by
  simp [groups, groups.go]

theorem groups_cons (size : Nat) (x : α) (rest : List α) :
    groups size (x :: rest) = (x :: rest.take size) :: groups size (rest.drop size) := by
  rw [groups, groups.go, groups_go_eq]
  rfl

/-- All groups but the last are full, and put together they are what was cut. -/
theorem exists_groups_eq (size : Nat) {xs : List α} (hxs : xs ≠ []) :
    ∃ front last, groups size xs = front ++ [last] ∧ (∀ group ∈ front, group.length = size + 1) ∧
      last ≠ [] ∧ last.length ≤ size + 1 ∧ front.flatten ++ last = xs := by
  induction hlength : xs.length using Nat.strongRecOn generalizing xs with
  | ind n ih =>
    obtain ⟨x, rest, rfl⟩ := List.exists_cons_of_ne_nil hxs
    rw [groups_cons]
    by_cases hshort : rest.length ≤ size
    · refine ⟨[], x :: rest, ?_, by simp, by simp, by simpa using hshort, rfl⟩
      rw [List.take_of_length_le hshort, List.drop_of_length_le hshort, groups_nil, List.nil_append]
    · have hleft : rest.drop size ≠ [] := by
        rw [ne_eq, List.drop_eq_nil_iff]
        exact hshort
      have hshorter : (rest.drop size).length < n := by
        rw [← hlength, List.length_drop, List.length_cons]
        omega
      obtain ⟨front, last, hgroups, hfull, hlast, hbound, hflatten⟩ := ih _ hshorter hleft rfl
      refine ⟨(x :: rest.take size) :: front, last, ?_, ?_, hlast, hbound, ?_⟩
      · rw [hgroups, List.cons_append]
      · rw [List.forall_mem_cons]
        refine ⟨?_, hfull⟩
        rw [List.length_cons, List.length_take]
        omega
      · rw [List.flatten_cons, List.append_assoc, hflatten, List.cons_append,
          List.take_append_drop]

/-- Full groups come off the front. -/
theorem groups_flatten_append {size : Nat} {front : List (List α)}
    (hfull : ∀ group ∈ front, group.length = size + 1) (rest : List α) :
    groups size (front.flatten ++ rest) = front ++ groups size rest := by
  induction front with
  | nil => rfl
  | cons group later ih =>
    rw [List.forall_mem_cons] at hfull
    obtain ⟨hlength, hlater⟩ := hfull
    obtain ⟨x, xs, rfl⟩ := List.exists_cons_of_length_eq_add_one hlength
    rw [List.length_cons, Nat.add_right_cancel_iff] at hlength
    rw [List.flatten_cons, List.append_assoc, List.cons_append, groups_cons, ← hlength,
      List.take_left, List.drop_left, hlength, ih hlater, List.cons_append]

/-- What fits into one group is one. -/
theorem groups_eq_singleton {size : Nat} {xs : List α} (hxs : xs ≠ [])
    (hlength : xs.length ≤ size + 1) : groups size xs = [xs] := by
  obtain ⟨x, rest, rfl⟩ := List.exists_cons_of_ne_nil hxs
  have hrest : rest.length ≤ size := Nat.le_of_succ_le_succ hlength
  rw [groups_cons, List.take_of_length_le hrest, List.drop_of_length_le hrest, groups_nil]

end Groups

@[simp] theorem encode_nil : encode [] = [] := by
  rw [encode, groups_nil, List.flatMap_nil]

theorem value?_letter {v : Nat} (hv : v < 64) : value? (letter v) = some v := by
  have hall : ∀ n < 64, value? (letter n) = some n := by decide
  exact hall v hv

theorem value?_padding : value? padding = none := rfl

theorem letter_ne_padding {v : Nat} (hv : v < 64) : letter v ≠ padding := by
  intro hletter
  have hread := value?_letter hv
  rw [hletter, value?_padding] at hread
  cases hread

theorem toUInt8_eq {b : UInt8} {n : Nat} (h : n = b.toNat) : n.toUInt8 = b := by
  subst h
  exact UInt8.ofNat_toNat

/-- A group of bytes comes back from its form. -/
theorem decodeGroup?_encodeGroup {group : Bytes} (hne : group ≠ []) (hlength : group.length ≤ 3) :
    decodeGroup? (encodeGroup group) = some group := by
  match group with
  | [] => exact absurd rfl hne
  | [a] =>
    have ha := a.toNat_lt
    have hp := value?_letter (v := a.toNat / 4) (by omega)
    have hq := value?_letter (v := a.toNat % 4 * 16) (by omega)
    have hfirst : (a.toNat / 4 * 4 + a.toNat % 4 * 16 / 16).toUInt8 = a := toUInt8_eq (by omega)
    have hzero : a.toNat % 4 * 16 % 16 = 0 := by omega
    simp only [encodeGroup, decodeGroup?, hp, hq, hfirst, hzero, and_self, if_true,
      Option.bind_eq_bind, Option.bind_some]
  | [a, b] =>
    have ha := a.toNat_lt
    have hb := b.toNat_lt
    have hp := value?_letter (v := a.toNat / 4) (by omega)
    have hq := value?_letter (v := a.toNat % 4 * 16 + b.toNat / 16) (by omega)
    have hthird : b.toNat % 16 * 4 < 64 := by omega
    have hfirst : (a.toNat / 4 * 4 + (a.toNat % 4 * 16 + b.toNat / 16) / 16).toUInt8 = a :=
      toUInt8_eq (by omega)
    have hsecond : ((a.toNat % 4 * 16 + b.toNat / 16) % 16 * 16 +
        b.toNat % 16 * 4 / 4).toUInt8 = b := toUInt8_eq (by omega)
    have hzero : b.toNat % 16 * 4 % 4 = 0 := by omega
    simp only [encodeGroup, decodeGroup?, hp, hq, value?_letter hthird, letter_ne_padding hthird,
      hfirst, hsecond, hzero, false_and, if_false, if_true, Option.bind_eq_bind, Option.bind_some]
  | [a, b, c] =>
    have ha := a.toNat_lt
    have hb := b.toNat_lt
    have hc := c.toNat_lt
    have hp := value?_letter (v := a.toNat / 4) (by omega)
    have hq := value?_letter (v := a.toNat % 4 * 16 + b.toNat / 16) (by omega)
    have hr : b.toNat % 16 * 4 + c.toNat / 64 < 64 := by omega
    have hs : c.toNat % 64 < 64 := by omega
    have hfirst : (a.toNat / 4 * 4 + (a.toNat % 4 * 16 + b.toNat / 16) / 16).toUInt8 = a :=
      toUInt8_eq (by omega)
    have hsecond : ((a.toNat % 4 * 16 + b.toNat / 16) % 16 * 16 +
        (b.toNat % 16 * 4 + c.toNat / 64) / 4).toUInt8 = b := toUInt8_eq (by omega)
    have hthird : ((b.toNat % 16 * 4 + c.toNat / 64) % 4 * 64 + c.toNat % 64).toUInt8 = c :=
      toUInt8_eq (by omega)
    simp only [encodeGroup, decodeGroup?, hp, hq, value?_letter hr, value?_letter hs,
      letter_ne_padding hr, letter_ne_padding hs, hfirst, hsecond, hthird, false_and, if_false,
      Option.bind_eq_bind, Option.bind_some]
  | _ :: _ :: _ :: _ :: _ =>
    simp only [List.length_cons] at hlength
    omega

theorem length_encodeGroup {group : Bytes} (hne : group ≠ []) : (encodeGroup group).length = 4 := by
  match group with
  | [] => exact absurd rfl hne
  | [_] | [_, _] | _ :: _ :: _ :: _ => rfl

theorem padding_notMem_encodeGroup {group : Bytes} (hlength : group.length = 3) :
    padding ∉ encodeGroup group := by
  match group with
  | [a, b, c] =>
    have ha := a.toNat_lt
    have hb := b.toNat_lt
    have hc := c.toNat_lt
    have hp := letter_ne_padding (v := a.toNat / 4) (by omega)
    have hq := letter_ne_padding (v := a.toNat % 4 * 16 + b.toNat / 16) (by omega)
    have hr := letter_ne_padding (v := b.toNat % 16 * 4 + c.toNat / 64) (by omega)
    have hs := letter_ne_padding (v := c.toNat % 64) (by omega)
    simp [encodeGroup, hp.symm, hq.symm, hr.symm, hs.symm]

/-- The form of bytes falls into the forms of their groups. -/
theorem groups_flatMap_encodeGroup {gs : List Bytes} (hgs : ∀ group ∈ gs, group ≠ []) :
    groups 3 (gs.flatMap encodeGroup) = gs.map encodeGroup := by
  induction gs with
  | nil => exact groups_nil 3
  | cons group later ih =>
    rw [List.forall_mem_cons] at hgs
    have hlength := length_encodeGroup hgs.1
    rw [List.flatMap_cons, List.map_cons]
    obtain ⟨w, x, y, z, hform⟩ : ∃ w x y z, encodeGroup group = [w, x, y, z] := by
      match encodeGroup group, hlength with
      | [w, x, y, z], _ => exact ⟨w, x, y, z, rfl⟩
    rw [hform, List.cons_append, groups_cons, ← ih hgs.2]
    rfl

theorem mapM_map_eq_some {α β : Type} {f : β → Option α} {g : α → β} {xs : List α}
    (h : ∀ x ∈ xs, f (g x) = some x) : (xs.map g).mapM f = some xs := by
  induction xs with
  | nil => rfl
  | cons x later ih =>
    rw [List.forall_mem_cons] at h
    rw [List.map_cons, List.mapM_cons, h.1, ih h.2]
    rfl

/-- Every byte string comes back from its form. -/
@[simp] theorem decode?_encode (bs : Bytes) : decode? (encode bs) = some bs := by
  by_cases hbs : bs = []
  · subst hbs
    rw [encode_nil, decode?, groups_nil]
    rfl
  · obtain ⟨front, last, hgroups, hfull, hlast, hbound, hflatten⟩ := exists_groups_eq 2 hbs
    have hnonempty : ∀ group ∈ front ++ [last], group ≠ [] := by
      intro group hgroup hempty
      rcases List.mem_append.1 hgroup with hfront | hsame
      · rw [hempty] at hfront
        have hzero : (0 : Nat) = 3 := hfull [] hfront
        omega
      · rw [List.mem_singleton.1 hsame] at hempty
        exact hlast hempty
    have hfront : (front.map encodeGroup).mapM (fun group =>
        if padding ∈ group then none else decodeGroup? group) = some front := by
      refine mapM_map_eq_some fun group hgroup => ?_
      have hgroup3 : group.length = 3 := hfull group hgroup
      rw [if_neg (padding_notMem_encodeGroup hgroup3)]
      exact decodeGroup?_encodeGroup
        (hnonempty group (List.mem_append_left _ hgroup)) (Nat.le_of_eq hgroup3)
    rw [decode?, encode, hgroups, groups_flatMap_encodeGroup hnonempty, List.map_append,
      List.reverse_append]
    simp only [List.map_cons, List.map_nil, List.reverse_singleton, List.singleton_append,
      List.reverse_reverse, hfront, decodeGroup?_encodeGroup hlast hbound, Option.bind_eq_bind,
      Option.bind_some, hflatten]

/-- A letter is the one of its value. -/
theorem letter_of_value? {b : UInt8} {v : Nat} (h : value? b = some v) : v < 64 ∧ letter v = b := by
  have hall : ∀ n < 256, (value? n.toUInt8).all
      (fun v => decide (v < 64 ∧ letter v = n.toUInt8)) = true := by decide +kernel
  have hb := hall b.toNat b.toNat_lt
  rw [toUInt8_eq rfl, h, Option.all_some] at hb
  exact of_decide_eq_true hb

theorem toNat_toUInt8_of_lt {n : Nat} (h : n < 256) : n.toUInt8.toNat = n :=
  Nat.mod_eq_of_lt h

/-- A group that is read stands for one to three bytes, and is their form; without padding it stands
    for three. -/
theorem of_decodeGroup? {group bytes : Bytes} (h : decodeGroup? group = some bytes) :
    encodeGroup bytes = group ∧ bytes ≠ [] ∧ bytes.length ≤ 3 ∧
      (padding ∉ group → bytes.length = 3) := by
  unfold decodeGroup? at h
  split at h
  · next a b c d =>
    simp only [Option.bind_eq_bind, Option.bind_eq_some_iff] at h
    obtain ⟨p, hp, q, hq, h⟩ := h
    obtain ⟨hp, rfl⟩ := letter_of_value? hp
    obtain ⟨hq, rfl⟩ := letter_of_value? hq
    have hfirst : (p * 4 + q / 16).toUInt8.toNat = p * 4 + q / 16 := toNat_toUInt8_of_lt (by omega)
    have hfront : (p * 4 + q / 16) / 4 = p := by omega
    split at h
    · next hpadding =>
      obtain ⟨rfl, rfl⟩ := hpadding
      split at h
      · next hzero =>
        obtain rfl := Option.some.inj h
        have hback : (p * 4 + q / 16) % 4 * 16 = q := by omega
        refine ⟨?_, by simp, by simp, by simp⟩
        rw [encodeGroup, hfirst, hfront, hback]
      · cases h
    · rw [Option.bind_eq_some_iff] at h
      obtain ⟨r, hr, h⟩ := h
      obtain ⟨hr, rfl⟩ := letter_of_value? hr
      have hsecond : (q % 16 * 16 + r / 4).toUInt8.toNat = q % 16 * 16 + r / 4 :=
        toNat_toUInt8_of_lt (by omega)
      have hmiddle : (p * 4 + q / 16) % 4 * 16 + (q % 16 * 16 + r / 4) / 16 = q := by omega
      split at h
      · next hpadding =>
        subst hpadding
        split at h
        · next hzero =>
          obtain rfl := Option.some.inj h
          have hback : (q % 16 * 16 + r / 4) % 16 * 4 = r := by omega
          refine ⟨?_, by simp, by simp, by simp⟩
          rw [encodeGroup, hfirst, hsecond, hfront, hmiddle, hback]
        · cases h
      · rw [Option.bind_eq_some_iff] at h
        obtain ⟨s, hs, h⟩ := h
        obtain ⟨hs, rfl⟩ := letter_of_value? hs
        obtain rfl := Option.some.inj h
        have hthird : (r % 4 * 64 + s).toUInt8.toNat = r % 4 * 64 + s :=
          toNat_toUInt8_of_lt (by omega)
        have hback : (q % 16 * 16 + r / 4) % 16 * 4 + (r % 4 * 64 + s) / 64 = r := by omega
        have hlast : (r % 4 * 64 + s) % 64 = s := by omega
        refine ⟨?_, by simp, by simp, by simp⟩
        rw [encodeGroup, hfirst, hsecond, hthird, hfront, hmiddle, hback, hlast]
  · cases h

/-- The groups in front of the last one stand for three bytes each. -/
theorem of_mapM_decodeGroup? {front decoded : List Bytes}
    (h : front.mapM (fun group => if padding ∈ group then none else decodeGroup? group) =
      some decoded) :
    decoded.map encodeGroup = front ∧ ∀ bytes ∈ decoded, bytes.length = 3 := by
  induction front generalizing decoded with
  | nil =>
    obtain rfl := Option.some.inj h
    exact ⟨rfl, by simp⟩
  | cons group later ih =>
    simp only [List.mapM_cons, Option.bind_eq_bind, Option.bind_eq_some_iff] at h
    obtain ⟨bytes, hbytes, rest, hrest, hdecoded⟩ := h
    obtain rfl := Option.some.inj hdecoded
    obtain ⟨hforms, hlengths⟩ := ih hrest
    split at hbytes
    · cases hbytes
    · next hpadding =>
      obtain ⟨hform, -, -, hlength⟩ := of_decodeGroup? hbytes
      exact ⟨by rw [List.map_cons, hform, hforms],
        List.forall_mem_cons.2 ⟨hlength hpadding, hlengths⟩⟩

/-- A form that is read is the form of what it stands for. -/
theorem eq_encode_of_decode? {form bs : Bytes} (h : decode? form = some bs) : form = encode bs := by
  by_cases hform : form = []
  · subst hform
    rw [decode?, groups_nil] at h
    obtain rfl := Option.some.inj h
    rw [encode_nil]
  · obtain ⟨front, last, hgroups, -, -, -, hflatten⟩ := exists_groups_eq 3 hform
    rw [decode?, hgroups, List.reverse_append] at h
    simp only [List.reverse_singleton, List.singleton_append, List.reverse_reverse,
      Option.bind_eq_bind, Option.bind_eq_some_iff] at h
    obtain ⟨tail, htail, decoded, hdecoded, h⟩ := h
    obtain rfl := Option.some.inj h
    obtain ⟨hlast, hne, hlength, -⟩ := of_decodeGroup? htail
    obtain ⟨hfront, hfull⟩ := of_mapM_decodeGroup? hdecoded
    rw [encode, groups_flatten_append hfull, groups_eq_singleton hne hlength, List.flatMap_append,
      List.flatMap_singleton, hlast, List.flatMap_def, hfront, hflatten]

/-- Reading accepts exactly what writing produces, so that bytes have one form only. -/
theorem decode?_eq_some_iff {form bs : Bytes} : decode? form = some bs ↔ form = encode bs :=
  ⟨eq_encode_of_decode?, fun h => h ▸ decode?_encode bs⟩

/-- Four letters stand for every three bytes begun. -/
theorem length_encode (bs : Bytes) : (encode bs).length = 4 * ((bs.length + 2) / 3) := by
  by_cases hbs : bs = []
  · subst hbs
    rw [encode_nil]
    rfl
  · obtain ⟨front, last, hgroups, hfull, hlast, hbound, hflatten⟩ := exists_groups_eq 2 hbs
    have hforms (gs : List Bytes) (hgs : ∀ group ∈ gs, group.length = 3) :
        (gs.flatMap encodeGroup).length = 4 * gs.length ∧ gs.flatten.length = 3 * gs.length := by
      induction gs with
      | nil => exact ⟨rfl, rfl⟩
      | cons group later ih =>
        rw [List.forall_mem_cons] at hgs
        obtain ⟨hlater, hbytes⟩ := ih hgs.2
        have hgroup : group ≠ [] := by
          rintro rfl
          cases hgs.1
        have hform := length_encodeGroup hgroup
        rw [List.flatMap_cons, List.length_append, List.flatten_cons, List.length_append,
          List.length_cons, hform, hlater, hbytes, hgs.1]
        omega
    obtain ⟨hletters, hbytes⟩ := hforms front hfull
    have hpositive : 0 < last.length := List.length_pos_iff.2 hlast
    rw [encode, hgroups, List.flatMap_append, List.flatMap_singleton, List.length_append, hletters,
      length_encodeGroup hlast, ← hflatten, List.length_append, hbytes]
    omega

theorem eq_letter_or_padding {group : Bytes} {b : UInt8} (hb : b ∈ encodeGroup group) :
    (∃ value, b = letter value) ∨ b = padding := by
  match group with
  | [] => cases hb
  | [_] | [_, _] | _ :: _ :: _ :: _ =>
    simp only [encodeGroup, List.mem_cons, List.not_mem_nil, or_false] at hb
    rcases hb with rfl | rfl | rfl | rfl <;> first | exact .inl ⟨_, rfl⟩ | exact .inr rfl

theorem lt_letter (value : Nat) : 32 < (letter value).toNat := by
  unfold letter
  split
  · rw [UInt8.toNat_ofNat']
    omega
  · split
    · rw [UInt8.toNat_ofNat']
      omega
    · split
      · rw [UInt8.toNat_ofNat']
        omega
      · split <;> decide

theorem lt_of_mem_encode {bs : Bytes} {b : UInt8} (hb : b ∈ encode bs) : 32 < b.toNat := by
  rw [encode, List.mem_flatMap] at hb
  obtain ⟨group, -, hgroup⟩ := hb
  rcases eq_letter_or_padding hgroup with ⟨value, rfl⟩ | rfl
  · exact lt_letter value
  · decide

theorem tab_notMem_encode (bs : Bytes) : Bytes.tab ∉ encode bs := by
  intro hmem
  have hlt := lt_of_mem_encode hmem
  have htab : Bytes.tab.toNat = 9 := rfl
  omega

end Overseer.Text.Base64
