/-!
Byte strings: cutting a list at a separator, and the passage between bytes and text.

Main statements: a cut list joined at the separator is the list again, no piece of a cut list holds
the separator, and pieces that do not hold it come back from the list that they form.
-/

namespace Overseer

/-- Raw content, as files and pipes carry it. -/
abbrev Bytes := List UInt8

namespace Text

variable {α : Type} [DecidableEq α]

/-- The pieces between the separators: one more than there are separators. -/
def cut (sep : α) (xs : List α) : List (List α) :=
  xs.foldr (fun x pieces =>
    if x = sep then [] :: pieces else
      match pieces with
      | [] => [[x]]
      | piece :: more => (x :: piece) :: more) [[]]

/-- Writes the pieces one after the other with the separator between them. -/
def join (sep : List α) (pieces : List (List α)) : List α :=
  match pieces with
  | [] => []
  | piece :: more => piece ++ more.flatMap (sep ++ ·)

/-- Splits at the first separator; nothing when there is none. -/
def cutFirst? (sep : α) (xs : List α) : Option (List α × List α) :=
  match xs.dropWhile (· ≠ sep) with
  | [] => none
  | _ :: after => some (xs.takeWhile (· ≠ sep), after)

@[simp] theorem cut_nil (sep : α) : cut sep [] = [[]] := rfl

theorem cut_ne_nil (sep : α) (xs : List α) : cut sep xs ≠ [] := by
  cases xs with
  | nil => simp
  | cons x rest =>
    simp only [cut, List.foldr_cons]
    split
    · simp
    · split <;> simp

@[simp] theorem cut_cons_self (sep : α) (xs : List α) : cut sep (sep :: xs) = [] :: cut sep xs := by
  simp [cut]

/-- A character other than the separator joins the first piece. -/
theorem cut_cons_of_ne {sep x : α} (hne : x ≠ sep) {xs piece : List α} {more : List (List α)}
    (hcut : cut sep xs = piece :: more) : cut sep (x :: xs) = (x :: piece) :: more := by
  simp only [cut, List.foldr_cons, if_neg hne]
  simp only [cut] at hcut
  rw [hcut]

/-- Nothing is lost by cutting. -/
theorem join_cut (sep : α) (xs : List α) : join [sep] (cut sep xs) = xs := by
  induction xs with
  | nil => simp [join]
  | cons x rest ih =>
    obtain ⟨piece, more, hcut⟩ := List.exists_cons_of_ne_nil (cut_ne_nil sep rest)
    by_cases hx : x = sep
    · subst hx
      rw [cut_cons_self, hcut]
      rw [hcut] at ih
      simpa [join] using ih
    · rw [cut_cons_of_ne hx hcut]
      rw [hcut] at ih
      simpa [join] using ih

theorem notMem_of_mem_cut {sep : α} {xs piece : List α} (hpiece : piece ∈ cut sep xs) :
    sep ∉ piece := by
  induction xs generalizing piece with
  | nil => simp_all
  | cons x rest ih =>
    obtain ⟨first, more, hcut⟩ := List.exists_cons_of_ne_nil (cut_ne_nil sep rest)
    by_cases hx : x = sep
    · subst hx
      rw [cut_cons_self] at hpiece
      rcases List.mem_cons.1 hpiece with rfl | hmem
      · simp
      · exact ih hmem
    · rw [cut_cons_of_ne hx hcut] at hpiece
      rw [hcut] at ih
      rcases List.mem_cons.1 hpiece with rfl | hmem
      · have := ih (List.mem_cons_self ..)
        simp [Ne.symm hx, this]
      · exact ih (List.mem_cons_of_mem _ hmem)

theorem cut_of_notMem {sep : α} {xs : List α} (hsep : sep ∉ xs) : cut sep xs = [xs] := by
  induction xs with
  | nil => rfl
  | cons x rest ih =>
    rw [List.mem_cons, not_or] at hsep
    exact cut_cons_of_ne (Ne.symm hsep.1) (ih hsep.2)

theorem cut_append_cons {sep : α} {xs : List α} (hsep : sep ∉ xs) (rest : List α) :
    cut sep (xs ++ sep :: rest) = xs :: cut sep rest := by
  induction xs with
  | nil => simp
  | cons x more ih =>
    rw [List.mem_cons, not_or] at hsep
    exact cut_cons_of_ne (Ne.symm hsep.1) (ih hsep.2)

/-- Pieces without the separator come back from the list that they form. -/
theorem cut_join {sep : α} {pieces : List (List α)} (hne : pieces ≠ [])
    (hsep : ∀ piece ∈ pieces, sep ∉ piece) : cut sep (join [sep] pieces) = pieces := by
  induction pieces with
  | nil => contradiction
  | cons piece more ih =>
    have hpiece := hsep piece (List.mem_cons_self ..)
    cases more with
    | nil => simpa [join] using cut_of_notMem hpiece
    | cons second others =>
      have hjoin : join [sep] (piece :: second :: others) =
          piece ++ sep :: join [sep] (second :: others) := by simp [join]
      rw [hjoin, cut_append_cons hpiece,
        ih (by simp) fun p hp => hsep p (List.mem_cons_of_mem _ hp)]

end Text

namespace Bytes

/-- The bytes that stand for a text. -/
def ofString (s : String) : Bytes :=
  s.toByteArray.data.toList

/-- The text that the bytes stand for, if they stand for one. -/
def toString? (bs : Bytes) : Option String :=
  String.fromUTF8? ⟨bs.toArray⟩

/-- The byte of a character among the first 128. -/
def ofAscii (c : Char) : UInt8 :=
  c.toNat.toUInt8

/-- Each byte as the character with its number. -/
def spread (bs : Bytes) : String :=
  String.ofList (bs.map fun b => Char.ofNat b.toNat)

/-- The bytes with the numbers of the characters, all of which are below 256. -/
def gather (s : String) : Bytes :=
  s.toList.map fun c => c.toNat.toUInt8

def newline : UInt8 := 10

def tab : UInt8 := 9

/-- The lines of a file: what follows the last line end counts only if something does. -/
def lines (bs : Bytes) : List Bytes :=
  match (Text.cut newline bs).reverse with
  | [] :: earlier => earlier.reverse
  | pieces => pieces.reverse

end Bytes

end Overseer
