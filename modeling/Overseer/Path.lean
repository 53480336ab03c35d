import Overseer.Text.Utf8

/-!
Paths as byte strings: joining, the directory part, and lexical cleaning.

Main statement: cleaning an absolute path keeps some of its names and no step upwards.
-/

namespace Overseer

/-- A path as written. Any bytes may occur in it. -/
structure Path where
  bytes : Bytes
  deriving DecidableEq, Repr, Inhabited

namespace Path

def slash : UInt8 := 47

def dot : Bytes := [46]

def dotDot : Bytes := [46, 46]

def ofString (s : String) : Path :=
  ⟨Bytes.ofString s⟩

/-- The path as text, broken bytes replaced. -/
def display (p : Path) : String :=
  Text.Utf8.readLossily p.bytes

def IsAbsolute (p : Path) : Prop :=
  p.bytes.head? = some slash

instance (p : Path) : Decidable p.IsAbsolute :=
  inferInstanceAs (Decidable (_ = _))

/-- Whether a part between slashes names nothing: an empty part or a single dot. -/
def isIdle (part : Bytes) : Bool :=
  part == [] || part == dot

/-- The names on a path, empty parts and single dots left out. -/
def names (p : Path) : List Bytes :=
  (Text.cut slash p.bytes).filter (!isIdle ·)

/-- Whether a relative path starts with a single dot as its own part. -/
def startsAtDot (p : Path) : Bool :=
  (Text.cut slash p.bytes).head? == some dot

/-- How many parts count on a path: its names, the root, and a dot in front. -/
def depth (p : Path) : Nat :=
  p.names.length + (if p.IsAbsolute ∨ p.startsAtDot then 1 else 0)

/-- Writes names one after the other with slashes between them. -/
def ofNames (names : List Bytes) : Bytes :=
  Text.join [slash] names

/-- Puts a path behind a directory; an absolute one stands alone. -/
def join (dir p : Path) : Path :=
  if p.IsAbsolute ∨ dir.bytes = [] then p
  else if dir.bytes.getLast? = some slash then ⟨dir.bytes ++ p.bytes⟩
  else ⟨dir.bytes ++ slash :: p.bytes⟩

/-- One name of a path being cleaned, the names so far in reverse. A step upwards takes a name away,
    ends at the root, and stays when there is nothing to take. -/
def cleanStep (absolute : Bool) (stack : List Bytes) (name : Bytes) : List Bytes :=
  if name = dotDot then
    match stack with
    | [] => if absolute then [] else [dotDot]
    | top :: below => if top = dotDot then dotDot :: stack else below
  else name :: stack

/-- The names of a cleaned path. -/
def cleanNames (absolute : Bool) (names : List Bytes) : List Bytes :=
  (names.foldl (cleanStep absolute) []).reverse

/-- The shortest spelling of a path without looking at any file. -/
def clean (p : Path) : Path :=
  let left := cleanNames (decide p.IsAbsolute) p.names
  if p.IsAbsolute then ⟨slash :: ofNames left⟩
  else if left = [] then ⟨dot⟩
  else ⟨ofNames left⟩

/-- Every name on a path names something and holds no slash. -/
theorem of_mem_names {p : Path} {name : Bytes} (hname : name ∈ p.names) :
    isIdle name = false ∧ slash ∉ name := by
  obtain ⟨hcut, hidle⟩ := List.mem_filter.1 hname
  exact ⟨by simpa using hidle, Text.notMem_of_mem_cut hcut⟩

/-- An absolute path spelled from names holds these names and no others. -/
theorem names_of_ofNames {names : List Bytes}
    (hnames : ∀ name ∈ names, isIdle name = false ∧ slash ∉ name) :
    (Path.mk (slash :: ofNames names)).names = names := by
  have hkept : names.filter (!isIdle ·) = names :=
    List.filter_eq_self.2 fun name hname => by simp [(hnames name hname).1]
  cases names with
  | nil => rfl
  | cons name more =>
    rw [Path.names, ofNames, Text.cut_cons_self,
      Text.cut_join (by simp) fun n hn => (hnames n hn).2]
    simpa [isIdle] using hkept

/-- Cleaning an absolute path keeps some of its names and no step upwards. -/
theorem of_mem_cleanNames {names : List Bytes} {name : Bytes}
    (hname : name ∈ cleanNames true names) : name ∈ names ∧ name ≠ dotDot := by
  have hfold (stack : List Bytes) (hstack : ∀ n ∈ stack, n ≠ dotDot) :
      ∀ n ∈ names.foldl (cleanStep true) stack, (n ∈ stack ∨ n ∈ names) ∧ n ≠ dotDot := by
    clear hname
    induction names generalizing stack with
    | nil => exact fun n hn => ⟨.inl hn, hstack n hn⟩
    | cons first rest ih =>
      have hstep : ∀ n ∈ cleanStep true stack first,
          (n ∈ stack ∨ n = first) ∧ n ≠ dotDot := by
        intro n hn
        unfold cleanStep at hn
        split at hn
        · cases stack with
          | nil => simp at hn
          | cons top below =>
            have htop := hstack top (List.mem_cons_self ..)
            simp only [htop, if_false] at hn
            have hmem := List.mem_cons_of_mem top hn
            exact ⟨.inl hmem, hstack n hmem⟩
        · next hfirst =>
          rcases List.mem_cons.1 hn with rfl | hmem
          · exact ⟨.inr rfl, hfirst⟩
          · exact ⟨.inl hmem, hstack n hmem⟩
      intro n hn
      obtain ⟨hfrom, hdots⟩ := ih (cleanStep true stack first) (fun n hn => (hstep n hn).2) n hn
      refine ⟨?_, hdots⟩
      rcases hfrom with hmem | hmem
      · rcases (hstep n hmem).1 with hold | rfl
        · exact .inl hold
        · exact .inr (List.mem_cons_self ..)
      · exact .inr (List.mem_cons_of_mem _ hmem)
  obtain ⟨hfrom, hdots⟩ := hfold [] (by simp) name (List.mem_reverse.1 hname)
  exact ⟨by simpa using hfrom, hdots⟩

/-- Names without a step upwards are clean already. -/
theorem cleanNames_eq_self {absolute : Bool} {names : List Bytes}
    (hdots : ∀ name ∈ names, name ≠ dotDot) : cleanNames absolute names = names := by
  have hfold (stack : List Bytes) :
      names.foldl (cleanStep absolute) stack = names.reverse ++ stack := by
    induction names generalizing stack with
    | nil => simp
    | cons first rest ih =>
      have hstep : cleanStep absolute stack first = first :: stack :=
        if_neg (hdots first (List.mem_cons_self ..))
      rw [List.foldl_cons, hstep, ih fun n hn => hdots n (List.mem_cons_of_mem _ hn)]
      simp
  simp [cleanNames, hfold]

/-- The names of a cleaned absolute path. -/
theorem names_clean {p : Path} (habs : p.IsAbsolute) :
    p.clean.names = cleanNames true p.names := by
  simp only [clean, habs, decide_true, if_true]
  exact names_of_ofNames fun name hname => of_mem_names (of_mem_cleanNames hname).1

/-- The part of a path that is kept in front whatever is taken off behind: the root or a dot. -/
def anchor (p : Path) : Bytes :=
  if p.IsAbsolute then [slash] else if p.startsAtDot then dot else []

/-- The directory that holds the last name, as written; a root and an empty path have none. -/
def directory? (p : Path) : Option Path :=
  let parts := (Text.cut slash (p.bytes.drop p.anchor.length)).reverse
  match parts.dropWhile isIdle with
  | [] => if p.IsAbsolute ∨ p.anchor = [] then none else some ⟨[]⟩
  | _ :: above => some ⟨p.anchor ++ ofNames (above.dropWhile isIdle).reverse⟩

end Path

end Overseer
