import Overseer.Text.Lowercase.Table

/-!
Lower-case text. Every character is replaced on its own, but for the capital sigma, whose form
depends on whether it ends a word.
-/

namespace Overseer.Text.Lowercase

def inRanges (ranges : List (Nat × Nat)) (c : Char) : Bool :=
  ranges.any fun (lo, hi) => lo ≤ c.toNat && c.toNat ≤ hi

def isCased (c : Char) : Bool :=
  inRanges casedRanges c

/-- Marks, modifiers and word punctuation, which a search for a cased letter passes over. -/
def isPassedOver (c : Char) : Bool :=
  inRanges passedOverRanges c

/-- The lower-case form of one character. Only the dotted capital I needs two characters. -/
def ofChar (c : Char) : List Char :=
  let n := c.toNat
  if n < 0x80 then [c.toLower]
  else if n = 0x130 then ['i', Char.ofNat 0x307]
  else
    match runs.find? fun run =>
        run.first ≤ n && n ≤ run.last && (n - run.first) % run.stride == 0 with
    | some run => [Char.ofNat (n + run.offset).toNat]
    | none => [c]

/-- Whether the first character that is not passed over is cased. -/
def meetsCased (cs : List Char) : Bool :=
  match cs.dropWhile isPassedOver with
  | [] => false
  | c :: _ => isCased c

/-- A capital sigma takes its final form behind a cased letter and before none. -/
def sigma (before after : List Char) : Char :=
  if meetsCased before && !meetsCased after then 'ς' else 'σ'

/-- Lower-case form of characters, those before them given in reverse. -/
def ofCharsAfter (before : List Char) : List Char → List Char
  | [] => []
  | c :: after =>
    (if c = 'Σ' then [sigma before after] else ofChar c) ++ ofCharsAfter (c :: before) after

/-- The lower-case form of a text. -/
def ofString (s : String) : String :=
  String.ofList (ofCharsAfter [] s.toList)

end Overseer.Text.Lowercase
