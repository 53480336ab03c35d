/-!
Splitting a line into words as a command line is split. Blanks, tabs and newlines separate words;
quotation marks and the backslash take away their meaning; a number sign where a word would start
begins a comment that lasts to the end of the line.
-/

namespace Overseer.Text.Words

/-- Where the reader stands. -/
inductive Mode
  /-- Between words. -/
  | gap
  /-- In a comment. -/
  | comment
  /-- In a word, outside quotation marks. -/
  | plain
  /-- Behind a backslash in a word. -/
  | escaped
  /-- Between single quotation marks. -/
  | single
  /-- Between double quotation marks. -/
  | double
  /-- Behind a backslash between double quotation marks. -/
  | doubleEscaped
  deriving DecidableEq, Repr

/-- The words so far, the last first, and the characters of the open one, the last first. -/
structure Scan where
  mode : Mode
  words : List (List Char)
  current : List Char

namespace Scan

def start : Scan := ⟨.gap, [], []⟩

def isSeparator (c : Char) : Bool :=
  c == ' ' || c == '\t' || c == '\n'

/-- A character of a word outside quotation marks. -/
def plainStep (s : Scan) (c : Char) : Scan :=
  if isSeparator c then ⟨.gap, s.current.reverse :: s.words, []⟩
  else if c = '"' then { s with mode := .double }
  else if c = '\'' then { s with mode := .single }
  else if c = '\\' then { s with mode := .escaped }
  else { s with mode := .plain, current := c :: s.current }

def step (s : Scan) (c : Char) : Scan :=
  match s.mode with
  | .gap =>
    if isSeparator c then s
    else if c = '#' then { s with mode := .comment }
    else plainStep s c
  | .comment => if c = '\n' then { s with mode := .gap } else s
  | .plain => plainStep s c
  | .escaped =>
    if c = '\n' then { s with mode := .plain }
    else { s with mode := .plain, current := c :: s.current }
  | .single =>
    if c = '\'' then { s with mode := .plain } else { s with current := c :: s.current }
  | .double =>
    if c = '"' then { s with mode := .plain }
    else if c = '\\' then { s with mode := .doubleEscaped }
    else { s with current := c :: s.current }
  | .doubleEscaped =>
    if c = '\n' then { s with mode := .double }
    else if c = '$' || c.toNat == 96 || c = '"' || c = '\\' then
      { s with mode := .double, current := c :: s.current }
    else { s with mode := .double, current := c :: '\\' :: s.current }

/-- The words once the text has ended; none when a quotation or a backslash is left open. -/
def finish (s : Scan) : Option (List (List Char)) :=
  match s.mode with
  | .gap | .comment => some s.words.reverse
  | .plain => some (s.current.reverse :: s.words).reverse
  | .escaped | .single | .double | .doubleEscaped => none

end Scan

/-- The words of a text, or nothing when its quoting is not balanced. -/
def split? (s : String) : Option (List String) :=
  ((s.toList.foldl Scan.step Scan.start).finish).map (·.map String.ofList)

end Overseer.Text.Words
