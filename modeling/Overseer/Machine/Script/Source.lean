/-!
The text of a script as it is read: its lines, its blanks and comments, what comes next, and the
texts that stand in the script itself behind the line that asks for them.

A line that asks for such a text loses it while it is read: the line's end then stands for several
line ends, so that lines are still counted as they were written.
-/

namespace Overseer.Machine.Script

/-- The character that opens and closes an old-style substitution. -/
def grave : Char := Char.ofNat 96

def isNameStart (c : Char) : Bool :=
  c.isAlpha || c == '_'

def isNameChar (c : Char) : Bool :=
  c.isAlphanum || c == '_'

/-- Whether a text is a name. -/
def isName (text : String) : Bool :=
  match text.toList with
  | c :: rest => isNameStart c && rest.all isNameChar
  | [] => false

/-- Characters from this number on are line ends that stand for several. Bytes are smaller. -/
def foldedBase : Nat := 0x10000

/-- The line end that stands for so many. -/
def foldedEnd (lines : Nat) : Char :=
  Char.ofNat (foldedBase + lines)

/-- How many line ends a character stands for. -/
def lineEnds (c : Char) : Nat :=
  if c = '\n' then 1 else c.toNat - foldedBase

def isLineEnd (c : Char) : Bool :=
  c == '\n' || decide (foldedBase ≤ c.toNat)

/-- The number of line ends in a text. -/
def countLines (cs : List Char) : Nat :=
  cs.foldl (fun n c => n + lineEnds c) 0

/-- Whether a character ends a word when it is not quoted. -/
def endsWord (c : Char) : Bool :=
  c ∈ [' ', '\t', ';', '&', '|', '<', '>', '(', ')'] || isLineEnd c

/-- Passes over blanks, continued lines and a comment. -/
def skipBlanks : List Char → List Char
  | ' ' :: rest | '\t' :: rest => skipBlanks rest
  | '\\' :: '\n' :: rest => skipBlanks rest
  | '#' :: rest => rest.dropWhile (!isLineEnd ·)
  | cs => cs

/-- Passes over blanks, comments and line ends. -/
def skipLines : Nat → List Char → List Char
  | 0, cs => cs
  | fuel + 1, cs =>
    match skipBlanks cs with
    | [] => []
    | c :: rest => if isLineEnd c then skipLines fuel rest else c :: rest

/-- Passes over blanks, comments and line ends, as many as there are. -/
def skipAll (cs : List Char) : List Char :=
  skipLines (cs.length + 1) cs

/-- The word in front, if it is written without any quoting. -/
def plainWord (cs : List Char) : String :=
  String.ofList (cs.takeWhile fun c => !endsWord c)

/-- What comes next in a text. -/
inductive Ahead
  | textEnd
  | lineEnd
  | operator (text : String)
  | redirection
  /-- A word, as it is written. -/
  | word (text : String)
  deriving DecidableEq, Repr

namespace Ahead

/-- Words with a meaning of their own where a command may begin. -/
def keywords : List String :=
  ["!", "case", "do", "done", "elif", "else", "esac", "fi", "for", "if", "in", "then", "until",
    "while", "\x7b", "\x7d"]

/-- Looks at what comes next. -/
def ofText (cs : List Char) : Ahead :=
  match skipBlanks cs with
  | [] => textEnd
  | ';' :: ';' :: _ => operator ";;"
  | '&' :: '&' :: _ => operator "&&"
  | '|' :: '|' :: _ => operator "||"
  | c :: rest =>
    if isLineEnd c then lineEnd
    else if c ∈ [';', '&', '|', '(', ')'] then operator c.toString
    else if c = '<' ∨ c = '>' then redirection
    else
      match rest with
      | d :: _ =>
      if c.isDigit ∧ (d = '<' ∨ d = '>') then redirection else word (plainWord (c :: rest))
      | [] => word c.toString

/-- How it is named in a complaint, where keywords may have their meaning or not. -/
def shown (inPlace : Bool) : Ahead → String
  | textEnd => "end of file"
  | lineEnd => "newline"
  | operator text => "\"" ++ text ++ "\""
  | redirection => "redirection"
  | word text => if inPlace && keywords.contains text then "\"" ++ text ++ "\"" else "word"

/-- Whether it closes a list of commands. -/
def closesList : Ahead → Bool
  | operator text => text == ")" || text == ";;"
  | word text => ["then", "else", "elif", "fi", "do", "done", "esac", "\x7d"].contains text
  | _ => false

end Ahead

/-- Splits at the end of the line, quoted line ends passed over. -/
def restOfLine (cs : List Char) : List Char × List Char :=
  go none false [] cs
where
  go (quote : Option Char) (escaped : Bool) (done : List Char) : List Char → List Char × List Char
    | [] => (done.reverse, [])
    | c :: rest =>
      if escaped then go quote false (c :: done) rest
      else if quote ≠ some '\'' ∧ c = '\\' then go quote true (c :: done) rest
      else
        match quote with
        | some q => go (if c = q then none else quote) false (c :: done) rest
        | none =>
          if isLineEnd c then (done.reverse, c :: rest)
          else go (if c = '\'' ∨ c = '"' then some c else none) false (c :: done) rest

/-- Takes a text that ends before a certain line from behind the line at hand: the text, and what is
    left to read without it. Leading tabs are taken off its lines on demand. -/
def takeDocument (closing : List Char) (withoutTabs : Bool) (cs : List Char) :
    List Char × List Char :=
  let (line, rest) := restOfLine cs
  match rest with
  | [] => ([], cs)
  | lineEnd :: rest =>
    let (body, count, rest) := go [] 0 (rest.length + 1) rest
    (body, line ++ foldedEnd (lineEnds lineEnd + count) :: rest)
where
  go (body : List Char) (count : Nat) : Nat → List Char → List Char × Nat × List Char
    | 0, rest => (body, count, rest)
    | fuel + 1, rest =>
      if rest = [] then (body, count, [])
      else
        let written := rest.takeWhile (!isLineEnd ·)
        let line := if withoutTabs then written.dropWhile (· = '\t') else written
        match rest.drop written.length with
        | [] => (if line = closing then body else body ++ line, count, [])
        | lineEnd :: rest =>
          if line = closing then (body, count + lineEnds lineEnd, rest)
          else go (body ++ line ++ ['\n']) (count + lineEnds lineEnd) fuel rest

end Overseer.Machine.Script
