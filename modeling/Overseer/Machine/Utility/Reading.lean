import Overseer.Machine.Format
import Overseer.Machine.Utility.Basic

/-!
Programs that read files or their input and print some of it, or facts about it.
-/

namespace Overseer.Machine.Utility

/-- Handles the pieces of the input as they arrive. -/
def forEachPiece (p : Process) (f : Bytes → Process → Process) : Process :=
  (p.readPieces (fun _ => false) f).2

/-- Writes to the output. -/
def put (p : Process) (bytes : Bytes) : Process :=
  p.write Process.outputDescriptor bytes

/-- Whether printing a file would only make it longer: the output goes to its end, or to a place
    before that. -/
def feedsItself (p : Process) (loc : Location) : Bool :=
  match p.target? Process.outputDescriptor with
  | some (.file number) =>
    (p.files.opened.lookup number).any fun file =>
      file.handle.location == some loc && (file.atEnd || p.files.readOpen number != [])
  | _ => false

/-- Prints files, or its input as it arrives. -/
def cat : Utility := fun name args p =>
  let copy (p : Process) : Process := forEachPiece p fun bytes p => put p bytes
  if args.isEmpty then (0, copy p)
  else forEach args p fun arg p =>
    if arg = "-" then (true, copy p)
    else match p.readFile arg with
      | .ok text =>
        let own := (p.files.locate (Process.pathOf arg)).toOption.any (feedsItself p)
        if own && text != "" then
          (false, p.complain (name ++ ": " ++ arg ++ ": input file is output file"))
        else (true, p.print text)
      | .error e => (false, p.complain (complaint name "" arg e))

/-- Prints its input as it arrives, and writes it to files. -/
def tee : Utility := fun name args p =>
  let (letters, operands) := options args
  let (status, p, targets) := operands.foldl
    (fun ((status, p, targets) : Nat × Process × List Target) arg =>
      match p.files.openForWriting (Process.pathOf arg) with
      | .error r =>
        (1, p.complain (name ++ ": " ++ arg ++ ": " ++ match r with
          | .system e => e.text
          | _ => ""), targets)
      | .ok (loc, files) =>
        match files.node? loc with
        | some (.file _ _) =>
          let p := p.change (.addFile loc)
          let p := if letters.contains 'a' then p else p.change (.empty loc)
          let (target, p) := p.openAt loc (letters.contains 'a')
          (status, p, targets ++ [target])
        | _ => (status, p, targets))
    (0, p, [])
  (status, forEachPiece p fun bytes p =>
    targets.foldl (fun p target => p.send target bytes) (put p bytes))

/-- A number of lines or bytes to print, with the files to take them from. -/
structure Excerpt where
  ofBytes : Bool
  count : String
  files : List String

namespace Excerpt

def default : Nat := 10

/-- Reads arguments. -/
def ofArgs : List String → Excerpt
  | "-c" :: n :: files => ⟨true, n, files⟩
  | "-n" :: n :: files => ⟨false, n, files⟩
  | arg :: files =>
    match arg.toList with
    | '-' :: 'c' :: n => ⟨true, String.ofList n, files⟩
    | '-' :: 'n' :: n => ⟨false, String.ofList n, files⟩
    | '-' :: d :: n => if d.isDigit then ⟨false, String.ofList (d :: n), files⟩
      else ⟨false, toString default, arg :: files⟩
    | _ => ⟨false, toString default, arg :: files⟩
  | [] => ⟨false, toString default, []⟩

/-- The number that a text gives, a sign passed over. -/
def number (text : String) : Nat :=
  (Format.number (text.toList.dropWhile fun c => c == '-' || c == '+')).1

/-- Prints an excerpt from files, or from the input as soon as enough of it has arrived. -/
def print (e : Excerpt) (enough : Bytes → Bool) (take : Bytes → Bytes) : Utility := fun name _ p =>
  match e.files with
  | [] =>
    let (bytes, p) := p.readUntil enough
    (0, put p (take bytes))
  | file :: _ =>
    match p.readFile file with
    | .ok text => (0, put p (take (Bytes.gather text)))
    | .error e => (1, p.complain (name ++ ": cannot open '" ++ file ++ "' for reading: " ++ e.text))

end Excerpt

/-- The lines of a content with their ends. -/
def wholeLines (content : Bytes) : List Bytes :=
  let pieces := Text.cut Bytes.newline content
  pieces.dropLast.map (· ++ [Bytes.newline]) ++ pieces.getLast?.toList.filter (· ≠ [])

/-- Prints the first lines or bytes of a file, or of its input. -/
def head : Utility := fun name args p =>
  let e := Excerpt.ofArgs args
  let n := Excerpt.number e.count
  let enough (content : Bytes) : Bool :=
    if e.ofBytes then n ≤ content.length else n ≤ content.count Bytes.newline
  let take (content : Bytes) : Bytes :=
    if e.ofBytes then content.take n else ((wholeLines content).take n).flatten
  e.print enough take name args p

/-- Prints the last lines or bytes of a file, or of its input; with a plus sign those from there
    on. -/
def tail : Utility := fun name args p =>
  let e := Excerpt.ofArgs args
  let n := Excerpt.number e.count
  let dropped (length : Nat) : Nat :=
    if e.count.toList.head? == some '+' then n - 1 else length - n
  let take (content : Bytes) : Bytes :=
    if e.ofBytes then content.drop (dropped content.length)
    else
      let lines := wholeLines content
      (lines.drop (dropped lines.length)).flatten
  e.print (fun _ => false) take name args p

/-- The number of words in a content. -/
def countWords (content : Bytes) : Nat :=
  let blank (b : UInt8) : Bool := b == 32 || (9 ≤ b && b ≤ 13)
  ((content.splitBy fun a b => blank a == blank b).filter fun piece => !piece.all blank).length

/-- Sets a number to the right of a field. -/
def inField (width : Nat) (n : Nat) : String :=
  let digits := toString n
  String.ofList (List.replicate (width - digits.length) ' ') ++ digits

/-- Counts the lines, words and bytes of files, or of its input. -/
def wc : Utility := fun name args p =>
  let (letters, operands) := options args
  let asked := if letters.isEmpty then ['l', 'w', 'c'] else ['l', 'w', 'c'].filter letters.contains
  let counts (content : Bytes) : List Nat := asked.map fun
    | 'l' => content.count Bytes.newline
    | 'w' => countWords content
    | _ => content.length
  let row (width : Nat) (counts : List Nat) (file : String) : String :=
    " ".intercalate (counts.map (inField width)) ++ file ++ "\n"
  if operands.isEmpty then
    let (bytes, p) := p.readInput
    (0, p.print (row (if asked.length = 1 then 1 else 7) (counts bytes) ""))
  else
    let found := operands.map fun file => (file, p.readFile file)
    let contents := found.filterMap fun (_, content) => content.toOption.map Bytes.gather
    let all := contents.flatten
    let width := if asked.length = 1 ∧ operands.length = 1 then 1 else (toString all.length).length
    let (status, p) := found.foldl (fun ((status, p) : Nat × Process) (file, content) =>
      match content with
      | .ok text => (status, p.print (row width (counts (Bytes.gather text)) (" " ++ file)))
      | .error e => (1, p.complain (complaint name "" file e))) (0, p)
    (status, if operands.length > 1 then
      p.print (row width (contents.foldl
        (fun sums content => List.zipWith (· + ·) sums (counts content))
        (asked.map fun _ => 0)) " total") else p)

end Overseer.Machine.Utility
