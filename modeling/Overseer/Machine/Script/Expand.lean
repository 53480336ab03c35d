import Overseer.Machine.Script.Arithmetic
import Overseer.Machine.Script.Pattern

/-!
Expanding words: substitutions, splitting at separators, and names of files that fit a pattern.
-/

namespace Overseer.Machine.Script

/-- Carries out a command in a shell. -/
abbrev Runner := Command → Shell → Shell × Flow

/-- Carries out the commands of a script one after the other, each as soon as it has been read. A
    script without any succeeds. -/
def runText (run : Runner) (source : String) (sh : Shell) : Shell × Flow :=
  let cs := source.toList
  go (lastLine cs) true (cs.length + 1) cs sh
where
  go (last : Nat) (bare : Bool) : Nat → List Char → Shell → Shell × Flow
    | 0, _, sh => (sh, .finished)
    | fuel + 1, cs, sh =>
      match nextCommand last cs with
      | .error ⟨line, mistake⟩ =>
        let sh := { sh with line }.complain ("Syntax error: " ++ mistake.text)
        (sh.setStatus Shell.errorStatus, .failed)
      | .ok (none, _) => (if bare then sh.setStatus 0 else sh, .finished)
      | .ok (some .nothing, rest) => go last bare fuel rest sh
      | .ok (some command, rest) =>
        let (sh, flow) := run command sh
        if flow = .finished then go last false fuel rest sh else (sh, flow)

/-- Ends a process: the handler for its end runs, and the last status counts. -/
def conclude (run : Runner) (sh : Shell) (flow : Flow) : Shell × Flow :=
  if !flow.isInHand then (sh, flow)
  else
    match sh.traps.lookup 0 with
    | none | some "" => (sh, .exited)
    | some source =>
      let status := sh.status
      let (sh, flow) := runText run source { sh with traps := [], final := false, tested := false }
      if flow = .exited ∨ flow = .failed ∨ ¬ flow.isInHand then (sh, flow)
      else (sh.setStatus status, .exited)

/-- Carries out a command that is all a process has to do. -/
def runWhole (run : Runner) (body : Command) (sh : Shell) : Shell × Flow :=
  let (sh, flow) := run body { sh with final := true }
  conclude run sh flow

/-- Runs a command for its output, up to the time when nobody writes any more. -/
def outputOf (run : Runner) (body : Command) (sh : Shell) : String × Shell :=
  let sh := sh.place none
  let reader := sh.process.id
  let (inner, flow) := runWhole run body
    ({ sh.fork with tested := false }.update (·.point Process.outputDescriptor (.reader reader)))
  let resumed := sh.resume (inner.leave flow)
  let written := resumed.writtenFor reader
  let resumed := resumed.clearWritten [reader]
  let sh := ({ resumed with status := sh.status, substituted := some inner.status }.update
    (·.waitUntil written.closed)).observe
  (String.ofList ((Bytes.spread written.bytes).toList.reverse.dropWhile (· = '\n')).reverse,
    if flow = .endless then { sh with halted := some .endless } else sh)

/-- A piece of an expanded word. -/
inductive Item
  /-- A character: whether it stands for itself, and whether it may separate fields. -/
  | char (c : Char) (quoted splits : Bool)
  /-- Quotation marks, which make a field even of nothing. -/
  | mark
  /-- The place between two parameters. -/
  | cut
  deriving DecidableEq, Repr

namespace Item

/-- A text that is no part of a substitution. -/
def ofText (text : String) (quoted splits : Bool) : List Item :=
  (if quoted then [mark] else []) ++ text.toList.map fun c => char c quoted splits

/-- A substituted text. -/
def ofValue (text : String) (quoted : Bool) : List Item :=
  text.toList.map fun c => char c quoted !quoted

/-- Several substituted texts. -/
def ofValues (texts : List String) (quoted : Bool) : List Item :=
  (texts.map fun text => (if quoted then [mark] else []) ++ ofValue text quoted).intersperse [cut]
    |>.flatten

/-- The pattern that pieces make up when nothing is split. -/
def toPattern (items : List Item) : Pattern :=
  items.filterMap fun
    | char c quoted _ => some (c, quoted)
    | mark => none
    | cut => some (' ', true)

/-- The text that pieces make up when nothing is split. -/
def text (items : List Item) : String :=
  (toPattern items).text

end Item

/-- Fields that have been closed, the last first, and the open one, its characters in reverse. -/
structure Fields where
  done : List Pattern
  current : Option Pattern
  /-- Whether the last field was closed by a blank, so that one further separator may follow. -/
  afterBlank : Bool

namespace Fields

/-- Ends the open field. -/
def close (f : Fields) : Fields :=
  match f.current with
  | none => f
  | some cs => { f with done := cs.reverse :: f.done, current := none }

/-- Takes in a piece. -/
def add (separators : List Char) (f : Fields) : Item → Fields
  | .mark => { f with current := some (f.current.getD []), afterBlank := false }
  | .cut => { f.close with afterBlank := false }
  | .char c quoted splits =>
    if splits && separators.contains c then
      if Shell.blanks.toList.contains c then
        if f.current.isSome then { f.close with afterBlank := true } else f
      else if f.current.isSome then { f.close with afterBlank := false }
      else if f.afterBlank then { f with afterBlank := false }
      else { f with done := [] :: f.done }
    else { f with current := some ((c, quoted) :: f.current.getD []), afterBlank := false }

/-- Splits pieces into fields. -/
def ofItems (separators : List Char) (items : List Item) : List Pattern :=
  (items.foldl (add separators) ⟨[], none, false⟩).close.done.reverse

end Fields

/-- The home directories of users that are known by name. -/
def homes : List (String × String) :=
  [("root", "/root"), ("daemon", "/usr/sbin"), ("bin", "/bin"), ("sys", "/dev"),
    ("nobody", "/nonexistent")]

/-- Replaces a tilde in front of a word by a home directory. -/
def expandTilde (sh : Shell) (w : Word) : Word :=
  match w with
  | .text text false :: rest =>
    match text.toList with
    | '~' :: cs =>
      let user := cs.takeWhile (· ≠ '/')
      let home? := if user.isEmpty then sh.value? "HOME" else homes.lookup (String.ofList user)
      match home? with
      | some home =>
        if user.length = cs.length ∧ !rest.isEmpty then w
        else .text home true :: .text (String.ofList (cs.drop user.length)) false :: rest
      | none => w
    | _ => w
  | _ => w

/-- Replaces tildes in an assigned value, also behind colons. -/
def expandTildes (sh : Shell) (w : Word) : Word :=
  (w.zipIdx).flatMap fun (part, k) =>
    match part with
    | .text text false =>
      let pieces := Text.cut ':' text.toList
      ((pieces.zipIdx).flatMap fun (piece, n) =>
        let word : Word := [.text (String.ofList piece) false]
        let last := n + 1 = pieces.length
        let expanded := if (n = 0 ∧ k ≠ 0) ∨ (last ∧ k + 1 ≠ w.length ∧ !piece.contains '/')
          then word else expandTilde sh word
        if last then expanded else expanded ++ [.text ":" false])
    | part => [part]

/-- A parameter as a complaint names it that it has no value. -/
def unsetMessage (name operator : String) (text : String) (given : Bool) : String :=
  name ++ ": " ++
    (if given then text
    else if operator == ":?" then "parameter not set or null" else "parameter not set")

mutual

/-- Expands one part of a word. Within the operand of an operator even plain text may be split. -/
def expandPart (run : Runner) : Nat → Bool → Part → Shell → List Item × Shell
  | 0, _, _, sh => ([], sh)
  | fuel + 1, inOperand, part, sh =>
    if sh.halted.isSome then ([], sh)
    else
      match part with
      | .text text quoted => (Item.ofText text quoted (inOperand && !quoted), sh)
      | .length name quoted =>
        let count := if name = "@" ∨ name = "*" then sh.parameters.length
          else ((sh.parameter? name).getD "").length
        if (sh.parameter? name).isNone && sh.has Shell.unsetOption then
          ([], sh.fail (unsetMessage name "" "" false))
        else (Item.ofValue (toString count) quoted, sh)
      | .output body quoted =>
        let (text, sh) := outputOf run body sh
        (Item.ofValue text quoted, sh)
      | .arithmetic expression quoted =>
        let (items, sh) := expandParts run fuel false expression sh
        if sh.halted.isSome then ([], sh)
        else
          match Arithmetic.evaluate (Item.text items) sh with
          | (some n, sh) => (Item.ofValue (toString n) quoted, sh)
          | (none, sh) => ([], sh)
      | .senseless => ([], sh.fail "Bad substitution")
      | .parameter name operator operand quoted =>
        let value := sh.parameter? name
        let missing := match value with
          | none => true
          | some text => operator.toList.head? == some ':' && text == ""
        let all := name == "@" || (name == "*" && !quoted)
        let valueItems (sh : Shell) : List Item :=
          if all then Item.ofValues sh.parameters quoted
          else Item.ofValue ((sh.parameter? name).getD "") quoted
        let operandIf (wanted : Bool) (sh : Shell) : List Item × Shell :=
          if wanted then expandParts run fuel (!quoted) (expandTilde sh operand) sh
          else (valueItems sh, sh)
        match operator with
        | ":-" | "-" => operandIf missing sh
        | ":+" | "+" => if missing then ([], sh) else operandIf true sh
        | ":=" | "=" =>
          if missing then
            let (items, sh) := expandParts run fuel false (expandTilde sh operand) sh
            if sh.halted.isSome then ([], sh)
            else if !isName name then ([], sh.fail (name ++ ": bad variable name"))
            else
              let sh := sh.assign name (Item.text items)
              (valueItems sh, sh)
          else (valueItems sh, sh)
        | ":?" | "?" =>
          if missing then
            let (items, sh) := expandParts run fuel false operand sh
            if sh.halted.isSome then ([], sh)
            else ([], sh.fail (unsetMessage name operator (Item.text items) !operand.isEmpty))
          else (valueItems sh, sh)
        | _ =>
          if value.isNone && sh.has Shell.unsetOption && name != "@" && name != "*" then
            ([], sh.fail (unsetMessage name "" "" false))
          else if operator = "" then (valueItems sh, sh)
          else
            let (items, sh) := expandParts run fuel false (expandTilde sh operand) sh
            let pattern := Item.toPattern items
            let text := (value.getD "").toList
            let trimmed := match operator with
              | "#" => pattern.dropFront false text
              | "##" => pattern.dropFront true text
              | "%" => pattern.dropBack false text
              | _ => pattern.dropBack true text
            (Item.ofValue (String.ofList trimmed) quoted, sh)

/-- Expands parts one after the other. -/
def expandParts (run : Runner) : Nat → Bool → List Part → Shell → List Item × Shell
  | 0, _, _, sh => ([], sh)
  | _, _, [], sh => ([], sh)
  | fuel + 1, inOperand, part :: rest, sh =>
    let (items, sh) := expandPart run fuel inOperand part sh
    let (more, sh) := expandParts run fuel inOperand rest sh
    (items ++ more, sh)

end

/-- Substitutions are nested no deeper than this. -/
def maxNesting : Nat := 1000

/-- Expands a word into pieces. -/
def expandItems (run : Runner) (w : Word) (sh : Shell) : List Item × Shell :=
  expandParts run (maxNesting + w.length) false w sh

/-- Expands a word into one text, as redirections need it. -/
def expandText (run : Runner) (w : Word) (sh : Shell) : String × Shell :=
  let (items, sh) := expandItems run (expandTilde sh w) sh
  (Item.text items, sh)

/-- Expands the value of an assignment. -/
def expandValue (run : Runner) (w : Word) (sh : Shell) : String × Shell :=
  let (items, sh) := expandItems run (expandTildes sh w) sh
  (Item.text items, sh)

/-- Expands a word into a pattern. -/
def expandPattern (run : Runner) (w : Word) (sh : Shell) : Pattern × Shell :=
  let (items, sh) := expandItems run (expandTilde sh w) sh
  (Item.toPattern items, sh)

/-- The names under a directory that fit patterns, one for each step down. A step that is no pattern
    need only lead somewhere. -/
def namesUnder (files : Files) : List Pattern → String → List String
  | [], done => [done]
  | step :: deeper, done =>
    let down (name : String) : List String :=
      if deeper.isEmpty then
        if files.contains (Process.pathOf (done ++ name)) then [done ++ name] else []
      else namesUnder files deeper (done ++ name ++ "/")
    if !step.isOpen then down step.text
    else
      match files.locate (Process.pathOf (if done = "" then "." else done)) with
      | .error _ => []
      | .ok dir =>
        let hidden := step.head?.map Prod.fst == some '.'
        let found := (if hidden then [Path.dot, Path.dotDot] else []) ++ files.children dir
        let names := (found.map Bytes.spread).filter fun name =>
          step.fits name.toList && (hidden || name.toList.head? != some '.')
        names.flatMap down

/-- The names that a field stands for: those that it fits as a pattern, or itself. -/
def names (sh : Shell) (f : Pattern) : List String :=
  if !f.isOpen || sh.has Shell.noPatternOption then [f.text]
  else
    let steps := (f.splitBy fun a b => a.1 != '/' && b.1 != '/').filter
      fun step => step.head?.map Prod.fst != some '/'
    let rooted := f.head?.map Prod.fst == some '/'
    let found := namesUnder sh.process.files steps (if rooted then "/" else "")
    if found.isEmpty then [f.text]
    else inByteOrder found

/-- Expands words into arguments. -/
def expandAll (run : Runner) : List Word → Shell → List String × Shell
  | [], sh => ([], sh)
  | w :: rest, sh =>
    let (items, sh) := expandItems run (expandTilde sh w) sh
    let found := (Fields.ofItems sh.separators items).flatMap (names sh)
    let (more, sh) := expandAll run rest sh
    (found ++ more, sh)

end Overseer.Machine.Script
