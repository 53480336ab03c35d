import Overseer.Machine.Script.Source
import Overseer.Machine.Script.Syntax

/-!
Reading scripts, one complete command at a time. Every function knows the number of the last line,
from which what is left to read gives the line at hand, and takes a bound on its own depth; the
length of the text suffices.
-/

namespace Overseer.Machine.Script

/-- Why a text is no script. -/
inductive Mistake
  /-- What was found, possibly with what should have been. -/
  | unexpected (token : String) (expected : Option String)
  | openQuote
  | openSubstitution
  | openBrace
  | openArithmetic
  | loopName
  | functionName
  deriving DecidableEq, Repr

namespace Mistake

def text : Mistake → String
  | unexpected token none => token ++ " unexpected"
  | unexpected token (some expected) => token ++ " unexpected (expecting " ++ expected ++ ")"
  | openQuote => "Unterminated quoted string"
  | openSubstitution => "EOF in backquote substitution"
  | openBrace => "Missing '\x7d'"
  | openArithmetic => "Missing '))'"
  | loopName => "Bad for loop variable"
  | functionName => "Bad function name"

end Mistake

/-- A mistake with the line where it shows. -/
structure SyntaxFault where
  line : Nat
  mistake : Mistake
  deriving DecidableEq, Repr

/-- What is read off the front of a text, and the rest. -/
abbrev Found (α : Type) := α × List Char

/-- The number of the last line of a text. -/
def lastLine (cs : List Char) : Nat :=
  countLines cs + 1

/-- The line on which the rest of a text begins. -/
def lineAt (last : Nat) (rest : List Char) : Nat :=
  last - countLines rest

/-- A mistake in front of the rest of a text. -/
def mistakeAt {α : Type} (last : Nat) (rest : List Char) (m : Mistake) : Except SyntaxFault α :=
  .error ⟨lineAt last rest, m⟩

/-- Complains about what comes next. A line end counts as read. -/
def refuse {α : Type} (last : Nat) (inPlace : Bool) (expected : Option String) (cs : List Char) :
    Except SyntaxFault α :=
  let cs := skipBlanks cs
  let rest := match cs with
    | c :: rest => if isLineEnd c then rest else cs
    | [] => []
  mistakeAt last rest (.unexpected ((Ahead.ofText cs).shown inPlace) expected)

/-- Takes an expected keyword or operator off the front. -/
def expect (last : Nat) (token : String) (cs : List Char) : Except SyntaxFault (List Char) :=
  let cs := skipBlanks cs
  let found := match Ahead.ofText cs with
    | .word text | .operator text => text == token
    | _ => false
  if found then .ok (cs.drop token.length) else refuse last true (some ("\"" ++ token ++ "\"")) cs

/-- Where parts of a word stand. -/
inductive Context
  | plain
  /-- Between double quotation marks. -/
  | quotes
  /-- In a text that stands in the script itself. -/
  | document
  /-- Behind an operator between braces. -/
  | braces (quoted : Bool)
  /-- In an expression, between so many parentheses. -/
  | arithmetic (depth : Nat)
  deriving DecidableEq, Repr

namespace Context

/-- Whether everything there counts as quoted. -/
def isQuoted : Context → Bool
  | plain | braces false => false
  | _ => true

/-- Whether a backslash takes the meaning off a character there. -/
def escapes (ctx : Context) (c : Char) : Bool :=
  !ctx.isQuoted || c == '$' || c == grave || c == '\\' ||
    (match ctx with
    | quotes => c == '"'
    | braces _ => c == '"' || c == '\x7d'
    | _ => false)

end Context

/-- The operators that may follow a name in braces, longer ones first. -/
def parameterOperators : List String :=
  [":-", ":=", ":+", ":?", "##", "%%", "-", "=", "+", "?", "#", "%"]

/-- Parameters without a name. -/
def specialParameters : List Char :=
  ['?', '$', '!', '#', '@', '*', '-']

/-- The name of a parameter in front of a text between braces. -/
def parameterName (cs : List Char) : List Char :=
  match cs with
  | [] => []
  | c :: _ =>
    if isNameStart c then cs.takeWhile isNameChar
    else if c.isDigit then cs.takeWhile Char.isDigit
    else if c ∈ specialParameters then [c]
    else []

/-- The text of an old-style substitution, its escapes resolved, and what follows it. -/
def oldSubstitution? (quoted : Bool) : List Char → List Char → Option (List Char × List Char)
  | _, [] => none
  | done, '\\' :: c :: rest =>
    if c = '\\' ∨ c = '$' ∨ c = grave ∨ (quoted ∧ c = '"') then
      oldSubstitution? quoted (c :: done) rest
    else oldSubstitution? quoted (c :: '\\' :: done) rest
  | done, c :: rest =>
    if c = grave then some (done.reverse, rest) else oldSubstitution? quoted (c :: done) rest

/-- Joins neighbouring texts that are quoted alike. -/
def merge (parts : List Part) : List Part :=
  parts.foldr (fun part merged =>
    match part, merged with
    | .text a q, .text b r :: rest =>
      if q = r then .text (a ++ b) q :: rest else .text a q :: .text b r :: rest
    | part, merged => part :: merged) []

/-- An assignment in front of a command. -/
def assignment? (w : Word) : Option (String × Word) :=
  match w with
  | .text text false :: more =>
    let cs := text.toList
    let name := cs.takeWhile isNameChar
    match name, cs.drop name.length with
    | c :: _, '=' :: value =>
      if isNameStart c then
        some (String.ofList name,
          (if value.isEmpty then [] else [.text (String.ofList value) false]) ++ more)
      else none
    | _, _ => none
  | _ => none

/-- A word that is written without any quoting or substitution. -/
def literal? : Word → Option String
  | [.text text false] => some text
  | _ => none

/-- Built-in commands that a function cannot replace, and whose errors end the script. -/
def specialCommands : List String :=
  [".", ":", "break", "continue", "eval", "exec", "exit", "export", "local", "readonly", "return",
    "set", "shift", "times", "trap", "unset"]

/-- The parts of a simple command. -/
structure SimpleParts where
  assignments : List (String × Word)
  words : List Word
  redirects : List Redirect

/-- A command with its redirections, if it has any. A subshell has no more than one list of them:
    where braces around it bring another, that one counts. -/
def withRedirects (line : Nat) (body : Command) (rs : List Redirect) : Command :=
  if rs.isEmpty then body
  else
    match body with
    | .subshell _ inner _ => .subshell line inner rs
    | body => .redirected line body rs

/-- One command after the other. -/
def inSequence (first second : Command) : Command :=
  match second with
  | .nothing => first
  | second => .sequence first second

mutual

/-- Reads parts of a word up to the end of where they stand, gathered in reverse. -/
def parts (last : Nat) :
    Nat → Context → List Part → List Char → Except SyntaxFault (Found (List Part))
  | 0, _, _, cs => mistakeAt last cs .openQuote
  | _, ctx, done, [] =>
    match ctx with
    | .plain | .document => .ok (done, [])
    | .quotes => mistakeAt last [] .openQuote
    | .braces _ => mistakeAt last [] .openBrace
    | .arithmetic _ => mistakeAt last [] .openArithmetic
  | fuel + 1, ctx, done, c :: rest =>
    let add (text : List Char) (quoted : Bool) (ctx : Context) (rest : List Char) :=
      parts last fuel ctx (.text (String.ofList text) quoted :: done) rest
    let further : Except SyntaxFault (Found (List Part)) :=
      if c = '\\' then
        match rest with
        | [] => add ['\\'] true ctx []
        | d :: more =>
          if d = '\n' then parts last fuel ctx done more
          else if ctx.escapes d then add [d] true ctx more
          else add ['\\'] true ctx rest
      else if c = '\'' ∧ ¬ ctx.isQuoted then
        let inside := rest.takeWhile (· ≠ '\'')
        match rest.drop inside.length with
        | [] => mistakeAt last [] .openQuote
        | _ :: more => add inside true ctx more
      else if c = '"' ∧ ctx ≠ .document then
        match ctx with
        | .arithmetic _ => parts last fuel ctx done rest
        | _ => do
          let (inner, rest) ← parts last fuel .quotes [] rest
          let marked := match inner with
            | [.parameter "@" "" _ _] => inner
            | inner => inner ++ [.text "" true]
          parts last fuel ctx (marked ++ done) rest
      else if c = '$' then do
        let (part, rest) ← dollar last fuel ctx.isQuoted rest
        parts last fuel ctx (part :: done) rest
      else if c = grave then
        match oldSubstitution? ctx.isQuoted [] rest with
        | none => mistakeAt last [] .openSubstitution
        | some (inside, rest) => do
          let (body, _) ← items (lastLine inside) fuel true inside
          parts last fuel ctx (.output body ctx.isQuoted :: done) rest
      else add [c] ctx.isQuoted ctx rest
    match ctx, c, rest with
    | .plain, _, _ => if endsWord c then .ok (done, c :: rest) else further
    | .quotes, '"', _ => .ok (done, rest)
    | .braces _, '\x7d', _ => .ok (done, rest)
    | .arithmetic depth, '(', _ => add [c] true (.arithmetic (depth + 1)) rest
    | .arithmetic (depth + 1), ')', _ => add [c] true (.arithmetic depth) rest
    | .arithmetic 0, ')', ')' :: more => .ok (done, more)
    | _, _, _ => further
  termination_by structural fuel => fuel

/-- Reads what follows a dollar sign. -/
def dollar (last : Nat) : Nat → Bool → List Char → Except SyntaxFault (Found Part)
  | 0, _, cs => mistakeAt last cs .openQuote
  | fuel + 1, quoted, cs =>
    match cs with
    | '(' :: '(' :: rest => do
      let (inside, rest) ← parts last fuel (.arithmetic 0) [] rest
      .ok (.arithmetic (merge inside.reverse) quoted, rest)
    | '(' :: rest => do
      let (body, rest) ← items last fuel true rest
      let rest ← expect last ")" rest
      .ok (.output body quoted, rest)
    | '\x7b' :: rest => braced last fuel quoted rest
    | c :: rest =>
      if isNameStart c then
        let name := cs.takeWhile isNameChar
        .ok (.parameter (String.ofList name) "" [] quoted, cs.drop name.length)
      else if c.isDigit || c ∈ specialParameters then
        .ok (.parameter c.toString "" [] quoted, rest)
      else .ok (.text "$" quoted, cs)
    | [] => .ok (.text "$" quoted, cs)
  termination_by structural fuel => fuel

/-- Reads a parameter between braces, behind the opening one. -/
def braced (last : Nat) : Nat → Bool → List Char → Except SyntaxFault (Found Part)
  | 0, _, cs => mistakeAt last cs .openBrace
  | fuel + 1, quoted, cs =>
    let counted := parameterName cs.tail
    if cs.head? = some '#' ∧ counted ≠ [] ∧
        (cs.drop (counted.length + 1)).head? = some '\x7d' then
      .ok (.length (String.ofList counted) quoted, cs.drop (counted.length + 2))
    else
      let name := parameterName cs
      let rest := cs.drop name.length
      let operator := (parameterOperators.find? fun op => op.toList.isPrefixOf rest).getD ""
      let trims := operator.toList.head? == some '#' || operator.toList.head? == some '%'
      do
        let (operand, rest) ← parts last fuel (.braces (quoted && !trims)) []
          (rest.drop operator.length)
        if name.isEmpty ∨ (operator = "" ∧ !operand.isEmpty) then .ok (.senseless, rest)
        else
          .ok (.parameter (String.ofList name) operator (merge operand.reverse) quoted, rest)
  termination_by structural fuel => fuel

/-- Reads a redirection, if one stands in front. -/
def redirect? (last : Nat) : Nat → List Char → Except SyntaxFault (Found (Option Redirect))
  | 0, cs => .ok (none, cs)
  | fuel + 1, cs =>
    let cs := skipBlanks cs
    let digits := cs.takeWhile Char.isDigit
    let descriptor (fallback : Nat) : Nat :=
      (digits.head?.map fun c => c.toNat - 48).getD fallback
    let target (rest : List Char) : Except SyntaxFault (Found Word) :=
      match Ahead.ofText rest with
      | .word _ => do
        let (target, rest) ← parts last fuel .plain [] (skipBlanks rest)
        .ok (merge target.reverse, rest)
      | _ => refuse last false none rest
    let make (fallback : Nat) (direction : Direction) (rest : List Char) :
        Except SyntaxFault (Found (Option Redirect)) := do
      let (target, rest) ← target rest
      .ok (some ⟨descriptor fallback, direction, target⟩, rest)
    let document (withoutTabs : Bool) (rest : List Char) :
        Except SyntaxFault (Found (Option Redirect)) := do
      let (closing, rest) ← target rest
      let text := String.join (closing.map fun
        | .text text _ => text
        | _ => "")
      let plain := (literal? closing).isSome
      let (body, rest) := takeDocument text.toList withoutTabs rest
      let (body, _) ← if plain then
          parts (lineAt last rest + countLines body) fuel .document [] body
        else .ok ([.text (String.ofList body) true], [])
      .ok (some ⟨descriptor 0, .document, merge body.reverse⟩, rest)
    if digits.length > 1 ∨ Ahead.ofText cs ≠ .redirection then .ok (none, cs)
    else
      match cs.drop digits.length with
      | '>' :: '>' :: rest => make 1 .append rest
      | '>' :: '&' :: rest => make 1 .duplicate rest
      | '>' :: '|' :: rest => make 1 .overwrite rest
      | '>' :: rest => make 1 .output rest
      | '<' :: '<' :: '-' :: rest => document true rest
      | '<' :: '<' :: rest => document false rest
      | '<' :: '&' :: rest => make 0 .duplicate rest
      | '<' :: '>' :: rest => make 0 .update rest
      | '<' :: rest => make 0 .input rest
      | _ => .ok (none, cs)
  termination_by structural fuel => fuel

/-- Reads redirections as long as there are any. -/
def redirects (last : Nat) :
    Nat → List Redirect → List Char → Except SyntaxFault (Found (List Redirect))
  | 0, done, cs => .ok (done, cs)
  | fuel + 1, done, cs => do
    match ← redirect? last fuel cs with
    | (some r, rest) => redirects last fuel (done ++ [r]) rest
    | (none, _) => .ok (done, cs)
  termination_by structural fuel => fuel

/-- Reads the words and redirections of a simple command. -/
def simpleParts (last : Nat) :
    Nat → SimpleParts → List Char → Except SyntaxFault (Found SimpleParts)
  | 0, done, cs => .ok (done, cs)
  | fuel + 1, done, cs =>
    let cs := skipBlanks cs
    match Ahead.ofText cs with
    | .redirection => do
      match ← redirect? last fuel cs with
      | (some r, rest) =>
        simpleParts last fuel { done with redirects := done.redirects ++ [r] } rest
      | (none, _) => .ok (done, cs)
    | .word _ => do
      let (w, rest) ← parts last fuel .plain [] cs
      let w := merge w.reverse
      match assignment? w, done.words with
      | some a, [] =>
        simpleParts last fuel { done with assignments := done.assignments ++ [a] } rest
      | _, _ => simpleParts last fuel { done with words := done.words ++ [w] } rest
    | _ => .ok (done, cs)
  termination_by structural fuel => fuel

/-- Reads words as long as there are any. -/
def words (last : Nat) : Nat → List Word → List Char → Except SyntaxFault (Found (List Word))
  | 0, done, cs => .ok (done, cs)
  | fuel + 1, done, cs =>
    match Ahead.ofText cs with
    | .word _ => do
      let (w, rest) ← parts last fuel .plain [] (skipBlanks cs)
      words last fuel (done ++ [merge w.reverse]) rest
    | _ => .ok (done, skipBlanks cs)
  termination_by structural fuel => fuel

/-- Reads commands up to a word or an operator that closes the list. The flag says whether the list
    may end before the first. -/
def items (last : Nat) : Nat → Bool → List Char → Except SyntaxFault (Found Command)
  | 0, _, cs => mistakeAt last cs .openQuote
  | fuel + 1, mayEnd, cs =>
    let cs := skipAll cs
    let next := Ahead.ofText cs
    if next = .textEnd ∨ (mayEnd && next.closesList) then .ok (.nothing, cs)
    else do
      let (first, rest) ← chain last fuel cs
      match skipBlanks rest with
      | ';' :: ';' :: rest => .ok (first, ';' :: ';' :: rest)
      | '&' :: rest => do
        let (second, rest) ← items last fuel true rest
        .ok (inSequence (.background first) second, rest)
      | ';' :: rest => do
        let (second, rest) ← items last fuel true rest
        .ok (inSequence first second, rest)
      | c :: rest =>
        if isLineEnd c then do
          let (second, rest) ← items last fuel true rest
          .ok (inSequence first second, rest)
        else .ok (first, c :: rest)
      | [] => .ok (first, [])
  termination_by structural fuel => fuel

/-- Reads pipelines joined by conditions. -/
def chain (last : Nat) : Nat → List Char → Except SyntaxFault (Found Command)
  | 0, cs => mistakeAt last cs .openQuote
  | fuel + 1, cs => do
    let (first, rest) ← pipeline last fuel cs
    joined last fuel first rest
  termination_by structural fuel => fuel

/-- Reads the rest of a chain. -/
def joined (last : Nat) : Nat → Command → List Char → Except SyntaxFault (Found Command)
  | 0, _, cs => mistakeAt last cs .openQuote
  | fuel + 1, first, cs =>
    match skipBlanks cs with
    | '&' :: '&' :: rest => do
      let (second, rest) ← pipeline last fuel (skipAll rest)
      joined last fuel (.both first second) rest
    | '|' :: '|' :: rest => do
      let (second, rest) ← pipeline last fuel (skipAll rest)
      joined last fuel (.either first second) rest
    | _ => .ok (first, cs)
  termination_by structural fuel => fuel

/-- Reads commands joined by pipes, possibly behind a negation. -/
def pipeline (last : Nat) : Nat → List Char → Except SyntaxFault (Found Command)
  | 0, cs => mistakeAt last cs .openQuote
  | fuel + 1, cs =>
    let cs := skipBlanks cs
    if Ahead.ofText cs = .word "!" then do
      let (body, rest) ← piped last fuel (cs.drop 1)
      .ok (.negate body, rest)
    else piped last fuel cs
  termination_by structural fuel => fuel

/-- Reads commands joined by pipes. -/
def piped (last : Nat) : Nat → List Char → Except SyntaxFault (Found Command)
  | 0, cs => mistakeAt last cs .openQuote
  | fuel + 1, cs => do
    let (first, rest) ← command last fuel cs
    match skipBlanks rest with
    | '|' :: '|' :: _ => .ok (first, rest)
    | '|' :: rest => do
      let (second, rest) ← piped last fuel (skipAll rest)
      .ok (.pipe first second, rest)
    | _ => .ok (first, rest)
  termination_by structural fuel => fuel

/-- Reads one command. -/
def command (last : Nat) : Nat → List Char → Except SyntaxFault (Found Command)
  | 0, cs => mistakeAt last cs .openQuote
  | fuel + 1, cs =>
    let cs := skipBlanks cs
    let line := lineAt last cs
    let finish (body : Command) (rest : List Char) : Except SyntaxFault (Found Command) := do
      let (rs, rest) ← redirects last fuel [] rest
      .ok (withRedirects line body rs, rest)
    match Ahead.ofText cs with
    | .operator "(" => do
      let (body, rest) ← items last fuel false (cs.drop 1)
      let rest ← expect last ")" rest
      finish (.subshell line body []) rest
    | .redirection => simple last fuel cs
    | .word head =>
      let rest := cs.drop head.length
      if head = "\x7b" then do
        let (body, rest) ← items last fuel false rest
        let rest ← expect last "\x7d" rest
        finish body rest
      else if head = "if" then do
        let (body, rest) ← choice last fuel rest
        finish body rest
      else if head = "while" ∨ head = "until" then do
        let (condition, rest) ← items last fuel false rest
        let rest ← expect last "do" rest
        let (body, rest) ← items last fuel false rest
        let rest ← expect last "done" rest
        finish (.loop (head = "until") condition body) rest
      else if head = "for" then
        let rest := skipBlanks rest
        let name := match Ahead.ofText rest with
          | .word name => name
          | _ => ""
        if !isName name then mistakeAt last rest .loopName
        else do
          let rest := skipAll (rest.drop name.length)
          let (values, rest) ← (if Ahead.ofText rest = .word "in" then do
              let (values, rest) ← words last fuel [] (rest.drop 2)
              match rest with
              | ';' :: ';' :: _ => refuse last false none rest
              | ';' :: rest => .ok (some values, rest)
              | _ =>
                if Ahead.ofText rest = .lineEnd then .ok (some values, rest)
                else refuse last false none rest
            else
              match rest with
              | ';' :: ';' :: _ => .ok (none, rest)
              | ';' :: rest => .ok (none, rest)
              | rest => .ok (none, rest) : Except SyntaxFault (Found (Option (List Word))))
          let rest ← expect last "do" (skipAll rest)
          let (body, rest) ← items last fuel false rest
          let rest ← expect last "done" rest
          finish (.each line name values body) rest
      else if head = "case" then
        match Ahead.ofText rest with
        | .word _ => do
          let (subject, rest) ← parts last fuel .plain [] (skipBlanks rest)
          let rest ← expect last "in" (skipAll rest)
          let (found, rest) ← alternatives last fuel [] rest
          finish (.select line (merge subject.reverse) found) rest
        | _ => refuse last false (some "word") rest
      else if Ahead.keywords.contains head then refuse last true none cs
      else simple last fuel cs
    | _ => refuse last true none cs
  termination_by structural fuel => fuel

/-- Reads a simple command, or the definition of a function. -/
def simple (last : Nat) : Nat → List Char → Except SyntaxFault (Found Command)
  | 0, cs => mistakeAt last cs .openQuote
  | fuel + 1, cs => do
    let (found, rest) ← simpleParts last fuel ⟨[], [], []⟩ cs
    match found, rest with
    | ⟨[], [name], []⟩, '(' :: rest =>
      if Ahead.ofText rest ≠ .operator ")" then refuse last false (some "\")\"") rest
      else
        let rest := (skipBlanks rest).drop 1
        match (literal? name).filter fun name => isName name && !specialCommands.contains name with
        | none => mistakeAt last rest .functionName
        | some name => do
          let (body, rest) ← command last fuel (skipAll rest)
          .ok (.define name body, rest)
    | found, rest =>
      let line := lineAt last cs
      .ok (.simple line found.assignments found.words found.redirects, rest)
  termination_by structural fuel => fuel

/-- Reads a condition and its branches. -/
def choice (last : Nat) : Nat → List Char → Except SyntaxFault (Found Command)
  | 0, cs => mistakeAt last cs .openQuote
  | fuel + 1, cs => do
    let (condition, rest) ← items last fuel false cs
    let rest ← expect last "then" rest
    let (yes, rest) ← items last fuel false rest
    match Ahead.ofText rest with
    | .word "elif" => do
      let (no, rest) ← choice last fuel ((skipBlanks rest).drop 4)
      .ok (.choose condition yes no, rest)
    | .word "else" => do
      let (no, rest) ← items last fuel false ((skipBlanks rest).drop 4)
      let rest ← expect last "fi" rest
      .ok (.choose condition yes no, rest)
    | _ => do
      let rest ← expect last "fi" rest
      .ok (.choose condition yes .nothing, rest)
  termination_by structural fuel => fuel

/-- Reads the patterns of an alternative, up to the closing parenthesis. Something else than a word
    is passed over as a pattern that fits nothing. -/
def patterns (last : Nat) :
    Nat → List Word → List Char → Except SyntaxFault (Found (List Word))
  | 0, _, cs => mistakeAt last cs .openQuote
  | fuel + 1, done, cs => do
    let cs := skipBlanks cs
    let (w, rest) ← (match Ahead.ofText cs with
      | .word _ => parts last fuel .plain [] cs
      | .operator text => .ok ([], cs.drop text.length)
      | .textEnd => .ok ([], [])
      | _ => .ok ([], cs.drop 1) : Except SyntaxFault (Found (List Part)))
    let found := done ++ [merge w.reverse]
    match skipBlanks rest with
    | '|' :: '|' :: _ => refuse last false (some "\")\"") rest
    | '|' :: rest => patterns last fuel found rest
    | ')' :: rest => .ok (found, rest)
    | _ => refuse last false (some "\")\"") rest
  termination_by structural fuel => fuel

/-- Reads the alternatives of a selection. -/
def alternatives (last : Nat) :
    Nat → List (List Word × Command) → List Char →
      Except SyntaxFault (Found (List (List Word × Command)))
  | 0, _, cs => mistakeAt last cs .openQuote
  | fuel + 1, done, cs =>
    let cs := skipAll cs
    if Ahead.ofText cs = .word "esac" then .ok (done, cs.drop 4)
    else do
      let cs := match cs with
        | '(' :: rest => rest
        | rest => rest
      let (fits, rest) ← patterns last fuel [] cs
      let (body, rest) ← items last fuel true rest
      let found := done ++ [(fits, body)]
      let rest := skipAll rest
      match Ahead.ofText rest with
      | .word "esac" => .ok (found, rest.drop 4)
      | .operator ";;" => alternatives last fuel found (rest.drop 2)
      | _ => refuse last true (some "\";;\"") rest
  termination_by structural fuel => fuel

end

/-- A depth that suffices for reading a text. -/
def depthFor (cs : List Char) : Nat :=
  8 * cs.length + 64

/-- Reads the commands of one line; of compound ones all lines. -/
def lineOfCommands (last depth : Nat) : Nat → List Char → Except SyntaxFault (Found Command)
  | 0, cs => mistakeAt last cs .openQuote
  | fuel + 1, cs => do
    let (first, rest) ← chain last depth cs
    let further (first : Command) (rest : List Char) : Except SyntaxFault (Found Command) :=
      match skipBlanks rest with
      | [] => .ok (first, [])
      | c :: rest =>
        if isLineEnd c then .ok (first, rest)
        else do
          let (second, rest) ← lineOfCommands last depth fuel (c :: rest)
          .ok (.sequence first second, rest)
    match skipBlanks rest with
    | ';' :: ';' :: _ => refuse last true none rest
    | '&' :: rest => further (.background first) rest
    | ';' :: rest => further first rest
    | [] => .ok (first, [])
    | c :: more => if isLineEnd c then .ok (first, more) else refuse last true none rest

/-- Reads the next complete command of a script, unless the script has ended. -/
def nextCommand (last : Nat) (cs : List Char) : Except SyntaxFault (Found (Option Command)) :=
  match skipBlanks cs with
  | [] => .ok (none, [])
  | c :: rest =>
    if isLineEnd c then .ok (some .nothing, rest)
    else (lineOfCommands last (depthFor cs) (cs.length + 1) (c :: rest)).map fun (body, rest) =>
      (some body, rest)

end Overseer.Machine.Script
