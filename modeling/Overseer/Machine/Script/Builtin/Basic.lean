import Overseer.Machine.Script.Expand
import Overseer.Machine.Utility

/-!
Commands that the command language carries out itself: their shape, and those that print, move
about, and set variables, parameters and options.
-/

namespace Overseer.Machine.Script

/-- A built-in command: it may run scripts, and takes arguments. -/
abbrev Builtin := Runner → List String → Shell → Shell × Flow

namespace Builtin

/-- Ends a built-in command with a status. -/
def done (sh : Shell) (status : Nat) : Shell × Flow :=
  (sh.setStatus status, .finished)

/-- A built-in command fails. For some of them that ends the script. -/
def refuse (sh : Shell) (text : String) : Shell × Flow :=
  ((sh.complain text).setStatus Shell.errorStatus, .failed)

/-- An argument that should be a number. -/
def numberIn (arg : String) (sh : Shell) (f : Nat → Shell × Flow) : Shell × Flow :=
  match arg.toNat? with
  | some n => f n
  | none => refuse sh ("Illegal number: " ++ arg)

/-- Prints its arguments with all escapes replaced. -/
def echo : Builtin := fun _ args sh =>
  let (bare, args) := match args with
    | "-n" :: rest => (true, rest)
    | args => (false, args)
  let (text, stop) := Format.unescape Format.plainStyle (" ".intercalate args).toList
  done (sh.update (·.print (String.ofList text ++ (if bare || stop then "" else "\n")))) 0

/-- Prints a format with its arguments. -/
def printf : Builtin := fun _ args sh =>
  let option := match (args.head?.getD "").toList with
    | '-' :: c :: _ => if c = '-' then none else some c
    | _ => none
  match option, (if args.head? = some "--" then args.tail else args) with
  | some c, _ => refuse sh ("Illegal option -" ++ c.toString)
  | none, [] => refuse sh "usage: printf format [arg ...]"
  | none, format :: args =>
    let (text, faults) := Format.printf Format.plainStyle format.toList (args.map String.toList)
    let faults := faults.filterMap fun fault => (report? fault).map fun text => (fault, text)
    let sh := faults.foldl (fun sh (_, text) => sh.complain text) sh
    done (sh.update (·.print (String.ofList text)))
      (if faults.any fun fault => fault.1.isFatal then Shell.errorStatus
        else if faults.isEmpty then 0 else 1)
where
  report? : Format.Fault → Option String
    | .notNumeric arg => some (String.ofList arg ++ ": expected numeric value")
    | .partlyNumeric arg => some (String.ofList arg ++ ": not completely converted")
    | .outOfRange arg => some (String.ofList arg ++ ": " ++ Errno.outOfRange.text)
    | .missingLetter => some "missing format character"
    | .invalidDirective text => some (String.ofList text ++ ": invalid directive")
    | .excess _ => none

/-- Decides a condition. -/
def test (name : String) : Builtin := fun _ args sh =>
  match (if name = "[" then
    (if args.getLast? = some "]" then some args.dropLast else none) else some args) with
  | none => refuse sh "missing ]"
  | some args =>
    match Utility.judge sh.process.files args with
    | .ok answer => done sh (if answer then 0 else 1)
    | .error e => refuse sh e.text

/-- Leaves the script, with the last status unless another is given. -/
def exit : Builtin := fun _ args sh =>
  match args with
  | [] => (sh, .exited)
  | arg :: _ => numberIn arg sh fun n => (sh.setStatus (n % 256), .exited)

/-- Leaves a function or a file that is being read. -/
def leaveFunction : Builtin := fun _ args sh =>
  match args with
  | [] => (sh, .returned)
  | arg :: _ => numberIn arg sh fun n => (sh.setStatus (n % 256), .returned)

/-- Leaves some of the loops under way, or goes on with their next turn. -/
def leaveLoops (flow : Nat → Flow) : Builtin := fun _ args sh =>
  numberIn (args.head?.getD "1") sh fun n =>
    if n = 0 then refuse sh ("Illegal number: " ++ args.head?.getD "")
    else
      let loops := min n sh.loops
      if loops = 0 then done sh 0 else (sh.setStatus 0, flow loops)

/-- The path of a directory as it is shown. -/
def shownPath (loc : Location) : String :=
  Bytes.spread (Path.slash :: Path.ofNames loc)

/-- Changes the current directory. -/
def cd : Builtin := fun _ args sh =>
  let args := match args with
    | "--" :: rest | "-P" :: rest | "-L" :: rest => rest
    | args => args
  let asked := args.head?.getD ((sh.value? "HOME").getD "")
  let target := if asked = "-" then (sh.value? "OLDPWD").getD "" else asked
  let impossible := refuse sh ("can't cd to " ++ target)
  if target = "" then done sh 0
  else
    match sh.process.files.locate (Process.pathOf target) with
    | .ok loc =>
      if sh.process.files.node? loc = some .directory then
        let before := sh.process.files.cwd
        let sh := sh.update fun p => { p with files := { p.files with cwd := loc } }
        let sh := (sh.assign "OLDPWD" (shownPath before)).assign "PWD" (shownPath loc)
        done (if asked = "-" then sh.update (·.print (target ++ "\n")) else sh) 0
      else impossible
    | .error _ => impossible

/-- Name and value of an assignment among arguments. -/
def splitAssignment (arg : String) : String × Option String :=
  match Text.cutFirst? '=' arg.toList with
  | some (name, value) => (String.ofList name, some (String.ofList value))
  | none => (arg, none)

/-- Handles assignments and names among arguments, up to one that is no name. -/
def forEachName (f : Shell → String → Option String → Shell) : List String → Shell → Shell × Flow
  | [], sh => done sh 0
  | arg :: rest, sh =>
    let (name, value) := splitAssignment arg
    if !isName name then refuse sh (name ++ ": bad variable name")
    else
      let sh := f sh name value
      if sh.halted.isSome then (sh, .failed) else forEachName f rest sh

/-- Assigns if there is a value. -/
def assignIf (sh : Shell) (name : String) : Option String → Shell
  | some value => sh.assign name value
  | none => sh

/-- Text in single quotation marks. -/
def inSingleQuotes (text : String) : String :=
  "\'" ++ "\'\"\'\"\'".intercalate ((Text.cut '\'' text.toList).map String.ofList) ++ "\'"

/-- Shows variables as commands that set them. -/
def showVariables (command : String) (names : List String) (sh : Shell) : Shell × Flow :=
  let line (name : String) : String :=
    command ++ name ++
      ((sh.value? name).map fun value => "=" ++ inSingleQuotes value).getD "" ++ "\n"
  done (sh.update (·.print (String.join ((inByteOrder names).map line)))) 0

/-- Exports variables. -/
def exportAll : Builtin := fun _ args sh =>
  match args with
  | [] | ["-p"] => showVariables "export " sh.exported sh
  | args => forEachName (fun sh name value => (assignIf sh name value).exportName name) args sh

/-- Makes variables read only. -/
def readOnly : Builtin := fun _ args sh =>
  match args with
  | [] | ["-p"] => showVariables "readonly " sh.readOnly sh
  | args => forEachName (fun sh name value =>
      let sh := assignIf sh name value
      if sh.readOnly.contains name then sh else { sh with readOnly := name :: sh.readOnly }) args sh

/-- Makes variables belong to the function at hand. -/
def localAll : Builtin := fun _ args sh =>
  match sh.saved with
  | [] => refuse sh "not in a function"
  | own :: outer =>
    forEachName (fun sh name value =>
      let own := sh.saved.head?.getD own
      let kept := if own.any fun v => v.1 = name then own else (name, sh.value? name) :: own
      assignIf { sh with saved := kept :: outer } name value) args sh

/-- Takes variables or functions away. -/
def unset : Builtin := fun _ args sh =>
  let functions := args.head? = some "-f"
  let names := args.filter fun arg => arg ≠ "-f" ∧ arg ≠ "-v"
  if functions then
    done { sh with functions := sh.functions.filter fun f => !names.contains f.1 } 0
  else
    forEachName (fun sh name _ =>
      if sh.readOnly.contains name then sh.fail (name ++ ": is read only")
      else { sh.restore name none with exported := sh.exported.filter (· ≠ name) }) names sh

/-- Sets options by their letters, up to one that is not known. -/
def setLetters (on : Bool) : List Char → Shell → Except Char Shell
  | [], sh => .ok sh
  | c :: rest, sh =>
    if (Shell.knownOptions.map Prod.fst).contains c then setLetters on rest (sh.setOption on c)
    else .error c

/-- Sets parameters and options. -/
def set : Builtin := fun _ args sh =>
  if args.isEmpty then showVariables "" (sh.bindings.map Prod.fst) sh
  else go (args.length + 1) args sh
where
  go : Nat → List String → Shell → Shell × Flow
    | 0, _, sh | _, [], sh => done sh 0
    | fuel + 1, arg :: rest, sh =>
      let options (on : Bool) (letters : List Char) : Shell × Flow :=
        if letters = ['o'] then
          match rest with
          | [] => done sh 0
          | name :: rest =>
            match Shell.knownOptions.find? fun option => option.2 = name with
            | some (c, _) => go fuel rest (sh.setOption on c)
            | none => refuse sh ("Illegal option " ++ arg ++ " " ++ name)
        else
          match setLetters on letters sh with
          | .ok sh => go fuel rest sh
          | .error c => refuse sh ("Illegal option " ++ (if on then "-" else "+") ++ c.toString)
      match arg.toList with
      | ['-', '-'] => done { sh with parameters := rest } 0
      | ['-'] => done (if rest.isEmpty then sh else { sh with parameters := rest }) 0
      | '-' :: letters => options true letters
      | '+' :: letters => options false letters
      | _ => done { sh with parameters := arg :: rest } 0

def shift : Builtin := fun _ args sh =>
  numberIn (args.head?.getD "1") sh fun n =>
    if n ≤ sh.parameters.length then done { sh with parameters := sh.parameters.drop n } 0
    else refuse sh "can't shift that many"

/-- Cuts a line into so many fields, the last of which takes what is left. -/
def lineFields (separators : List Char) : Nat → List (Char × Bool) → List String
  | 0, _ => []
  | more + 1, cs =>
    let separates (c : Char × Bool) : Bool := !c.2 && separators.contains c.1
    let blank (c : Char × Bool) : Bool := separates c && Shell.blanks.toList.contains c.1
    let cs := cs.dropWhile blank
    let text (cs : List (Char × Bool)) : String := String.ofList (cs.map Prod.fst)
    if more = 0 then
      let trimmed := (cs.reverse.dropWhile blank).reverse
      let single := trimmed.takeWhile (!separates ·)
      match (trimmed.drop single.length).dropWhile blank with
      | [c] => if separates c then [text single] else [text trimmed]
      | _ => [text trimmed]
    else
      let field := cs.takeWhile (!separates ·)
      let rest := (cs.drop field.length).dropWhile blank
      let rest := match rest with
        | c :: more => if separates c then more else rest
        | [] => []
      if cs.isEmpty then [] else text field :: lineFields separators more rest

/-- The characters of a line, those behind a backslash flagged; the flag in front says whether the
    line goes on behind its end. -/
def resolveLine (raw : Bool) : List Char → List (Char × Bool) → Bool × List (Char × Bool)
  | [], done => (false, done.reverse)
  | ['\\'], done => if raw then (false, (('\\', false) :: done).reverse) else (true, done.reverse)
  | c :: d :: rest, done =>
    if c = '\\' ∧ ¬ raw then resolveLine raw rest ((d, true) :: done)
    else resolveLine raw (d :: rest) ((c, false) :: done)
  | [c], done => (false, ((c, false) :: done).reverse)

/-- Reads a line of the input, with its continuations. The flag says whether its end was found. -/
def readLine (raw : Bool) : Nat → List (Char × Bool) → Process → Bool × List (Char × Bool) × Process
  | 0, done, p => (false, done, p)
  | fuel + 1, done, p =>
    let (bytes, p) := p.readUntil (·.contains Bytes.newline)
    let line := bytes.takeWhile (· ≠ Bytes.newline)
    let ended := line.length < bytes.length
    let p := p.unread (bytes.drop (line.length + 1))
    let (continued, cs) := resolveLine raw (Bytes.spread line).toList []
    if continued ∧ ended then readLine raw fuel (done ++ cs) p
    else (ended, done ++ cs, p)

/-- Reads a line of the input into variables, as soon as it has arrived. -/
def read : Builtin := fun _ args sh =>
  let (letters, names) := Utility.options args
  let names := if letters.contains 'p' then names.tail else names
  if names.isEmpty then refuse sh "arg count"
  else
    let (ended, cs, process) := readLine (letters.contains 'r') 1000 [] sh.process
    let fields := lineFields sh.separators names.length cs
    let values := names.zipIdx.map fun (name, k) => (name, fields[k]?.getD "")
    let (sh, flow) := forEachName (fun sh name value => sh.assign name (value.getD ""))
      (values.map fun (name, value) => name ++ "=" ++ value) { sh with process }
    if flow = .finished then done sh (if ended then 0 else 1) else (sh, flow)

end Builtin

end Overseer.Machine.Script
