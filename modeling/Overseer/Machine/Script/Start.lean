import Overseer.Machine.Script.Builtin.Basic

/-!
Starting the command language: which script its arguments ask for, and the shell that begins it.
-/

namespace Overseer.Machine.Script

/-- What the arguments of the command language ask for. -/
structure Request where
  options : List Char
  name : String
  source : String
  parameters : List String
  deriving DecidableEq, Repr

namespace Request

/-- Option letters in front of the operands, with option names among them. -/
def optionLetters : Nat → List String → List Char × List String
  | 0, args => ([], args)
  | _, [] => ([], [])
  | fuel + 1, arg :: rest =>
    if arg = "--" ∨ arg = "-" then ([], rest)
    else
      match arg.toList with
      | '-' :: letters =>
        let named := letters.getLast? = some 'o'
        let letters := if named then letters.dropLast else letters
        let byName := if named then
            (Shell.knownOptions.filter fun option => some option.2 == rest.head?).map Prod.fst
          else []
        let (more, operands) := optionLetters fuel (if named then rest.tail else rest)
        (letters ++ byName ++ more, operands)
      | _ => ([], arg :: rest)

/-- The letter that has a script given as an argument. -/
def scriptLetter : Char := 'c'

/-- Reads the arguments, the program's own name first. Without a script the input is one, all of
    which the process reads. -/
def ofArgs (p : Process) (args : List String) : Except String (Request × Process) :=
  let own := args.head?.getD "sh"
  let refuse (text : String) : Except String (Request × Process) :=
    .error (own ++ ": 0: " ++ text)
  let (letters, operands) := optionLetters (args.length + 1) args.tail
  let options := letters.filter (· != scriptLetter)
  match options.find? fun c => !(Shell.knownOptions.map Prod.fst).contains c with
  | some c => refuse ("Illegal option -" ++ c.toString)
  | none =>
    if letters.contains scriptLetter then
      match operands with
      | [] => refuse "-c requires an argument"
      | source :: rest => .ok (⟨options, rest.head?.getD own, source, rest.tail⟩, p)
    else
      match (if letters.contains 's' then [] else operands) with
      | [] =>
        let (bytes, p) := p.readInput
        .ok (⟨options, own, Bytes.spread bytes, operands⟩, p)
      | file :: rest =>
        match p.readFile file with
        | .ok source => .ok (⟨options, file, source, rest⟩, p)
        | .error _ => refuse ("cannot open " ++ file ++ ": No such file")

end Request

namespace Shell

/-- Where programs are searched for unless the environment tells. -/
def defaultPath : String := "/usr/local/sbin:/usr/local/bin:/usr/sbin:/usr/bin:/sbin:/bin"

/-- The shell that begins a script. New processes get their ids from a number on. Some variables are
    set whatever the environment says, others only where it says nothing. -/
def start (p : Process) (nextId : Nat) (r : Request) : Shell :=
  let inherited := p.environment.bindings.filter fun v => isName v.1
  let directory := "PWD"
  let fixed := [(directory, Builtin.shownPath p.files.cwd), ("IFS", blanks), ("OPTIND", "1"),
    ("PPID", toString p.parent)]
  let usual := [("PATH", defaultPath), ("PS1", "# "), ("PS2", "> "), ("PS4", "+ ")]
  { process := p
    id := p.id
    name := r.name
    line := 0
    speaker := none
    parameters := r.parameters
    bindings := fixed ++
      (inherited.map fun (name, value) => (name, Bytes.spread value)).filter
        (fun v => (fixed.lookup v.1).isNone) ++
      usual.filter fun v => (inherited.lookup v.1).isNone
    exported := (inherited.map Prod.fst).filter (· ≠ directory) ++ [directory]
    readOnly := []
    functions := []
    status := 0
    substituted := none
    traps := []
    jobs := []
    places := []
    waited := []
    others := []
    lastJob := none
    nextId
    strikes := []
    options := r.options
    saved := []
    loops := 0
    final := false
    tested := false
    halted := none }

end Shell

end Overseer.Machine.Script
