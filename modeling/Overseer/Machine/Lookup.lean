import Overseer.Machine.Process

/-!
Finding the program that a command names: along the search path, and through the interpreter lines
of scripts.
-/

namespace Overseer.Machine.Lookup

/-- Searched when the environment names no search path. -/
def defaultSearch : Bytes := Bytes.ofString "/bin:/usr/bin"

/-- So many files are looked into, from a script through its interpreters to a program. -/
def maxDepth : Nat := 6

/-- What is executed in the end. -/
structure Image where
  /-- The program of the machine. -/
  program : String
  /-- Its arguments, its own name first. -/
  args : List String
  deriving DecidableEq, Repr

/-- The interpreter that a script names, with the one argument that it may be given. -/
def interpreterLine? (content : Bytes) : Option (String × List String) :=
  let line := Bytes.spread (content.takeWhile (· ≠ Bytes.newline))
  match line.toList with
  | '#' :: '!' :: rest =>
    let blank (c : Char) : Bool := c == ' ' || c == '\t'
    let rest := rest.dropWhile blank
    let name := rest.takeWhile fun c => !blank c
    let argument := ((rest.drop name.length).dropWhile blank).reverse.dropWhile blank
    if name.isEmpty then none
    else some (String.ofList name,
      if argument.isEmpty then [] else [String.ofList argument.reverse])
  | _ => none

/-- What executing the file at a path comes to. -/
def image (files : Files) : Nat → String → List String → Except Errno Image
  | 0, _, _ => .error .tooManyLevels
  | depth + 1, path, args =>
    match files.openForReading (Process.pathOf path) with
    | .error (.system e) => .error e
    | .error _ => .error .notFound
    | .ok (.program name) => .ok ⟨name, args⟩
    | .ok (.file content true) =>
      match interpreterLine? content with
      | some (interpreter, extra) =>
        image files depth interpreter (interpreter :: extra ++ path :: args.tail)
      | none => .error .notExecutable
    | .ok _ => .error .permissionDenied

/-- Tries the directories of the search path in order. A file that may not be executed is passed
    over, but reported when no other is found. -/
def search (files : Files) (command : String) (args : List String) :
    Errno → List Bytes → Except Errno Image
  | fallback, [] => .error fallback
  | fallback, dir :: rest =>
    let path := Bytes.spread ((Path.mk dir).join (Process.pathOf command)).bytes
    match image files maxDepth path args with
    | .ok found => .ok found
    | .error e =>
      if e = .permissionDenied then search files command args e rest
      else if e = .notFound ∨ e = .notDirectory then search files command args fallback rest
      else .error e

/-- What a command and its arguments come to, whatever their size. A command with a slash is not
    searched for. -/
def locate (env : Environment) (files : Files) (command : String) (args : List String) :
    Except Errno Image :=
  if command = "" then .error .notFound
  else if command.toList.contains '/' then image files maxDepth command (command :: args)
  else search files command (command :: args) .notFound
    (Text.cut 58 ((env.value? "PATH").getD defaultSearch))

/-- An argument must be shorter than this. -/
def maxArgument : Nat := 0x20000

/-- All arguments and the environment may take this much room together. -/
def maxRoom : Nat := 0x200000

/-- The room that a text of a length takes: itself, its end, and the address of its start. -/
def roomOf (length : Nat) : Nat :=
  length + 9

/-- Whether arguments and environment are small enough for a program to be started. -/
def fit (env : Environment) (args : List String) : Bool :=
  let own := args.map String.length
  let inherited := env.bindings.map fun (name, value) => name.utf8ByteSize + 1 + value.length
  own.all (· < maxArgument) &&
    (own ++ inherited).foldl (fun room length => room + roomOf length) 0 ≤ maxRoom

/-- What a command and its arguments come to. -/
def find (env : Environment) (files : Files) (command : String) (args : List String) :
    Except Errno Image := do
  let found ← locate env files command args
  if fit env found.args then .ok found else .error .tooManyArguments

end Overseer.Machine.Lookup
