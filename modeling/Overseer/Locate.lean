import Overseer.Environment
import Overseer.Fault
import Overseer.Files.Access

/-!
The agent's own program file: an absolute name stands for itself, a relative one for what is there
in the current directory, and any other is searched on the search path. The result is absolute and
clean, so it outlives a change of directory.
-/

namespace Overseer.Locate

/-- Names the search path. -/
def searchVariable : String := "PATH"

/-- The separator of the search path. -/
def colon : UInt8 := 58

/-- A name at the start of a directory of the search path that stands for the home directory. -/
def tilde : Bytes := [126]

/-- Whether a path leads to a regular file that may be executed. -/
def isRunnable (files : Files) (p : Path) : Bool :=
  match files.find? p with
  | some node => node.isExecutable
  | none => false

/-- Names the home directory. -/
def homeVariable : String := "HOME"

/-- The home directory: the one that a variable names, unless that is empty, else that of the
    account. -/
def homeDirectory (env : Environment) : Path :=
  match env.value? homeVariable with
  | none | some [] => env.accountHome
  | some home => ⟨home⟩

/-- A directory of the search path with a home sign resolved. -/
def searchDirectory (env : Environment) (dir : Bytes) : Path :=
  let p : Path := ⟨dir⟩
  if dir.head? = tilde.head? ∧ p.names.head? = some tilde then
    (homeDirectory env).join ⟨Path.ofNames p.names.tail⟩
  else p

/-- The files that a name may stand for, in the order in which they are tried. -/
def candidates (env : Environment) (here name : Path) : Option (List Path) :=
  if name.depth > 1 then some [here.join name]
  else
    (env.value? searchVariable).map fun search =>
      (Text.cut colon search).map fun dir => (searchDirectory env dir).join name

def noSearchPath : String :=
  "lookup failed: no path to search and provided name is not an absolute path"

def noCandidate : String := "lookup failed: cannot find binary path"

/-- The absolute, clean path of the program with a name. -/
def resolve (env : Environment) (files : Files) (name : String) : Except Fault Path :=
  let p := Path.ofString name
  if p.IsAbsolute then .ok p.clean
  else
    match files.currentDirectory with
    | .error e => .error (.programNotFound name ("getcwd failed: " ++ e.message))
    | .ok here =>
      if files.contains p then .ok (here.join p).clean
      else
        match candidates env here p with
        | none => .error (.programNotFound name noSearchPath)
        | some paths =>
          match paths.find? (isRunnable files) with
          | none => .error (.programNotFound name noCandidate)
          | some found => .ok (here.join found).clean

end Overseer.Locate
