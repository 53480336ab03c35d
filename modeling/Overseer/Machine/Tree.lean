import Overseer.Files.Access
import Overseer.Machine.Utility

/-!
The file tree of a fresh machine: its programs, its devices, and the directories around them.
-/

namespace Overseer.Machine

/-- A name as part of a location. -/
def nameOf (name : String) : Bytes :=
  Bytes.ofString name

/-- Directories of a fresh machine. -/
def directories : List Location :=
  ([["bin"], ["dev"], ["etc"], ["proc"], ["root"], ["sbin"], ["tmp"], ["usr"], ["usr", "bin"],
    ["usr", "lib"], ["usr", "local"], ["usr", "local", "bin"], ["usr", "local", "sbin"],
    ["usr", "sbin"], ["var"]] : List (List String)).map (·.map nameOf)

/-- The home directory of the account that everything on a fresh machine runs under. -/
def accountHome : Path := Path.ofString "/root"

/-- Programs can be reached in both program directories. -/
def programs : List (Location × Node) :=
  Utility.names.flatMap fun name =>
    [([nameOf "usr", nameOf "bin", nameOf name], .program name),
      ([nameOf "bin", nameOf name], .program name)]

def devices : List (Location × Node) :=
  [([nameOf "dev", nameOf "null"], .device false), ([nameOf "dev", nameOf "full"], .device true)]

/-- A fresh machine, its root being the current directory. -/
def tree : Files :=
  ⟨directories.map (fun dir => (dir, .directory)) ++ programs ++ devices, [], []⟩

end Overseer.Machine
