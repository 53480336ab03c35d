import Overseer.Environment
import Overseer.Files.Access
import Overseer.Settings.Basic

/-!
Where the settings file stands, and loading it. A file that is missing, unreadable or no text means
that everything keeps its default.
-/

namespace Overseer.Settings

/-- Names another settings file. -/
def pathVariable : String := "FLOWGUARD_CONFIG"

/-- The settings file next to the agent's program file. -/
def fileName : String := "flowguard.config"

/-- The settings file: the one that the environment names, else the one in the program's own
    directory. -/
def pathFor (env : Environment) (exe : Path) : Path :=
  match env.nonEmpty? pathVariable with
  | some p => Path.ofString p
  | none =>
    match exe.directory? with
    | some dir => dir.join (Path.ofString fileName)
    | none => Path.ofString fileName

/-- The source in a file, empty when there is none to read. -/
def loadSource (files : Files) (p : Path) : Source :=
  match files.read p with
  | .error _ => ∅
  | .ok content => ((Bytes.toString? content).map Source.ofText).getD ∅

/-- Reads the settings that apply to the program at a path. -/
def load (env : Environment) (files : Files) (exe : Path) : Except Fault Settings :=
  validate (loadSource files (pathFor env exe))

end Overseer.Settings
