import Overseer.Machine.Agent
import Overseer.Machine.Tree

/-!
The program. It runs on a machine of its own, which is given the environment and the plain files of
the current directory; what it changed among these files is written back at the end.
-/

namespace Overseer.Outside

/-- The agent's process id on its machine. -/
def agentId : Nat := 100

/-- Variables that the program, or what it starts, may ask for. -/
def variableNames : List String :=
  [Settings.pathVariable, Report.spoolVariable, Report.taskVariable, Locate.searchVariable,
    LogLevel.levelVariable, Machine.temporaryVariable, "HOME"]

/-- The environment, as far as it matters. -/
def environment : IO Environment := do
  let found ← variableNames.filterMapM fun name => do
    return (← IO.getEnv name).map fun value => (name, Bytes.ofString value)
  return ⟨found, Machine.accountHome⟩

/-- The name and content of every plain file in the current directory. -/
def plainFiles : IO (List (String × Bytes)) := do
  let mut found := []
  for entry in ← (← IO.currentDir).readDir do
    unless ← entry.path.isDir do
      found := (entry.fileName, (← IO.FS.readBinFile entry.path).toList) :: found
  return found

/-- A machine whose current directory has a location and holds these files. -/
def machine (here : Location) (found : List (String × Bytes)) : Files :=
  let files := Machine.tree.makeDirectories here
  found.foldl (fun files (name, content) =>
    files.put (here ++ [Bytes.ofString name]) (.file content true)) { files with cwd := here }

/-- Writes back what has changed in the current directory. -/
def writeBack (here : Location) (found : List (String × Bytes)) (files : Files) : IO Unit := do
  for (name, _) in found do
    if (files.node? (here ++ [Bytes.ofString name])).isNone then IO.FS.removeFile name
  for name in files.children here do
    match files.node? (here ++ [name]) with
    | some (.file content _) =>
      let name := Bytes.spread name
      unless found.lookup name = some content do
        IO.FS.writeBinFile name (ByteArray.mk content.toArray)
    | _ => pure ()

end Overseer.Outside

open Overseer in
/-- Runs the program with the arguments of the command line. -/
def main (args : List String) : IO UInt32 := do
  let env ← Outside.environment
  let found ← Outside.plainFiles
  let here := (Path.ofString (← IO.currentDir).toString).names
  let name := (← IO.appPath).toString
  let (code, host) := Machine.run Outside.agentId env (name :: args) (Outside.machine here found)
  Outside.writeBack here found host.files
  (← IO.getStdout).write ⟨host.console.out.toArray⟩
  (← IO.getStderr).write ⟨host.console.err.toArray⟩
  return code.toUInt32
