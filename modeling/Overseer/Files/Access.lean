import Overseer.Files.Basic
import Overseer.Fault

/-!
Working on files by path: finding them, reading, creating, writing and deleting, with the error of
each operation that is refused. The agent has all permissions.
-/

namespace Overseer

namespace Files

/-- Longest name of a single node. -/
def maxNameLength : Nat := 255

/-- Paths from this length on are refused. -/
def maxPathLength : Nat := 4096

/-- One name down from a place that must be a directory. -/
def descend (files : Files) (here : Location) (name : Bytes) : Except Errno Location :=
  match files.node? here with
  | none => .error .notFound
  | some .directory =>
    if name = Path.dot then .ok here
    else if name = Path.dotDot then .ok here.dropLast
    else if name.length > maxNameLength then .error .nameTooLong
    else .ok (here ++ [name])
  | some _ => .error .notDirectory

/-- Where a path starts. -/
def origin (files : Files) (p : Path) : Location :=
  if p.IsAbsolute then [] else files.cwd

/-- The names to follow on a path; a slash at the end asks for a directory, as a dot would. -/
def steps (p : Path) : List Bytes :=
  (Text.cut Path.slash p.bytes).filter (· ≠ []) ++
    (if p.bytes.getLast? = some Path.slash then [Path.dot] else [])

/-- Follows names from where a path starts. -/
def follow (files : Files) (p : Path) (names : List Bytes) : Except Errno Location :=
  if p.bytes = [] then .error .notFound
  else if p.bytes.length ≥ maxPathLength then .error .nameTooLong
  else names.foldlM files.descend (files.origin p)

/-- The location a path leads to. Everything before the last name must exist. -/
def locate (files : Files) (p : Path) : Except Errno Location :=
  files.follow p (steps p)

/-- The location a path leads to, for callers that pass a name on to the system. -/
def locateChecked (files : Files) (p : Path) : Except Refusal Location :=
  if 0 ∈ p.bytes then .error .zeroInFileName
  else (files.locate p).mapError .system

/-- What stands at the end of a path, if anything. -/
def find? (files : Files) (p : Path) : Option Node :=
  match files.locateChecked p with
  | .ok loc => files.node? loc
  | .error _ => none

def contains (files : Files) (p : Path) : Bool :=
  (files.find? p).isSome

/-- Opens a file or directory for reading. -/
def openForReading (files : Files) (p : Path) : Except Refusal Node := do
  let loc ← files.locateChecked p
  match files.node? loc with
  | some node => .ok node
  | none => .error (.system .notFound)

/-- The whole content of a file. -/
def read (files : Files) (p : Path) : Except Refusal Bytes := do
  match ← files.openForReading p with
  | .directory => .error (.system .isDirectory)
  | node => .ok node.content

/-- The names to follow on a path that is to be written. A slash at the end never names a file: the
    last name is not looked at then, only the directory that it would be in. -/
def stepsForWriting (p : Path) : List Bytes :=
  let names := (Text.cut Path.slash p.bytes).filter (· ≠ [])
  if p.bytes.getLast? ≠ some Path.slash then names
  else
    (match names.getLast? with
    | some last => if last = Path.dot ∨ last = Path.dotDot then names else names.dropLast
    | none => []) ++ [Path.dot]

/-- The location that a path names for writing, the file there created if missing. -/
def openForWriting (files : Files) (p : Path) : Except Refusal (Location × Files) := do
  if 0 ∈ p.bytes then .error .zeroInFileName
  let loc ← (files.follow p (stepsForWriting p)).mapError .system
  match files.node? loc with
  | some .directory => .error (.system .isDirectory)
  | some _ => .ok (loc, files)
  | none =>
    if files.node? loc.dropLast = some .directory then
      .ok (loc, files.put loc (.file [] false))
    else .error (.system .notFound)

/-- Creates a file, or empties the one that is there, and opens it at its start. -/
def create (files : Files) (p : Path) : Except Refusal (Handle × Files) := do
  let (loc, files) ← files.openForWriting p
  .ok (⟨some loc, 0⟩, files.empty loc)

/-- Writes through an open file. Only a full device refuses; bytes for a file that has been taken
    away are lost. -/
def write (files : Files) (handle : Handle) (bytes : Bytes) : Except Refusal (Handle × Files) :=
  let further : Handle := { handle with position := handle.position + bytes.length }
  match handle.location with
  | none => .ok (further, files)
  | some loc =>
    if files.node? loc = some (.device true) ∧ bytes ≠ [] then .error (.system .noSpace)
    else .ok (further, files.writeAt loc handle.position bytes)

/-- Replaces the content of a file. When writing is refused the file has been emptied all the
    same. -/
def overwrite (files : Files) (p : Path) (bytes : Bytes) : Except Refusal Unit × Files :=
  match files.create p with
  | .error r => (.error r, files)
  | .ok (handle, files) =>
    match files.write handle bytes with
    | .error r => (.error r, files)
    | .ok (_, files) => (.ok (), files)

/-- What appending to a file came to. -/
inductive Appended
  | done
  | notOpened (r : Refusal)
  | notWritten (r : Refusal)
  deriving DecidableEq, Repr

/-- Adds bytes at the end of a file, created if missing, in one write. -/
def appendTo (files : Files) (p : Path) (bytes : Bytes) : Appended × Files :=
  match files.openForWriting p with
  | .error r => (.notOpened r, files)
  | .ok (loc, files) =>
    if files.node? loc = some (.device true) ∧ bytes ≠ [] then
      (.notWritten (.system .noSpace), files)
    else (.done, files.append loc bytes)

/-- Deletes a file; directories are not deleted. -/
def remove (files : Files) (p : Path) : Except Refusal Files := do
  let loc ← files.locateChecked p
  match files.node? loc with
  | none => .error (.system .notFound)
  | some .directory => .error (.system .isDirectory)
  | some _ => .ok (files.erase loc)

/-- The absolute path of the current directory, unless it has been deleted. -/
def currentDirectory (files : Files) : Except Errno Path :=
  match files.node? files.cwd with
  | some .directory => .ok ⟨Path.slash :: Path.ofNames files.cwd⟩
  | _ => .error .notFound

/-- Makes a directory and every missing one above it. -/
def makeDirectories (files : Files) (loc : Location) : Files :=
  ((List.range (loc.length + 1)).map loc.take).foldl (fun files dir =>
    match files.node? dir with
    | some _ => files
    | none => files.put dir .directory) files

end Files

end Overseer
