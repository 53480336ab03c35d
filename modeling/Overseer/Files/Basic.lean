import Overseer.Path

/-!
A file tree: nodes at locations, a current directory, the files that are open, and the changes that
a tree can undergo. An open file stays the same file wherever it is moved.

Main statements: a node put somewhere is found there, an erased one is not, and neither touches any
other location.
-/

namespace Overseer

/-- The names from the root down to a node. -/
abbrev Location := List Bytes

/-- What stands at a location. -/
inductive Node
  | directory
  | file (content : Bytes) (executable : Bool)
  /-- A device that swallows what is written, or refuses it for want of space. -/
  | device (full : Bool)
  /-- A program of the machine, known by name. -/
  | program (name : String)
  deriving DecidableEq, Repr

namespace Node

/-- Whether a node can hold others. -/
def isDirectory : Node → Bool
  | directory => true
  | _ => false

/-- Whether a node is a regular file that may be executed. -/
def isExecutable : Node → Bool
  | file _ executable => executable
  | program _ => true
  | _ => false

/-- What a program reads like: the magic number of an image that the system runs. -/
def image : Bytes := [0x7F, 0x45, 0x4C, 0x46]

/-- The bytes of a regular file, and whether it may be executed. A program is one, too. -/
def regular? : Node → Option (Bytes × Bool)
  | file content executable => some (content, executable)
  | program _ => some (image, true)
  | directory | device _ => none

/-- What reading a node yields. -/
def content (node : Node) : Bytes :=
  (node.regular?.map Prod.fst).getD []

end Node

/-- An open file, and where its next byte is read or written. -/
structure Handle where
  /-- Where the file stands, unless it has been taken away. -/
  location : Option Location
  position : Nat
  deriving DecidableEq, Repr

/-- A file as several processes have it open together. -/
structure OpenFile where
  handle : Handle
  /-- Whether everything is written behind the last byte. -/
  atEnd : Bool
  deriving DecidableEq, Repr

/-- Nodes by location, and the directory that relative paths start from. The root always exists. -/
structure Files where
  nodes : List (Location × Node)
  cwd : Location
  /-- The files that processes have open, each by a number of its own. -/
  opened : List (Nat × OpenFile)
  deriving Repr, DecidableEq

namespace Files

/-- The node at a location. -/
def node? (files : Files) (loc : Location) : Option Node :=
  if loc = [] then some .directory
  else (files.nodes.find? fun entry => decide (entry.1 = loc)).map Prod.snd

/-- Sets the node at a location. -/
def put (files : Files) (loc : Location) (node : Node) : Files :=
  { files with nodes := (loc, node) :: files.nodes.filter fun entry => decide (entry.1 ≠ loc) }

/-- Takes the node at a location away. -/
def erase (files : Files) (loc : Location) : Files :=
  { files with nodes := files.nodes.filter fun entry => decide (entry.1 ≠ loc) }

/-- Takes a node and everything below it away. -/
def eraseTree (files : Files) (loc : Location) : Files :=
  { files with nodes := files.nodes.filter fun entry => !loc.isPrefixOf entry.1 }

/-- Where a location goes when a node above it, or the node itself, moves. -/
def relocate (source target loc : Location) : Location :=
  if source.isPrefixOf loc then target ++ loc.drop source.length else loc

/-- Moves a node with everything below it, in place of what stands at the target. -/
def move (files : Files) (source target : Location) : Files where
  nodes := (files.nodes.filter fun entry => !target.isPrefixOf entry.1).map fun entry =>
    (relocate source target entry.1, entry.2)
  cwd := relocate source target files.cwd
  opened := files.opened

/-- Adds an empty file to a directory that exists, unless something stands there already. -/
def addFile (files : Files) (loc : Location) : Files :=
  if (files.node? loc).isNone ∧ files.node? loc.dropLast = some .directory then
    files.put loc (.file [] false)
  else files

/-- Changes the bytes of a regular file that exists. A program whose bytes are changed is none any
    more. -/
def edit (files : Files) (loc : Location) (f : Bytes → Bytes) : Files :=
  match (files.node? loc).bind Node.regular? with
  | some (content, executable) => files.put loc (.file (f content) executable)
  | none => files

/-- Takes all bytes out of a file that exists. -/
def empty (files : Files) (loc : Location) : Files :=
  files.edit loc fun _ => []

/-- Permits or forbids to execute a file that exists. -/
def permit (files : Files) (loc : Location) (executable : Bool) : Files :=
  match files.node? loc with
  | some (.file content _) => files.put loc (.file content executable)
  | _ => files

/-- The bytes of a file with some written at a position, a gap before it filled with zeros. -/
def overlay (content : Bytes) (position : Nat) (bytes : Bytes) : Bytes :=
  content.take position ++ List.replicate (position - content.length) 0 ++ bytes ++
    content.drop (position + bytes.length)

/-- Writes bytes into a file that exists, at a position. -/
def writeAt (files : Files) (loc : Location) (position : Nat) (bytes : Bytes) : Files :=
  files.edit loc fun content => overlay content position bytes

/-- Writes bytes behind the last one of a file that exists. -/
def append (files : Files) (loc : Location) (bytes : Bytes) : Files :=
  files.edit loc (· ++ bytes)

/-- Sets what is open under a number. -/
def setOpen (files : Files) (number : Nat) (file : OpenFile) : Files :=
  { files with opened := (number, file) :: files.opened.filter fun entry => entry.1 != number }

/-- Writes bytes into an open file. Those for a file that has been taken away are lost. -/
def writeOpen (files : Files) (number : Nat) (bytes : Bytes) : Files :=
  match files.opened.lookup number with
  | none => files
  | some file =>
    let further := file.handle.position + bytes.length
    let files := files.setOpen number
      { file with handle := { file.handle with position := further } }
    match file.handle.location with
    | none => files
    | some loc =>
      if file.atEnd then files.append loc bytes
      else files.writeAt loc file.handle.position bytes

/-- What is left to read of an open file. -/
def readOpen (files : Files) (number : Nat) : Bytes :=
  match files.opened.lookup number with
  | none => []
  | some file =>
    match file.handle.location.bind files.node? with
    | some node => node.content.drop file.handle.position
    | none => []

/-- Closes an open file. -/
def close (files : Files) (number : Nat) : Files :=
  { files with opened := files.opened.filter fun entry => entry.1 != number }

/-- Goes to a position in an open file. -/
def seek (files : Files) (number position : Nat) : Files :=
  match files.opened.lookup number with
  | none => files
  | some file => files.setOpen number { file with handle := { file.handle with position } }

/-- The position in an open file. -/
def positionOf (files : Files) (number : Nat) : Nat :=
  ((files.opened.lookup number).map fun file => file.handle.position).getD 0

/-- Names in ascending byte order. -/
def sortNames (names : List Bytes) : List Bytes :=
  names.mergeSort fun a b => decide (a ≤ b)

/-- The name of a node within a directory, if it stands directly in it. -/
def childName? (dir loc : Location) : Option Bytes :=
  if loc.length = dir.length + 1 ∧ dir.isPrefixOf loc then loc.getLast? else none

/-- The names in a directory, in ascending byte order. -/
def children (files : Files) (dir : Location) : List Bytes :=
  sortNames (files.nodes.filterMap fun entry => childName? dir entry.1)

@[simp] theorem node?_put_self (files : Files) {loc : Location} (hloc : loc ≠ []) (node : Node) :
    (files.put loc node).node? loc = some node := by
  simp [node?, put, hloc]

theorem node?_put_of_ne (files : Files) {loc other : Location} (hne : other ≠ loc) (node : Node) :
    (files.put loc node).node? other = files.node? other := by
  unfold node? put
  split
  · rfl
  · rw [List.find?_cons_of_neg (by simpa using Ne.symm hne), List.find?_filter]
    congr 2
    funext entry
    by_cases h : entry.1 = other <;> simp [h, hne]

theorem node?_erase_self (files : Files) {loc : Location} (hloc : loc ≠ []) :
    (files.erase loc).node? loc = none := by
  simp [node?, erase, hloc, List.find?_filter]

theorem node?_erase_of_ne (files : Files) {loc other : Location} (hne : other ≠ loc) :
    (files.erase loc).node? other = files.node? other := by
  unfold node? erase
  split
  · rfl
  · rw [List.find?_filter]
    congr 2
    funext entry
    by_cases h : entry.1 = other <;> simp [h, hne]

/-- One step in the life of a file tree. -/
inductive Change
  | put (loc : Location) (node : Node)
  | erase (loc : Location)
  | eraseTree (loc : Location)
  | move (source target : Location)
  | addFile (loc : Location)
  | empty (loc : Location)
  | permit (loc : Location) (executable : Bool)
  /-- Opens a file at its start, or for writing at its end. -/
  | openAt (number : Nat) (loc : Location) (atEnd : Bool)
  | writeOpen (number : Nat) (bytes : Bytes)
  | seek (number position : Nat)
  | close (number : Nat)
  deriving DecidableEq, Repr

/-- Where the file at a location is to be found after a change, unless the change takes it away. -/
def Change.track (loc : Location) : Change → Option Location
  | .erase gone => if gone = loc then none else some loc
  | .eraseTree gone => if gone.isPrefixOf loc then none else some loc
  | .move source target =>
    if source.isPrefixOf loc then some (relocate source target loc)
    else if target.isPrefixOf loc then none
    else some loc
  | _ => some loc

end Files

/-- An open file after a change. -/
def Handle.after (c : Files.Change) (handle : Handle) : Handle :=
  { handle with location := handle.location.bind c.track }

namespace Files

/-- Carries out a change of the tree alone. -/
def carry (files : Files) : Change → Files
  | .put loc node => files.put loc node
  | .erase loc => files.erase loc
  | .eraseTree loc => files.eraseTree loc
  | .move source target => files.move source target
  | .addFile loc => files.addFile loc
  | .empty loc => files.empty loc
  | .permit loc executable => files.permit loc executable
  | .openAt number loc atEnd => files.setOpen number ⟨⟨some loc, 0⟩, atEnd⟩
  | .writeOpen number bytes => files.writeOpen number bytes
  | .seek number position => files.seek number position
  | .close number => files.close number

/-- Carries out a change. -/
def change (files : Files) (c : Change) : Files :=
  let changed := files.carry c
  { changed with opened := changed.opened.map fun (number, file) =>
      (number, { file with handle := file.handle.after c }) }

end Files

end Overseer
