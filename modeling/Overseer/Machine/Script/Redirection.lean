import Overseer.Machine.Script.Expand

/-!
Redirections: opening what they name, pointing descriptors there, and putting everything back.
-/

namespace Overseer.Machine

namespace Process

/-- The descriptor that the name of a file stands for. -/
def standsFor? (name : String) : Option Nat :=
  match name with
  | "/dev/stdin" => some inputDescriptor
  | "/dev/stdout" => some outputDescriptor
  | "/dev/stderr" => some errorDescriptor
  | _ =>
    let folder := "/dev/fd/"
    if name.startsWith folder then (String.ofList (name.toList.drop folder.length)).toNat? else none

/-- Opens what stands at a location. -/
def openNode (p : Process) (loc : Location) (atEnd : Bool) : Target × Process :=
  match p.files.node? loc with
  | some (.device full) => (.device full, p)
  | _ => p.openAt loc atEnd

/-- Opens a file for reading. -/
def openInput (p : Process) (path : Path) : Except Errno (Target × Process) := do
  let loc ← p.files.locate path
  if (p.files.node? loc).isSome then .ok (p.openNode loc false) else .error .notFound

/-- Opens a file for writing: empties it first or not, or refuses one that exists. -/
def openOutput (p : Process) (path : Path) (empties atEnd keeps : Bool) :
    Except Errno (Target × Process) :=
  match p.files.openForWriting path with
  | .error (.system e) => .error e
  | .error _ => .error .notFound
  | .ok (loc, files) =>
    match files.node? loc with
    | some (.file _ _) =>
      if keeps && (p.files.node? loc).isSome then .error .alreadyExists
      else
        let p := p.change (.addFile loc)
        .ok ((if empties then p.change (.empty loc) else p).openNode loc atEnd)
    | _ => .ok (p.openNode loc atEnd)

/-- Lets descriptors lead again where they led before. -/
def putBack (p before : Process) (descriptors : List Nat) : Process :=
  let p := descriptors.foldl (fun p descriptor =>
    match before.target? descriptor with
    | some target => p.point descriptor target
    | none => p.shut descriptor) p
  { p with aside := before.aside }

end Process

namespace Script

/-- Goes on, unless an expansion has put an end to the command at hand. -/
def unlessHalted (sh : Shell) (f : Shell → Shell × Flow) : Shell × Flow :=
  match sh.halted with
  | some flow => ({ sh with halted := none }, flow)
  | none => f sh

/-- Expands what redirections name. To join a descriptor takes a single digit, or a hyphen to
    close. -/
def expandTargets (run : Runner) : List Redirect → Shell → List (Redirect × String) × Shell
  | [], sh => ([], sh)
  | r :: rest, sh =>
    let (name, sh) := expandText run r.target sh
    let fits := match name.toList with
      | [c] => c.isDigit || c == '-'
      | _ => false
    let sh := if sh.halted.isNone ∧ r.direction = .duplicate ∧ !fits then
        sh.fail "Syntax error: Bad fd number"
      else sh
    if sh.halted.isSome then ([], sh)
    else
      let (more, sh) := expandTargets run rest sh
      ((r, name) :: more, sh)

/-- What opening a file comes to: where a descriptor is to lead, or why it cannot. -/
def openTarget (direction : Direction) (name : String) (sh : Shell) :
    Except String (Target × Shell) :=
  let p := sh.process
  let (path, shared) : Path × Option Target :=
    match (Process.standsFor? name).bind p.target? with
    | none => (Process.pathOf name, none)
    | some (.file number) =>
      match (p.files.opened.lookup number).bind fun file => file.handle.location with
      | some loc => (⟨Path.slash :: Path.ofNames loc⟩, none)
      | none => (Process.pathOf name, some (.file number))
    | some target => (Process.pathOf name, some target)
  let opened : Except Errno (Target × Process) := match shared with
    | some target => .ok (target, p)
    | none =>
      match direction with
      | .output => p.openOutput path true false (sh.has Shell.keepOption)
      | .overwrite => p.openOutput path true false false
      | .append => p.openOutput path false true false
      | .update => p.openOutput path false false false
      | _ => p.openInput path
  match opened with
  | .ok (target, process) => .ok (target, { sh with process })
  | .error e =>
    let missing := e = .notFound ∨ e = .notDirectory
    if direction = .input then
      .error ("cannot open " ++ name ++ ": " ++ if missing then "No such file" else e.text)
    else
      .error ("cannot create " ++ name ++ ": " ++
        if missing then "Directory nonexistent" else e.text)

/-- Carries out one redirection. -/
def redirect (r : Redirect) (name : String) (sh : Shell) : Except String Shell :=
  match r.direction with
  | .duplicate =>
    match name.toNat? with
    | none => .ok (sh.update (·.shut r.descriptor))
    | some other =>
      if other = r.descriptor then .ok sh
      else
        match sh.process.target? other with
        | some target => .ok (sh.update (·.point r.descriptor target))
        | none => .error (name ++ ": " ++ Errno.badDescriptor.text)
  | .document =>
    let input := Input.ofBytes (Bytes.gather name)
    .ok (sh.update fun p =>
      { p with pipes := p.pipes ++ [input] }.point r.descriptor (.pipe p.pipes.length))
  | direction => do
    let (target, sh) ← openTarget direction name sh
    .ok (sh.update (·.point r.descriptor target))

/-- Carries out redirections in order, up to the first that is refused. -/
def redirectAll : List (Redirect × String) → Shell → Bool × Shell
  | [], sh => (true, sh)
  | (r, name) :: rest, sh =>
    match redirect r name sh with
    | .ok sh => redirectAll rest sh
    | .error text => (false, sh.complain text)

/-- Keeps aside where everything leads. -/
def setAside (sh : Shell) : Shell :=
  sh.update fun p => { p with aside := p.held }

/-- Closes the files that were opened since, unless they may still be in use. -/
def closeSince (before sh : Shell) : Shell :=
  let p := sh.process
  let fresh := (List.range (p.openings - before.process.openings)).map (before.process.openings + ·)
  if sh.jobs.isEmpty ∧ sh.others.isEmpty then
    let held := p.held
    sh.update fun p => fresh.foldl (fun p number =>
      if held.contains (.file number) then p else p.change (.close number)) p
  else sh

/-- Puts everything back that redirections have changed, if the script is there to do so. -/
def putBack (before : Shell) (targets : List (Redirect × String)) (inner : Shell) (flow : Flow) :
    Shell × Flow :=
  if flow.isInHand then
    let p := inner.process.putBack before.process (targets.map fun t => t.1.descriptor)
    (closeSince before { inner with process := p }, flow)
  else (inner, flow)

end Script

end Overseer.Machine
