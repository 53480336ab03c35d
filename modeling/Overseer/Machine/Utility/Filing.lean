import Overseer.Machine.Utility.Basic

/-!
Programs that change the file tree or show it.
-/

namespace Overseer.Machine.Utility

/-- Deletes files, and whole directories on demand. -/
def rm : Utility := fun name args p =>
  let (letters, operands) := options args
  let force := letters.contains 'f'
  if operands.isEmpty && !force then missingOperand name p
  else forEach operands p fun arg p =>
    let refuse (e : Errno) : Bool × Process :=
      (false, p.complain (complaint name "cannot remove '" (arg ++ "'") e))
    match p.files.locate (Process.pathOf arg) with
    | .error e => if force then (true, p) else refuse e
    | .ok loc =>
      match p.files.node? loc with
      | none => if force then (true, p) else refuse .notFound
      | some .directory =>
        if letters.contains 'r' || letters.contains 'R' then (true, p.change (.eraseTree loc))
        else refuse .isDirectory
      | some _ => (true, p.change (.erase loc))

/-- Makes directories, with those above them on demand. -/
def mkdir : Utility := fun name args p =>
  let (letters, operands) := options args
  let parents := letters.contains 'p'
  forEach operands p fun arg p =>
    let path := Process.pathOf arg
    let refuse (e : Errno) : Bool × Process :=
      (false, p.complain (complaint name "cannot create directory '" (arg ++ "'") e))
    if parents then
      let loc := (if path.IsAbsolute then [] else p.files.cwd) ++ path.names
      (true, ((List.range (loc.length + 1)).map loc.take).foldl (fun p dir =>
        if (p.files.node? dir).isSome then p else p.change (.put dir .directory)) p)
    else
      let start := if path.IsAbsolute then [Path.slash] else []
      match p.files.locate ⟨start ++ Path.ofNames path.names⟩ with
      | .error e => refuse e
      | .ok loc =>
        if (p.files.node? loc).isSome then refuse .alreadyExists
        else (true, p.change (.put loc .directory))

/-- Creates files that are missing. -/
def touch : Utility := fun name args p =>
  if args.isEmpty then (1, p.complain (name ++ ": missing file operand"))
  else forEach args p fun arg p =>
    match p.files.openForWriting (Process.pathOf arg) with
    | .ok (loc, _) => (true, p.change (.addFile loc))
    | .error (.system e) =>
      if p.files.contains (Process.pathOf arg) then (true, p)
      else (false, p.complain (complaint name "cannot touch '" (arg ++ "'") e))
    | .error _ => (false, p)

/-- Lists directories. -/
def ls : Utility := fun name args p =>
  let (letters, operands) := options args
  let node (arg : String) : Except Errno (Location × Node) := do
    let loc ← p.files.locate (Process.pathOf arg)
    match p.files.node? loc with
    | some node => .ok (loc, node)
    | none => .error .notFound
  let isListed (arg : String) : Bool :=
    match node arg with
    | .ok (_, .directory) => !letters.contains 'd'
    | _ => false
  let args := if operands.isEmpty then ["."] else operands
  let (status, p) := args.foldl (fun (status, p) arg =>
    match node arg with
    | .ok _ => (status, p)
    | .error e => (2, p.complain (complaint name "cannot access '" (arg ++ "'") e))) (0, p)
  let found := inByteOrder (args.filter fun arg => (node arg).isOk)
  let plain := found.filter (!isListed ·)
  let content (arg : String) : List String :=
    match node arg with
    | .ok (loc, _) =>
      let own := (p.files.children loc).map Bytes.spread
      if letters.contains 'a' then "." :: ".." :: own
      else own.filter fun n => letters.contains 'A' || n.toList.head? != some '.'
    | .error _ => []
  let block (arg : String) : String :=
    (if args.length > 1 then arg ++ ":\n" else "") ++
      String.join ((content arg).map (· ++ "\n"))
  let blocks := (if plain.isEmpty then [] else [String.join (plain.map (· ++ "\n"))]) ++
    (found.filter isListed).map block
  (status, p.print ("\n".intercalate blocks))

/-- Deletes empty directories. -/
def rmdir : Utility := fun name args p =>
  if args.isEmpty then missingOperand name p
  else forEach args p fun arg p =>
    let refuse (e : Errno) : Bool × Process :=
      (false, p.complain (complaint name "failed to remove '" (arg ++ "'") e))
    match p.files.locate (Process.pathOf arg) with
    | .error e => refuse e
    | .ok loc =>
      match p.files.node? loc with
      | none => refuse .notFound
      | some .directory =>
        if p.files.children loc = [] then (true, p.change (.erase loc)) else refuse .notEmpty
      | some _ => refuse .notDirectory

/-- Operands of which the last names the target. -/
def withTarget (name : String) (args : List String) (p : Process)
    (f : Bool → String → String → Process → Bool × Process) : Nat × Process :=
  let hint := "Try '" ++ name ++ " --help' for more information."
  match args.reverse with
  | [] => (1, (p.complain (name ++ ": missing file operand")).complain hint)
  | [only] => (1, (p.complain
      (name ++ ": missing destination file operand after '" ++ only ++ "'")).complain hint)
  | target :: sources =>
    let isDirectory := ((p.files.find? (Process.pathOf target)).map Node.isDirectory).getD false
    if sources.length > 1 ∧ ¬ isDirectory then
      (1, p.complain (complaint name "target '" (target ++ "'") .notDirectory))
    else forEach sources.reverse p fun source p => f isDirectory source target p

/-- The path of a source within a target directory. -/
def inside (source target : String) : String :=
  match (Process.pathOf source).names.getLast? with
  | some last => Bytes.spread ((Process.pathOf target).join ⟨last⟩).bytes
  | none => target

/-- Where a new name would stand. -/
def newPlace (files : Files) (path : String) : Except Errno Location := do
  let loc ← files.locate (Process.pathOf path)
  if files.node? loc.dropLast = some .directory then .ok loc else .error .notFound

/-- Moves files and directories. -/
def mv : Utility := fun name args p =>
  let (_, operands) := options args
  withTarget name operands p fun isDirectory source target p =>
    let target := if isDirectory then inside source target else target
    let refuse (text : String) : Bool × Process := (false, p.complain (name ++ ": " ++ text))
    let pair := "'" ++ source ++ "' and '" ++ target ++ "'"
    match p.files.locate (Process.pathOf source) with
    | .error e => refuse ("cannot stat '" ++ source ++ "': " ++ e.text)
    | .ok here =>
      match p.files.node? here, newPlace p.files target with
      | none, _ => refuse ("cannot stat '" ++ source ++ "': " ++ Errno.notFound.text)
      | some _, .error e =>
        refuse ("cannot move '" ++ source ++ "' to '" ++ target ++ "': " ++ e.text)
      | some node, .ok there =>
        if here = there then refuse (pair ++ " are the same file")
        else if here.isPrefixOf there then
          refuse ("cannot move '" ++ source ++ "' to a subdirectory of itself, '" ++ target ++ "'")
        else if !node.isDirectory && (p.files.node? there).any Node.isDirectory then
          refuse ("cannot overwrite directory '" ++ target ++ "' with non-directory '" ++ source ++
            "'")
        else (true, p.change (.move here there))

/-- Copies files, and whole directories on demand. A file that is there is written anew. -/
def cp : Utility := fun name args p =>
  let (letters, operands) := options args
  let whole := letters.any fun c => c == 'r' || c == 'R' || c == 'a'
  withTarget name operands p fun isDirectory source target p =>
    let target := if isDirectory then inside source target else target
    let refuse (text : String) : Bool × Process := (false, p.complain (name ++ ": " ++ text))
    match p.files.locate (Process.pathOf source) with
    | .error e => refuse ("cannot stat '" ++ source ++ "': " ++ e.text)
    | .ok here =>
      match p.files.node? here, newPlace p.files target with
      | none, _ => refuse ("cannot stat '" ++ source ++ "': " ++ Errno.notFound.text)
      | some .directory, .ok there =>
        if whole then
          (true, p.files.nodes.foldl (fun p (loc, node) =>
            if here.isPrefixOf loc then p.change (.put (Files.relocate here there loc) node)
            else p) p)
        else refuse ("-r not specified; omitting directory '" ++ source ++ "'")
      | some _, .error e => refuse ("cannot create regular file '" ++ target ++ "': " ++ e.text)
      | some node, .ok there =>
        if here = there then
          refuse ("'" ++ source ++ "' and '" ++ target ++ "' are the same file")
        else if (p.files.node? there).isSome then
          let (target, p) := ((p.change (.addFile there)).change (.empty there)).openAt there false
          (true, p.send target node.content)
        else (true, p.change (.put there (.file node.content node.isExecutable)))

/-- Whether octal permissions let the owner execute a file. Group and others do not count, since
    everything on the machine has one owner. -/
def ownerExecutes (mode : String) : Bool :=
  match mode.toList.reverse with
  | _ :: _ :: digit :: _ => digit.toNat % 2 == 1
  | _ => false

/-- The permission to execute that a mode sets, if it says anything about it. -/
def permission? (mode : String) : Option Bool :=
  let cs := mode.toList
  if cs.all Char.isDigit then some (ownerExecutes mode)
  else
    let whom := cs.takeWhile fun c => c == 'u' || c == 'g' || c == 'o' || c == 'a'
    let concernsOwner := whom.isEmpty || whom.contains 'u' || whom.contains 'a'
    match cs.drop whom.length with
    | '=' :: what => if concernsOwner then some (what.contains 'x') else none
    | sign :: what => if concernsOwner && what.contains 'x' then some (sign == '+') else none
    | [] => none

/-- Sets or clears the permission to execute files. -/
def chmod : Utility := fun name args p =>
  match args with
  | [] => (1, p.complain (name ++ ": missing operand"))
  | mode :: files =>
    forEach files p fun arg p =>
      match p.files.locate (Process.pathOf arg) with
      | .error e => (false, p.complain (complaint name "cannot access '" (arg ++ "'") e))
      | .ok loc =>
        match p.files.node? loc, permission? mode with
        | some (.file _ _), some executable =>
          (true, p.change (.permit loc executable))
        | some _, _ => (true, p)
        | none, _ => (false, p.complain (complaint name "cannot access '" (arg ++ "'") .notFound))

end Overseer.Machine.Utility
