import Overseer.Machine.Process

/-!
What the programs of the machine share: their shape, their options, and how they complain.
-/

namespace Overseer.Machine

/-- A program: the name it was called by, its arguments, and the process. -/
abbrev Utility := String → List String → Process → Nat × Process

namespace Utility

/-- What a failed operation on a named file is reported as. -/
def complaint (name action file : String) (e : Errno) : String :=
  name ++ ": " ++ action ++ file ++ ": " ++ e.text

/-- Complains that there is nothing to work on. -/
def missingOperand (name : String) (p : Process) : Nat × Process :=
  (1, (p.complain (name ++ ": missing operand")).complain
    ("Try '" ++ name ++ " --help' for more information."))

/-- Applies an operation to every argument; the status tells whether one of them failed. -/
def forEach (args : List String) (p : Process)
    (f : String → Process → Bool × Process) : Nat × Process :=
  args.foldl (fun (status, p) arg =>
    let (ok, p) := f arg p
    (if ok then status else 1, p)) (0, p)

/-- Options in front of the operands, their letters taken together. -/
def options : List String → List Char × List String
  | [] => ([], [])
  | "--" :: rest => ([], rest)
  | arg :: rest =>
    match arg.toList with
    | '-' :: c :: letters =>
      let (more, operands) := options rest
      (c :: letters ++ more, operands)
    | _ => ([], arg :: rest)

end Utility

end Overseer.Machine
