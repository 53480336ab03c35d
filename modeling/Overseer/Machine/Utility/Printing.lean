import Overseer.Machine.Format
import Overseer.Machine.Utility.Basic
import Overseer.Text.Numeral

/-!
Programs that print what their arguments say, or only let time pass.
-/

namespace Overseer.Machine.Utility

/-- Prints its arguments. Escapes are replaced on demand only. -/
def echo : Utility := fun _ args p =>
  go false false args p
where
  isOption (arg : String) : Bool :=
    arg.length > 1 && arg.toList.head? == some '-' && arg.toList.tail.all (· ∈ ['n', 'e', 'E'])
  go (bare escapes : Bool) : List String → Process → Nat × Process
    | [], p => (0, p.print (if bare then "" else "\n"))
    | arg :: rest, p =>
      if isOption arg then
        let letters := arg.toList.tail
        let switch (on : Bool) (c : Char) : Bool := c == 'e' || (c != 'E' && on)
        go (bare || 'n' ∈ letters) (letters.foldl switch escapes) rest p
      else
        let text := " ".intercalate (arg :: rest)
        if escapes then
          let (text, stop) := Format.unescape Format.richStyle text.toList
          (0, p.print (String.ofList text ++ (if bare || stop then "" else "\n")))
        else (0, p.print (text ++ (if bare then "" else "\n")))

/-- Prints a format with its arguments. -/
def printf : Utility := fun name args p =>
  match args with
  | [] => missingOperand name p
  | format :: args =>
    let (text, faults) := Format.printf Format.richStyle format.toList (args.map String.toList)
    let p := faults.foldl (fun p fault => p.complain (name ++ ": " ++ report fault)) p
    let failed := faults.any fun
      | .excess _ => false
      | _ => true
    (if failed then 1 else 0, p.print (String.ofList text))
where
  report : Format.Fault → String
    | .notNumeric arg => "'" ++ String.ofList arg ++ "': expected a numeric value"
    | .partlyNumeric arg => "'" ++ String.ofList arg ++ "': value not completely converted"
    | .outOfRange arg => "'" ++ String.ofList arg ++ "': " ++ Errno.outOfRange.text
    | .missingLetter => "%: invalid conversion specification"
    | .invalidDirective text => String.ofList text ++ ": invalid conversion specification"
    | .excess arg =>
      "warning: ignoring excess arguments, starting with '" ++ String.ofList arg ++ "'"

/-- Milliseconds of a decimal number of seconds, possibly with a unit. -/
def duration? (text : String) : Option Nat :=
  let cs := text.toList
  let whole := cs.takeWhile Char.isDigit
  let rest := cs.drop whole.length
  let (fraction, unit) := match rest with
    | '.' :: rest => (rest.takeWhile Char.isDigit, rest.dropWhile Char.isDigit)
    | rest => ([], rest)
  let value := (Format.number whole).1 * 1000 +
    (Format.number ((fraction ++ ['0', '0', '0']).take 3)).1
  if whole.isEmpty && fraction.isEmpty then none
  else match unit with
    | [] | ['s'] => some value
    | ['m'] => some (value * 60)
    | ['h'] => some (value * 3600)
    | ['d'] => some (value * 86400)
    | _ => none

/-- Lets time pass. -/
def sleep : Utility := fun name args p =>
  match args.mapM duration? with
  | some [] => missingOperand name p
  | some times => (0, p.wait (times.foldl (· + ·) 0))
  | none => (1, p.complain (name ++ ": invalid time interval"))

/-- Prints the current directory. -/
def pwd : Utility := fun _ _ p =>
  (0, p.print (Bytes.spread (Path.slash :: Path.ofNames p.files.cwd) ++ "\n"))

/-- Prints a row of numbers. -/
def seq : Utility := fun name args p =>
  match args.mapM Text.NumeralRange.int64.read? with
  | some [last] => (0, row p 1 1 last)
  | some [first, last] => (0, row p first 1 last)
  | some [first, step, last] =>
    if step ≤ 0 then (1, p.complain (name ++ ": invalid increment")) else (0, row p first step last)
  | _ => (1, p.complain (name ++ ": invalid argument"))
where
  row (p : Process) (first step last : Int) : Process :=
    let count := if last < first then 0 else ((last - first) / step + 1).toNat
    let line (k : Nat) : String := toString (first + step * k) ++ "\n"
    p.print (String.join ((List.range count).map line))

end Overseer.Machine.Utility
