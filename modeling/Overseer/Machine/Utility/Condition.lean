import Overseer.Machine.Utility.Basic
import Overseer.Text.Numeral

/-!
The program that decides conditions on texts, numbers and files.
-/

namespace Overseer.Machine.Utility

/-- Why a condition has no answer. -/
inductive ConditionFault
  | illegalNumber (text : String)
  | unexpectedOperator (text : String)
  | argumentExpected (operator : String)
  | parenthesisExpected
  deriving DecidableEq, Repr

namespace ConditionFault

def text : ConditionFault → String
  | illegalNumber text => "Illegal number: " ++ text
  | unexpectedOperator text => (if text = "" then "" else text ++ ": ") ++ "unexpected operator"
  | argumentExpected operator => operator ++ ": argument expected"
  | parenthesisExpected => "closing paren expected"

end ConditionFault

/-- Operators between two operands. -/
def comparisons : List String :=
  ["=", "==", "!=", "<", ">", "-eq", "-ne", "-lt", "-le", "-gt", "-ge", "-nt", "-ot", "-ef"]

/-- Operators in front of one operand. -/
def questions : List String :=
  ["-n", "-z", "-e", "-f", "-d", "-s", "-x", "-r", "-w", "-t", "-c", "-b", "-p", "-h", "-L", "-S",
    "-u", "-g", "-k", "-O", "-G"]

/-- The number that an operand gives, blanks around it passed over. -/
def operandNumber (text : String) : Except ConditionFault Int :=
  let blank (c : Char) : Bool := c == ' ' || c == '\t' || c == '\n'
  let bare := ((text.toList.dropWhile blank).reverse.dropWhile blank).reverse
  match Text.NumeralRange.int64.read? (String.ofList bare) with
  | some n => .ok n
  | none => .error (.illegalNumber text)

/-- One comparison of two operands. -/
def compare (files : Files) (operator a b : String) : Except ConditionFault Bool :=
  let numbers (f : Int → Int → Bool) : Except ConditionFault Bool := do
    .ok (f (← operandNumber a) (← operandNumber b))
  match operator with
  | "=" | "==" => .ok (a == b)
  | "!=" => .ok (a != b)
  | "<" => .ok (decide (a.toList < b.toList))
  | ">" => .ok (decide (b.toList < a.toList))
  | "-eq" => numbers fun a b => a == b
  | "-ne" => numbers fun a b => a != b
  | "-lt" => numbers fun a b => decide (a < b)
  | "-le" => numbers fun a b => decide (a ≤ b)
  | "-gt" => numbers fun a b => decide (a > b)
  | "-ge" => numbers fun a b => decide (a ≥ b)
  | "-ef" =>
    let place (path : String) : Option Location :=
      (files.locate (Process.pathOf path)).toOption.filter fun loc => (files.node? loc).isSome
    .ok ((place a).isSome && place a == place b)
  | _ => .ok false

/-- One question about a file or a text. -/
def ask (files : Files) (operator arg : String) : Bool :=
  let node := files.find? (Process.pathOf arg)
  match operator with
  | "-n" => arg != ""
  | "-z" => arg == ""
  | "-e" | "-r" | "-w" | "-O" | "-G" => node.isSome
  | "-f" => node.any fun
    | .file _ _ | .program _ => true
    | _ => false
  | "-d" => node.any Node.isDirectory
  | "-s" => node.any fun n => n.isDirectory || !n.content.isEmpty
  | "-x" => node.any fun n => n.isDirectory || n.isExecutable
  | "-c" => node.any fun
    | .device _ => true
    | _ => false
  | _ => false

/-- Whether an operator in front is an operand all the same: nothing follows it, or a comparison. -/
def isOperand : List String → Bool
  | _ :: operator :: c :: _ => comparisons.contains operator && c != ")"
  | [_, _] => false
  | _ => true

mutual

/-- Alternatives. What is given back of the arguments begins with the last one that was used. -/
def anyOf (files : Files) : Nat → List String → Except ConditionFault (Bool × List String)
  | 0, args => .ok (false, args)
  | fuel + 1, args => do
    let (answer, rest) ← allOf files fuel args
    match rest with
    | _ :: "-o" :: more =>
      if more.isEmpty then .ok (answer, "-o" :: more)
      else do
        let (other, rest) ← anyOf files fuel more
        .ok (answer || other, rest)
    | rest => .ok (answer, rest)

/-- Conditions that must all hold. -/
def allOf (files : Files) : Nat → List String → Except ConditionFault (Bool × List String)
  | 0, args => .ok (false, args)
  | fuel + 1, args => do
    let (answer, rest) ← single files fuel args
    match rest with
    | _ :: "-a" :: more =>
      if more.isEmpty then .ok (answer, "-a" :: more)
      else do
        let (other, rest) ← allOf files fuel more
        .ok (answer && other, rest)
    | rest => .ok (answer, rest)

/-- One condition, possibly negated. -/
def single (files : Files) : Nat → List String → Except ConditionFault (Bool × List String)
  | 0, args => .ok (false, args)
  | fuel + 1, args =>
    match args with
    | [] => .ok (false, [])
    | ["!"] => .ok (true, ["!"])
    | "!" :: rest => do
      let (answer, rest) ← single files fuel rest
      .ok (!answer, rest)
    | "(" :: first :: rest =>
      if first = ")" then .ok (false, first :: rest)
      else do
        let (answer, rest) ← anyOf files fuel (first :: rest)
        match rest with
        | _ :: ")" :: more => .ok (answer, ")" :: more)
        | _ => .error .parenthesisExpected
    | a :: rest =>
      if questions.contains a && !isOperand args then
        match rest with
        | b :: more => .ok (ask files a b, b :: more)
        | [] => .error (.argumentExpected a)
      else
        match rest with
        | operator :: more =>
          if comparisons.contains operator then
            match more with
            | c :: more => do
              .ok (← compare files operator a c, c :: more)
            | [] => .error (.argumentExpected operator)
          else .ok (a != "", args)
        | [] => .ok (a != "", args)

end

/-- Whether a condition holds. -/
def judge (files : Files) (args : List String) : Except ConditionFault Bool :=
  let fuel := 4 * args.length + 4
  match args with
  | [] => .ok false
  | [a, operator, b] =>
    if comparisons.contains operator then compare files operator a b
    else if a = "(" ∧ b = ")" then .ok (operator != "")
    else whole fuel args
  | args => whole fuel args
where
  whole (fuel : Nat) (args : List String) : Except ConditionFault Bool := do
    let (answer, rest) ← anyOf files fuel args
    match rest with
    | last :: _ :: _ => .error (.unexpectedOperator last)
    | _ => .ok answer

/-- Decides a condition. -/
def test : Utility := fun name args p =>
  match (if name.endsWith "[" then
    (if args.getLast? = some "]" then some args.dropLast else none) else some args) with
  | none => (2, p.complain (name ++ ": missing ']'"))
  | some args =>
    match judge p.files args with
    | .ok answer => (if answer then 0 else 1, p)
    | .error (.illegalNumber text) => (2, p.complain (name ++ ": invalid integer '" ++ text ++ "'"))
    | .error e => (2, p.complain (name ++ ": " ++ e.text))

end Overseer.Machine.Utility
