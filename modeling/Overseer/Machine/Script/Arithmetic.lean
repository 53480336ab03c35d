import Overseer.Machine.Script.Shell

/-!
Arithmetic expressions over whole numbers of 64 bits and variables. A variable that is empty or not
set counts as zero. What is not evaluated, because a condition decides against it, assigns nothing.
-/

namespace Overseer.Machine.Script.Arithmetic

inductive Token
  | number (n : Int)
  | name (text : String)
  | operator (text : String)
  /-- A character that means nothing. -/
  | stray
  deriving DecidableEq, Repr

/-- The operators, longer ones first. -/
def operators : List String :=
  ["<<=", ">>=", "<<", ">>", "<=", ">=", "==", "!=", "&&", "||", "+=", "-=", "*=", "/=", "%=", "&=",
    "|=", "^=", "<", ">", "+", "-", "*", "/", "%", "&", "|", "^", "!", "~", "(", ")", "?", ":", "="]

/-- A number in front of characters: hexadecimal, octal or decimal by how it begins. -/
def number (cs : List Char) : Nat × List Char :=
  let digits (base : Nat) (cs : List Char) : Nat × List Char :=
    let value (c : Char) : Nat :=
      ("0123456789abcdef".toList.idxOf? c.toLower).getD base
    let own := cs.takeWhile fun c => value c < base
    (own.foldl (fun n c => n * base + value c) 0, cs.drop own.length)
  match cs with
  | '0' :: 'x' :: rest | '0' :: 'X' :: rest => digits 16 rest
  | '0' :: rest => digits 8 rest
  | cs => digits 10 cs

/-- Cuts an expression into tokens. -/
def tokens : Nat → List Char → List Token
  | 0, _ | _, [] => []
  | fuel + 1, c :: rest =>
    if c = ' ' ∨ c = '\t' ∨ c = '\n' then tokens fuel rest
    else if c.isDigit then
      let (n, rest) := number (c :: rest)
      .number n :: tokens fuel rest
    else if isNameStart c then
      let name := (c :: rest).takeWhile isNameChar
      .name (String.ofList name) :: tokens fuel ((c :: rest).drop name.length)
    else
      match operators.find? fun op => op.toList.isPrefixOf (c :: rest) with
      | some op => .operator op :: tokens fuel ((c :: rest).drop op.length)
      | none => .stray :: tokens fuel rest

/-- Binary operators that bind more tightly than the conditions, with their ranks. -/
def ranks : List (String × Nat) :=
  [("|", 1), ("^", 2), ("&", 3), ("==", 4), ("!=", 4), ("<=", 5), (">=", 5), ("<", 5), (">", 5),
    ("<<", 6), (">>", 6), ("+", 7), ("-", 7), ("*", 8), ("/", 8), ("%", 8)]

def truth (b : Prop) [Decidable b] : Int :=
  if b then 1 else 0

/-- The number of different values. -/
def modulus : Nat := 0x10000000000000000

/-- The value that a result is kept as. -/
def wrap (n : Int) : Int :=
  n.bmod modulus

/-- Combines two values bit by bit. -/
def bitwise (f : Nat → Nat → Nat) (a b : Int) : Int :=
  wrap (f (a % modulus).toNat (b % modulus).toNat)

/-- Applies an operator; division by zero has no value. -/
def combine? (op : String) (a b : Int) : Option Int :=
  match op with
  | "|" => some (bitwise (· ||| ·) a b)
  | "^" => some (bitwise (· ^^^ ·) a b)
  | "&" => some (bitwise (· &&& ·) a b)
  | "==" => some (truth (a = b))
  | "!=" => some (truth (a ≠ b))
  | "<=" => some (truth (a ≤ b))
  | ">=" => some (truth (a ≥ b))
  | "<" => some (truth (a < b))
  | ">" => some (truth (a > b))
  | "<<" => some (wrap (a * (1 <<< (b % 64).toNat : Nat)))
  | ">>" => some (Int.shiftRight a (b % 64).toNat)
  | "+" => some (wrap (a + b))
  | "-" => some (wrap (a - b))
  | "*" => some (wrap (a * b))
  | "/" => if b = 0 then none else some (wrap (a.tdiv b))
  | "%" => if b = 0 then none else some (a.tmod b)
  | _ => none

/-- Operators that assign, with what they combine first. -/
def assignments : List (String × String) :=
  [("=", ""), ("+=", "+"), ("-=", "-"), ("*=", "*"), ("/=", "/"), ("%=", "%"), ("&=", "&"),
    ("|=", "|"), ("^=", "^"), ("<<=", "<<"), (">>=", ">>")]

/-- Why an expression has no value. -/
inductive Fault
  | malformed (text : String)
  | badNumber (text : String)
  /-- A variable that must be set is not. -/
  | notSet (name : String)
  /-- Something was to be assigned that is read only. -/
  | readOnly

/-- The value of a variable. -/
def valueOf (sh : Shell) (name : String) : Except Fault Int :=
  match sh.value? name with
  | none => if sh.has Shell.unsetOption then .error (.notSet name) else .ok 0
  | some text =>
    let cs := text.toList.dropWhile fun c => c == ' ' || c == '\t' || c == '\n'
    let (negative, digits) := match cs with
      | '-' :: rest => (true, rest)
      | '+' :: rest => (false, rest)
      | rest => (false, rest)
    let (n, rest) := number digits
    if cs.isEmpty then .ok 0
    else if digits.isEmpty ∨ !rest.isEmpty then .error (.badNumber text)
    else .ok (if negative then -(n : Int) else n)

/-- A value, the tokens behind it, and the shell after what was assigned. -/
abbrev Result := Except Fault (Int × List Token × Shell)

mutual

/-- An assignment, or a condition. -/
def assignment (live : Bool) : Nat → List Token → Shell → Result
  | 0, _, _ => .error (.malformed "expecting primary")
  | fuel + 1, ts, sh =>
    match ts with
    | .name name :: .operator op :: rest =>
      match assignments.lookup op with
      | none => conditional live fuel ts sh
      | some combined => do
        let (n, rest, sh) ← assignment live fuel rest sh
        if !live then .ok (n, rest, sh)
        else
          let n ← (if combined = "" then .ok n
            else do
              match combine? combined (← valueOf sh name) n with
              | some n => .ok n
              | none => .error (.malformed "division by zero") : Except Fault Int)
          let sh := sh.assign name (toString n)
          if sh.halted.isSome then .error .readOnly else .ok (n, rest, sh)
    | ts => conditional live fuel ts sh

/-- A choice between two values, or a disjunction. -/
def conditional (live : Bool) : Nat → List Token → Shell → Result
  | 0, _, _ => .error (.malformed "expecting primary")
  | fuel + 1, ts, sh => do
    let (test, rest, sh) ← disjunction live fuel ts sh
    match rest with
    | .operator "?" :: rest =>
      let (yes, rest, sh) ← assignment (live && test != 0) fuel rest sh
      match rest with
      | .operator ":" :: rest =>
        let (no, rest, sh) ← conditional (live && test == 0) fuel rest sh
        .ok (if test ≠ 0 then yes else no, rest, sh)
      | _ => .error (.malformed "expecting ':'")
    | rest => .ok (test, rest, sh)

/-- Conjunctions, any of them. -/
def disjunction (live : Bool) : Nat → List Token → Shell → Result
  | 0, _, _ => .error (.malformed "expecting primary")
  | fuel + 1, ts, sh => do
    let (a, rest, sh) ← conjunction live fuel ts sh
    match rest with
    | .operator "||" :: rest =>
      let (b, rest, sh) ← disjunction (live && a == 0) fuel rest sh
      .ok (truth (a ≠ 0 ∨ b ≠ 0), rest, sh)
    | rest => .ok (a, rest, sh)

/-- Terms, all of them. -/
def conjunction (live : Bool) : Nat → List Token → Shell → Result
  | 0, _, _ => .error (.malformed "expecting primary")
  | fuel + 1, ts, sh => do
    let (a, rest, sh) ← term live fuel 0 ts sh
    match rest with
    | .operator "&&" :: rest =>
      let (b, rest, sh) ← conjunction (live && a != 0) fuel rest sh
      .ok (truth (a ≠ 0 ∧ b ≠ 0), rest, sh)
    | rest => .ok (a, rest, sh)

/-- A term whose operators have at least a rank. -/
def term (live : Bool) : Nat → Nat → List Token → Shell → Result
  | 0, _, _, _ => .error (.malformed "expecting primary")
  | fuel + 1, rank, ts, sh => do
    let (a, rest, sh) ← primary live fuel ts sh
    continuation live fuel rank a rest sh
  termination_by structural fuel => fuel

/-- Operators and operands behind a first one. -/
def continuation (live : Bool) : Nat → Nat → Int → List Token → Shell → Result
  | 0, _, _, _, _ => .error (.malformed "expecting primary")
  | fuel + 1, rank, a, ts, sh =>
    match ts with
    | .operator op :: rest =>
      match ranks.lookup op with
      | none => .ok (a, ts, sh)
      | some own =>
        if own < rank then .ok (a, ts, sh)
        else do
          let (b, rest, sh) ← term live fuel (own + 1) rest sh
          match (if live then combine? op a b else some a) with
          | some n => continuation live fuel rank n rest sh
          | none => .error (.malformed "division by zero")
    | ts => .ok (a, ts, sh)
  termination_by structural fuel => fuel

/-- An operand. -/
def primary (live : Bool) : Nat → List Token → Shell → Result
  | 0, _, _ => .error (.malformed "expecting primary")
  | fuel + 1, ts, sh =>
    match ts with
    | .operator "(" :: rest => do
      let (n, rest, sh) ← assignment live fuel rest sh
      match rest with
      | .operator ")" :: rest => .ok (n, rest, sh)
      | _ => .error (.malformed "expecting ')'")
    | .number n :: rest => .ok (wrap n, rest, sh)
    | .name name :: rest => do
      .ok (← if live then valueOf sh name else .ok 0, rest, sh)
    | .operator "+" :: rest => primary live fuel rest sh
    | .operator "-" :: rest => do
      let (n, rest, sh) ← primary live fuel rest sh
      .ok (wrap (-n), rest, sh)
    | .operator "!" :: rest => do
      let (n, rest, sh) ← primary live fuel rest sh
      .ok (truth (n = 0), rest, sh)
    | .operator "~" :: rest => do
      let (n, rest, sh) ← primary live fuel rest sh
      .ok (-n - 1, rest, sh)
    | _ => .error (.malformed "expecting primary")

end

/-- Evaluates an expression: its value, or nothing when the command at hand fails over it. -/
def evaluate (source : String) (sh : Shell) : Option Int × Shell :=
  let found := tokens (source.length + 1) source.toList
  match assignment true (8 * found.length + 16) found sh with
  | .ok (n, [], sh) => (some n, sh)
  | .ok _ =>
    (none, sh.fail ("arithmetic expression: expecting EOF: \"" ++ source ++ "\""))
  | .error (.malformed text) =>
    (none, sh.fail ("arithmetic expression: " ++ text ++ ": \"" ++ source ++ "\""))
  | .error (.badNumber text) => (none, sh.fail ("Illegal number: " ++ text))
  | .error (.notSet name) => (none, sh.fail (name ++ ": parameter not set"))
  | .error .readOnly => (none, sh.fail "arithmetic expression: is read only")

end Overseer.Machine.Script.Arithmetic
