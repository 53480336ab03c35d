import Overseer.Text.Bytes

/-!
Formatted printing: backslash escapes, and directives that print arguments with a width, a
precision and a base.
-/

namespace Overseer.Machine.Format

/-- The digits of numbers up to the base sixteen. -/
def digits : List Char := "0123456789abcdef".toList

/-- A number of at most so many digits in front of characters: its value and the rest. -/
def numberIn (base : Nat) : Nat → Nat → List Char → Nat × List Char
  | 0, value, cs => (value, cs)
  | _, value, [] => (value, [])
  | count + 1, value, c :: rest =>
    match (digits.take base).idxOf? c.toLower with
    | some digit => numberIn base count (value * base + digit) rest
    | none => (value, c :: rest)

/-- A decimal number in front of characters. -/
def number (cs : List Char) : Nat × List Char :=
  numberIn 10 cs.length 0 cs

/-- The character that a letter behind a backslash stands for. -/
def control? (c : Char) : Option Char :=
  match c with
  | 'a' => some (Char.ofNat 7)
  | 'b' => some (Char.ofNat 8)
  | 'e' => some (Char.ofNat 27)
  | 'f' => some (Char.ofNat 12)
  | 'n' => some '\n'
  | 'r' => some '\r'
  | 't' => some '\t'
  | 'v' => some (Char.ofNat 11)
  | '\\' => some '\\'
  | _ => none

def isOctal (c : Char) : Bool :=
  (digits.take 8).contains c

/-- What is understood beyond the bare necessities. -/
structure Style where
  /-- Escapes of two hexadecimal digits. -/
  hexadecimal : Bool
  /-- Letters for the size of a number, which change nothing. -/
  sizes : Bool
  /-- Whether a text without any digits stands for zero. -/
  emptyIsZero : Bool
  deriving DecidableEq, Repr

/-- The style of the command language. -/
def plainStyle : Style := ⟨false, false, true⟩

/-- The style of the programs. -/
def richStyle : Style := ⟨true, true, false⟩

/-- The character that an escape stands for, behind its backslash, and the rest. Where there is none
    the backslash stands for itself. -/
def escape (style : Style) : List Char → Char × List Char
  | [] => ('\\', [])
  | c :: rest =>
    match control? c with
    | some d => (d, rest)
    | none =>
      if isOctal c then
        let (value, rest) := numberIn 8 3 0 (c :: rest)
        (Char.ofNat (value % 256), rest)
      else if style.hexadecimal ∧ c = 'x' ∧ rest.head?.any (digits.contains ·.toLower) then
        let (value, rest) := numberIn 16 2 0 rest
        (Char.ofNat value, rest)
      else ('\\', c :: rest)

/-- Replaces escapes. Octal numbers may have a zero more in front. The flag says whether the text
    asked for everything behind it to be dropped. -/
def unescape (style : Style) (cs : List Char) : List Char × Bool :=
  go cs.length cs []
where
  go : Nat → List Char → List Char → List Char × Bool
    | 0, cs, done => (done.reverse ++ cs, false)
    | _, [], done => (done.reverse, false)
    | fuel + 1, '\\' :: rest, done =>
      match rest with
      | 'c' :: _ => (done.reverse, true)
      | '0' :: d :: more =>
        let (c, rest) := escape style (if isOctal d then d :: more else rest)
        go fuel rest (c :: done)
      | rest =>
        let (c, rest) := escape style rest
        go fuel rest (c :: done)
    | fuel + 1, c :: rest, done => go fuel rest (c :: done)

/-- What is wrong with a format or with an argument. -/
inductive Fault
  | notNumeric (arg : List Char)
  | partlyNumeric (arg : List Char)
  | outOfRange (arg : List Char)
  | missingLetter
  | invalidDirective (text : List Char)
  /-- Arguments are left over. -/
  | excess (arg : List Char)
  deriving DecidableEq, Repr

/-- Whether everything ends with a fault. -/
def Fault.isFatal : Fault → Bool
  | missingLetter | invalidDirective _ => true
  | _ => false

/-- The integers that an argument may stand for. -/
def signedRange : Int × Int := (-0x8000000000000000, 0x7FFFFFFFFFFFFFFF)

/-- An argument without a sign stands for one of these; one with a minus for the complement. -/
def unsignedRange : Int × Int := (-0xFFFFFFFFFFFFFFFF, 0xFFFFFFFFFFFFFFFF)

/-- White space in front of a number. -/
def isSpace (c : Char) : Bool :=
  c == ' ' || decide (9 ≤ c.toNat ∧ c.toNat ≤ 13)

/-- The value of a numeric argument. A quote stands for the character behind it; a text that is no
    number counts as far as it can be read. -/
def argumentValue (style : Style) (range : Int × Int) (arg : List Char) : Int × Option Fault :=
  match arg with
  | '\'' :: rest | '"' :: rest => ((rest.head?.map Char.toNat).getD 0, none)
  | _ =>
    let (negative, cs) := match arg.dropWhile isSpace with
      | '-' :: rest => (true, rest)
      | '+' :: rest => (false, rest)
      | rest => (false, rest)
    let hexadecimal := match cs with
      | '0' :: x :: d :: _ => x.toLower == 'x' && digits.contains d.toLower
      | _ => false
    let (magnitude, rest) :=
      if hexadecimal then numberIn 16 cs.length 0 (cs.drop 2)
      else if cs.head? = some '0' then numberIn 8 cs.length 0 cs
      else number cs
    let value : Int := if negative then -magnitude else magnitude
    let clamped := max range.1 (min value range.2)
    (clamped,
      if arg.isEmpty ∧ style.emptyIsZero then none
      else if rest.length = cs.length then some (.notNumeric arg)
      else if !rest.isEmpty then some (.partlyNumeric arg)
      else if clamped ≠ value then some (.outOfRange arg)
      else none)

/-- A directive: its flags, width, precision and letter, and how it is written. -/
structure Directive where
  flags : List Char
  width : Nat
  precision : Option Nat
  letter : Char
  text : List Char

/-- Fills up to the width of a directive. -/
def pad (d : Directive) (body : List Char) : List Char :=
  let fill := List.replicate (d.width - body.length) ' '
  if '-' ∈ d.flags then body ++ fill else fill ++ body

/-- The text of a number under a directive, with a sign or another mark in front. -/
def integer (d : Directive) (mark : List Char) (base : Nat) (value : Nat) : List Char :=
  let digits := if value = 0 ∧ d.precision = some 0 then [] else Nat.toDigits base value
  let digits := List.replicate (d.precision.getD 1 - digits.length) '0' ++ digits
  if '0' ∈ d.flags ∧ '-' ∉ d.flags ∧ d.precision = none then
    mark ++ List.replicate (d.width - mark.length - digits.length) '0' ++ digits
  else pad d (mark ++ digits)

/-- What a directive prints for an argument, what is wrong with it, and whether everything behind
    it is dropped. -/
def render (style : Style) (d : Directive) (arg : Option (List Char)) :
    List Char × Option Fault × Bool :=
  let text := arg.getD []
  let cut (cs : List Char) : List Char := match d.precision with
    | some n => cs.take n
    | none => cs
  let value (range : Int × Int) : Int × Option Fault :=
    match arg with
    | some arg => argumentValue style range arg
    | none => (0, none)
  let unsigned (mark : Nat → List Char) (base : Nat) : List Char × Option Fault × Bool :=
    let (n, fault) := value unsignedRange
    let n := if n < 0 then (n + 0x10000000000000000).toNat else n.toNat
    (integer d (if '#' ∈ d.flags ∧ n ≠ 0 then mark n else []) base n, fault, false)
  match d.letter with
  | 's' => (pad d (cut text), none, false)
  | 'c' => (pad d (text.head?.getD '\x00' :: []), none, false)
  | 'b' =>
    let (resolved, stop) := unescape style text
    (pad d (cut resolved), none, stop)
  | 'd' | 'i' =>
    let (n, fault) := value signedRange
    let mark := if n < 0 then ['-']
      else if '+' ∈ d.flags then ['+'] else if ' ' ∈ d.flags then [' '] else []
    (integer d mark 10 n.natAbs, fault, false)
  | 'u' => unsigned (fun _ => []) 10
  | 'o' =>
    unsigned (fun n => if (Nat.toDigits 8 n).length < d.precision.getD 1 then [] else ['0']) 8
  | 'x' => unsigned (fun _ => ['0', 'x']) 16
  | 'X' =>
    let (text, rest) := unsigned (fun _ => ['0', 'x']) 16
    (text.map Char.toUpper, rest)
  | _ => ([], some (.invalidDirective d.text), true)

/-- A width or precision: written, or taken from the arguments. -/
def measure (style : Style) (cs : List Char) (args : List (List Char)) :
    Option Int × List Char × List (List Char) :=
  match cs with
  | '*' :: rest =>
    (some ((args.head?.map fun arg => (argumentValue style signedRange arg).1).getD 0), rest,
      args.tail)
  | cs =>
    let (value, rest) := number cs
    (if rest.length = cs.length then none else some value, rest, args)

/-- Reads a directive behind its percent sign, taking from the arguments what it needs. -/
def directive (style : Style) (cs : List Char) (args : List (List Char)) :
    Except Fault (Directive × List Char × List (List Char)) :=
  let flags := cs.takeWhile (· ∈ ['-', '+', ' ', '0', '#'])
  let (width, rest, args) := measure style (cs.drop flags.length) args
  let (precision, rest, args) := match rest with
    | '.' :: rest =>
      let (n, rest, args) := measure style rest args
      (some (n.getD 0), rest, args)
    | rest => (none, rest, args)
  let rest := if style.sizes then rest.dropWhile (· ∈ "hlLjtz".toList) else rest
  let width := width.getD 0
  match rest with
  | [] => .error .missingLetter
  | letter :: rest =>
    let text := '%' :: cs.take (cs.length - rest.length)
    .ok (⟨if width < 0 then '-' :: flags else flags, width.natAbs,
      (precision.filter fun n => decide (0 ≤ n)).map Int.toNat, letter, text⟩, rest, args)

/-- What printing has come to so far. -/
structure Printed where
  /-- The last first. -/
  text : List (List Char)
  args : List (List Char)
  faults : List Fault
  /-- Whether everything behind is dropped. -/
  stopped : Bool

/-- One pass over a format. Missing arguments are empty. -/
def pass (style : Style) : Nat → List Char → Printed → Printed
  | 0, _, s => s
  | _, [], s => s
  | fuel + 1, '%' :: '%' :: rest, s => pass style fuel rest { s with text := ['%'] :: s.text }
  | fuel + 1, '%' :: cs, s =>
    match directive style cs s.args with
    | .error fault => { s with faults := s.faults ++ [fault], stopped := true }
    | .ok (d, rest, args) =>
      let (text, fault, stop) := render style d args.head?
      let faults := s.faults ++ fault.toList
      let s := { s with text := text :: s.text, args := args.tail, faults }
      if stop then { s with stopped := true } else pass style fuel rest s
  | fuel + 1, '\\' :: cs, s =>
    if style.hexadecimal ∧ cs.head? = some 'c' then { s with stopped := true }
    else
      let (c, rest) := escape style cs
      pass style fuel rest { s with text := [c] :: s.text }
  | fuel + 1, c :: rest, s => pass style fuel rest { s with text := [c] :: s.text }

/-- Prints a format, again and again as long as it takes arguments and some are left: the text, and
    what was wrong. -/
def printf (style : Style) (format : List Char) (args : List (List Char)) :
    List Char × List Fault :=
  let s := go (args.length + 1) ⟨[], args, [], false⟩
  let excess := match s.args with
    | arg :: _ => if s.stopped then [] else [Fault.excess arg]
    | [] => []
  (s.text.reverse.flatten, s.faults ++ excess)
where
  go : Nat → Printed → Printed
    | 0, s => s
    | fuel + 1, s =>
      let done := pass style (format.length + 1) format s
      if done.args.length < s.args.length ∧ ¬ done.stopped ∧ done.args ≠ [] then go fuel done
      else done

end Overseer.Machine.Format
