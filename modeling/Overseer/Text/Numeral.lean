/-!
Numerals: an optional sign and digits in some base, read into a bounded range of integers. The
first fault from the left decides the error; at one digit a bad digit comes before an overflow.
-/

namespace Overseer.Text

/-- Why a text is no numeral of a range. -/
inductive NumeralFault
  | empty
  | badDigit
  | tooLarge
  | tooSmall
  deriving DecidableEq, Repr

namespace NumeralFault

def message : NumeralFault → String
  | empty => "cannot parse integer from empty string"
  | badDigit => "invalid digit found in string"
  | tooLarge => "number too large to fit in target type"
  | tooSmall => "number too small to fit in target type"

end NumeralFault

/-- The integers that a numeral may stand for, and its base. A minus sign is read only where some
    of them are negative. -/
structure NumeralRange where
  base : Nat
  lo : Int
  hi : Int
  deriving DecidableEq, Repr

namespace NumeralRange

def int32 : NumeralRange := ⟨10, -0x80000000, 0x7FFFFFFF⟩

def int64 : NumeralRange := ⟨10, -0x8000000000000000, 0x7FFFFFFFFFFFFFFF⟩

def uint32 : NumeralRange := ⟨10, 0, 0xFFFFFFFF⟩

def uint64 : NumeralRange := ⟨10, 0, 0xFFFFFFFFFFFFFFFF⟩

def hex32 : NumeralRange := ⟨16, 0, 0xFFFFFFFF⟩

/-- The value of a digit, letters in either case. -/
def digit? (base : Nat) (c : Char) : Option Nat :=
  let n := c.toNat
  let value :=
    if 48 ≤ n ∧ n ≤ 57 then n - 48
    else if 97 ≤ n ∧ n ≤ 122 then n - 87
    else if 65 ≤ n ∧ n ≤ 90 then n - 55
    else base
  if value < base then some value else none

/-- Reads digits behind the value read so far, upwards or downwards. -/
def readDigits (r : NumeralRange) (negative : Bool) (value : Int) :
    List Char → Except NumeralFault Int
  | [] => .ok value
  | c :: rest =>
    match digit? r.base c with
    | none => .error .badDigit
    | some d =>
      if negative then
        let next := value * r.base - d
        if next < r.lo then .error .tooSmall else readDigits r negative next rest
      else
        let next := value * r.base + d
        if next > r.hi then .error .tooLarge else readDigits r negative next rest

/-- Reads a whole text as a numeral. -/
def read (r : NumeralRange) (s : String) : Except NumeralFault Int :=
  match s.toList with
  | [] => .error .empty
  | ['+'] | ['-'] => .error .badDigit
  | '+' :: digits => readDigits r false 0 digits
  | '-' :: digits =>
    if r.lo < 0 then readDigits r true 0 digits else .error .badDigit
  | digits => readDigits r false 0 digits

def read? (r : NumeralRange) (s : String) : Option Int :=
  (r.read s).toOption

end NumeralRange

end Overseer.Text
