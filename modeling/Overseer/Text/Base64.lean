import Overseer.Text.Bytes

/-!
The base-64 form of bytes: three bytes become four letters of six bits each, and padding marks fill
the last group.
-/

namespace Overseer.Text.Base64

/-- The letter of a six-bit value. -/
def letter (value : Nat) : UInt8 :=
  if value < 26 then (65 + value).toUInt8
  else if value < 52 then (71 + value).toUInt8
  else if value < 62 then (value - 4).toUInt8
  else if value = 62 then 43
  else 47

/-- The six-bit value of a letter. -/
def value? (b : UInt8) : Option Nat :=
  let n := b.toNat
  if 65 ≤ n ∧ n ≤ 90 then some (n - 65)
  else if 97 ≤ n ∧ n ≤ 122 then some (n - 71)
  else if 48 ≤ n ∧ n ≤ 57 then some (n + 4)
  else if n = 43 then some 62
  else if n = 47 then some 63
  else none

/-- Fills the last group. -/
def padding : UInt8 := 61

/-- The form of one group of at most three bytes. -/
def encodeGroup : Bytes → Bytes
  | [] => []
  | [a] => [letter (a.toNat / 4), letter (a.toNat % 4 * 16), padding, padding]
  | [a, b] =>
    [letter (a.toNat / 4), letter (a.toNat % 4 * 16 + b.toNat / 16),
      letter (b.toNat % 16 * 4), padding]
  | a :: b :: c :: _ =>
    [letter (a.toNat / 4), letter (a.toNat % 4 * 16 + b.toNat / 16),
      letter (b.toNat % 16 * 4 + c.toNat / 64), letter (c.toNat % 64)]

/-- Cuts a list into groups of `size + 1`, the last one possibly shorter. -/
def groups {α : Type} (size : Nat) (xs : List α) : List (List α) :=
  go xs []
where
  go : List α → List (List α) → List (List α)
    | [], done => done.reverse
    | x :: rest, done => go (rest.drop size) ((x :: rest.take size) :: done)
  termination_by xs => xs.length
  decreasing_by simp only [List.length_drop, List.length_cons]; omega

def encode (bs : Bytes) : Bytes :=
  (groups 2 bs).flatMap encodeGroup

/-- Reads one group of four letters. -/
def decodeGroup? : Bytes → Option Bytes
  | [a, b, c, d] => do
    let p ← value? a
    let q ← value? b
    if c = padding ∧ d = padding then
      if q % 16 = 0 then some [(p * 4 + q / 16).toUInt8] else none
    else
      let r ← value? c
      if d = padding then
        if r % 4 = 0 then some [(p * 4 + q / 16).toUInt8, (q % 16 * 16 + r / 4).toUInt8] else none
      else
        let s ← value? d
        some [(p * 4 + q / 16).toUInt8, (q % 16 * 16 + r / 4).toUInt8, (r % 4 * 64 + s).toUInt8]
  | _ => none

/-- Reads a base-64 form back; padding may stand in the last group only. -/
def decode? (bs : Bytes) : Option Bytes :=
  match (groups 3 bs).reverse with
  | [] => some []
  | last :: earlier => do
    let tail ← decodeGroup? last
    let front ← earlier.reverse.mapM fun group =>
      if padding ∈ group then none else decodeGroup? group
    some (front.flatten ++ tail)

end Overseer.Text.Base64
