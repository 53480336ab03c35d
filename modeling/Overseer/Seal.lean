import Overseer.Text.Blank
import Overseer.Text.Bytes
import Overseer.Text.Numeral
import Overseer.Text.Quoted

/-!
Seals of generated scripts: a trailer line that gives a rolling checksum of everything before it.
-/

namespace Overseer.Seal

/-- Begins the trailer line. The checksum covers what stands before it. -/
def marker : Bytes := Bytes.ofString "\n# Checksum: "

/-- The checksum of a body: each byte is added to thirty-three times the sum, modulo two to the
    thirty-second power. -/
def checksum (body : Bytes) : UInt32 :=
  body.foldl (fun sum b => sum * 33 + b.toUInt32) 0

/-- The trailer that seals a body. -/
def trailer (body : Bytes) : Bytes :=
  marker ++ Bytes.ofString (Text.Quoted.hex (checksum body).toNat) ++ [Bytes.newline]

/-- Where the last occurrence of a pattern starts, positions counted from the given one. -/
def lastIndexFrom (pattern : Bytes) (found : Option Nat) (position : Nat) : Bytes → Option Nat
  | [] => if pattern = [] then some position else found
  | b :: rest =>
    lastIndexFrom pattern (if pattern.isPrefixOf (b :: rest) then some position else found)
      (position + 1) rest

/-- Where the last occurrence of a pattern starts. -/
def lastIndex? (pattern bs : Bytes) : Option Nat :=
  lastIndexFrom pattern none 0 bs

/-- The value that the end of a trailer line gives. -/
def value? (bs : Bytes) : Option Int :=
  (Bytes.toString? bs).bind fun s => Text.NumeralRange.hex32.read? (Text.trimmed s)

/-- Whether an image ends in a trailer with the checksum of what stands before it. -/
def verify (image : Bytes) : Bool :=
  match lastIndex? marker image with
  | none => false
  | some position =>
    value? (image.drop (position + marker.length)) ==
      some ((checksum (image.take position)).toNat : Int)

end Overseer.Seal
