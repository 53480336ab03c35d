import Overseer.Text.Quoted.Table
import Overseer.Text.Utf8

/-!
Quoted forms of texts and file names in messages: quotation marks around the content, and an
escape for every character that would not show.
-/

namespace Overseer.Text.Quoted

/-- Lower-case hexadecimal digits of a number, without leading zeros. -/
def hex (n : Nat) : String :=
  String.ofList (Nat.toDigits 16 n)

def isInvisible (c : Char) : Bool :=
  let n := c.toNat
  if n < 0x80 then n < 0x20 || n == 0x7F
  else invisibleRanges.any fun (lo, hi) => lo ≤ n && n ≤ hi

/-- How one character stands inside quotation marks. -/
def escape (c : Char) : String :=
  if c = '\x00' then "\\0"
  else if c = '\t' then "\\t"
  else if c = '\r' then "\\r"
  else if c = '\n' then "\\n"
  else if c = '\\' then "\\\\"
  else if c = '"' then "\\\""
  else if isInvisible c then "\\u\x7b" ++ hex c.toNat ++ "\x7d"
  else c.toString

/-- A text in quotation marks. -/
def ofString (s : String) : String :=
  "\"" ++ String.join (s.toList.map escape) ++ "\""

/-- Two upper-case hexadecimal digits. -/
def hexByte (b : UInt8) : String :=
  String.ofList [(Nat.digitChar (b.toNat / 16)).toUpper, (Nat.digitChar (b.toNat % 16)).toUpper]

/-- A file name in quotation marks. Bytes that form no character are given as numbers. -/
def ofPath (bs : Bytes) : String :=
  "\"" ++ String.join ((Utf8.pieces bs).map fun
    | .char c => escape c
    | .broken bytes => String.join (bytes.map fun b => "\\x" ++ hexByte b)) ++ "\""

end Overseer.Text.Quoted
