import Overseer.Seal

/-!
Scripts as a generator writes them: an interpreter line, the commands, and possibly a seal.
-/

namespace Overseer

/-- How a script ends. -/
inductive ScriptEnd
  /-- A plain line end. -/
  | plain
  /-- A trailer that seals the body. -/
  | sealed
  /-- A trailer with its last digit changed. -/
  | corrupt
  deriving DecidableEq, Repr

namespace GeneratedScript

/-- Everything that a seal covers. -/
def body (commands : String) : Bytes :=
  Bytes.ofString "#!/bin/sh\n" ++ Bytes.ofString commands

/-- Another digit in place of the given one. -/
def otherDigit (digit : UInt8) : UInt8 :=
  if digit = Bytes.ofAscii '0' then Bytes.ofAscii '1' else Bytes.ofAscii '0'

/-- A trailer with its last digit changed. -/
def corruptTrailer (body : Bytes) : Bytes :=
  let line := (Seal.trailer body).dropLast
  line.dropLast ++ (line.getLast?.map otherDigit).toList ++ [Bytes.newline]

/-- The file that a generator writes. -/
def image (commands : String) : ScriptEnd → Bytes
  | .plain => body commands ++ [Bytes.newline]
  | .sealed => body commands ++ Seal.trailer (body commands)
  | .corrupt => body commands ++ corruptTrailer (body commands)

end GeneratedScript

end Overseer
