import Overseer.Text.Bytes

/-!
Text recovered from bytes that need not be text. A byte sequence falls into characters and broken
pieces; a broken piece is the longest start of a character that its next byte cuts short, or one
byte that starts none.
-/

namespace Overseer.Text.Utf8

/-- A character, or bytes that form none. -/
inductive Piece
  | char (c : Char)
  | broken (bytes : Bytes)

/-- How many bytes follow a leading byte, and the bounds of the first of them. Tight bounds exclude
    long forms, surrogates and values past the last character. -/
def continuation (lead : Nat) : Option (Nat × Nat × Nat) :=
  if lead < 0x80 then some (0, 0x80, 0xBF)
  else if lead < 0xC2 then none
  else if lead < 0xE0 then some (1, 0x80, 0xBF)
  else if lead = 0xE0 then some (2, 0xA0, 0xBF)
  else if lead = 0xED then some (2, 0x80, 0x9F)
  else if lead < 0xF0 then some (2, 0x80, 0xBF)
  else if lead = 0xF0 then some (3, 0x90, 0xBF)
  else if lead < 0xF4 then some (3, 0x80, 0xBF)
  else if lead = 0xF4 then some (3, 0x80, 0x8F)
  else none

/-- The bits of a leading byte that belong to the character. -/
def leadBits (lead following : Nat) : Nat :=
  match following with
  | 0 => lead
  | 1 => lead % 0x20
  | 2 => lead % 0x10
  | _ => lead % 0x08

/-- The bytes of one character behind its leading byte: at most `owed` of them, the first within
    the given bounds. -/
def takeTail (owed lo hi : Nat) (bs : Bytes) : Bytes :=
  match owed, bs with
  | 0, _ => []
  | _, [] => []
  | owed + 1, b :: rest =>
    if lo ≤ b.toNat ∧ b.toNat ≤ hi then b :: takeTail owed 0x80 0xBF rest else []

/-- The piece that a byte starts, given what follows it. -/
def piece (lead : UInt8) (rest : Bytes) : Piece × Nat :=
  match continuation lead.toNat with
  | none => (.broken [lead], 0)
  | some (owed, lo, hi) =>
    let tail := takeTail owed lo hi rest
    if tail.length = owed then
      let code := tail.foldl (fun code b => code * 0x40 + b.toNat % 0x40) (leadBits lead.toNat owed)
      (.char (Char.ofNat code), owed)
    else (.broken (lead :: tail), tail.length)

/-- All pieces of a byte string, in order. -/
def pieces (bs : Bytes) : List Piece :=
  go bs []
where
  go : Bytes → List Piece → List Piece
    | [], done => done.reverse
    | lead :: rest, done => go (rest.drop (piece lead rest).2) ((piece lead rest).1 :: done)
  termination_by bs => bs.length
  decreasing_by simp only [List.length_drop, List.length_cons]; omega

/-- Reads bytes as text, a replacement character standing for each broken piece. -/
def readLossily (bs : Bytes) : String :=
  match Bytes.toString? bs with
  | some s => s
  | none =>
    String.ofList ((pieces bs).map fun
      | .char c => c
      | .broken _ => Char.ofNat 0xFFFD)

end Overseer.Text.Utf8
